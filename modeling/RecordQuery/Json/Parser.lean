import RecordQuery.Json
import RecordQuery.Number.Decimal
import RecordQuery.Text.Basic

/-!
# Reading JSON

`Source` is the shape of a text: numbers out of range and strings with unpaired surrogates have a place
in it but no value, and members stand as written. `Json.ofText?` accepts the texts all of whose parts
have values and whose nesting stays within the limit.

Taken over from the usual library for JSON are the limit of the nesting, that the later of two members
with one name stays, which numbers are integers, and the rounding of the others, which may be off by a
unit in the last place. Where in a text its faults lie is left out.
-/

namespace RecordQuery

open Number

/-- A JSON text as written. -/
inductive Json.Source where
  | null
  | bool (value : Bool)
  | number (value? : Option Json)
  | string (value? : Option String)
  | array (items : List Json.Source)
  | object (members : List (Option String × Json.Source))

namespace Json.Source

/-! ## Numbers -/

/-- The parts of a number: digits before the point, digits after it, and the power of ten. -/
structure Numeral where
  negative : Bool
  whole : List Char
  fraction : List Char
  power? : Option Int

/-- The digits at the start, at least one, and the rest. -/
def digits? (letters : List Char) : Option (List Char × List Char) :=
  match letters.takeWhile Char.isDigit with
  | [] => none
  | digits => some (digits, letters.dropWhile Char.isDigit)

/-- The digits before the point: a zero stands alone. -/
def whole? : List Char → Option (List Char × List Char)
  | '0' :: next :: rest => if next.isDigit then none else some (['0'], next :: rest)
  | letters => digits? letters

/-- The digits after a point, if one follows. -/
def fraction? : List Char → Option (List Char × List Char)
  | '.' :: rest => digits? rest
  | letters => some ([], letters)

/-- The sign and digits of an exponent. -/
def power? : List Char → Option (Int × List Char)
  | '+' :: rest => (digits? rest).map fun (digits, rest) => ((Text.digitsValue digits : Int), rest)
  | '-' :: rest => (digits? rest).map fun (digits, rest) => (-(Text.digitsValue digits : Int), rest)
  | letters => (digits? letters).map fun (digits, rest) => ((Text.digitsValue digits : Int), rest)

/-- The exponent, if one follows. -/
def exponent? : List Char → Option (Option Int × List Char)
  | 'e' :: rest | 'E' :: rest => (power? rest).map fun (power, rest) => (some power, rest)
  | letters => some (none, letters)

/-- A number without its sign. -/
def numeral? (negative : Bool) (letters : List Char) : Option (Numeral × List Char) := do
  let (whole, rest) ← whole? letters
  let (fraction, rest) ← fraction? rest
  let (power?, rest) ← exponent? rest
  pure (⟨negative, whole, fraction, power?⟩, rest)

/-- The value of a number. Without fraction and exponent it is an integer if 64 bits hold it; negative
zero and everything else is a floating-point number. Digits that no longer fit in 64 bits count only
by their place. -/
def Numeral.value? (numeral : Numeral) : Option Json :=
  let (whole, left) := gather 0 numeral.whole
  let signed (magnitude : Double) : Json :=
    .float (if numeral.negative then magnitude.negate else magnitude)
  if left.isEmpty && numeral.fraction.isEmpty && numeral.power?.isNone then
    if !numeral.negative then some (.integer whole)
    else if whole = 0 ∨ Nat.pow 2 63 < whole then some (signed (.ofInt whole))
    else some (.integer (-whole))
  else
    let (significand, unread) := gather whole numeral.fraction
    let read := numeral.fraction.length - unread.length
    let power : Int := left.length - read + numeral.power?.getD 0
    (scale (.ofInt significand) power).map signed

/-! ## Strings -/

/-- A string's parts: characters as they stand, and code units written in hexadecimal. -/
inductive Unit where
  | letter (value : Char)
  | code (value : Nat)

/-- The character that an escape of one letter stands for. -/
def escaped? : Char → Option Char
  | '"' => some '"'
  | '\\' => some '\\'
  | '/' => some '/'
  | 'b' => some '\x08'
  | 'f' => some '\x0c'
  | 'n' => some '\n'
  | 'r' => some '\r'
  | 't' => some '\t'
  | _ => none

/-- The parts up to the closing quote, and what follows it. -/
def units? : List Char → Option (List Unit × List Char)
  | [] => none
  | '"' :: rest => some ([], rest)
  | '\\' :: 'u' :: a :: b :: c :: d :: rest => do
    let code ← Text.Hex.toNat? [a, b, c, d]
    let (units, rest) ← units? rest
    pure (.code code :: units, rest)
  | '\\' :: letter :: rest => do
    let letter ← escaped? letter
    let (units, rest) ← units? rest
    pure (.letter letter :: units, rest)
  | letter :: rest =>
    if letter.toNat < 0x20 ∨ letter = '\\' then none
    else (units? rest).map fun (units, rest) => (.letter letter :: units, rest)

/-- The characters of the parts; a surrogate counts only as half of a pair. -/
def letters? : List Unit → Option (List Char)
  | [] => some []
  | .letter letter :: rest => (letters? rest).map (letter :: ·)
  | .code high :: .code low :: rest =>
    if 0xd800 ≤ high ∧ high < 0xdc00 then
      if 0xdc00 ≤ low ∧ low < 0xe000 then
        let code := 0x10000 + (high - 0xd800) * 0x400 + (low - 0xdc00)
        (letters? rest).map (Char.ofNat code :: ·)
      else none
    else if 0xdc00 ≤ high ∧ high < 0xe000 then none
    else (letters? (.code low :: rest)).map (Char.ofNat high :: ·)
  | .code unit :: rest =>
    if 0xd800 ≤ unit ∧ unit < 0xe000 then none
    else (letters? rest).map (Char.ofNat unit :: ·)

/-- A string after its opening quote. -/
def string? (letters : List Char) : Option (Option String × List Char) :=
  (units? letters).map fun (units, rest) => ((letters? units).map String.ofList, rest)

/-! ## Values -/

/-- Blank, tab and the two line ends stand between tokens. -/
def skip (letters : List Char) : List Char :=
  letters.dropWhile fun letter => letter == ' ' || letter == '\n' || letter == '\t' || letter == '\r'

mutual

/-- A value and what follows it. The first argument bounds the number of calls. -/
def value? : Nat → List Char → Option (Source × List Char)
  | 0, _ => none
  | calls + 1, letters =>
    match skip letters with
    | 'n' :: 'u' :: 'l' :: 'l' :: rest => some (.null, rest)
    | 't' :: 'r' :: 'u' :: 'e' :: rest => some (.bool true, rest)
    | 'f' :: 'a' :: 'l' :: 's' :: 'e' :: rest => some (.bool false, rest)
    | '"' :: rest => (string? rest).map fun (value?, rest) => (.string value?, rest)
    | '[' :: rest =>
      match skip rest with
      | ']' :: rest => some (.array [], rest)
      | rest => (items? calls rest).map fun (items, rest) => (.array items, rest)
    | '\x7b' :: rest =>
      match skip rest with
      | '\x7d' :: rest => some (.object [], rest)
      | rest => (members? calls rest).map fun (members, rest) => (.object members, rest)
    | '-' :: rest => (numeral? true rest).map fun (numeral, rest) => (.number numeral.value?, rest)
    | rest => (numeral? false rest).map fun (numeral, rest) => (.number numeral.value?, rest)

/-- One or more items and the closing bracket. -/
def items? : Nat → List Char → Option (List Source × List Char)
  | 0, _ => none
  | calls + 1, letters =>
    match value? calls letters with
    | none => none
    | some (item, rest) =>
      match skip rest with
      | ',' :: rest => (items? calls rest).map fun (items, rest) => (item :: items, rest)
      | ']' :: rest => some ([item], rest)
      | _ => none

/-- One or more members and the closing brace. -/
def members? : Nat → List Char → Option (List (Option String × Source) × List Char)
  | 0, _ => none
  | calls + 1, letters =>
    match skip letters with
    | '"' :: rest =>
      match string? rest with
      | none => none
      | some (name?, rest) =>
        match skip rest with
        | ':' :: rest =>
          match value? calls rest with
          | none => none
          | some (value, rest) =>
            match skip rest with
            | ',' :: rest =>
              (members? calls rest).map fun (members, rest) => ((name?, value) :: members, rest)
            | '\x7d' :: rest => some ([(name?, value)], rest)
            | _ => none
        | _ => none
    | _ => none

end

/-- The shape of a whole text; two calls for each letter are enough. -/
def ofText? (text : String) : Option Source :=
  let letters := text.toList
  match value? (2 * letters.length + 2) letters with
  | some (source, rest) => if (skip rest).isEmpty then some source else none
  | none => none

/-! ## Meaning -/

mutual

/-- How deep arrays and objects nest. -/
def depth : Source → Nat
  | .array items => 1 + itemsDepth items
  | .object members => 1 + membersDepth members
  | _ => 0

def itemsDepth : List Source → Nat
  | [] => 0
  | item :: rest => max (depth item) (itemsDepth rest)

def membersDepth : List (Option String × Source) → Nat
  | [] => 0
  | (_, value) :: rest => max (depth value) (membersDepth rest)

end

mutual

/-- The value of a text, if each part has one. -/
def json? : Source → Option Json
  | .null => some .null
  | .bool value => some (.bool value)
  | .number value? => value?
  | .string value? => value?.map .string
  | .array items => (itemsJson? items).map .array
  | .object members => (membersJson? members).map Json.ofMembers

def itemsJson? : List Source → Option (List Json)
  | [] => some []
  | item :: rest => do
    let value ← json? item
    let values ← itemsJson? rest
    pure (value :: values)

def membersJson? : List (Option String × Source) → Option (List (String × Json))
  | [] => some []
  | (name?, value) :: rest => do
    let name ← name?
    let value ← json? value
    let members ← membersJson? rest
    pure ((name, value) :: members)

end

end Json.Source

namespace Json

/-- How deep a text that is read as a value may nest. -/
def maxDepth : Nat := 127

/-- The value that a text stands for. -/
def ofText? (text : String) : Option Json :=
  match Source.ofText? text with
  | some source => if source.depth ≤ maxDepth then source.json? else none
  | none => none

end Json

end RecordQuery
