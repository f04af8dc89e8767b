import RecordQuery.Declaration.Token
import RecordQuery.Text.Basic
import RecordQuery.Text.Debug
import RecordQuery.Text.WordLetter

/-!
# Words and literals in source text

How many letters at the front of source text belong to a word, a lifetime or a literal. What counts as
one is taken over from a lexer of source text: names by the Unicode classes of their letters, raw names,
numbers with suffixes, strings with escapes and raw strings. What each kind of string may hold besides,
such as ASCII alone in strings of bytes, is left out.
-/

namespace RecordQuery.Declaration

/-! ## Words and lifetimes -/

/-- A letter that names begin with. -/
def isNameStart (letter : Char) : Bool :=
  letter.isAlpha || letter == '_' ||
    (128 ≤ letter.toNat && Text.isWordLetter letter && !Text.isCountingNumeral letter)

/-- Characters that are no letters but may stand inside names: middle dots, connectors and the few
numerals of old scripts that names are written with. -/
def nameConnectors : List Char :=
  ['\u00b7', '\u0387', '\u203f', '\u2040', '\u2054', '\ufe33', '\ufe34', '\ufe4d', '\ufe4e',
    '\ufe4f', '\uff3f', '\u19da'] ++
    (List.range 9).map fun place => Char.ofNat (0x1369 + place)

/-- A letter inside names and numbers. -/
def isNameLetter (letter : Char) : Bool :=
  isNameStart letter || letter.isDigit || Text.isExtending letter || nameConnectors.contains letter

def nameSize (letters : List Char) : Nat :=
  (letters.takeWhile isNameLetter).length

/-- The words that are no names even after `r#`. -/
def barredWords : List String :=
  ["_", "super", "self", "Self", "crate"]

/-- How many letters a word takes after its first one. After `r#` a word is a name whatever it means
otherwise. -/
def wordSize? (first : Char) (rest : List Char) : Option Nat :=
  match first, rest with
  | 'r', '#' :: word =>
    let size := nameSize word
    if !word.head?.any isNameStart || barredWords.contains (String.ofList (word.take size)) then none
    else some (1 + size)
  | _, rest => if isNameStart first then some (nameSize rest) else none

/-- How many of the letters after an apostrophe are the name of a lifetime. No apostrophe may follow
it. -/
def lifetimeSize? : List Char → Option Nat
  | [] => none
  | first :: rest =>
    (wordSize? first rest).bind fun size =>
      if rest[size]? = some '\'' then none else some (1 + size)

/-!
## Literals

A number, a character or a string, with the suffix after it.
-/

/-- Whether the letters are one to six hexadecimal digits, with underscores only after the first. -/
def isCodePoint (letters : List Char) : Bool :=
  let digits := letters.filter (· != '_')
  letters.head? != some '_' && 0 < digits.length && digits.length ≤ 6 &&
    (Text.Hex.toNat? digits).isSome

/-- How many letters an escape takes after its backslash. -/
def escapeSize? : List Char → Option Nat
  | 'x' :: high :: low :: _ => (Text.Hex.toNat? [high, low]).map fun _ => 3
  | 'u' :: '\x7b' :: rest =>
    let digits := rest.takeWhile (· != '\x7d')
    if digits.length < rest.length ∧ isCodePoint digits then some (digits.length + 3) else none
  | letter :: _ =>
    if ['n', 'r', 't', '0', '\\', '\'', '"', '\n', '\r'].contains letter then some 1 else none
  | [] => none

/-- How many letters a string takes after its opening quote, with the closing one. A carriage return
needs a line feed after it. -/
def stringSize? : List Char → Option Nat
  | [] => none
  | '"' :: _ => some 1
  | '\\' :: rest =>
    match escapeSize? rest with
    | some size => (stringSize? (rest.drop size)).map (· + (size + 1))
    | none => none
  | '\r' :: rest => if rest.head? = some '\n' then (stringSize? rest).map (· + 1) else none
  | _ :: rest => (stringSize? rest).map (· + 1)
termination_by letters => letters.length
decreasing_by
  all_goals simp only [List.length_cons, List.length_drop]
  all_goals omega

/-- How many letters a raw string takes after its opening quote, up to the quote that as many hashes
follow as stand before the opening one. -/
def rawSize? (hashes : Nat) : List Char → Option Nat
  | [] => none
  | letter :: rest =>
    if letter = '"' ∧ rest.take hashes = List.replicate hashes '#' then some (1 + hashes)
    else (rawSize? hashes rest).map (· + 1)

/-- How many letters a raw string takes: hashes, the quotes, and the hashes again. -/
def rawStringSize? (letters : List Char) : Option Nat :=
  let hashes := (letters.takeWhile (· == '#')).length
  match letters.drop hashes with
  | '"' :: rest => (rawSize? hashes rest).map (· + (hashes + 1))
  | _ => none

/-- How many letters a character literal takes after its opening quote. -/
def characterSize? : List Char → Option Nat
  | '\\' :: rest =>
    (escapeSize? rest).bind fun size =>
      if rest[size]? = some '\'' then some (size + 2) else none
  | _ :: '\'' :: _ => some 2
  | _ => none

/-- How many letters a literal takes after the letter that says its kind. -/
def markedLiteralSize? (first : Char) (rest : List Char) : Option Nat :=
  match first, rest with
  | 'b', '"' :: more => (stringSize? more).map (· + 1)
  | 'c', '"' :: more => (stringSize? more).map (· + 1)
  | 'b', '\'' :: more => (characterSize? more).map (· + 1)
  | 'b', 'r' :: more => (rawStringSize? more).map (· + 1)
  | 'c', 'r' :: more => (rawStringSize? more).map (· + 1)
  | 'r', rest => rawStringSize? rest
  | _, _ => none

/-- How many of the letters after digits are an exponent with a sign, or a suffix. -/
def numberTailSize (letters : List Char) : Nat :=
  match letters with
  | first :: sign :: digit :: rest =>
    if (first = 'e' ∨ first = 'E') ∧ (sign = '+' ∨ sign = '-') ∧ digit.isDigit then 3 + nameSize rest
    else nameSize letters
  | _ => nameSize letters

/-- How many of the letters after its first digit belong to a decimal number. A point belongs to it
unless another point or a name follows. -/
def decimalSize (letters : List Char) : Nat :=
  let isDigit (letter : Char) : Bool := letter.isDigit || letter == '_'
  let whole := (letters.takeWhile isDigit).length
  match letters.drop whole with
  | '.' :: rest =>
    if rest.head?.any fun next => next == '.' || isNameStart next then whole
    else
      let fraction := (rest.takeWhile isDigit).length
      whole + 1 + fraction + numberTailSize (rest.drop fraction)
  | rest => whole + numberTailSize rest

/-- How many letters a number of another base takes after the letter that says the base, which is its
first one. It has a digit, and no decimal digit is too large for the base. -/
def basedSize? (base : Nat) (letters : List Char) : Option Nat :=
  let isDigit (letter : Char) : Bool :=
    letter.isDigit || letter == '_' || (base == 16 && (Text.Hex.toNat? [letter]).isSome)
  let digits := letters.takeWhile isDigit
  let fits (letter : Char) : Bool := !letter.isDigit || letter.toNat < '0'.toNat + base
  if digits.all fits && digits.any (· != '_') then some (1 + nameSize letters) else none

/-- How many of the letters after its first digit belong to a number. -/
def numberSize? (first : Char) (letters : List Char) : Option Nat :=
  match first, letters with
  | '0', 'x' :: rest => basedSize? 16 rest
  | '0', 'o' :: rest => basedSize? 8 rest
  | '0', 'b' :: rest => basedSize? 2 rest
  | _, _ => some (decimalSize letters)

/-- How many letters a literal takes after its first letter. -/
def literalSize? (first : Char) (rest : List Char) : Option Nat :=
  if first.isDigit then numberSize? first rest
  else
    let quoted? :=
      if first = '"' then stringSize? rest
      else if first = '\'' then characterSize? rest
      else markedLiteralSize? first rest
    quoted?.map fun size =>
      let suffix := rest.drop size
      if suffix.head?.any isNameStart then size + nameSize suffix else size

/-!
## The strings that literals stand for

`quoted` writes a string as a literal, `stringValue?` reads the string of one, in quotes with escapes
or raw.
-/

/-- The letters between the quotes of a literal, escapes undone. A backslash at the end of a line joins
it with the next, without the blanks there. -/
def unescape : List Char → List Char
  | '\\' :: 'x' :: high :: low :: rest =>
    Char.ofNat ((Text.Hex.toNat? [high, low]).getD 0) :: unescape rest
  | '\\' :: 'u' :: '\x7b' :: rest =>
    let digits := (rest.takeWhile (· != '\x7d')).filter (· != '_')
    Char.ofNat ((Text.Hex.toNat? digits).getD 0) ::
      unescape (rest.drop ((rest.takeWhile (· != '\x7d')).length + 1))
  | '\\' :: letter :: rest =>
    if letter = '\n' ∨ letter = '\r' then
      unescape (rest.drop (rest.takeWhile Text.isBlank).length)
    else
      let meant :=
        if letter = 'n' then '\n' else if letter = 'r' then '\r' else if letter = 't' then '\t'
        else if letter = '0' then '\x00' else letter
      meant :: unescape rest
  | '\r' :: '\n' :: rest => '\n' :: unescape rest
  | letter :: rest => letter :: unescape rest
  | [] => []
termination_by letters => letters.length
decreasing_by
  all_goals simp only [List.length_cons, List.length_drop]
  all_goals omega

/-- A letter of a string as it stands in a literal. -/
def quotedLetter (letter : Char) : List Char :=
  if letter = '"' then ['\\', '"']
  else if letter = '\\' then ['\\', '\\']
  else if letter = '\r' then ['\\', 'r']
  else [letter]

/-- The literal of a string. -/
def quoted (text : String) : Token :=
  ⟨.literal, '"' :: (text.toList.flatMap quotedLetter ++ ['"'])⟩

/-- The string of a literal, if it is a string literal. -/
def stringValue? (literal : List Char) : Option String :=
  match literal with
  | '"' :: rest =>
    (stringSize? rest).map fun size => String.ofList (unescape (rest.take (size - 1)))
  | 'r' :: rest =>
    let hashes := (rest.takeWhile (· == '#')).length
    (rawStringSize? rest).map fun size =>
      String.ofList ((rest.take (size - 1 - hashes)).drop (hashes + 1))
  | _ => none

end RecordQuery.Declaration
