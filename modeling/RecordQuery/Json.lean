import RecordQuery.Number.Binary
import RecordQuery.Number.Decimal
import RecordQuery.Text.Basic

/-!
# JSON values

The members of an object stand in the order of their names and no name occurs twice; numbers are
integers within 64 bits, signed or unsigned, or floating-point numbers.

Taken over from the usual library for JSON are the order of the members and the compact text: which
characters are escaped and how, and floating-point numbers by their shortest digits, with a point or
with an exponent. Its indented text is left out.
-/

namespace RecordQuery

open Number

inductive Json where
  | null
  | bool (value : Bool)
  | integer (value : Int)
  | float (value : Double)
  | string (value : String)
  | array (items : List Json)
  | object (members : List (String × Json))

namespace Json

/-- Puts a member at its place by name; a member of the same name is replaced. -/
def insertMember (name : String) (value : Json) : List (String × Json) → List (String × Json)
  | [] => [(name, value)]
  | (first, held) :: rest =>
    if name < first then (name, value) :: (first, held) :: rest
    else if name = first then (name, value) :: rest
    else (first, held) :: insertMember name value rest

/-- The object with the given members; of two with one name the later stays. -/
def ofMembers (members : List (String × Json)) : Json :=
  .object (members.foldl (fun held member => insertMember member.1 member.2 held) [])

end Json

/-!
## Compact text

No blanks, and only those characters escaped that must be.
-/

namespace Json

/-- A character of a string: the quote, the backslash and the controls below U+0020 are escaped. -/
def escapeLetter (letter : Char) : List Char :=
  if letter = '"' then ['\\', '"']
  else if letter = '\\' then ['\\', '\\']
  else if letter.toNat = 0x08 then ['\\', 'b']
  else if letter.toNat = 0x0c then ['\\', 'f']
  else if letter = '\n' then ['\\', 'n']
  else if letter = '\r' then ['\\', 'r']
  else if letter = '\t' then ['\\', 't']
  else if letter.toNat < 0x20 then
    '\\' :: 'u' :: '0' :: '0' :: Text.Hex.ofByte (UInt8.ofNat letter.toNat)
  else [letter]

def quoted (text : String) : List Char :=
  '"' :: (text.toList.flatMap escapeLetter ++ ['"'])

/-- The digits of a number from 1e-5 up to 1e16 stand around the point, with `.0` after an integer;
others have an exponent with a sign. -/
def decimalText (decimal : Decimal) : List Char :=
  let (digits, point) := decimal.layout
  if -5 < point ∧ point ≤ 16 then
    if 0 < point ∧ digits.length ≤ point.toNat then decimal.positional ++ ['.', '0']
    else decimal.positional
  else
    let power := point - 1
    let sign := if power < 0 then '-' else '+'
    let fraction := match digits.drop 1 with
      | [] => []
      | more => '.' :: more
    digits.take 1 ++ fraction ++ 'e' :: sign :: Nat.toDigits 10 power.natAbs

/-- A floating-point number; of two equally near shortest decimals the one with an even last digit.
JSON has no text for the others, which are written as null. -/
def floatText (number : Double) : List Char :=
  match number.reading with
  | .finite negative significand exponent =>
    let magnitude :=
      if significand = 0 then ['0', '.', '0']
      else decimalText (shortest .even significand exponent)
    if negative then '-' :: magnitude else magnitude
  | _ => ['n', 'u', 'l', 'l']

mutual

/-- The letters of a value's text. -/
def letters : Json → List Char
  | .null => ['n', 'u', 'l', 'l']
  | .bool true => ['t', 'r', 'u', 'e']
  | .bool false => ['f', 'a', 'l', 's', 'e']
  | .integer value => (toString value).toList
  | .float value => floatText value
  | .string value => quoted value
  | .array items => '[' :: (itemLetters items ++ [']'])
  | .object members => '\x7b' :: (memberLetters members ++ ['\x7d'])

/-- The items with commas between them. -/
def itemLetters : List Json → List Char
  | [] => []
  | [item] => letters item
  | item :: next :: rest => letters item ++ ',' :: itemLetters (next :: rest)

/-- The members with commas between them. -/
def memberLetters : List (String × Json) → List Char
  | [] => []
  | [(name, value)] => quoted name ++ ':' :: letters value
  | (name, value) :: next :: rest =>
    quoted name ++ ':' :: (letters value ++ ',' :: memberLetters (next :: rest))

end

def text (json : Json) : String :=
  String.ofList json.letters

end Json

end RecordQuery
