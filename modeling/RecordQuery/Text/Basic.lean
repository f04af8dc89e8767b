/-!
# White space, pieces and digits

Text is read as a list of characters: cut at separators, freed of white space, read as a number. White
space is the Unicode property White_Space; digits are those of ASCII, and so are the letters whose case
is folded.
-/

namespace RecordQuery.Text

/-! ## White space and pieces -/

/-- The characters with the property White_Space. -/
def isBlank (letter : Char) : Bool :=
  let code := letter.toNat
  (0x09 ≤ code && code ≤ 0x0d) || code == 0x20 || code == 0x85 || code == 0xa0 ||
    code == 0x1680 || (0x2000 ≤ code && code ≤ 0x200a) || code == 0x2028 ||
    code == 0x2029 || code == 0x202f || code == 0x205f || code == 0x3000

/-- The letters from the first that is not white space on. -/
def trimStart (letters : List Char) : List Char :=
  letters.dropWhile isBlank

/-- The letters up to the last that is not white space. -/
def trimEnd (letters : List Char) : List Char :=
  (letters.reverse.dropWhile isBlank).reverse

/-- The text without the white space around it. -/
def trim (text : String) : String :=
  String.ofList (trimEnd (trimStart text.toList))

/-- The pieces between separators: one more than there are separators, empty ones included. -/
def pieces (isSeparator : Char → Bool) : List Char → List (List Char)
  | [] => [[]]
  | letter :: rest =>
    if isSeparator letter then
      [] :: pieces isSeparator rest
    else
      match pieces isSeparator rest with
      | [] => [[letter]]
      | first :: more => (letter :: first) :: more

/-- The maximal runs of letters that are not white space. -/
def words (letters : List Char) : List (List Char) :=
  (pieces isBlank letters).filter fun piece => !piece.isEmpty

/-- The pieces of a text between occurrences of one character. -/
def splitAt (separator : Char) (text : String) : List String :=
  (pieces (· == separator) text.toList).map String.ofList

/-- The text with its ASCII letters in lower case. -/
def lowerAscii (text : String) : String :=
  String.ofList (text.toList.map Char.toLower)

theorem utf8Size_toLower (letter : Char) : letter.toLower.utf8Size = letter.utf8Size := by
  unfold Char.toLower
  split
  case isTrue upper =>
    have above : letter.val ≤ 127 := UInt32.le_trans upper.2 (by decide)
    have lowered : letter.val + ('a'.val - 'A'.val) ≤ 127 := by
      have bounds := upper.2
      rw [UInt32.le_iff_toNat_le] at bounds ⊢
      rw [UInt32.toNat_add]
      have last : 'Z'.val.toNat = 90 := rfl
      have step : ('a'.val - 'A'.val).toNat = 32 := rfl
      have limit : (127 : UInt32).toNat = 127 := rfl
      omega
    rw [Char.utf8Size_eq_one_iff.mpr above, Char.utf8Size_eq_one_iff.mpr lowered]
  case isFalse => rfl

/-- A copy in lower case has its letters at the offsets of the original. -/
theorem utf8ByteSize_map_toLower (letters : List Char) :
    (String.ofList (letters.map Char.toLower)).utf8ByteSize =
      (String.ofList letters).utf8ByteSize := by
  induction letters with
  | nil => rfl
  | cons letter rest ih =>
      rw [List.map_cons, String.ofList_cons, String.ofList_cons, String.utf8ByteSize_append,
        String.utf8ByteSize_append, ih]
      simp [utf8Size_toLower]

/-- The text with its ASCII letters in upper case. -/
def upperAscii (text : String) : String :=
  String.ofList (text.toList.map Char.toUpper)

/-! ## Decimal numbers -/

/-- The number written by ASCII digits, the most significant first. -/
def digitsValue (letters : List Char) : Nat :=
  letters.foldl (fun total letter => total * 10 + (letter.toNat - '0'.toNat)) 0

/-- The decimal digits of a number, padded with zeros on the left to a least width. -/
def padded (width number : Nat) : List Char :=
  let digits := Nat.toDigits 10 number
  List.replicate (width - digits.length) '0' ++ digits

/-- One or more digits. -/
def digitsNumber? (letters : List Char) : Option Nat :=
  if letters.isEmpty || !letters.all Char.isDigit then none else some (digitsValue letters)

/-- A whole number: digits, with a plus sign before them or without. -/
def wholeNumber? : List Char → Option Nat
  | '+' :: rest => digitsNumber? rest
  | letters => digitsNumber? letters

/-!
## Hexadecimal text

Two lower-case digits for each byte; digits of either case are read.
-/

namespace Hex

/-- The digit of a number below sixteen. -/
def digit (number : Nat) : Char :=
  if number < 10 then Char.ofNat ('0'.toNat + number) else Char.ofNat ('a'.toNat + (number - 10))

/-- The value of a digit of either case. -/
def value? (letter : Char) : Option Nat :=
  if letter.isDigit then some (letter.toNat - '0'.toNat)
  else if 'a' ≤ letter ∧ letter ≤ 'f' then some (letter.toNat - 'a'.toNat + 10)
  else if 'A' ≤ letter ∧ letter ≤ 'F' then some (letter.toNat - 'A'.toNat + 10)
  else none

/-- The two digits of a byte. -/
def ofByte (byte : UInt8) : List Char :=
  [digit (byte.toNat / 16), digit (byte.toNat % 16)]

/-- The digits of a byte string. -/
def ofBytes (bytes : List UInt8) : List Char :=
  bytes.flatMap ofByte

/-- The bytes that an even number of digits stands for. -/
def toBytes? : List Char → Option (List UInt8)
  | [] => some []
  | [_] => none
  | high :: low :: rest => do
    let highValue ← value? high
    let lowValue ← value? low
    let bytes ← toBytes? rest
    pure (UInt8.ofNat (highValue * 16 + lowValue) :: bytes)

/-- The number that the digits stand for. -/
def toNat? (letters : List Char) : Option Nat :=
  letters.foldlM (fun total letter => (value? letter).map (total * 16 + ·)) 0

end Hex

end RecordQuery.Text
