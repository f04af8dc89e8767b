import RecordQuery.Instant

/-!
# Reading instants

`Instant.ofText?` tries the internet format with an offset, then date and time apart by blanks or by
`T`, then the date alone; `Instant.ofTagged?` reads the looser internet format of tagged values.

Taken over from the usual library for calendars is what these formats accept: how many digits a number
may have, where white space is passed over, which signs an offset may have, that digits after the ninth
of a fraction count for nothing, and that second 60 is the leap second after second 59. Its other
formats, with names of days, months or zones, are left out, as are the texts of its faults.
-/

namespace RecordQuery.Instant

open Text

/-- A reader gives a value and the rest of the letters, or nothing. -/
abbrev Reader (α : Type) := StateT (List Char) Option α

namespace Reader

def letter (expected : Char) : Reader Unit := fun letters =>
  match letters with
  | first :: rest => if first = expected then some ((), rest) else none
  | [] => none

/-- Any amount of white space. -/
def blanks : Reader Unit := fun letters => some ((), trimStart letters)

/-- Exactly so many digits. -/
def exactly (count : Nat) : Reader Nat := fun letters =>
  let digits := letters.take count
  if digits.length = count ∧ digits.all Char.isDigit then
    some (digitsValue digits, letters.drop count)
  else none

/-- At least one digit and at most so many. -/
def upTo (count : Nat) : Reader Nat := fun letters =>
  let digits := (letters.take count).takeWhile Char.isDigit
  if digits.isEmpty then none else some (digitsValue digits, letters.drop digits.length)

/-- At least one digit. -/
def all : Reader Nat := fun letters =>
  let digits := letters.takeWhile Char.isDigit
  if digits.isEmpty then none else some (digitsValue digits, letters.drop digits.length)

/-- A point and digits, if a point follows; the ninth digit counts nanoseconds and later ones are
dropped. -/
def fraction : Reader Nat := fun letters =>
  match letters with
  | '.' :: rest =>
    let digits := rest.takeWhile Char.isDigit
    if digits.isEmpty then none
    else
      let kept := digits.take 9
      some (digitsValue kept * Nat.pow 10 (9 - kept.length), rest.drop digits.length)
  | _ => some (0, letters)

/-- A number of up to so many digits after any white space. -/
def loose (count : Nat) : Reader Nat := do
  blanks
  upTo count

/-- A year after any white space: four digits at most, or a sign and any number of digits. -/
def year : Reader Int := do
  blanks
  fun letters =>
    match letters with
    | '-' :: rest => (all rest).map fun (value, rest) => (-(value : Int), rest)
    | '+' :: rest => (all rest).map fun (value, rest) => ((value : Int), rest)
    | _ => (upTo 4 letters).map fun (value, rest) => ((value : Int), rest)

/-- The whole text must be read. -/
def whole? {α : Type} (reader : Reader α) (letters : List Char) : Option α :=
  match reader letters with
  | some (value, []) => some value
  | _ => none

end Reader

/-- The moment, if date and time of day are in range. -/
def ofParts? (year : Int) (month day hour minute second nanos : Nat) : Option Instant :=
  if hour < 24 ∧ minute < 60 ∧ second ≤ 60 then
    (Date.valid? year month day).map fun date => ofCivil date hour minute second nanos
  else none

/-- Hours and minutes of an offset, in seconds. -/
def offsetSeconds? (negative : Bool) (hours minutes : Nat) : Option Int :=
  let total : Int := hours * 3600 + minutes * 60
  if minutes < 60 ∧ total < secondsPerDay then some (if negative then -total else total) else none

/-- The sign of an offset, which may be the mathematical minus. -/
def Reader.negative : Reader Bool := fun letters =>
  match letters with
  | '+' :: rest => some (false, rest)
  | '-' :: rest | '\u2212' :: rest => some (true, rest)
  | _ => none

/-- The letter for zero, or sign, hours and minutes. -/
def Reader.offset : Reader Int := fun letters =>
  match letters with
  | 'Z' :: rest | 'z' :: rest => some (0, rest)
  | _ => (do
      let negative ← Reader.negative
      let hours ← exactly 2
      letter ':'
      let minutes ← exactly 2
      offsetSeconds? negative hours minutes : Reader Int) letters

/-- The letter between date and time of day in the internet format. -/
def Reader.timeMark : Reader Unit := fun letters =>
  match letters with
  | 'T' :: rest | 't' :: rest | ' ' :: rest => some ((), rest)
  | _ => none

/-- The internet format, every field with its full width. -/
def Reader.internet : Reader Instant := do
  let year ← exactly 4
  letter '-'
  let month ← exactly 2
  letter '-'
  let day ← exactly 2
  timeMark
  let hour ← exactly 2
  letter ':'
  let minute ← exactly 2
  letter ':'
  let second ← exactly 2
  let nanos ← fraction
  let offset ← offset
  let moment ← (ofParts? year month day hour minute second nanos : Option Instant)
  pure { moment with seconds := moment.seconds - offset }

/-- Year, month and day between hyphens. -/
def Reader.looseDate : Reader (Int × Nat × Nat) := do
  let year ← year
  letter '-'
  let month ← loose 2
  letter '-'
  let day ← loose 2
  pure (year, month, day)

/-- Hour, minute, second and fraction between colons. -/
def Reader.looseTime : Reader (Nat × Nat × Nat × Nat) := do
  let hour ← loose 2
  letter ':'
  let minute ← loose 2
  letter ':'
  let second ← loose 2
  let nanos ← fraction
  pure (hour, minute, second, nanos)

/-- Date and time of day with the given mark between them. -/
def Reader.civil (mark : Reader Unit) : Reader Instant := do
  let (year, month, day) ← looseDate
  mark
  let (hour, minute, second, nanos) ← looseTime
  (ofParts? year month day hour minute second nanos : Option Instant)

/-- Midnight of a date. -/
def Reader.midnight : Reader Instant := do
  let (year, month, day) ← looseDate
  (ofParts? year month day 0 0 0 0 : Option Instant)

/-- The moment that a text stands for. -/
def ofText? (text : String) : Option Instant :=
  let letters := text.toList
  Reader.internet.whole? letters
    <|> (Reader.civil .blanks).whole? letters
    <|> (Reader.civil (.letter 'T')).whole? letters
    <|> Reader.midnight.whole? letters

/-! ## Tagged values -/

/-- Sign, hours and minutes, apart by any colons and white space. -/
def Reader.looseOffset : Reader Int := fun letters =>
  match letters with
  | 'Z' :: rest | 'z' :: rest => some (0, rest)
  | first :: second :: third :: rest =>
    if lowerAscii (String.ofList [first, second, third]) = "utc" then some (0, rest)
    else (do
      let negative ← Reader.negative
      let hours ← exactly 2
      fun letters => some ((), letters.dropWhile fun letter => letter == ':' || isBlank letter)
      let minutes ← exactly 2
      offsetSeconds? negative hours minutes : Reader Int) letters
  | _ => none

/-- The internet format with white space before numbers and marks, and short numbers. -/
def Reader.looseInternet : Reader Instant := do
  let year ← year
  blanks
  letter '-'
  let month ← loose 2
  blanks
  letter '-'
  let day ← loose 2
  timeMark
  let hour ← loose 2
  blanks
  letter ':'
  let minute ← loose 2
  blanks
  letter ':'
  let second ← loose 2
  let nanos ← fraction
  blanks
  let offset ← looseOffset
  blanks
  let moment ← (ofParts? year month day hour minute second nanos : Option Instant)
  let shifted := { moment with seconds := moment.seconds - offset }
  let date := shifted.date
  if Date.minYear ≤ date.year ∧ date.year ≤ Date.maxYear then pure shifted else failure

/-- The moment in a tagged value. -/
def ofTagged? (text : String) : Option Instant :=
  Reader.looseInternet.whole? text.toList

end RecordQuery.Instant
