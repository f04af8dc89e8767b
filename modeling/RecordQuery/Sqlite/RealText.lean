import RecordQuery.Number.Binary
import RecordQuery.Number.Decimal

/-!
# The text of a floating-point number in SQLite

A number that is cast to text has fifteen digits, a half going up, and always a point with a digit
after it. The digits are those of the number scaled to eighteen or nineteen digits with compensated
products, so the last one may differ from that of the exact value.
-/

namespace RecordQuery

/-!
## Compensated arithmetic

Arithmetic with about twice the precision of a 64-bit number: a number is held as the sum of two, where
the second is what the first one misses. The product splits the first parts in halves, so that the
rounding error of their product can be found and kept.
-/

namespace Number

namespace Double

/-- The exact value of a number; what is not finite counts as zero. -/
def value (number : Double) : Dyadic :=
  match number.reading with
  | .finite negative significand exponent =>
    .ofIntWithPrec (if negative then -(significand : Int) else significand) (-exponent)
  | _ => 0

/-- The number nearest to a value. -/
def nearest : Dyadic → Double
  | .zero => ⟨0⟩
  | .ofOdd odd precision _ => .ofReading (.finite (decide (odd < 0)) odd.natAbs (-precision))

def plus (left right : Double) : Double :=
  nearest (left.value + right.value)

def minus (left right : Double) : Double :=
  nearest (left.value - right.value)

def product (left right : Double) : Double :=
  nearest (left.value * right.value)

/-- How many of the last bits the leading part of a number leaves out. -/
def trailingBits : Nat := 26

/-- The number without its last bits. -/
def leading (number : Double) : Double :=
  ⟨UInt64.ofNat (number.bits.toNat / Nat.pow 2 trailingBits * Nat.pow 2 trailingBits)⟩

/-- The integer part of a finite number. -/
def truncate (number : Double) : Int :=
  match number.reading with
  | .finite negative significand exponent =>
    let whole := significand * Nat.pow 2 exponent.toNat / Nat.pow 2 (-exponent).toNat
    if negative then -(whole : Int) else whole
  | _ => 0

end Double

/-- A number as the sum of a double and of another that holds what the first one misses. -/
structure Compensated where
  high : Double
  low : Double

namespace Compensated

def ofDouble (number : Double) : Compensated :=
  ⟨number, ⟨0⟩⟩

/-- A power of ten: the nearest double, and the double nearest to what it misses. -/
def powerOfTen (power : Int) : Compensated :=
  let num := Nat.pow 10 power.toNat
  let den := Nat.pow 10 (-power).toNat
  let high := Double.ofRatio num den
  let (significand, exponent) := match high.reading with
    | .finite _ significand exponent => (significand, exponent)
    | _ => (0, 0)
  let missed : Int :=
    (num * Nat.pow 2 (-exponent).toNat : Nat) - (significand * Nat.pow 2 exponent.toNat * den : Nat)
  let low := Double.ofRatio missed.natAbs (den * Nat.pow 2 (-exponent).toNat)
  ⟨high, if missed < 0 then .minus ⟨0⟩ low else low⟩

def times (left right : Compensated) : Compensated :=
  let leftTop := left.high.leading
  let leftRest := left.high.minus leftTop
  let rightTop := right.high.leading
  let rightRest := right.high.minus rightTop
  let main := leftTop.product rightTop
  let cross := (leftTop.product rightRest).plus (leftRest.product rightTop)
  let sum := main.plus cross
  let error := ((main.minus sum).plus cross).plus (leftRest.product rightRest)
  let small := ((left.high.product right.low).plus (left.low.product right.high)).plus error
  let high := sum.plus small
  ⟨high, (sum.minus high).plus small⟩

/-- The integer parts of the two summands together. -/
def truncate (number : Compensated) : Int :=
  number.high.truncate + number.low.truncate

end Compensated

end Number

/-! ## Scaling and digits -/

namespace Sqlite

open Number

/-- How many digits are kept. -/
def realDigits : Nat := 15

/-! ### Digits -/

/-- The bound of the numbers whose digits are taken, times a power of ten. -/
def digitLimit (power : Int) : Double :=
  .ofRatio (9223372036854774784 * Nat.pow 10 power.toNat) (Nat.pow 10 (-power).toNat)

/-- A number on its way to the bound, and the power of ten by which it has been divided. -/
structure Scaled where
  number : Compensated
  exponent : Int

namespace Scaled

/-- Multiplies by a power of ten as long as the number is outside, at most so many times. -/
def whileOutside (outside : Double → Bool) (power : Int) : Nat → Scaled → Scaled
  | 0, scaled => scaled
  | tries + 1, scaled =>
    if outside scaled.number.high then
      whileOutside outside power tries
        ⟨scaled.number.times (.powerOfTen power), scaled.exponent - power⟩
    else scaled

/-- More than the steps that any number takes with one power of ten. -/
def enough : Nat := 16

/-- The number scaled down in ever smaller steps. -/
def down (scaled : Scaled) : Scaled :=
  let above (power : Int) (number : Double) : Bool :=
    (digitLimit power).bits < number.bits
  whileOutside (above 0) (-1) enough <|
    whileOutside (above 10) (-10) enough <|
      whileOutside (above 100) (-100) enough scaled

/-- The number scaled up in ever smaller steps. -/
def up (scaled : Scaled) : Scaled :=
  let below (power : Int) (number : Double) : Bool :=
    number.bits < (digitLimit power).bits
  whileOutside (below (-1)) 1 enough <|
    whileOutside (below (-11)) 10 enough <|
      whileOutside (below (-101)) 100 enough scaled

end Scaled

/-- The eighteen or nineteen leading digits of a positive number, as they come out of scaling it by
powers of ten with two doubles. The scaling errors stay in the last few of them. -/
def leadingDigits (magnitude : Double) : Decimal :=
  let start : Scaled := ⟨.ofDouble magnitude, 0⟩
  let scaled := if (digitLimit 0).bits < magnitude.bits then start.down else start.up
  ⟨scaled.number.truncate.toNat, scaled.exponent⟩

/-- A decimal without the digits after the fifteenth; a half of the last digit that stays goes up. -/
def roundDigits (decimal : Decimal) : Decimal :=
  let dropped := (Nat.toDigits 10 decimal.digits).length - realDigits
  let unit := Nat.pow 10 dropped
  (Decimal.mk ((2 * decimal.digits + unit) / (2 * unit)) (decimal.exponent + dropped)).normalize

/-! ### Text -/

/-- The digits around the point, with a zero after it for an integer. -/
def withPoint (decimal : Decimal) : List Char :=
  let written := decimal.positional
  if written.contains '.' then written else written ++ ['.', '0']

/-- An exponent with its sign and at least two digits. -/
def exponentLetters (power : Int) : List Char :=
  let digits := Nat.toDigits 10 power.natAbs
  'e' :: (if power < 0 then '-' else '+') ::
    (if digits.length < 2 then '0' :: digits else digits)

/-- A decimal with its digits around the point, or with an exponent when it is below 1e-4 or has more
than fifteen digits before the point. -/
def decimalLetters (decimal : Decimal) : List Char :=
  let (digits, point) := decimal.layout
  if -4 < point ∧ point ≤ realDigits then withPoint decimal
  else withPoint ⟨decimal.digits, 1 - digits.length⟩ ++ exponentLetters (point - 1)

/-- The text of a number. Zero has no sign. -/
def realText (number : Double) : String :=
  match number.reading with
  | .notANumber => "NaN"
  | .infinite negative => if negative then "-Inf" else "Inf"
  | .finite negative significand exponent =>
    if significand = 0 then "0.0"
    else
      let magnitude : Double := .ofReading (.finite false significand exponent)
      let letters := decimalLetters (roundDigits (leadingDigits magnitude))
      String.ofList (if negative then '-' :: letters else letters)

end Sqlite

end RecordQuery
