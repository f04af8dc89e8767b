import RecordQuery.Number.Binary

/-!
# Decimals of binary numbers

Reading a decimal as a binary number, and the shortest decimal that reads back as a given one.
-/

namespace RecordQuery.Number

/-!
## Reading with a 64-bit significand

The significand, the power of ten and their product or quotient are each rounded once, so the result
may be off by a unit in the last place.
-/

namespace Double

/-- A finite number's magnitude as a ratio. -/
def ratio (number : Double) : Nat × Nat :=
  match number.reading with
  | .finite _ significand exponent =>
    (significand * Nat.pow 2 exponent.toNat, Nat.pow 2 (-exponent).toNat)
  | _ => (0, 1)

def times (left right : Double) : Double :=
  ofRatio (left.ratio.1 * right.ratio.1) (left.ratio.2 * right.ratio.2)

def dividedBy (left right : Double) : Double :=
  ofRatio (left.ratio.1 * right.ratio.2) (left.ratio.2 * right.ratio.1)

def isZero (number : Double) : Bool :=
  number.ratio.1 == 0

def negate (number : Double) : Double :=
  ⟨number.bits ^^^ 0x8000000000000000⟩

end Double

/-- The largest power of ten that is a finite number. -/
def maxPower : Nat := 308

/-- `number * 10 ^ power`. Powers below the table are taken in steps of its last entry; `none` when
the result is too large. -/
def scale (number : Double) (power : Int) : Option Double :=
  if power.natAbs ≤ maxPower then
    let table := Double.ofRatio (Nat.pow 10 power.natAbs) 1
    if 0 ≤ power then
      let product := number.times table
      if product.isFinite then some product else none
    else
      some (number.dividedBy table)
  else if number.isZero then some number
  else if 0 ≤ power then none
  else scale (number.dividedBy (.ofRatio (Nat.pow 10 maxPower) 1)) (power + maxPower)
termination_by (-power).toNat
decreasing_by simp only [maxPower] at *; omega

/-- As many of the digits as fit in 64 bits after `significand`, with the digits left over. -/
def gather (significand : Nat) : List Char → Nat × List Char
  | [] => (significand, [])
  | letter :: rest =>
    let next := significand * 10 + (letter.toNat - '0'.toNat)
    if next < Nat.pow 2 64 then gather next rest else (significand, letter :: rest)

/-!
## The shortest decimal

On the grids of 1, 2, … 17 digits the two neighbours of the number are tested against the interval of
reals that round to it; the first grid with a hit wins, of two hits the nearer.
-/

/-- Which neighbour is taken when both are equally near. -/
inductive Tie where
  | up
  | even
deriving DecidableEq

/-- The number `digits * 10 ^ exponent`. -/
structure Decimal where
  digits : Nat
  exponent : Int
deriving DecidableEq

/-- The greatest `k` with `10 ^ k ≤ num / den`, for positive numbers: the guess from the binary
logarithm is at most one off. -/
def floorLog10 (num den : Nat) : Int :=
  let reaches (k : Int) : Bool := den * Nat.pow 10 k.toNat ≤ num * Nat.pow 10 (-k).toNat
  let guess := Int.fdiv (floorLog2 num den * 30103) 100000
  if reaches (guess + 1) then guess + 1
  else if reaches guess then guess
  else guess - 1

/-- An interval of reals around a number, all as numerators over one denominator. -/
structure Interval where
  low : Nat
  value : Nat
  high : Nat
  den : Nat
  closed : Bool

/-- The reals that round to `significand * 2 ^ exponent`. Below the smallest significand of a binade
the neighbour is half as far. -/
def Interval.around (format : Format) (significand : Nat) (exponent : Int) : Interval :=
  let narrowBelow := significand = Nat.pow 2 format.fractionBits ∧
    exponent ≠ format.minExponent - format.fractionBits
  let scale := Nat.pow 2 (exponent - 2).toNat
  { low := (4 * significand - if narrowBelow then 1 else 2) * scale
    value := 4 * significand * scale
    high := (4 * significand + 2) * scale
    den := Nat.pow 2 (2 - exponent).toNat
    closed := significand % 2 = 0 }

namespace Interval

/-- Whether the interval holds `num / den`. -/
def holds (interval : Interval) (num den : Nat) : Bool :=
  if interval.closed then
    interval.low * den ≤ num * interval.den && num * interval.den ≤ interval.high * den
  else
    interval.low * den < num * interval.den && num * interval.den < interval.high * den

/-- The better of the value's two neighbours among the multiples of `10 ^ grid`, if the interval
holds one. -/
def nearest? (interval : Interval) (tie : Tie) (grid : Int) : Option Nat :=
  let up := Nat.pow 10 grid.toNat
  let down := Nat.pow 10 (-grid).toNat
  let below := interval.value * down / (interval.den * up)
  let twiceOff := 2 * (interval.value * down % (interval.den * up))
  match interval.holds (below * up) down, interval.holds ((below + 1) * up) down with
  | true, true =>
    if twiceOff < interval.den * up then some below
    else if interval.den * up < twiceOff then some (below + 1)
    else if tie = .even ∧ below % 2 = 0 then some below
    else some (below + 1)
  | true, false => some below
  | false, true => some (below + 1)
  | false, false => none

/-- The first hit among grids of more and more digits, where `top` is the place of the first digit. -/
def search (interval : Interval) (tie : Tie) (top : Int) : Nat → Decimal
  | 0 => ⟨interval.value / interval.den, 0⟩
  | tries + 1 =>
    let grid := top - 16 + tries
    match interval.nearest? tie grid with
    | some digits => ⟨digits, grid⟩
    | none => search interval tie top tries

end Interval

/-- The decimal without trailing zero digits. -/
def Decimal.normalize (decimal : Decimal) : Decimal :=
  let digits := Nat.toDigits 10 decimal.digits
  let kept := (digits.reverse.dropWhile (· == '0')).reverse
  ⟨kept.foldl (fun total letter => total * 10 + (letter.toNat - '0'.toNat)) 0,
    decimal.exponent + (digits.length - kept.length : Nat)⟩

/-- The shortest decimal that reads back as `significand * 2 ^ exponent`; zero for zero. -/
def shortest (tie : Tie) (significand : Nat) (exponent : Int) : Decimal :=
  if significand = 0 then ⟨0, 0⟩
  else
    let interval := Interval.around .double significand exponent
    (interval.search tie (floorLog10 interval.value interval.den) 17).normalize

/-- The digits of a decimal, and how many of them stand before the point. -/
def Decimal.layout (decimal : Decimal) : List Char × Int :=
  let digits := Nat.toDigits 10 decimal.digits
  (digits, digits.length + decimal.exponent)

/-- The decimal written out without an exponent. -/
def Decimal.positional (decimal : Decimal) : List Char :=
  let (digits, point) := decimal.layout
  if point ≤ 0 then
    '0' :: '.' :: (List.replicate (-point).toNat '0' ++ digits)
  else if digits.length ≤ point.toNat then
    digits ++ List.replicate (point.toNat - digits.length) '0'
  else
    digits.take point.toNat ++ '.' :: digits.drop point.toNat

/-- The text of a number outside JSON: never an exponent, no fraction for an integer, and a tie
between two shortest decimals goes up. -/
def Double.text (number : Double) : String :=
  match number.reading with
  | .notANumber => "NaN"
  | .infinite negative => if negative then "-inf" else "inf"
  | .finite negative significand exponent =>
    let magnitude := (shortest .up significand exponent).positional
    String.ofList (if negative then '-' :: magnitude else magnitude)

end RecordQuery.Number
