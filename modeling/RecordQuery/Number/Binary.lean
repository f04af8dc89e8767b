/-!
# Numbers as bits and bytes

Binary floating-point numbers as bit patterns, with exact arithmetic on natural numbers.
`Format.round` gives the nearest number of a format to a ratio, ties to even; reading, widening,
narrowing, products and quotients are all this one rounding.
-/

namespace RecordQuery.Number

/-- An interchange format: the widths of its fraction and exponent fields. -/
structure Format where
  fractionBits : Nat
  exponentBits : Nat

namespace Format

def double : Format := ⟨52, 11⟩

def single : Format := ⟨23, 8⟩

/-- The exponent of the smallest normal number. -/
def minExponent (format : Format) : Int :=
  2 - Nat.pow 2 (format.exponentBits - 1)

/-- The pattern of infinity without its sign. -/
def infinity (format : Format) : Nat :=
  (Nat.pow 2 format.exponentBits - 1) * Nat.pow 2 format.fractionBits

def signBit (format : Format) : Nat :=
  Nat.pow 2 (format.fractionBits + format.exponentBits)

/-- The pattern of the not-a-number that operations give. -/
def quiet (format : Format) : Nat :=
  format.infinity + Nat.pow 2 (format.fractionBits - 1)

end Format

/-- The nearest integer to `num / den`, a half going to the even neighbour. -/
def roundHalfEven (num den : Nat) : Nat :=
  let quotient := num / den
  let twice := 2 * (num % den)
  if twice < den ∨ (twice = den ∧ quotient % 2 = 0) then quotient else quotient + 1

/-- The greatest `e` with `2 ^ e ≤ num / den`, for positive numbers. -/
def floorLog2 (num den : Nat) : Int :=
  let guess : Int := (num.log2 : Int) - (den.log2 : Int)
  if den * Nat.pow 2 guess.toNat ≤ num * Nat.pow 2 (-guess).toNat then guess else guess - 1

/-- The pattern, without sign, of the number nearest to `num / den`; what is too large becomes
infinity. The exponent field counts from the smallest normal exponent, so a significand that
rounds up to the next power of two carries into it. -/
def Format.round (format : Format) (num den : Nat) : Nat :=
  if num = 0 then 0
  else
    let exponent := max (floorLog2 num den) format.minExponent
    let unit : Int := exponent - format.fractionBits
    let significand := roundHalfEven (num * Nat.pow 2 (-unit).toNat) (den * Nat.pow 2 unit.toNat)
    let field := (exponent - format.minExponent).toNat
    min (field * Nat.pow 2 format.fractionBits + significand) format.infinity

/-- What a pattern stands for. -/
inductive Reading where
  | notANumber
  | infinite (negative : Bool)
  | finite (negative : Bool) (significand : Nat) (exponent : Int)

/-- The reading of a pattern; a finite number is `significand * 2 ^ exponent`. -/
def Format.read (format : Format) (pattern : Nat) : Reading :=
  let negative := decide (format.signBit ≤ pattern)
  let magnitude := pattern % format.signBit
  let fraction := magnitude % Nat.pow 2 format.fractionBits
  let field := magnitude / Nat.pow 2 format.fractionBits
  if field = Nat.pow 2 format.exponentBits - 1 then
    if fraction = 0 then .infinite negative else .notANumber
  else if field = 0 then
    .finite negative fraction (format.minExponent - format.fractionBits)
  else
    .finite negative (Nat.pow 2 format.fractionBits + fraction)
      (format.minExponent - format.fractionBits + (field - 1 : Nat))

/-- The pattern of a reading, rounded to the format. -/
def Format.write (format : Format) : Reading → Nat
  | .notANumber => format.quiet
  | .infinite negative => (if negative then format.signBit else 0) + format.infinity
  | .finite negative significand exponent =>
    (if negative then format.signBit else 0) +
      format.round (significand * Nat.pow 2 exponent.toNat) (Nat.pow 2 (-exponent).toNat)

structure Double where
  bits : UInt64
deriving DecidableEq, Repr

structure Single where
  bits : UInt32
deriving DecidableEq, Repr

namespace Double

def reading (number : Double) : Reading :=
  Format.double.read number.bits.toNat

/-- The nearest number to a reading. -/
def ofReading (reading : Reading) : Double :=
  ⟨UInt64.ofNat (Format.double.write reading)⟩

/-- The number nearest to a ratio. -/
def ofRatio (num den : Nat) : Double :=
  ⟨UInt64.ofNat (Format.double.round num den)⟩

def isNaN (number : Double) : Bool :=
  match number.reading with
  | .notANumber => true
  | _ => false

def isFinite (number : Double) : Bool :=
  match number.reading with
  | .finite .. => true
  | _ => false

/-- The nearest number to an integer. -/
def ofInt (value : Int) : Double :=
  ofReading (.finite (decide (value < 0)) value.natAbs 0)

/-- The integer that a finite number without fraction is. -/
def toInt? (number : Double) : Option Int :=
  match number.reading with
  | .finite negative significand exponent =>
    let scaled := significand * Nat.pow 2 exponent.toNat
    let den := Nat.pow 2 (-exponent).toNat
    if scaled % den = 0 then
      some (if negative then -(scaled / den : Nat) else (scaled / den : Nat))
    else none
  | _ => none

end Double

/-- The number in the wider format; nothing is lost. -/
def Single.widen (number : Single) : Double :=
  .ofReading (Format.single.read number.bits.toNat)

/-- The nearest number to an integer. -/
def Single.ofInt (value : Int) : Single :=
  ⟨UInt32.ofNat (Format.single.write (.finite (decide (value < 0)) value.natAbs 0))⟩

/-- The nearest number in the narrower format. -/
def Double.narrow (number : Double) : Single :=
  ⟨UInt32.ofNat (Format.single.write number.reading)⟩

/-!
## Integers as bytes

Byte strings of a fixed size, the most significant byte first; negative integers in two's complement.
-/

namespace BigEndian

/-- The last `size` bytes of a natural number. -/
def ofNat : (size number : Nat) → List UInt8
  | 0, _ => []
  | size + 1, number => UInt8.ofNat (number / Nat.pow 256 size) :: ofNat size number

/-- The last `size` bytes of an integer. -/
def ofInt (size : Nat) (number : Int) : List UInt8 :=
  ofNat size (number % (Nat.pow 256 size : Nat)).toNat

def toNat (bytes : List UInt8) : Nat :=
  bytes.foldl (fun total byte => total * 256 + byte.toNat) 0

def toInt (bytes : List UInt8) : Int :=
  let number := toNat bytes
  if Nat.pow 256 bytes.length ≤ 2 * number then (number : Int) - (Nat.pow 256 bytes.length : Nat) else number

end BigEndian

end RecordQuery.Number
