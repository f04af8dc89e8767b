import RecordQuery.Proofs.Number.Rounding

/-!
# Readings of doubles

A finite double is read as a sign, a significand and an exponent that its bits
can be put together from again.
-/

namespace RecordQuery.Number

/-- The pattern that is read as a finite double. -/
def patternOf (negative : Bool) (significand : Nat) (exponent : Int) : Nat :=
  (if negative then 2 ^ 63 else 0) +
    if significand < 2 ^ 52 then significand
    else (exponent + 1074).toNat * 2 ^ 52 + significand

theorem read_eq_finite {pattern significand : Nat} {exponent : Int}
    {negative : Bool} (bits : pattern < 2 ^ 64)
    (read : Format.double.read pattern =
      .finite negative significand exponent) :
    IsDouble significand exponent ∧
      pattern = patternOf negative significand exponent := by
  obtain ⟨finite, shape⟩ := Format.read_eq_finite (by decide) bits read
  have double := isFinite_double_iff.mp finite
  have normal := double.normal
  refine ⟨double, ?_⟩
  have parts :
      pattern = (if negative then 2 ^ 63 else 0) +
        ((exponent + 1074).toNat * 2 ^ 52 + significand) :=
    shape
  rw [parts, patternOf]
  split <;> split <;> omega

namespace Double

theorem isDouble_of_reading {number : Double} {significand : Nat}
    {exponent : Int} {negative : Bool}
    (read : number.reading = .finite negative significand exponent) :
    IsDouble significand exponent :=
  (read_eq_finite number.bits.toNat_lt read).1

/-- Finite doubles that are read alike are the same. -/
theorem eq_of_reading {left right : Double} {significand : Nat}
    {exponent : Int} {negative : Bool}
    (leftRead : left.reading = .finite negative significand exponent)
    (rightRead : right.reading = .finite negative significand exponent) :
    left = right := by
  obtain ⟨leftBits⟩ := left
  obtain ⟨rightBits⟩ := right
  have leftPattern := (read_eq_finite leftBits.toNat_lt leftRead).2
  have rightPattern := (read_eq_finite rightBits.toNat_lt rightRead).2
  rw [Double.mk.injEq, ← UInt64.toNat_inj, leftPattern, rightPattern]

theorem exists_reading_of_isFinite {number : Double}
    (isFinite : number.isFinite = true) :
    ∃ negative significand exponent,
      number.reading = .finite negative significand exponent := by
  unfold Double.isFinite at isFinite
  split at isFinite
  · rename_i negative significand exponent read
    exact ⟨negative, significand, exponent, read⟩
  · cases isFinite

end Double

end RecordQuery.Number
