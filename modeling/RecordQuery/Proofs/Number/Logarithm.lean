import Mathlib.Algebra.Order.Field.Power
import Mathlib.Tactic.FieldSimp
import Mathlib.Tactic.Linarith
import Mathlib.Tactic.NormNum
import Mathlib.Tactic.Positivity
import Mathlib.Tactic.Ring
import RecordQuery.Number.Decimal

/-!
# Floors of logarithms

The binary and the decimal exponent that are found for a ratio are those of
powers below it.  The decimal one is guessed from the binary one with five
digits of the logarithm of two, which is exact enough for all ratios of
numbers with some thousand bits.
-/

namespace RecordQuery.Number

/-! ## Powers with exponents of either sign -/

/-- A power as a ratio of natural powers. -/
theorem zpow_eq_div {base : ℚ} (nonzero : base ≠ 0) (exponent : Int) :
    base ^ exponent =
      base ^ exponent.toNat / base ^ (-exponent).toNat := by
  have split : exponent + ((-exponent).toNat : Int) = exponent.toNat := by
    omega
  rw [eq_div_iff (pow_ne_zero _ nonzero), ← zpow_natCast, ← zpow_natCast,
    ← zpow_add₀ nonzero, split]

theorem zpow_le_div_iff {base den : Nat} (num : Nat) (basePos : 0 < base)
    (denPos : 0 < den) (exponent : Int) :
    (base : ℚ) ^ exponent ≤ num / den ↔
      den * base ^ exponent.toNat ≤ num * base ^ (-exponent).toNat := by
  have basePos' : (0 : ℚ) < base := Nat.cast_pos.mpr basePos
  have denPos' : (0 : ℚ) < den := Nat.cast_pos.mpr denPos
  rw [zpow_eq_div basePos'.ne', div_le_div_iff₀ (by positivity) denPos',
    mul_comm ((base : ℚ) ^ exponent.toNat)]
  norm_cast

/-! ## The binary logarithm -/

section Ratio

variable {num den : Nat}

theorem zpow_floorLog2_le (numPos : 0 < num) (denPos : 0 < den) :
    (2 : ℚ) ^ floorLog2 num den ≤ num / den := by
  have two := zpow_le_div_iff num (by decide : 0 < 2) denPos
  simp only [Nat.cast_ofNat] at two
  unfold floorLog2
  simp only [Nat.pow_eq]
  split
  · rename_i reached
    exact (two _).mpr reached
  · have numLarge : (2 : ℚ) ^ num.log2 ≤ num := by
      exact_mod_cast Nat.log2_self_le (Nat.ne_of_gt numPos)
    have denSmall : (den : ℚ) ≤ 2 ^ (den.log2 + 1) := by
      exact_mod_cast (Nat.lt_log2_self (n := den)).le
    have denPos' : (0 : ℚ) < den := Nat.cast_pos.mpr denPos
    calc (2 : ℚ) ^ ((num.log2 : Int) - (den.log2 : Int) - 1)
        = 2 ^ num.log2 / 2 ^ (den.log2 + 1) := by
          rw [show (num.log2 : Int) - (den.log2 : Int) - 1 =
            (num.log2 : Int) - ((den.log2 + 1 : Nat) : Int) by
              push_cast
              ring, zpow_sub₀ (by norm_num), zpow_natCast, zpow_natCast]
      _ ≤ num / den := by gcongr

theorem floorLog2_within {bits : Nat} (numBits : num < 2 ^ bits)
    (denBits : den < 2 ^ bits) (numPos : 0 < num) (denPos : 0 < den) :
    -(bits : Int) ≤ floorLog2 num den ∧ floorLog2 num den < bits := by
  have numLog : num.log2 < bits :=
    (Nat.log2_lt (Nat.ne_of_gt numPos)).mpr numBits
  have denLog : den.log2 < bits :=
    (Nat.log2_lt (Nat.ne_of_gt denPos)).mpr denBits
  unfold floorLog2
  simp only
  split_ifs <;> omega

end Ratio

/-! ## The decimal logarithm -/

/-- A power of ten below a power of two, by `10 ^ 59 ≤ 2 ^ 196`. -/
theorem ten_pow_le_two_pow {decimal binary : Nat}
    (fewer : 196 * decimal ≤ 59 * binary) :
    10 ^ decimal ≤ 2 ^ binary := by
  have raised : (10 ^ decimal) ^ 59 ≤ (2 ^ binary) ^ 59 := by
    calc (10 ^ decimal) ^ 59 = (10 ^ 59) ^ decimal := by
          rw [← Nat.pow_mul, ← Nat.pow_mul, Nat.mul_comm]
      _ ≤ (2 ^ 196) ^ decimal := Nat.pow_le_pow_left (by norm_num) decimal
      _ = 2 ^ (196 * decimal) := (Nat.pow_mul 2 196 decimal).symm
      _ ≤ 2 ^ (59 * binary) := Nat.pow_le_pow_right (by decide) fewer
      _ = (2 ^ binary) ^ 59 := by rw [← Nat.pow_mul, Nat.mul_comm]
  exact (Nat.pow_le_pow_iff_left (by decide)).mp raised

/-- A power of two below a power of ten, by `2 ^ 93 ≤ 10 ^ 28`. -/
theorem two_pow_le_ten_pow {binary decimal : Nat}
    (fewer : 28 * binary ≤ 93 * decimal) :
    2 ^ binary ≤ 10 ^ decimal := by
  have raised : (2 ^ binary) ^ 93 ≤ (10 ^ decimal) ^ 93 := by
    calc (2 ^ binary) ^ 93 = (2 ^ 93) ^ binary := by
          rw [← Nat.pow_mul, ← Nat.pow_mul, Nat.mul_comm]
      _ ≤ (10 ^ 28) ^ binary := Nat.pow_le_pow_left (by norm_num) binary
      _ = 10 ^ (28 * binary) := (Nat.pow_mul 10 28 binary).symm
      _ ≤ 10 ^ (93 * decimal) := Nat.pow_le_pow_right (by decide) fewer
      _ = (10 ^ decimal) ^ 93 := by rw [← Nat.pow_mul, Nat.mul_comm]
  exact (Nat.pow_le_pow_iff_left (by decide)).mp raised

/-- One less than the guess from a binary exponent is low enough. -/
theorem zpow_guess_le {binary : Int} (least : -20000 ≤ binary)
    (most : binary ≤ 100000) :
    (10 : ℚ) ^ (Int.fdiv (binary * 30103) 100000 - 1) ≤ 2 ^ binary := by
  have quotient :
      Int.fdiv (binary * 30103) 100000 = binary * 30103 / 100000 :=
    Int.fdiv_eq_ediv_of_nonneg _ (by decide)
  rw [quotient, zpow_eq_div (by norm_num : (10 : ℚ) ≠ 0),
    zpow_eq_div (by norm_num : (2 : ℚ) ≠ 0),
    div_le_div_iff₀ (by positivity) (by positivity)]
  rcases Int.le_total 0 binary with nonneg | negative
  · have decimal :
        10 ^ (binary * 30103 / 100000 - 1).toNat ≤ 2 ^ binary.toNat :=
      ten_pow_le_two_pow (by omega)
    have whole : (-binary).toNat = 0 := by omega
    have positive : 1 ≤ 10 ^ (-(binary * 30103 / 100000 - 1)).toNat :=
      Nat.one_le_pow _ _ (by decide)
    rw [whole]
    exact_mod_cast Nat.mul_le_mul decimal positive
  · have decimal :
        2 ^ (-binary).toNat ≤ 10 ^ (-(binary * 30103 / 100000 - 1)).toNat :=
      two_pow_le_ten_pow (by omega)
    have noTens : (binary * 30103 / 100000 - 1).toNat = 0 := by omega
    have noTwos : binary.toNat = 0 := by omega
    rw [noTens, noTwos]
    exact_mod_cast Nat.mul_le_mul_left 1 decimal

theorem zpow_floorLog10_le {num den bits : Nat} (few : bits ≤ 20000)
    (numBits : num < 2 ^ bits) (denBits : den < 2 ^ bits)
    (numPos : 0 < num) (denPos : 0 < den) :
    (10 : ℚ) ^ floorLog10 num den ≤ num / den := by
  have ten := zpow_le_div_iff num (by decide : 0 < 10) denPos
  simp only [Nat.cast_ofNat] at ten
  unfold floorLog10
  simp only [Nat.pow_eq, decide_eq_true_eq]
  split_ifs with higher lower
  · exact (ten _).mpr higher
  · exact (ten _).mpr lower
  · obtain ⟨least, most⟩ := floorLog2_within numBits denBits numPos denPos
    exact (zpow_guess_le (by omega) (by omega)).trans
      (zpow_floorLog2_le numPos denPos)

end RecordQuery.Number
