import RecordQuery.Proofs.Number.Shortest

/-!
# Exact rounding

A number that a format has is rounded to itself: the pattern of a finite number
is put together from the significand and the exponent that it is read as, and
the ratio of every such pair is rounded to its own pattern.  A number of the
narrower format is therefore found again behind the wider one.
-/

namespace RecordQuery.Number

/-! ## The binary logarithm from above -/

theorem lt_zpow_floorLog2_succ (num : Nat) {den : Nat} (denPos : 0 < den) :
    (num : ℚ) / den < 2 ^ (floorLog2 num den + 1) := by
  have two := zpow_le_div_iff num (by decide : 0 < 2) denPos
  simp only [Nat.cast_ofNat] at two
  unfold floorLog2
  simp only [Nat.pow_eq]
  split
  · have numSmall : (num : ℚ) < 2 ^ (num.log2 + 1) := by
      exact_mod_cast Nat.lt_log2_self (n := num)
    have denLarge : (2 : ℚ) ^ den.log2 ≤ den := by
      exact_mod_cast Nat.log2_self_le (Nat.ne_of_gt denPos)
    have denPos' : (0 : ℚ) < den := Nat.cast_pos.mpr denPos
    calc (num : ℚ) / den < 2 ^ (num.log2 + 1) / den := by gcongr
      _ ≤ 2 ^ (num.log2 + 1) / 2 ^ den.log2 := by gcongr
      _ = 2 ^ ((num.log2 : Int) - (den.log2 : Int) + 1) := by
          rw [show (num.log2 : Int) - (den.log2 : Int) + 1 =
            ((num.log2 + 1 : Nat) : Int) - (den.log2 : Int) by
              push_cast
              ring, zpow_sub₀ (by norm_num), zpow_natCast, zpow_natCast]
  · rename_i unreached
    rw [Int.sub_add_cancel]
    exact not_le.mp fun reached => unreached ((two _).mp reached)

theorem floorLog2_lt_iff {num den : Nat} (numPos : 0 < num) (denPos : 0 < den)
    (exponent : Int) :
    floorLog2 num den < exponent ↔ (num : ℚ) / den < 2 ^ exponent := by
  have two : (1 : ℚ) < 2 := by norm_num
  constructor
  · intro lower
    exact (lt_zpow_floorLog2_succ num denPos).trans_le
      (zpow_le_zpow_right₀ two.le lower)
  · intro below
    exact (zpow_lt_zpow_iff_right₀ two).mp
      ((zpow_floorLog2_le numPos denPos).trans_lt below)

theorem roundHalfEven_mul (whole : Nat) {den : Nat} (denPos : 0 < den) :
    roundHalfEven (whole * den) den = whole := by
  simp [roundHalfEven, Nat.mul_div_cancel _ denPos, denPos]

namespace Format

/-! ## Finite numbers -/

/-- The exponent of the last place of the smallest numbers. -/
def leastUnit (format : Format) : Int :=
  format.minExponent - format.fractionBits

/-- Whether a finite number of the format is read as the significand and the
exponent. -/
structure IsFinite (format : Format) (significand : Nat) (exponent : Int) :
    Prop where
  lt : significand < 2 ^ (format.fractionBits + 1)
  exponent_ge : format.leastUnit ≤ exponent
  exponent_lt : exponent + 2 < format.leastUnit + 2 ^ format.exponentBits
  normal : exponent = format.leastUnit ∨
    2 ^ format.fractionBits ≤ significand

/-- The pattern of a finite number without its sign. -/
def magnitudeOf (format : Format) (significand : Nat) (exponent : Int) : Nat :=
  (exponent - format.leastUnit).toNat * 2 ^ format.fractionBits + significand

theorem infinity_lt_signBit {format : Format} :
    format.infinity < format.signBit := by
  rw [infinity, signBit, Nat.pow_eq, Nat.pow_eq, Nat.pow_eq, Nat.pow_add,
    Nat.mul_comm (2 ^ format.fractionBits)]
  exact Nat.mul_lt_mul_of_pos_right
    (Nat.sub_lt (Nat.pow_pos (by decide)) (by decide))
    (Nat.pow_pos (by decide))

/-- The pattern of a sign. -/
def signOf (format : Format) (negative : Bool) : Nat :=
  if negative then format.signBit else 0

namespace IsFinite

variable {format : Format} {significand : Nat} {exponent : Int}

theorem magnitudeOf_lt (finite : format.IsFinite significand exponent) :
    format.magnitudeOf significand exponent < format.infinity := by
  have few := finite.exponent_lt
  have least := finite.exponent_ge
  have small := finite.lt
  have field :
      (exponent - format.leastUnit).toNat + 2 < 2 ^ format.exponentBits := by
    zify
    omega
  obtain ⟨more, fields⟩ := Nat.exists_eq_add_of_lt field
  have infinity :
      format.infinity =
        ((exponent - format.leastUnit).toNat + 2 + more) *
          2 ^ format.fractionBits := by
    rw [Format.infinity, Nat.pow_eq, Nat.pow_eq, fields, Nat.add_sub_cancel]
  rw [infinity, magnitudeOf]
  rw [Nat.pow_succ] at small
  generalize (exponent - format.leastUnit).toNat = field
  calc field * 2 ^ format.fractionBits + significand
      < field * 2 ^ format.fractionBits + 2 ^ format.fractionBits * 2 := by
        omega
    _ = (field + 2) * 2 ^ format.fractionBits := by ring
    _ ≤ (field + 2 + more) * 2 ^ format.fractionBits :=
        Nat.mul_le_mul_right _ (Nat.le_add_right _ _)

/-- The larger of the exponent of the first place and the least one is that of
the number's own place. -/
theorem max_floorLog2 (finite : format.IsFinite significand exponent)
    {num den : Nat} (numPos : 0 < num) (denPos : 0 < den)
    (value : (num : ℚ) / den = significand * 2 ^ exponent) :
    max (floorLog2 num den) format.minExponent =
      exponent + format.fractionBits := by
  have two : (2 : ℚ) ≠ 0 := by norm_num
  have unit : (0 : ℚ) < 2 ^ exponent := zpow_pos (by norm_num) exponent
  have small : (significand : ℚ) < 2 ^ (format.fractionBits + 1) := by
    exact_mod_cast finite.lt
  have ge := finite.exponent_ge
  have upper :
      floorLog2 num den < exponent + format.fractionBits + 1 := by
    rw [floorLog2_lt_iff numPos denPos, value, Int.add_assoc,
      zpow_add₀ two, mul_comm]
    exact mul_lt_mul_of_pos_left (by exact_mod_cast small) unit
  rw [leastUnit] at ge
  by_cases normal : 2 ^ format.fractionBits ≤ significand
  · have lower :
        ¬floorLog2 num den < exponent + (format.fractionBits : Int) := by
      rw [floorLog2_lt_iff numPos denPos, value, not_lt, zpow_add₀ two,
        mul_comm]
      exact mul_le_mul_of_nonneg_right (by exact_mod_cast normal) unit.le
    omega
  · have least : exponent = format.leastUnit :=
      finite.normal.resolve_right normal
    have lower : floorLog2 num den < format.minExponent := by
      have sum :
          format.minExponent = exponent + (format.fractionBits : Int) := by
        rw [least, leastUnit, Int.sub_add_cancel]
      rw [floorLog2_lt_iff numPos denPos, value, sum, zpow_add₀ two, mul_comm]
      exact mul_lt_mul_of_pos_left
        (by exact_mod_cast Nat.not_le.mp normal) unit
    rw [leastUnit] at least
    omega

/-- A ratio that is a number of the format is rounded to its pattern. -/
theorem round_eq (finite : format.IsFinite significand exponent)
    {num den : Nat} (denPos : 0 < den)
    (value : (num : ℚ) / den = significand * 2 ^ exponent) :
    format.round num den = format.magnitudeOf significand exponent := by
  have two : (2 : ℚ) ≠ 0 := by norm_num
  have unit : (0 : ℚ) < 2 ^ exponent := zpow_pos (by norm_num) exponent
  have denPos' : (0 : ℚ) < den := Nat.cast_pos.mpr denPos
  have scaled :
      num * 2 ^ (-exponent).toNat =
        significand * (den * 2 ^ exponent.toNat) := by
    rw [zpow_eq_div two, div_eq_iff denPos'.ne', ← mul_div_assoc,
      div_mul_eq_mul_div, eq_div_iff (pow_ne_zero _ two)] at value
    have cast :
        ((num * 2 ^ (-exponent).toNat : Nat) : ℚ) =
          (significand * (den * 2 ^ exponent.toNat) : Nat) := by
      push_cast
      rw [value]
      ring
    exact_mod_cast cast
  by_cases zero : num = 0
  · have none : significand = 0 := by
      rw [zero, Nat.zero_mul, eq_comm, Nat.mul_eq_zero] at scaled
      exact scaled.resolve_right
        (Nat.mul_pos denPos (Nat.pow_pos (by decide))).ne'
    have least : exponent = format.leastUnit := by
      refine finite.normal.resolve_right fun normal => ?_
      rw [none, Nat.le_zero] at normal
      exact (Nat.pow_pos (by decide)).ne' normal
    rw [round, if_pos zero, magnitudeOf, none, least, Int.sub_self,
      Int.toNat_zero, Nat.zero_mul]
  · have place :=
      finite.max_floorLog2 (Nat.pos_of_ne_zero zero) denPos value
    have below := finite.magnitudeOf_lt
    have field :
        (exponent + (format.fractionBits : Int) - format.minExponent).toNat =
          (exponent - format.leastUnit).toNat := by
      rw [leastUnit]
      omega
    have scalePos : 0 < den * 2 ^ exponent.toNat :=
      Nat.mul_pos denPos (Nat.pow_pos (by decide))
    rw [round, if_neg zero]
    simp only [place, Int.add_sub_cancel, Nat.pow_eq, scaled, field,
      roundHalfEven_mul significand scalePos]
    exact Nat.min_eq_left below.le

/-- A pattern with a sign is read as what it was put together from. -/
theorem read_pattern (finite : format.IsFinite significand exponent)
    (negative : Bool) :
    format.read
        (format.signOf negative + format.magnitudeOf significand exponent) =
      .finite negative significand exponent := by
  have below := finite.magnitudeOf_lt
  have small := finite.lt
  have least := finite.exponent_ge
  have few := finite.exponent_lt
  have unit : 0 < 2 ^ format.fractionBits := Nat.pow_pos (by decide)
  have fits : format.infinity < format.signBit := infinity_lt_signBit
  have sign :
      decide (format.signBit ≤
        format.signOf negative + format.magnitudeOf significand exponent) =
        negative := by
    cases negative with
    | false =>
        rw [signOf, if_neg Bool.false_ne_true, Nat.zero_add,
          decide_eq_false_iff_not]
        omega
    | true =>
        rw [signOf, if_pos rfl, decide_eq_true_eq]
        omega
  have magnitude :
      (format.signOf negative + format.magnitudeOf significand exponent) %
        format.signBit = format.magnitudeOf significand exponent := by
    have reduced :
        format.magnitudeOf significand exponent % format.signBit =
          format.magnitudeOf significand exponent :=
      Nat.mod_eq_of_lt (below.trans fits)
    cases negative with
    | false => rw [signOf, if_neg Bool.false_ne_true, Nat.zero_add, reduced]
    | true => rw [signOf, if_pos rfl, Nat.add_mod_left, reduced]
  have unsigned :
      format.minExponent - (format.fractionBits : Int) = format.leastUnit :=
    rfl
  simp only [read, sign, magnitude, Nat.pow_eq, unsigned]
  by_cases normal : 2 ^ format.fractionBits ≤ significand
  · obtain ⟨fraction, rfl⟩ := Nat.exists_eq_add_of_le normal
    rw [Nat.pow_succ] at small
    have fractionSmall : fraction < 2 ^ format.fractionBits := by omega
    have parts :
        format.magnitudeOf (2 ^ format.fractionBits + fraction) exponent =
          fraction + ((exponent - format.leastUnit).toNat + 1) *
            2 ^ format.fractionBits := by
      rw [magnitudeOf]
      ring
    have fields :
        (exponent - format.leastUnit).toNat + 1 ≠
          2 ^ format.exponentBits - 1 := by
      have cast : ((2 ^ format.exponentBits : Nat) : Int) =
          2 ^ format.exponentBits := by
        push_cast
        rfl
      omega
    rw [parts, Nat.add_mul_mod_self_right, Nat.mod_eq_of_lt fractionSmall,
      Nat.add_mul_div_right _ _ unit, Nat.div_eq_of_lt fractionSmall,
      Nat.zero_add, if_neg fields, if_neg (Nat.succ_ne_zero _),
      Nat.add_sub_cancel]
    congr 1
    omega
  · have lowest : exponent = format.leastUnit :=
      finite.normal.resolve_right normal
    have subnormal := Nat.not_le.mp normal
    have special : 0 ≠ 2 ^ format.exponentBits - 1 := by
      have cast : ((2 ^ format.exponentBits : Nat) : Int) =
          2 ^ format.exponentBits := by
        push_cast
        rfl
      omega
    have parts : format.magnitudeOf significand exponent = significand := by
      rw [magnitudeOf, lowest, Int.sub_self]
      simp
    rw [parts, Nat.div_eq_of_lt subnormal, Nat.mod_eq_of_lt subnormal,
      if_neg special, if_pos rfl, lowest]

end IsFinite

variable {format : Format}

theorem signOf_add_mod {pattern : Nat} (bits : pattern < 2 * format.signBit) :
    format.signOf (decide (format.signBit ≤ pattern)) +
      pattern % format.signBit = pattern := by
  by_cases above : format.signBit ≤ pattern
  · rw [decide_eq_true above, signOf, if_pos rfl, Nat.mod_eq_sub_mod above,
      Nat.mod_eq_of_lt (by omega), Nat.add_sub_cancel' above]
  · rw [decide_eq_false above, signOf, if_neg Bool.false_ne_true,
      Nat.zero_add, Nat.mod_eq_of_lt (Nat.not_le.mp above)]

theorem read_eq_finite {pattern significand : Nat} {exponent : Int}
    {negative : Bool} (fields : 2 < 2 ^ format.exponentBits)
    (bits : pattern < 2 * format.signBit)
    (read : format.read pattern = .finite negative significand exponent) :
    format.IsFinite significand exponent ∧
      pattern =
        format.signOf negative + format.magnitudeOf significand exponent := by
  have unsigned :
      format.minExponent - (format.fractionBits : Int) = format.leastUnit :=
    rfl
  have unit : 0 < 2 ^ format.fractionBits := Nat.pow_pos (by decide)
  have signed := signOf_add_mod bits
  have magnitudeSmall :
      pattern % format.signBit / 2 ^ format.fractionBits <
        2 ^ format.exponentBits := by
    rw [Nat.div_lt_iff_lt_mul unit, ← Nat.pow_add,
      Nat.add_comm format.exponentBits]
    exact Nat.mod_lt _ (Nat.pow_pos (by decide))
  have parts := Nat.div_add_mod' (pattern % format.signBit)
    (2 ^ format.fractionBits)
  have fractionSmall := Nat.mod_lt (pattern % format.signBit) unit
  have width : ((2 ^ format.exponentBits : Nat) : Int) =
      2 ^ format.exponentBits := by
    push_cast
    rfl
  simp only [Format.read, Nat.pow_eq, unsigned] at read
  generalize pattern % format.signBit / 2 ^ format.fractionBits = field at *
  generalize pattern % format.signBit % 2 ^ format.fractionBits = fraction
    at *
  generalize decide (format.signBit ≤ pattern) = sign at *
  rw [← parts] at signed
  split_ifs at read with special infinite subnormal
  · obtain ⟨rfl, rfl, rfl⟩ := read
    have small : significand < 2 ^ (format.fractionBits + 1) := by
      rw [Nat.pow_succ]
      omega
    refine ⟨⟨small, le_refl _, by omega, Or.inl rfl⟩, ?_⟩
    rw [magnitudeOf, Int.sub_self, Int.toNat_zero, ← signed, subnormal]
  · obtain ⟨rfl, rfl, rfl⟩ := read
    obtain ⟨before, rfl⟩ := Nat.exists_eq_succ_of_ne_zero subnormal
    have small :
        2 ^ format.fractionBits + fraction <
          2 ^ (format.fractionBits + 1) := by
      rw [Nat.pow_succ]
      omega
    have place :
        (format.leastUnit + ((before.succ - 1 : Nat) : Int) -
          format.leastUnit).toNat = before := by
      omega
    refine ⟨⟨small, by omega, by omega, Or.inr (Nat.le_add_right _ _)⟩, ?_⟩
    rw [magnitudeOf, place, ← signed, Nat.succ_mul, Nat.add_assoc (before * _)]

/-- What is below infinity is read as a finite number without a sign. -/
theorem exists_read_of_lt_infinity {pattern : Nat}
    (below : pattern < format.infinity) :
    ∃ significand exponent,
      format.read pattern = .finite false significand exponent := by
  have unsigned : ¬format.signBit ≤ pattern :=
    Nat.not_le.mpr (below.trans infinity_lt_signBit)
  have field :
      pattern / 2 ^ format.fractionBits ≠ 2 ^ format.exponentBits - 1 :=
    ((Nat.div_lt_iff_lt_mul (Nat.pow_pos (by decide))).mpr below).ne
  simp only [read, decide_eq_false unsigned, Nat.pow_eq,
    Nat.mod_eq_of_lt (Nat.not_le.mp unsigned), if_neg field]
  split_ifs <;> exact ⟨_, _, rfl⟩

/-- What is read as infinite is one of the two infinities. -/
theorem read_eq_infinite {pattern : Nat} {negative : Bool}
    (bits : pattern < 2 * format.signBit)
    (read : format.read pattern = .infinite negative) :
    pattern = format.signOf negative + format.infinity := by
  have signed := signOf_add_mod bits
  have parts := Nat.div_add_mod' (pattern % format.signBit)
    (2 ^ format.fractionBits)
  simp only [Format.read, Nat.pow_eq] at read
  split_ifs at read with special whole
  rw [Reading.infinite.injEq] at read
  rw [special, whole, Nat.add_zero] at parts
  rw [read, ← parts] at signed
  exact signed.symm

/-! ## Rounding a reading -/

theorem write_finite {significand rounded : Nat} {exponent place : Int}
    (finite : format.IsFinite rounded place)
    (value : (significand : ℚ) * 2 ^ exponent = rounded * 2 ^ place)
    (negative : Bool) :
    format.write (.finite negative significand exponent) =
      format.signOf negative + format.magnitudeOf rounded place := by
  have ratio :
      ((significand * Nat.pow 2 exponent.toNat : Nat) : ℚ) /
        ((Nat.pow 2 (-exponent).toNat : Nat) : ℚ) = rounded * 2 ^ place := by
    rw [← value, zpow_eq_div (by norm_num : (2 : ℚ) ≠ 0), Nat.pow_eq,
      Nat.pow_eq]
    push_cast
    ring
  have denPos : 0 < Nat.pow 2 (-exponent).toNat := Nat.pow_pos (by decide)
  rw [write, finite.round_eq denPos ratio, signOf]

theorem signOf_add_lt {magnitude : Nat} (below : magnitude < format.signBit)
    (negative : Bool) :
    format.signOf negative + magnitude < 2 * format.signBit := by
  cases negative with
  | false =>
      rw [signOf, if_neg Bool.false_ne_true]
      omega
  | true =>
      rw [signOf, if_pos rfl]
      omega

end Format

theorem isFinite_double_iff {significand : Nat} {exponent : Int} :
    Format.double.IsFinite significand exponent ↔
      IsDouble significand exponent := by
  have unit : Format.double.leastUnit = -1074 := by decide
  have width : (2 : Int) ^ Format.double.exponentBits = 2048 := by decide
  constructor
  · rintro ⟨lt, least, most, normal⟩
    rw [unit] at least most normal
    rw [width] at most
    exact ⟨lt, least, by omega, normal⟩
  · rintro ⟨lt, least, most, normal⟩
    refine ⟨lt, ?_, ?_, ?_⟩
    · rw [unit]
      exact least
    · rw [unit, width]
      omega
    · rw [unit]
      exact normal

/-! ## The narrower format in the wider one -/

namespace Single

def reading (number : Single) : Reading :=
  Format.single.read number.bits.toNat

def isNaN (number : Single) : Bool :=
  match number.reading with
  | .notANumber => true
  | _ => false

variable {significand : Nat} {exponent : Int} {negative : Bool}

/-- The wider format has the finite numbers of the narrower one. -/
theorem exists_double (finite : Format.single.IsFinite significand exponent) :
    ∃ wider place, IsDouble wider place ∧
      (significand : ℚ) * 2 ^ exponent = wider * 2 ^ place := by
  have unit : Format.single.leastUnit = -149 := by decide
  have least := finite.exponent_ge
  have most := finite.exponent_lt
  have small : significand < 2 ^ 24 := finite.lt
  rw [unit] at least most
  have width : (2 : Int) ^ Format.single.exponentBits = 256 := by decide
  rw [width] at most
  by_cases zero : significand = 0
  · exact ⟨0, -1074, ⟨by decide, by decide, by decide, Or.inl rfl⟩,
      by simp [zero]⟩
  · have lower := Nat.log2_self_le zero
    have upper := Nat.lt_log2_self (n := significand)
    have few : significand.log2 < 24 := (Nat.log2_lt zero).mpr small
    obtain ⟨more, width⟩ := Nat.exists_eq_add_of_le (Nat.le_of_lt_succ few)
    have scale : 0 < 2 ^ (more + 29) := Nat.pow_pos (by decide)
    have lowest : 2 ^ 52 = 2 ^ significand.log2 * 2 ^ (more + 29) := by
      rw [← Nat.pow_add, show significand.log2 + (more + 29) = 52 by omega]
    have next : 2 ^ 53 = 2 ^ (significand.log2 + 1) * 2 ^ (more + 29) := by
      rw [← Nat.pow_add, show significand.log2 + 1 + (more + 29) = 53 by omega]
    refine ⟨significand * 2 ^ (more + 29), exponent - (more + 29 : Nat),
      ⟨?_, by omega, by omega, Or.inr ?_⟩, ?_⟩
    · rw [next]
      exact Nat.mul_lt_mul_of_pos_right upper scale
    · rw [lowest]
      exact Nat.mul_le_mul_right _ lower
    · rw [zpow_sub₀ (by norm_num), zpow_natCast]
      push_cast
      field_simp

theorem reading_eq_finite {number : Single}
    (read : number.reading = .finite negative significand exponent) :
    Format.single.IsFinite significand exponent ∧
      number.bits.toNat = Format.single.signOf negative +
        Format.single.magnitudeOf significand exponent :=
  Format.read_eq_finite (by decide) number.bits.toNat_lt read

/-- A finite number is widened to one of its value. -/
theorem exists_reading_widen {number : Single}
    (read : number.reading = .finite negative significand exponent) :
    ∃ wider place, IsDouble wider place ∧
      (significand : ℚ) * 2 ^ exponent = wider * 2 ^ place ∧
        number.widen.reading = .finite negative wider place := by
  obtain ⟨wider, place, double, value⟩ :=
    exists_double (reading_eq_finite read).1
  have finite := isFinite_double_iff.mpr double
  refine ⟨wider, place, double, value, ?_⟩
  have written := Format.write_finite finite value negative
  have fits :
      Format.double.signOf negative + Format.double.magnitudeOf wider place <
        2 ^ 64 :=
    Format.signOf_add_lt
      (finite.magnitudeOf_lt.trans Format.infinity_lt_signBit) negative
  rw [reading] at read
  rw [widen, read, Double.ofReading, Double.reading, written,
    UInt64.toNat_ofNat', Nat.mod_eq_of_lt fits, finite.read_pattern]

/-- A number is found again behind the wider format, unless it is not a
number. -/
theorem narrow_widen {number : Single} (isNumber : number.isNaN = false) :
    number.widen.narrow = number := by
  obtain ⟨bits⟩ := number
  have bounded : bits.toNat < 2 * Format.single.signBit := bits.toNat_lt
  cases read : reading ⟨bits⟩ with
  | notANumber => simp [isNaN, read] at isNumber
  | infinite negative =>
      have pattern := Format.read_eq_infinite bounded read
      rw [reading] at read
      rw [widen, read, ← UInt32.ofNat_toNat (x := bits), pattern]
      cases negative <;> decide
  | finite negative significand exponent =>
      obtain ⟨finite, pattern⟩ := reading_eq_finite read
      obtain ⟨wider, place, -, value, readWider⟩ := exists_reading_widen read
      have written := Format.write_finite finite value.symm negative
      rw [Double.narrow, readWider, written, ← pattern, UInt32.ofNat_toNat]

theorem isNaN_narrow_widen {number : Single} (isNaN : number.isNaN = true) :
    number.widen.narrow.isNaN = true := by
  have read : Format.single.read number.bits.toNat = .notANumber := by
    unfold Single.isNaN at isNaN
    split at isNaN
    · assumption
    · cases isNaN
  rw [widen, read]
  decide

end Single

end RecordQuery.Number
