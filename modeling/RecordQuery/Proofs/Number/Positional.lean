import RecordQuery.Proofs.Number.Rounding

/-!
# Decimals without an exponent

The text of a decimal without a point in it is that of the integer that the
decimal is, and a decimal below a power of ten has that many zeros behind the
point.  Hence a double whose text is that of an integer is not farther from it
than half a unit of its last place, and small doubles have long texts.
-/

namespace RecordQuery.Number

open Text

namespace Decimal

variable {decimal : Decimal}

/-- The digits stand behind the point, before it, or on both sides. -/
theorem positional_cases (decimal : Decimal) :
    (decimal.layout.2 ≤ 0 ∧ decimal.positional =
        '0' :: '.' ::
          (List.replicate (-decimal.layout.2).toNat '0' ++
            decimal.layout.1)) ∨
      (decimal.layout.1.length ≤ decimal.layout.2.toNat ∧
        decimal.positional = decimal.layout.1 ++
          List.replicate
            (decimal.layout.2.toNat - decimal.layout.1.length) '0') ∨
      (0 < decimal.layout.2 ∧
        decimal.layout.2.toNat < decimal.layout.1.length ∧
          decimal.positional = decimal.layout.1.take decimal.layout.2.toNat ++
            '.' :: decimal.layout.1.drop decimal.layout.2.toNat) := by
  unfold positional
  generalize decimal.layout = layout
  obtain ⟨digits, point⟩ := layout
  dsimp only
  split_ifs with small short
  · exact Or.inl ⟨small, rfl⟩
  · exact Or.inr (Or.inl ⟨short, rfl⟩)
  · exact Or.inr (Or.inr ⟨by omega, by omega, rfl⟩)

theorem isDigit_of_mem_layout (decimal : Decimal) :
    ∀ letter ∈ decimal.layout.1, letter.isDigit = true :=
  toDigits_isDigit decimal.digits

theorem mem_positional {letter : Char} (member : letter ∈ decimal.positional) :
    letter.isDigit = true ∨ letter = '.' := by
  have digits := isDigit_of_mem_layout decimal
  have zeros {count : Nat} (zero : letter ∈ List.replicate count '0') :
      letter.isDigit = true := by
    rw [List.eq_of_mem_replicate zero]
    rfl
  rcases positional_cases decimal with
    ⟨-, shape⟩ | ⟨-, shape⟩ | ⟨-, -, shape⟩
  all_goals rw [shape] at member
  · rcases List.mem_cons.mp member with rfl | member
    · exact Or.inl rfl
    · rcases List.mem_cons.mp member with rfl | member
      · exact Or.inr rfl
      · exact Or.inl ((List.mem_append.mp member).elim zeros (digits letter))
  · exact Or.inl ((List.mem_append.mp member).elim (digits letter) zeros)
  · rcases List.mem_append.mp member with whole | member
    · exact Or.inl (digits letter (List.mem_of_mem_take whole))
    · rcases List.mem_cons.mp member with rfl | fraction
      · exact Or.inr rfl
      · exact Or.inl (digits letter (List.mem_of_mem_drop fraction))

theorem exists_positional_eq_cons (decimal : Decimal) :
    ∃ first rest, decimal.positional = first :: rest ∧
      first.isDigit = true := by
  have digits := isDigit_of_mem_layout decimal
  obtain ⟨first, more, led⟩ :
      ∃ first more, decimal.layout.1 = first :: more :=
    List.exists_cons_of_ne_nil Nat.toDigits_ne_nil
  have isDigit := digits first (led ▸ List.mem_cons_self)
  rcases positional_cases decimal with
    ⟨-, shape⟩ | ⟨-, shape⟩ | ⟨positive, -, shape⟩
  · exact ⟨'0', _, shape, rfl⟩
  · rw [led] at shape
    exact ⟨first, _, shape, isDigit⟩
  · obtain ⟨before, count⟩ :=
      Nat.exists_eq_succ_of_ne_zero (by omega : decimal.layout.2.toNat ≠ 0)
    rw [led, count] at shape
    exact ⟨first, _, shape, isDigit⟩

/-- Without a point stand the digits of the integer that the decimal is. -/
theorem toRat_of_pointless (pointless : '.' ∉ decimal.positional) :
    (∀ letter ∈ decimal.positional, letter.isDigit = true) ∧
      decimal.toRat = digitsValue decimal.positional := by
  refine ⟨fun letter member => (mem_positional member).resolve_right
    fun point => pointless (point ▸ member), ?_⟩
  rcases positional_cases decimal with
    ⟨-, shape⟩ | ⟨short, shape⟩ | ⟨-, -, shape⟩
  · exact (pointless (by simp [shape])).elim
  · have value : digitsValue decimal.layout.1 = decimal.digits :=
      digitsValue_toDigits decimal.digits
    have nonempty : 0 < decimal.layout.1.length :=
      List.length_pos_of_ne_nil Nat.toDigits_ne_nil
    have places :
        ((decimal.layout.2.toNat - decimal.layout.1.length : Nat) : Int) =
          decimal.exponent := by
      simp only [layout] at short nonempty ⊢
      omega
    rw [shape, digitsValue_append_zeros, value, toRat, ← places, zpow_natCast]
    push_cast
    rfl
  · exact (pointless (by simp [shape])).elim

/-- The first digit is not zero. -/
theorem zpow_le_toRat (positive : 0 < decimal.digits) :
    (10 : ℚ) ^ (decimal.layout.2 - 1) ≤ decimal.toRat := by
  have nonempty : 0 < (Nat.toDigits 10 decimal.digits).length :=
    List.length_pos_of_ne_nil Nat.toDigits_ne_nil
  obtain ⟨places, count⟩ := Nat.exists_eq_succ_of_ne_zero nonempty.ne'
  have least : 10 ^ places ≤ decimal.digits := by
    by_contra less
    rcases Nat.eq_zero_or_pos places with rfl | more
    · omega
    · have fits := (Nat.length_toDigits_le_iff (by decide) more).mpr
        (Nat.not_le.mp less)
      omega
  have point : decimal.layout.2 - 1 = (places : Int) + decimal.exponent := by
    simp only [layout, count]
    push_cast
    ring
  have unit : (0 : ℚ) < 10 ^ decimal.exponent := zpow_pos (by norm_num) _
  rw [point, zpow_add₀ (by norm_num), zpow_natCast, toRat]
  exact mul_le_mul_of_nonneg_right (by exact_mod_cast least) unit.le

/-- A decimal below a power of ten has zeros behind the point down to it. -/
theorem exists_zeros_of_lt (positive : 0 < decimal.digits) {zeros : Nat}
    (small : decimal.toRat < 10 ^ (-zeros : Int)) :
    ∃ more, more ≠ [] ∧ decimal.positional =
      '0' :: '.' :: (List.replicate zeros '0' ++ more) := by
  have below : decimal.layout.2 - 1 < -zeros :=
    (zpow_lt_zpow_iff_right₀ (by norm_num : (1 : ℚ) < 10)).mp
      ((zpow_le_toRat positive).trans_lt small)
  rcases positional_cases decimal with
    ⟨-, shape⟩ | ⟨short, shape⟩ | ⟨behind, -, -⟩
  · obtain ⟨others, count⟩ :=
      Nat.exists_eq_add_of_le (by omega : zeros ≤ (-decimal.layout.2).toNat)
    refine ⟨List.replicate others '0' ++ decimal.layout.1,
      List.append_ne_nil_of_right_ne_nil _ Nat.toDigits_ne_nil, ?_⟩
    rw [shape, count, List.replicate_add, List.append_assoc]
  · have nonempty : 0 < decimal.layout.1.length :=
      List.length_pos_of_ne_nil Nat.toDigits_ne_nil
    omega
  · omega

end Decimal

/-! ## Doubles -/

section Shortest

variable {significand : Nat} {exponent : Int}

/-- The shortest decimal is not farther from a double than half a unit of its
last place. -/
theorem IsDouble.shortest_bounds (double : IsDouble significand exponent)
    (tie : Tie) :
    ((significand : ℚ) - 1 / 2) * 2 ^ exponent ≤
        (shortest tie significand exponent).toRat ∧
      (shortest tie significand exponent).toRat ≤
        ((significand : ℚ) + 1 / 2) * 2 ^ exponent := by
  have unit : (0 : ℚ) < 2 ^ exponent := zpow_pos (by norm_num) exponent
  rcases Nat.eq_zero_or_pos significand with rfl | positive
  · have zero : (shortest tie 0 exponent).toRat = 0 := by
      rw [shortest, if_pos rfl, Decimal.toRat, Nat.cast_zero, zero_mul]
    rw [zero, Nat.cast_zero]
    constructor <;> linarith
  · obtain ⟨lower, upper⟩ := (double.holds_shortest positive tie).between
    have margin := (Interval.marginBelow_bounds significand exponent).2
    rw [Interval.lowest_around positive] at lower
    rw [Interval.highest_around] at upper
    refine ⟨le_trans ?_ lower, upper⟩
    exact mul_le_mul_of_nonneg_right (by linarith) unit.le

end Shortest

namespace Double

variable {number : Double} {significand : Nat} {exponent : Int}
  {negative : Bool}

theorem toList_text
    (read : number.reading = .finite negative significand exponent) :
    number.text.toList =
      if negative then
        '-' :: (shortest .up significand exponent).positional
      else (shortest .up significand exponent).positional := by
  rw [text, read, String.toList_ofList]

theorem bits_of_reading
    (read : number.reading = .finite negative significand exponent) :
    IsDouble significand exponent ∧
      number.bits.toNat = (if negative then 2 ^ 63 else 0) +
        ((exponent + 1074).toNat * 2 ^ 52 + significand) := by
  obtain ⟨finite, pattern⟩ :=
    Format.read_eq_finite (by decide) number.bits.toNat_lt read
  refine ⟨isFinite_double_iff.mp finite, ?_⟩
  have least : exponent - Format.double.leastUnit = exponent + 1074 := by
    have unit : Format.double.leastUnit = -1074 := by decide
    omega
  rw [pattern, Format.signOf, Format.magnitudeOf, least]
  rfl

/-- The integer of a number is its value. -/
theorem cast_toInt?
    (read : number.reading = .finite negative significand exponent)
    {value : Int} (found : number.toInt? = some value) :
    (value : ℚ) = (if negative then -1 else 1) *
      ((significand : ℚ) * 2 ^ exponent) := by
  have two : (2 : ℚ) ≠ 0 := by norm_num
  have denPos : 0 < 2 ^ (-exponent).toNat := Nat.pow_pos (by decide)
  simp only [toInt?, read, Nat.pow_eq] at found
  split at found
  · rename_i whole
    obtain ⟨quotient, scaled⟩ := Nat.dvd_of_mod_eq_zero whole
    rw [scaled, Nat.mul_div_cancel_left quotient denPos,
      Option.some.injEq] at found
    have magnitude : (significand : ℚ) * 2 ^ exponent = quotient := by
      have cast : (significand : ℚ) * 2 ^ exponent.toNat =
          2 ^ (-exponent).toNat * quotient := by
        exact_mod_cast scaled
      rw [zpow_eq_div two, ← mul_div_assoc, cast]
      exact mul_div_cancel_left₀ _ (pow_ne_zero _ two)
    rw [magnitude, ← found]
    cases negative <;> simp
  · cases found

/-- Without digits behind the binary point a number is an integer. -/
theorem exists_toInt?
    (read : number.reading = .finite negative significand exponent)
    (whole : 0 ≤ exponent) : ∃ value, number.toInt? = some value := by
  have one : (-exponent).toNat = 0 := by omega
  simp only [toInt?, read, one, Nat.pow_eq, Nat.pow_zero, Nat.mod_one]
  exact ⟨_, rfl⟩

/-- A text that is that of an integer names one within half a unit of the last
place. -/
theorem bounds_of_text
    (read : number.reading = .finite negative significand exponent)
    {value : Int} (same : number.text = toString value) :
    (value < 0 ↔ negative = true) ∧
      ((significand : ℚ) - 1 / 2) * 2 ^ exponent ≤ value.natAbs ∧
        (value.natAbs : ℚ) ≤ ((significand : ℚ) + 1 / 2) * 2 ^ exponent := by
  have shape := toList_text read
  rw [same] at shape
  have pointless :
      '.' ∉ (shortest .up significand exponent).positional := by
    intro point
    have inside : '.' ∈ (toString value).toList := by
      rw [shape]
      split
      · exact List.mem_cons_of_mem _ point
      · exact point
    rcases isDecimal_toString value '.' inside with digit | minus
    · cases digit
    · cases minus
  obtain ⟨digits, whole⟩ := Decimal.toRat_of_pointless pointless
  obtain ⟨magnitude, sign⟩ := eq_of_toString digits shape
  have bounds := (bits_of_reading read).1.shortest_bounds .up
  rw [magnitude, ← whole]
  exact ⟨sign, bounds⟩

/-- The text of a small positive number has zeros behind the point. -/
theorem exists_zeros_of_small
    (read : number.reading = .finite false significand exponent)
    (positive : 0 < significand) {zeros : Nat}
    (small : 2 * ((significand : ℚ) * 2 ^ exponent) ≤ 10 ^ (-zeros : Int)) :
    ∃ more, more ≠ [] ∧ number.text.toList =
      '0' :: '.' :: (List.replicate zeros '0' ++ more) := by
  have double := (bits_of_reading read).1
  have unit : (0 : ℚ) < 2 ^ exponent := zpow_pos (by norm_num) exponent
  have one : (1 : ℚ) ≤ significand := by exact_mod_cast positive
  have upper := (double.shortest_bounds .up).2
  rw [toList_text read, if_neg Bool.false_ne_true]
  refine Decimal.exists_zeros_of_lt ?_ (upper.trans_lt ?_)
  · exact Decimal.digits_pos_of_toRat_pos (double.shortest_pos positive .up)
  · nlinarith

end Double

end RecordQuery.Number
