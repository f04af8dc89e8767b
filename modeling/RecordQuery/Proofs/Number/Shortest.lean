import RecordQuery.Proofs.Number.Logarithm
import RecordQuery.Proofs.Text.Digits

/-!
# Shortest decimals

The shortest decimal of a binary number lies in the interval of the numbers that
round to it: on the grid of seventeen digits one of the number's neighbours
always does.  The intervals of different numbers have nothing in common, so
different numbers have different shortest decimals.
-/

namespace RecordQuery.Number

/-- The number that a decimal stands for. -/
def Decimal.toRat (decimal : Decimal) : ℚ :=
  decimal.digits * 10 ^ decimal.exponent

theorem Decimal.digits_pos_of_toRat_pos {decimal : Decimal}
    (positive : 0 < decimal.toRat) : 0 < decimal.digits := by
  rcases Nat.eq_zero_or_pos decimal.digits with zero | digits
  · rw [Decimal.toRat, zero, Nat.cast_zero, zero_mul] at positive
    exact (lt_irrefl 0 positive).elim
  · exact digits

namespace Interval

def lowest (interval : Interval) : ℚ :=
  interval.low / interval.den

def middle (interval : Interval) : ℚ :=
  interval.value / interval.den

def highest (interval : Interval) : ℚ :=
  interval.high / interval.den

/-- Whether the interval holds a number; the bounds belong to it if it is
closed. -/
def Holds (interval : Interval) (number : ℚ) : Prop :=
  if interval.closed then
    interval.lowest ≤ number ∧ number ≤ interval.highest
  else
    interval.lowest < number ∧ number < interval.highest

variable {interval : Interval} {number : ℚ}

theorem Holds.between (holds : interval.Holds number) :
    interval.lowest ≤ number ∧ number ≤ interval.highest := by
  unfold Holds at holds
  split at holds
  · exact holds
  · exact ⟨holds.1.le, holds.2.le⟩

theorem Holds.of_strict (low : interval.lowest < number)
    (high : number < interval.highest) : interval.Holds number := by
  unfold Holds
  split
  · exact ⟨low.le, high.le⟩
  · exact ⟨low, high⟩

theorem Holds.strict (holds : interval.Holds number)
    (isOpen : interval.closed = false) :
    interval.lowest < number ∧ number < interval.highest := by
  simpa [Holds, isOpen] using holds

theorem holds_iff (denPos : 0 < interval.den) (num : Nat) {den : Nat}
    (positive : 0 < den) :
    interval.holds num den = true ↔ interval.Holds (num / den) := by
  have denPos' : (0 : ℚ) < interval.den := Nat.cast_pos.mpr denPos
  have positive' : (0 : ℚ) < den := Nat.cast_pos.mpr positive
  unfold holds Holds lowest highest
  by_cases isClosed : interval.closed = true
  · rw [if_pos isClosed, if_pos isClosed, div_le_div_iff₀ denPos' positive',
      div_le_div_iff₀ positive' denPos', Bool.and_eq_true, decide_eq_true_eq,
      decide_eq_true_eq]
    norm_cast
  · rw [if_neg isClosed, if_neg isClosed, div_lt_div_iff₀ denPos' positive',
      div_lt_div_iff₀ positive' denPos', Bool.and_eq_true, decide_eq_true_eq,
      decide_eq_true_eq]
    norm_cast

/-! ## Grids -/

/-- A multiple of a power of ten, as the ratio that is tested. -/
theorem multiple_eq (digits : Nat) (grid : Int) :
    ((digits * 10 ^ grid.toNat : Nat) : ℚ) / ((10 ^ (-grid).toNat : Nat) : ℚ) =
      digits * 10 ^ grid := by
  rw [zpow_eq_div (by norm_num : (10 : ℚ) ≠ 0)]
  push_cast
  ring

theorem holds_multiple_iff (denPos : 0 < interval.den) (digits : Nat)
    (grid : Int) :
    interval.holds (digits * Nat.pow 10 grid.toNat)
        (Nat.pow 10 (-grid).toNat) = true ↔
      interval.Holds (digits * 10 ^ grid) := by
  rw [Nat.pow_eq, Nat.pow_eq, holds_iff denPos _ (by positivity), multiple_eq]

theorem holds_of_nearest? {tie : Tie} {grid : Int} {digits : Nat}
    (denPos : 0 < interval.den)
    (found : interval.nearest? tie grid = some digits) :
    interval.Holds (digits * 10 ^ grid) := by
  simp only [nearest?] at found
  split at found
  · rename_i lower upper
    rw [holds_multiple_iff denPos] at lower upper
    split_ifs at found <;> cases found <;> assumption
  · rename_i lower _
    rw [holds_multiple_iff denPos] at lower
    cases found
    exact lower
  · rename_i _ upper
    rw [holds_multiple_iff denPos] at upper
    cases found
    exact upper
  · cases found

/-- The number lies between its neighbours on a grid. -/
theorem neighbours (denPos : 0 < interval.den) (grid : Int) :
    let below :=
      interval.value * Nat.pow 10 (-grid).toNat /
        (interval.den * Nat.pow 10 grid.toNat)
    below * (10 : ℚ) ^ grid ≤ interval.middle ∧
      interval.middle < ((below + 1 : Nat) : ℚ) * 10 ^ grid := by
  intro below
  have denPos' : (0 : ℚ) < interval.den := Nat.cast_pos.mpr denPos
  have lower :
      below * (interval.den * 10 ^ grid.toNat) ≤
        interval.value * 10 ^ (-grid).toNat :=
    Nat.div_mul_le_self _ _
  have upper :
      interval.value * 10 ^ (-grid).toNat <
        (below + 1) * (interval.den * 10 ^ grid.toNat) := by
    rw [Nat.mul_comm (below + 1)]
    exact Nat.lt_mul_div_succ _ (by positivity)
  constructor
  · rw [← multiple_eq, middle, div_le_div_iff₀ (by positivity) denPos']
    have cast : ((below * (interval.den * 10 ^ grid.toNat) : Nat) : ℚ) ≤
        ((interval.value * 10 ^ (-grid).toNat : Nat) : ℚ) := by
      exact_mod_cast lower
    push_cast at cast ⊢
    linarith
  · rw [← multiple_eq, middle, div_lt_div_iff₀ denPos' (by positivity)]
    have cast : ((interval.value * 10 ^ (-grid).toNat : Nat) : ℚ) <
        (((below + 1) * (interval.den * 10 ^ grid.toNat) : Nat) : ℚ) := by
      exact_mod_cast upper
    push_cast at cast ⊢
    linarith

/-- A grid that is finer than the interval is wide on either side of the number
has a neighbour in it. -/
theorem exists_nearest? (tie : Tie) {grid : Int} (denPos : 0 < interval.den)
    (finerBelow :
      (10 : ℚ) ^ grid < 2 * (interval.middle - interval.lowest))
    (finerAbove :
      (10 : ℚ) ^ grid < 2 * (interval.highest - interval.middle)) :
    ∃ digits, interval.nearest? tie grid = some digits := by
  obtain ⟨lower, upper⟩ := neighbours denPos grid
  have unit : (0 : ℚ) < 10 ^ grid := zpow_pos (by norm_num) grid
  simp only [nearest?]
  generalize interval.value * Nat.pow 10 (-grid).toNat /
    (interval.den * Nat.pow 10 grid.toNat) = below at *
  push_cast at upper
  have either :
      interval.Holds (below * 10 ^ grid) ∨
        interval.Holds (((below + 1 : Nat) : ℚ) * 10 ^ grid) := by
    push_cast
    rcases le_total (2 * (interval.middle - below * 10 ^ grid)) (10 ^ grid)
      with nearer | farther
    · exact Or.inl (Holds.of_strict (by linarith) (by linarith))
    · exact Or.inr (Holds.of_strict (by linarith) (by linarith))
  rw [← holds_multiple_iff denPos, ← holds_multiple_iff denPos] at either
  split
  · split_ifs <;> exact ⟨_, rfl⟩
  · exact ⟨_, rfl⟩
  · exact ⟨_, rfl⟩
  · rename_i missed missedNext
    rw [missed, missedNext] at either
    rcases either with hit | hit <;> cases hit

/-- The search ends on a grid with a hit if the finest grid has one. -/
theorem holds_search {tie : Tie} {top : Int} (denPos : 0 < interval.den)
    (finest : ∃ digits, interval.nearest? tie (top - 16) = some digits)
    {tries : Nat} (positive : 0 < tries) :
    interval.Holds (interval.search tie top tries).toRat := by
  induction tries with
  | zero => cases positive
  | succ tries inductionHypothesis =>
      unfold search
      simp only
      cases found : interval.nearest? tie (top - 16 + tries) with
      | some digits => exact holds_of_nearest? denPos found
      | none =>
          have more : 0 < tries := by
            rcases Nat.eq_zero_or_pos tries with rfl | more
            · obtain ⟨digits, hit⟩ := finest
              rw [Nat.cast_zero, Int.add_zero, hit] at found
              cases found
            · exact more
          exact inductionHypothesis more

end Interval

/-! ## Trailing zeros -/

theorem Decimal.toRat_normalize (decimal : Decimal) :
    decimal.normalize.toRat = decimal.toRat := by
  obtain ⟨number, exponent⟩ := decimal
  let digits := Nat.toDigits 10 number
  let zeros := digits.reverse.takeWhile (· == '0')
  let kept := (digits.reverse.dropWhile (· == '0')).reverse
  have zerosOnly : zeros = List.replicate zeros.length '0' := by
    refine List.eq_replicate_iff.mpr ⟨rfl, fun letter member => ?_⟩
    have isZero := List.all_eq_true.mp List.all_takeWhile letter member
    exact beq_iff_eq.mp isZero
  have parts : digits = kept ++ List.replicate zeros.length '0' := by
    have whole : zeros ++ digits.reverse.dropWhile (· == '0') = digits.reverse :=
      List.takeWhile_append_dropWhile
    rw [← List.reverse_reverse digits, ← whole, List.reverse_append,
      zerosOnly, List.reverse_replicate, List.length_replicate]
  have length : digits.length - kept.length = zeros.length := by
    rw [parts, List.length_append, List.length_replicate]
    omega
  have value : number = Text.digitsValue kept * 10 ^ zeros.length := by
    rw [← Text.digitsValue_append_zeros, ← parts, Text.digitsValue_toDigits]
  have ten : (10 : ℚ) ≠ 0 := by norm_num
  show (Text.digitsValue kept : ℚ) *
      10 ^ (exponent + ((digits.length - kept.length : Nat) : Int)) =
    (number : ℚ) * 10 ^ exponent
  rw [length, value, zpow_add₀ ten, zpow_natCast]
  push_cast
  ring

/-! ## Doubles -/

/-- Whether a finite double is read as the significand and the exponent. -/
structure IsDouble (significand : Nat) (exponent : Int) : Prop where
  lt : significand < 2 ^ 53
  exponent_ge : -1074 ≤ exponent
  exponent_le : exponent ≤ 971
  normal : exponent = -1074 ∨ 2 ^ 52 ≤ significand

namespace Interval

variable {significand : Nat} {exponent : Int}

/-- How far below a number its interval begins, in units of the last place. -/
def marginBelow (significand : Nat) (exponent : Int) : ℚ :=
  if significand = 2 ^ 52 ∧ exponent ≠ -1074 then 1 / 4 else 1 / 2

theorem den_around_pos (significand : Nat) (exponent : Int) :
    0 < (around .double significand exponent).den :=
  Nat.pow_pos (by decide)

/-- A bound that is counted in quarters of the last place. -/
theorem quarters_eq (quarters : Nat) (exponent : Int) :
    ((quarters * Nat.pow 2 (exponent - 2).toNat : Nat) : ℚ) /
        ((Nat.pow 2 (2 - exponent).toNat : Nat) : ℚ) =
      quarters / 4 * 2 ^ exponent := by
  have two : (2 : ℚ) ≠ 0 := by norm_num
  have shifted : (2 : ℚ) ^ exponent = 2 ^ (exponent - 2) * 4 := by
    rw [zpow_sub₀ two]
    norm_num
  rw [shifted, zpow_eq_div two, neg_sub, Nat.pow_eq, Nat.pow_eq]
  push_cast
  ring

theorem middle_around (significand : Nat) (exponent : Int) :
    (around .double significand exponent).middle =
      significand * 2 ^ exponent := by
  rw [middle, around, quarters_eq]
  push_cast
  ring

theorem highest_around (significand : Nat) (exponent : Int) :
    (around .double significand exponent).highest =
      (significand + 1 / 2) * 2 ^ exponent := by
  rw [highest, around, quarters_eq]
  push_cast
  ring

theorem lowest_around (positive : 0 < significand) :
    (around .double significand exponent).lowest =
      (significand - marginBelow significand exponent) * 2 ^ exponent := by
  rw [lowest, around, quarters_eq, marginBelow]
  have bits : significand = Nat.pow 2 Format.double.fractionBits ∧
      exponent ≠ Format.double.minExponent - Format.double.fractionBits ↔
        significand = 2 ^ 52 ∧ exponent ≠ -1074 := Iff.rfl
  simp only [bits]
  split_ifs
  · rw [Nat.cast_sub (by omega)]
    push_cast
    ring
  · rw [Nat.cast_sub (by omega)]
    push_cast
    ring

theorem marginBelow_bounds (significand : Nat) (exponent : Int) :
    1 / 4 ≤ marginBelow significand exponent ∧
      marginBelow significand exponent ≤ 1 / 2 := by
  unfold marginBelow
  split_ifs <;> norm_num

theorem closed_around_of_odd (odd : significand % 2 = 1) :
    (around .double significand exponent).closed = false := by
  simp [around, odd]

/-- The intervals of neighbours meet in a bound, and one of the two is open. -/
theorem not_holds_of_significand_lt {larger : Nat} {number : ℚ}
    (positive : 0 < significand) (ordered : significand < larger)
    (left : (around .double significand exponent).Holds number)
    (right : (around .double larger exponent).Holds number) : False := by
  have unit : (0 : ℚ) < 2 ^ exponent := zpow_pos (by norm_num) exponent
  have largerPos : 0 < larger := by omega
  have margin := (marginBelow_bounds larger exponent).2
  have upper := left.between.2
  have lower := right.between.1
  rw [highest_around] at upper
  rw [lowest_around largerPos] at lower
  have step : (significand : ℚ) + 1 ≤ larger := by exact_mod_cast ordered
  by_cases next : larger = significand + 1
  · rcases Nat.mod_two_eq_zero_or_one significand with even | odd
    · have isOpen : (around .double larger exponent).closed = false :=
        closed_around_of_odd (by omega)
      have strict := (right.strict isOpen).1
      rw [lowest_around largerPos] at strict
      nlinarith
    · have strict := (left.strict (closed_around_of_odd odd)).2
      rw [highest_around] at strict
      nlinarith
  · have apart : (significand : ℚ) + 2 ≤ larger := by
      exact_mod_cast (by omega : significand + 2 ≤ larger)
    nlinarith

/-- Where a higher exponent begins, the largest significand of the lower one has
an open interval. -/
theorem not_holds_of_exponent_lt {first second : Nat} {low high : Int}
    {number : ℚ} (firstDouble : IsDouble first low)
    (secondDouble : IsDouble second high) (ordered : low < high)
    (left : (around .double first low).Holds number)
    (right : (around .double second high).Holds number) : False := by
  have unit : (0 : ℚ) < 2 ^ low := zpow_pos (by norm_num) low
  have lowest := firstDouble.exponent_ge
  have most := firstDouble.lt
  have normal : 2 ^ 52 ≤ second := by
    rcases secondDouble.normal with least | normal
    · omega
    · exact normal
  have doubled : 2 * (2 : ℚ) ^ low ≤ 2 ^ high := by
    rw [← zpow_one_add₀ (by norm_num)]
    exact zpow_le_zpow_right₀ (by norm_num) (by omega)
  have upper : number < (2 ^ 53 - 1 / 2) * 2 ^ low := by
    by_cases last : first = 2 ^ 53 - 1
    · have odd : first % 2 = 1 := by
        rw [last]
        rfl
      have strict := (left.strict (closed_around_of_odd odd)).2
      rw [highest_around, last] at strict
      norm_num at strict ⊢
      exact strict
    · have fewer : (first : ℚ) + 2 ≤ 2 ^ 53 := by
        exact_mod_cast (by omega : first + 2 ≤ 2 ^ 53)
      have bound := left.between.2
      rw [highest_around] at bound
      nlinarith
  have begins : (2 ^ 52 - 1 / 4 : ℚ) ≤ second - marginBelow second high := by
    unfold marginBelow
    by_cases binade : second = 2 ^ 52
    · rw [if_pos ⟨binade, by omega⟩, binade]
      norm_num
    · have more : (2 ^ 52 + 1 : ℚ) ≤ second := by
        exact_mod_cast (by omega : 2 ^ 52 + 1 ≤ second)
      rw [if_neg fun both => binade both.1]
      linarith
  have lower := right.between.1
  rw [lowest_around (by omega)] at lower
  have scaled :
      (2 ^ 52 - 1 / 4 : ℚ) * (2 * 2 ^ low) ≤
        (second - marginBelow second high) * 2 ^ high :=
    mul_le_mul begins doubled (by positivity)
      (le_trans (by norm_num) begins)
  linarith

end Interval

section Shortest

variable {significand : Nat} {exponent : Int}

theorem Interval.value_around_pos (positive : 0 < significand)
    (exponent : Int) :
    0 < (Interval.around .double significand exponent).value :=
  Nat.mul_pos (Nat.mul_pos (by decide) positive) (Nat.pow_pos (by decide))

theorem IsDouble.value_lt (double : IsDouble significand exponent)
    {bits : Nat} (enough : 1100 ≤ bits) :
    (Interval.around .double significand exponent).value < 2 ^ bits := by
  have fewer : 55 + (exponent - 2).toNat ≤ bits := by
    have most := double.exponent_le
    omega
  calc 4 * significand * 2 ^ (exponent - 2).toNat
      < 4 * 2 ^ 53 * 2 ^ (exponent - 2).toNat :=
        Nat.mul_lt_mul_of_pos_right
          (Nat.mul_lt_mul_of_pos_left double.lt (by decide))
          (Nat.pow_pos (by decide))
    _ = 2 ^ (55 + (exponent - 2).toNat) := (Nat.pow_add 2 55 _).symm
    _ ≤ 2 ^ bits := Nat.pow_le_pow_right (by decide) fewer

theorem IsDouble.den_lt (double : IsDouble significand exponent)
    {bits : Nat} (enough : 1100 ≤ bits) :
    (Interval.around .double significand exponent).den < 2 ^ bits := by
  have least := double.exponent_ge
  exact Nat.pow_lt_pow_right (by decide) (by omega)

/-- Seventeen digits are as fine as the interval on both sides. -/
theorem IsDouble.seventeen_digits (double : IsDouble significand exponent)
    {top : Int}
    (below : (10 : ℚ) ^ top ≤ significand * 2 ^ exponent) :
    (10 : ℚ) ^ (top - 16) <
      2 * (Interval.marginBelow significand exponent * 2 ^ exponent) := by
  have unit : (0 : ℚ) < 2 ^ exponent := zpow_pos (by norm_num) exponent
  have scaled : (10 : ℚ) ^ (top - 16) * 10 ^ 16 = 10 ^ top := by
    rw [zpow_sub₀ (by norm_num)]
    norm_num
  have small : (significand : ℚ) < 2 ^ 53 := by exact_mod_cast double.lt
  unfold Interval.marginBelow
  split_ifs with binade
  · have least : (significand : ℚ) = 2 ^ 52 := by exact_mod_cast binade.1
    rw [least] at below
    nlinarith
  · nlinarith

theorem IsDouble.holds_shortest (double : IsDouble significand exponent)
    (positive : 0 < significand) (tie : Tie) :
    (Interval.around .double significand exponent).Holds
      (shortest tie significand exponent).toRat := by
  have denPos := Interval.den_around_pos significand exponent
  have below :
      (10 : ℚ) ^ floorLog10
          (Interval.around .double significand exponent).value
          (Interval.around .double significand exponent).den ≤
        significand * 2 ^ exponent := by
    rw [← Interval.middle_around]
    have enough : 1100 ≤ 1100 := Nat.le_refl 1100
    exact zpow_floorLog10_le (by decide) (double.value_lt enough)
      (double.den_lt enough) (Interval.value_around_pos positive exponent)
      denPos
  have fine := double.seventeen_digits below
  have margins := Interval.marginBelow_bounds significand exponent
  have unit : (0 : ℚ) < 2 ^ exponent := zpow_pos (by norm_num) exponent
  rw [shortest, if_neg (Nat.ne_of_gt positive), Decimal.toRat_normalize]
  refine Interval.holds_search denPos ?_ (by decide)
  apply Interval.exists_nearest? tie denPos
  · rw [Interval.middle_around, Interval.lowest_around positive]
    linarith
  · rw [Interval.middle_around, Interval.highest_around]
    nlinarith

theorem IsDouble.shortest_pos (double : IsDouble significand exponent)
    (positive : 0 < significand) (tie : Tie) :
    0 < (shortest tie significand exponent).toRat := by
  have lower := (double.holds_shortest positive tie).between.1
  have margin := (Interval.marginBelow_bounds significand exponent).2
  have unit : (0 : ℚ) < 2 ^ exponent := zpow_pos (by norm_num) exponent
  have one : (1 : ℚ) ≤ significand := by exact_mod_cast positive
  rw [Interval.lowest_around positive] at lower
  nlinarith

/-- The shortest decimals of different doubles are different numbers. -/
theorem IsDouble.eq_of_shortest {other : Nat} {otherExponent : Int}
    (double : IsDouble significand exponent)
    (otherDouble : IsDouble other otherExponent)
    (positive : 0 < significand) (otherPositive : 0 < other) {tie : Tie}
    (same : (shortest tie significand exponent).toRat =
      (shortest tie other otherExponent).toRat) :
    significand = other ∧ exponent = otherExponent := by
  have left := double.holds_shortest positive tie
  have right := otherDouble.holds_shortest otherPositive tie
  rw [← same] at right
  rcases Int.lt_trichotomy exponent otherExponent with lower | rfl | higher
  · exact (Interval.not_holds_of_exponent_lt double otherDouble lower left
      right).elim
  · rcases Nat.lt_trichotomy significand other with fewer | rfl | more
    · exact (Interval.not_holds_of_significand_lt positive fewer left
        right).elim
    · exact ⟨rfl, rfl⟩
    · exact (Interval.not_holds_of_significand_lt otherPositive more right
        left).elim
  · exact (Interval.not_holds_of_exponent_lt otherDouble double higher right
      left).elim

end Shortest

end RecordQuery.Number
