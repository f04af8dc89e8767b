import Mathlib.Tactic.Ring
import RecordQuery.Text.Basic

/-!
# Decimal digits

A number is read back from its digits, also behind padding zeros, and the value
of a run of digits is put together from the values of its parts.  An integer is
known by its text.
-/

namespace RecordQuery.Text

/-! ## Values -/

theorem digitsValue_eq_ofDigitChars (letters : List Char) :
    digitsValue letters = Nat.ofDigitChars 10 letters 0 := by
  rw [digitsValue, Nat.ofDigitChars_eq_foldl]
  refine congrArg (fun step => List.foldl step 0 letters) ?_
  funext total letter
  rw [Nat.mul_comm]

@[simp]
theorem digitsValue_nil : digitsValue [] = 0 :=
  rfl

theorem digitsValue_append (left right : List Char) :
    digitsValue (left ++ right) =
      digitsValue left * 10 ^ right.length + digitsValue right := by
  rw [digitsValue_eq_ofDigitChars, digitsValue_eq_ofDigitChars,
    digitsValue_eq_ofDigitChars, Nat.ofDigitChars_append,
    Nat.ofDigitChars_eq_ofDigitChars_zero, Nat.mul_comm]

@[simp]
theorem digitsValue_toDigits (number : Nat) :
    digitsValue (Nat.toDigits 10 number) = number := by
  rw [digitsValue_eq_ofDigitChars, Nat.ofDigitChars_ten_toDigits]

@[simp]
theorem digitsValue_replicate_zero (count : Nat) :
    digitsValue (List.replicate count '0') = 0 := by
  rw [digitsValue_eq_ofDigitChars, Nat.ofDigitChars_replicate_zero,
    Nat.mul_zero]

theorem digitsValue_zeros_append (count : Nat) (letters : List Char) :
    digitsValue (List.replicate count '0' ++ letters) =
      digitsValue letters := by
  rw [digitsValue_append, digitsValue_replicate_zero, Nat.zero_mul,
    Nat.zero_add]

theorem digitsValue_append_zeros (letters : List Char) (count : Nat) :
    digitsValue (letters ++ List.replicate count '0') =
      digitsValue letters * 10 ^ count := by
  rw [digitsValue_append, digitsValue_replicate_zero, List.length_replicate,
    Nat.add_zero]

theorem toNat_of_isDigit {letter : Char} (isDigit : letter.isDigit = true) :
    48 ≤ letter.toNat ∧ letter.toNat ≤ 57 := by
  simp only [Char.isDigit, Bool.and_eq_true, decide_eq_true_eq] at isDigit
  exact isDigit

theorem digitsValue_lt (letters : List Char) :
    (∀ letter ∈ letters, letter.isDigit = true) →
      digitsValue letters < 10 ^ letters.length := by
  induction letters with
  | nil => exact fun _ => Nat.one_pos
  | cons first rest inductionHypothesis =>
      intro all
      have tail :=
        inductionHypothesis fun letter member =>
          all letter (List.mem_cons_of_mem first member)
      have digit : first.toNat - 48 ≤ 9 := by
        have most := (toNat_of_isDigit (all first List.mem_cons_self)).2
        omega
      have value : digitsValue [first] = first.toNat - 48 := by
        simp [digitsValue]
      have parts := digitsValue_append [first] rest
      rw [List.singleton_append, value] at parts
      rw [parts, List.length_cons, Nat.pow_succ]
      have scaled :=
        Nat.mul_le_mul_right (10 ^ rest.length) digit
      omega

/-! ## Letters -/

theorem toDigits_isDigit (number : Nat) :
    ∀ letter ∈ Nat.toDigits 10 number, letter.isDigit = true :=
  fun _ => Nat.isDigit_of_mem_toDigits (by decide) (by decide)

theorem toDigits_injective {left right : Nat}
    (same : Nat.toDigits 10 left = Nat.toDigits 10 right) : left = right := by
  have values := congrArg digitsValue same
  rwa [digitsValue_toDigits, digitsValue_toDigits] at values

theorem toDigits_head?_ne_zero {number : Nat} (positive : 0 < number) :
    (Nat.toDigits 10 number).head? ≠ some '0' := by
  intro led
  cases shape : Nat.toDigits 10 number with
  | nil => exact Nat.toDigits_ne_nil shape
  | cons first rest =>
      rw [shape, List.head?_cons, Option.some.injEq] at led
      subst led
      have value : number = digitsValue rest := by
        have whole := digitsValue_toDigits number
        rw [shape] at whole
        exact whole.symm.trans (digitsValue_zeros_append 1 rest)
      cases rest with
      | nil =>
          rw [digitsValue_nil] at value
          omega
      | cons next rest =>
          have all := toDigits_isDigit number
          rw [shape] at all
          have below : number < 10 ^ (next :: rest).length := by
            rw [value]
            exact digitsValue_lt _ fun letter member =>
              all letter (List.mem_cons_of_mem _ member)
          have fits :=
            (Nat.length_toDigits_le_iff (by decide : 1 < 10)
              (by simp : 0 < (next :: rest).length)).mpr below
          rw [shape] at fits
          simp at fits

theorem padded_isDigit (width number : Nat) :
    ∀ letter ∈ padded width number, letter.isDigit = true := by
  intro letter member
  rcases List.mem_append.mp member with zero | digit
  · rw [List.eq_of_mem_replicate zero]
    rfl
  · exact toDigits_isDigit number letter digit

@[simp]
theorem digitsValue_padded (width number : Nat) :
    digitsValue (padded width number) = number := by
  rw [padded, digitsValue_zeros_append, digitsValue_toDigits]

theorem padded_ne_nil (width number : Nat) : padded width number ≠ [] := by
  intro empty
  exact Nat.toDigits_ne_nil (List.append_eq_nil_iff.mp empty).2

theorem exists_padded_eq_cons (width number : Nat) :
    ∃ first rest, padded width number = first :: rest ∧
      first.isDigit = true := by
  obtain ⟨first, rest, shape⟩ :=
    List.exists_cons_of_ne_nil (padded_ne_nil width number)
  have member : first ∈ padded width number := by
    rw [shape]
    exact List.mem_cons_self
  exact ⟨first, rest, shape, padded_isDigit width number first member⟩

theorem le_length_padded (width number : Nat) :
    width ≤ (padded width number).length := by
  rw [padded, List.length_append, List.length_replicate]
  omega

theorem length_padded {width number : Nat} (positive : 0 < width)
    (below : number < 10 ^ width) : (padded width number).length = width := by
  have fits : (Nat.toDigits 10 number).length ≤ width :=
    (Nat.length_toDigits_le_iff (by decide) positive).mpr below
  rw [padded, List.length_append, List.length_replicate]
  omega

/-! ## Integers -/

/-- Whether a letter stands in decimal integers. -/
def IsDecimal (letter : Char) : Prop :=
  letter.isDigit = true ∨ letter = '-'

theorem toNat_of_isDecimal {letter : Char} (decimal : IsDecimal letter) :
    45 ≤ letter.toNat ∧ letter.toNat < 58 := by
  rcases decimal with isDigit | rfl
  · have bounds := toNat_of_isDigit isDigit
    omega
  · decide

theorem toList_toString (number : Int) :
    (toString number).toList =
      if number < 0 then '-' :: Nat.toDigits 10 number.natAbs
      else Nat.toDigits 10 number.natAbs := by
  rw [Int.toString_eq_repr, Int.repr_eq_if]
  by_cases negative : number < 0
  · have magnitude : (-number).toNat = number.natAbs := by omega
    rw [if_pos negative, if_neg (by omega), String.toList_append,
      Nat.toList_repr, magnitude]
    rfl
  · have magnitude : number.toNat = number.natAbs := by omega
    rw [if_neg negative, if_pos (by omega), Nat.toList_repr, magnitude]

theorem isDecimal_toString (number : Int) :
    ∀ letter ∈ (toString number).toList, IsDecimal letter := by
  intro letter member
  rw [toList_toString] at member
  split at member
  · rcases List.mem_cons.mp member with rfl | inside
    · exact Or.inr rfl
    · exact Or.inl (toDigits_isDigit _ letter inside)
  · exact Or.inl (toDigits_isDigit _ letter member)

theorem toString_ne_nil (number : Int) : (toString number).toList ≠ [] := by
  rw [toList_toString]
  split
  · exact List.cons_ne_nil _ _
  · exact Nat.toDigits_ne_nil

/-- An integer has no more places than its text has letters. -/
theorem natAbs_lt_toString (number : Int) :
    number.natAbs < 10 ^ (toString number).toList.length := by
  have places : number.natAbs <
      10 ^ (Nat.toDigits 10 number.natAbs).length := by
    have value := digitsValue_lt _ (toDigits_isDigit number.natAbs)
    rwa [digitsValue_toDigits] at value
  have fewer : (Nat.toDigits 10 number.natAbs).length ≤
      (toString number).toList.length := by
    rw [toList_toString]
    split
    · exact Nat.le_succ _
    · exact Nat.le_refl _
  exact places.trans_le (Nat.pow_le_pow_right (by decide) fewer)

/-- A sign and digits are the text of the integer that they make. -/
theorem eq_of_toString {number : Int} {negative : Bool} {digits : List Char}
    (all : ∀ letter ∈ digits, letter.isDigit = true)
    (same : (toString number).toList =
      if negative then '-' :: digits else digits) :
    number.natAbs = digitsValue digits ∧ (number < 0 ↔ negative = true) := by
  have own := toDigits_isDigit number.natAbs
  rw [toList_toString] at same
  by_cases below : number < 0
  · rw [if_pos below] at same
    cases negative with
    | true =>
        rw [if_pos rfl, List.cons.injEq] at same
        rw [← same.2, digitsValue_toDigits]
        exact ⟨rfl, iff_of_true below rfl⟩
    | false =>
        rw [if_neg Bool.false_ne_true] at same
        cases all '-' (same ▸ List.mem_cons_self)
  · rw [if_neg below] at same
    cases negative with
    | true =>
        rw [if_pos rfl] at same
        cases own '-' (same ▸ List.mem_cons_self)
    | false =>
        rw [if_neg Bool.false_ne_true] at same
        rw [← same, digitsValue_toDigits]
        exact ⟨rfl, iff_of_false below Bool.false_ne_true⟩

theorem toString_injective {left right : Int}
    (same : toString left = toString right) : left = right := by
  have rightShape : (toString left).toList =
      if decide (right < 0) then '-' :: Nat.toDigits 10 right.natAbs
      else Nat.toDigits 10 right.natAbs := by
    rw [same, toList_toString]
    simp only [decide_eq_true_eq]
  obtain ⟨magnitude, sign⟩ :=
    eq_of_toString (toDigits_isDigit right.natAbs) rightShape
  rw [digitsValue_toDigits] at magnitude
  rw [decide_eq_true_eq] at sign
  omega

/-! ## Where a run of digits ends -/

/-- Whether no digit comes first. -/
def Undigited (rest : List Char) : Prop :=
  ∀ first ∈ rest.head?, first.isDigit = false

theorem undigited_nil : Undigited [] :=
  nofun

theorem undigited_cons {first : Char} (rest : List Char)
    (other : first.isDigit = false) : Undigited (first :: rest) := by
  intro letter member
  rw [List.head?_cons, Option.mem_some_iff] at member
  rw [← member]
  exact other

section Runs

variable {digits rest : List Char}

theorem takeWhile_isDigit_append
    (all : ∀ letter ∈ digits, letter.isDigit = true)
    (ends : Undigited rest) :
    (digits ++ rest).takeWhile Char.isDigit = digits := by
  rw [List.takeWhile_append_of_pos all]
  cases rest with
  | nil => simp
  | cons first rest =>
      have other := ends first rfl
      simp [other]

theorem dropWhile_isDigit_append
    (all : ∀ letter ∈ digits, letter.isDigit = true)
    (ends : Undigited rest) :
    (digits ++ rest).dropWhile Char.isDigit = rest := by
  rw [List.dropWhile_append_of_pos all]
  cases rest with
  | nil => rfl
  | cons first rest =>
      have other := ends first rfl
      simp [other]

end Runs

end RecordQuery.Text
