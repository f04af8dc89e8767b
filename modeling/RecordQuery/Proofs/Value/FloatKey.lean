import RecordQuery.Proofs.Number.Positional
import RecordQuery.Value

/-!
# Keys of floating-point numbers

The key of a floating-point number is the text of an integer of 64 bits that the
number is, or the text of the number itself.  It has the letters of numbers, and
those of a small number are many.
-/

namespace RecordQuery.Value

open Number Text

variable {number : Double}

theorem floatKey_cases (number : Double) :
    (∃ value : Int, number.toInt? = some value ∧ value.natAbs < 2 ^ 63 ∧
        floatKey number = toString value) ∨
      ((∀ value : Int, number.toInt? = some value →
        2 ^ 63 ≤ value.natAbs) ∧ floatKey number = number.text) := by
  unfold floatKey
  split
  · rename_i value found
    split_ifs with small
    · exact Or.inl ⟨value, found, small, rfl⟩
    · refine Or.inr ⟨fun other same => ?_, rfl⟩
      rw [found, Option.some.injEq] at same
      rw [← same]
      exact Nat.not_lt.mp small
  · rename_i fractional
    refine Or.inr ⟨fun value found => ?_, rfl⟩
    rw [fractional] at found
    cases found

/-! ## Letters -/

/-- The letters of keys besides digits. -/
def floatMarks : List Char := ['-', '.', 'N', 'a', 'i', 'n', 'f']

theorem mem_text {letter : Char} (member : letter ∈ number.text.toList) :
    letter.isDigit = true ∨ letter ∈ floatMarks := by
  cases read : number.reading with
  | notANumber =>
      have text : number.text.toList = ['N', 'a', 'N'] := by
        rw [Double.text, read]
        rfl
      have marks : ∀ letter ∈ ['N', 'a', 'N'], letter ∈ floatMarks := by
        simp [floatMarks]
      exact Or.inr (marks letter (text ▸ member))
  | infinite negative =>
      have text :
          number.text.toList ∈ [['i', 'n', 'f'], ['-', 'i', 'n', 'f']] := by
        rw [Double.text, read]
        cases negative <;> decide
      have marks : ∀ letters ∈ [['i', 'n', 'f'], ['-', 'i', 'n', 'f']],
          ∀ letter ∈ letters, letter ∈ floatMarks := by
        simp [floatMarks]
      exact Or.inr (marks _ text letter member)
  | finite negative significand exponent =>
      have digits {letter : Char}
          (inside : letter ∈ (shortest .up significand exponent).positional) :
          letter.isDigit = true ∨ letter ∈ floatMarks := by
        rcases Decimal.mem_positional inside with digit | rfl
        · exact Or.inl digit
        · exact Or.inr (by decide)
      rw [Double.toList_text read] at member
      split at member
      · rcases List.mem_cons.mp member with rfl | inside
        · exact Or.inr (by decide)
        · exact digits inside
      · exact digits member

theorem mem_floatKey {letter : Char}
    (member : letter ∈ (floatKey number).toList) :
    letter.isDigit = true ∨ letter ∈ floatMarks := by
  rcases floatKey_cases number with ⟨value, -, -, key⟩ | ⟨-, key⟩
  · rw [key] at member
    rcases isDecimal_toString value letter member with digit | rfl
    · exact Or.inl digit
    · exact Or.inr (by decide)
  · rw [key] at member
    exact mem_text member

theorem floatKey_isAscii (number : Double) :
    ∀ letter ∈ (floatKey number).toList, letter.toNat < 0x80 := by
  intro letter member
  rcases mem_floatKey member with digit | mark
  · have bounds := toNat_of_isDigit digit
    omega
  · have marks : ∀ letter ∈ floatMarks, letter.toNat < 0x80 := by
      simp [floatMarks]
    exact marks letter mark

/-- A key begins like an integer, unless it is one of two of three letters. -/
theorem exists_floatKey_eq_cons (number : Double) :
    ∃ first rest, (floatKey number).toList = first :: rest ∧
      (IsDecimal first ∨ first ∈ ['N', 'i'] ∧ rest.length = 2) := by
  rcases floatKey_cases number with ⟨value, -, -, key⟩ | ⟨-, key⟩
  · obtain ⟨first, rest, shape⟩ :=
      List.exists_cons_of_ne_nil (toString_ne_nil value)
    have decimal := isDecimal_toString value first (shape ▸ List.mem_cons_self)
    exact ⟨first, rest, by rw [key, shape], Or.inl decimal⟩
  · rw [key]
    cases read : number.reading with
    | notANumber =>
        refine ⟨'N', ['a', 'N'], ?_, Or.inr ⟨by decide, rfl⟩⟩
        rw [Double.text, read]
        rfl
    | infinite negative =>
        cases negative with
        | false =>
            refine ⟨'i', ['n', 'f'], ?_, Or.inr ⟨by decide, rfl⟩⟩
            rw [Double.text, read]
            rfl
        | true =>
            refine ⟨'-', ['i', 'n', 'f'], ?_, Or.inl (Or.inr rfl)⟩
            rw [Double.text, read]
            rfl
    | finite negative significand exponent =>
        obtain ⟨first, rest, shape, digit⟩ :=
          Decimal.exists_positional_eq_cons (shortest .up significand exponent)
        rw [Double.toList_text read, shape]
        cases negative with
        | false => exact ⟨first, rest, rfl, Or.inl (Or.inl digit)⟩
        | true => exact ⟨'-', _, rfl, Or.inl (Or.inr rfl)⟩

/-! ## Small numbers -/

/-- The key of a small positive number has zeros behind the point. -/
theorem exists_zeros_of_small {significand : Nat} {exponent : Int}
    (read : number.reading = .finite false significand exponent)
    (positive : 0 < significand) {zeros : Nat}
    (small : 2 * ((significand : ℚ) * 2 ^ exponent) ≤ 10 ^ (-zeros : Int)) :
    ∃ more, more ≠ [] ∧ (floatKey number).toList =
      '0' :: '.' :: (List.replicate zeros '0' ++ more) := by
  rcases floatKey_cases number with ⟨value, found, -, -⟩ | ⟨-, key⟩
  · have cast := Double.cast_toInt? read found
    rw [if_neg Bool.false_ne_true, one_mul] at cast
    have above : (0 : ℚ) < significand * 2 ^ exponent :=
      mul_pos (Nat.cast_pos.mpr positive) (zpow_pos (by norm_num) exponent)
    have below : (10 : ℚ) ^ (-zeros : Int) ≤ 1 :=
      zpow_le_one_of_nonpos₀ (by norm_num) (by omega)
    rw [← cast] at above small
    have valuePos : 0 < value := by exact_mod_cast above
    have valueLt : (value : ℚ) < 1 := by linarith
    have valueSmall : value < 1 := by exact_mod_cast valueLt
    omega
  · rw [key]
    exact Double.exists_zeros_of_small read positive small

end RecordQuery.Value
