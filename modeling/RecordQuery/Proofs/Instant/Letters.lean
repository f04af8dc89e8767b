import RecordQuery.Instant
import RecordQuery.Proofs.Text.Digits

/-!
# Letters of instants

The text of a moment begins with a digit or a sign, has colons in it and is at
least as long as a date with a time of day.
-/

namespace RecordQuery.Instant

open Text

theorem exists_yearLetters_eq_cons (year : Int) :
    ∃ first rest, yearLetters year = first :: rest ∧
      (IsDecimal first ∨ first = '+') := by
  unfold yearLetters
  split_ifs
  · obtain ⟨first, rest, shape, digit⟩ := exists_padded_eq_cons 4 year.toNat
    exact ⟨first, rest, shape, Or.inl (Or.inl digit)⟩
  · exact ⟨'-', _, rfl, Or.inl (Or.inr rfl)⟩
  · exact ⟨'+', _, rfl, Or.inr rfl⟩

theorem exists_text_eq_cons (moment : Instant) :
    ∃ first rest, moment.text.toList = first :: rest ∧
      (IsDecimal first ∨ first = '+') := by
  obtain ⟨first, rest, shape, led⟩ :=
    exists_yearLetters_eq_cons moment.date.year
  have begins : ∃ more, moment.text.toList = first :: more := by
    simp [text, letters, shape]
  obtain ⟨more, whole⟩ := begins
  exact ⟨first, more, whole, led⟩

theorem colon_mem_text (moment : Instant) : ':' ∈ moment.text.toList := by
  simp [text, letters]

/-- The letters that the numbers of a moment are written with, and those between
them. -/
theorem mem_text {moment : Instant} {letter : Char}
    (member : letter ∈ moment.text.toList) :
    letter.isDigit = true ∨ letter ∈ ['+', '-', ' ', ':', '.'] := by
  have digits (width number : Nat) (held : letter ∈ padded width number) :
      letter.isDigit = true :=
    padded_isDigit width number letter held
  have year (held : letter ∈ yearLetters moment.date.year) :
      letter.isDigit = true ∨ letter ∈ ['+', '-'] := by
    unfold yearLetters at held
    split_ifs at held
    · exact Or.inl (digits _ _ held)
    · exact (List.mem_cons.mp held).elim (by simp_all)
        fun held => Or.inl (digits _ _ held)
    · exact (List.mem_cons.mp held).elim (by simp_all)
        fun held => Or.inl (digits _ _ held)
  have fraction
      (held : letter ∈ fractionLetters (moment.nanos % nanosPerSecond)) :
      letter.isDigit = true ∨ letter = '.' := by
    unfold fractionLetters at held
    split_ifs at held
    · exact (List.not_mem_nil held).elim
    all_goals
      exact (List.mem_cons.mp held).elim Or.inr
        fun held => Or.inl (digits _ _ held)
  simp only [text, letters, String.toList_ofList, List.mem_append,
    List.mem_cons] at member
  grind

theorem four_le_length_yearLetters (year : Int) :
    4 ≤ (yearLetters year).length := by
  unfold yearLetters
  split
  · exact le_length_padded 4 year.toNat
  · exact (le_length_padded 4 year.natAbs).trans (Nat.le_succ _)

theorem le_length_text (moment : Instant) :
    19 ≤ moment.text.toList.length := by
  have year := four_le_length_yearLetters moment.date.year
  have two := le_length_padded 2
  have month := two moment.date.month
  have day := two moment.date.day
  have hour := two (moment.secondOfDay / 3600)
  have minute := two (moment.secondOfDay / 60 % 60)
  have second :=
    two (moment.secondOfDay % 60 + moment.nanos / nanosPerSecond)
  simp only [text, letters, String.toList_ofList, List.length_append,
    List.length_cons]
  omega

end RecordQuery.Instant
