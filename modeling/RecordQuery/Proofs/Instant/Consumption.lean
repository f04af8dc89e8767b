import RecordQuery.Proofs.Instant.Reading

/-!
# How much of a text a moment takes

A reader takes its letters off the front of the text.  The fewest letters that
each may take bound those of a moment with a time of day, and the date alone is
its three numbers between two hyphens.
-/

namespace RecordQuery.Instant

open Text

namespace Reader

/-- Whether a reader, where it reads at all, takes a piece of at least so many
letters off the front. -/
def Consumes {α : Type} (least : Nat) (reader : Reader α) : Prop :=
  ∀ ⦃letters rest : List Char⦄ ⦃value : α⦄,
    reader letters = some (value, rest) →
      ∃ used, letters = used ++ rest ∧ least ≤ used.length

section Combinators

variable {α β : Type}

theorem Consumes.of_le {least fewer : Nat} {reader : Reader α}
    (whole : Consumes least reader) (below : fewer ≤ least) :
    Consumes fewer reader := by
  intro letters rest value read
  obtain ⟨used, shape, enough⟩ := whole read
  exact ⟨used, shape, Nat.le_trans below enough⟩

theorem Consumes.bind {first second : Nat} {reader : Reader α}
    {next : α → Reader β} (before : Consumes first reader)
    (after : ∀ value, Consumes second (next value)) :
    Consumes (first + second) (reader >>= next) := by
  intro letters rest value read
  obtain ⟨middle, left, readFirst, readSecond⟩ := bind_eq_some_iff.mp read
  obtain ⟨usedFirst, rfl, leastFirst⟩ := before readFirst
  obtain ⟨usedSecond, rfl, leastSecond⟩ := after middle readSecond
  refine ⟨usedFirst ++ usedSecond, (List.append_assoc _ _ _).symm, ?_⟩
  rw [List.length_append]
  exact Nat.add_le_add leastFirst leastSecond

theorem Consumes.map {least : Nat} {reader : Reader α} (f : α → β)
    (whole : Consumes least reader) :
    Consumes least fun letters =>
      (reader letters).map fun read => (f read.1, read.2) := by
  intro letters rest value read
  obtain ⟨⟨held, left⟩, readFirst, same⟩ := Option.map_eq_some_iff.mp read
  cases same
  exact whole readFirst

theorem consumes_pure (value : α) : Consumes 0 (pure value : Reader α) := by
  intro letters rest read same
  cases same
  exact ⟨[], rfl, Nat.le_refl 0⟩

theorem consumes_lift (outcome : Option α) :
    Consumes 0 (liftM outcome : Reader α) := by
  intro letters rest value read
  rw [lift_run, Option.map_eq_some_iff] at read
  obtain ⟨held, -, same⟩ := read
  cases same
  exact ⟨[], rfl, Nat.le_refl 0⟩

end Combinators

/-! ## Marks and numbers -/

theorem letter_eq_some_iff {expected : Char} {letters rest : List Char}
    {value : Unit} :
    letter expected letters = some (value, rest) ↔
      letters = expected :: rest := by
  cases letters with
  | nil => simp [letter]
  | cons first more => simp [letter]

theorem consumes_letter (expected : Char) : Consumes 1 (letter expected) := by
  intro letters rest value read
  exact ⟨[expected], letter_eq_some_iff.mp read, Nat.le_refl 1⟩

theorem consumes_blanks : Consumes 0 blanks := by
  intro letters rest value read
  cases read
  exact ⟨letters.takeWhile isBlank, List.takeWhile_append_dropWhile.symm,
    Nat.zero_le _⟩

theorem consumes_exactly (count : Nat) : Consumes count (exactly count) := by
  intro letters rest value read
  simp only [exactly, Option.ite_none_right_eq_some, Option.some.injEq,
    Prod.mk.injEq] at read
  obtain ⟨⟨width, -⟩, -, rfl⟩ := read
  exact ⟨letters.take count, (List.take_append_drop count letters).symm,
    Nat.le_of_eq width.symm⟩

/-- What digits are counted is a beginning of the letters, and there are some. -/
theorem consumes_upTo (count : Nat) : Consumes 1 (upTo count) := by
  intro letters rest value read
  simp only [upTo, Option.ite_none_left_eq_some, Option.some.injEq,
    Prod.mk.injEq, List.isEmpty_iff] at read
  obtain ⟨some, -, rfl⟩ := read
  have leads :
      (letters.take count).takeWhile Char.isDigit <+: letters :=
    (List.takeWhile_prefix _).trans (List.take_prefix count letters)
  refine ⟨_, ?_, List.length_pos_iff.mpr some⟩
  exact (List.prefix_iff_eq_append.mp leads).symm

theorem consumes_loose (count : Nat) : Consumes 1 (loose count) :=
  consumes_blanks.bind fun _ => consumes_upTo count

theorem consumes_fraction : Consumes 0 fraction := by
  intro letters rest value read
  unfold fraction at read
  split at read
  · rename_i digits
    simp only [Option.ite_none_left_eq_some, Option.some.injEq,
      Prod.mk.injEq] at read
    obtain ⟨-, -, rfl⟩ := read
    refine ⟨'.' :: digits.takeWhile Char.isDigit, ?_, Nat.zero_le _⟩
    have leads := List.takeWhile_prefix Char.isDigit (l := digits)
    exact congrArg ('.' :: ·) (List.prefix_iff_eq_append.mp leads).symm
  · cases read
    exact ⟨[], rfl, Nat.le_refl 0⟩

theorem consumes_all : Consumes 1 all := by
  intro letters rest value read
  simp only [all, Option.ite_none_left_eq_some, Option.some.injEq,
    Prod.mk.injEq, List.isEmpty_iff] at read
  obtain ⟨some, -, rfl⟩ := read
  have leads := List.takeWhile_prefix Char.isDigit (l := letters)
  exact ⟨_, (List.prefix_iff_eq_append.mp leads).symm,
    List.length_pos_iff.mpr some⟩

theorem consumes_year : Consumes 1 year := by
  show Consumes (0 + 1) year
  refine consumes_blanks.bind fun _ => ?_
  intro letters rest value read
  beta_reduce at read
  split at read
  · obtain ⟨used, rfl, least⟩ :=
      consumes_all.map (fun value : Nat => -(value : Int)) read
    exact ⟨'-' :: used, rfl, Nat.le_add_left 1 _⟩
  · obtain ⟨used, rfl, least⟩ :=
      consumes_all.map (fun value : Nat => (value : Int)) read
    exact ⟨'+' :: used, rfl, Nat.le_add_left 1 _⟩
  · exact (consumes_upTo 4).map (fun value : Nat => (value : Int)) read

/-! ## Dates and times -/

theorem consumes_timeMark : Consumes 1 timeMark := by
  intro letters rest value read
  unfold timeMark at read
  split at read <;> cases read <;> exact ⟨[_], rfl, Nat.le_refl 1⟩

theorem consumes_negative : Consumes 1 negative := by
  intro letters rest value read
  unfold negative at read
  split at read <;> cases read <;> exact ⟨[_], rfl, Nat.le_refl 1⟩

theorem consumes_offset : Consumes 1 offset := by
  intro letters rest value read
  unfold offset at read
  split at read
  · cases read
    exact ⟨['Z'], rfl, Nat.le_refl 1⟩
  · cases read
    exact ⟨['z'], rfl, Nat.le_refl 1⟩
  · have spelled :=
      consumes_negative.bind fun isNegative =>
        (consumes_exactly 2).bind fun hours =>
          (consumes_letter ':').bind fun _ =>
            (consumes_exactly 2).bind fun minutes =>
              consumes_lift (offsetSeconds? isNegative hours minutes)
    obtain ⟨used, shape, least⟩ := spelled read
    exact ⟨used, shape, Nat.le_trans (by decide) least⟩

/-- The digits, hyphens, colons and marks of the internet format, and the letter
for an offset of zero. -/
theorem consumes_internet : Consumes 20 internet :=
  (consumes_exactly 4).bind fun _ => (consumes_letter '-').bind fun _ =>
  (consumes_exactly 2).bind fun _ => (consumes_letter '-').bind fun _ =>
  (consumes_exactly 2).bind fun _ => consumes_timeMark.bind fun _ =>
  (consumes_exactly 2).bind fun _ => (consumes_letter ':').bind fun _ =>
  (consumes_exactly 2).bind fun _ => (consumes_letter ':').bind fun _ =>
  (consumes_exactly 2).bind fun _ => consumes_fraction.bind fun _ =>
  consumes_offset.bind fun _ => (consumes_lift _).bind fun _ =>
  consumes_pure _

theorem consumes_looseDate : Consumes 5 looseDate :=
  consumes_year.bind fun _ => (consumes_letter '-').bind fun _ =>
  (consumes_loose 2).bind fun _ => (consumes_letter '-').bind fun _ =>
  (consumes_loose 2).bind fun _ => consumes_pure _

theorem consumes_looseTime : Consumes 5 looseTime :=
  (consumes_loose 2).bind fun _ => (consumes_letter ':').bind fun _ =>
  (consumes_loose 2).bind fun _ => (consumes_letter ':').bind fun _ =>
  (consumes_loose 2).bind fun _ => consumes_fraction.bind fun _ =>
  consumes_pure _

/-- A date and a time of day have five letters each, whatever is between. -/
theorem consumes_civil {mark : Reader Unit} (between : Consumes 0 mark) :
    Consumes 10 (civil mark) :=
  consumes_looseDate.bind fun _ => between.bind fun _ =>
  consumes_looseTime.bind fun _ => consumes_lift _

/-! ## Dates alone -/

theorem year_digits {digits : List Char} (rest : List Char)
    (four : digits.length = 4)
    (all : ∀ digit ∈ digits, digit.isDigit = true) :
    year (digits ++ rest) = some ((digitsValue digits : Int), rest) := by
  have nonempty : digits ≠ [] := List.ne_nil_of_length_pos (by omega)
  have read := upTo_append rest four nonempty all
  obtain ⟨first, more, rfl⟩ := List.exists_cons_of_ne_nil nonempty
  rw [List.cons_append] at read ⊢
  rw [year_of_isDigit _ (all first List.mem_cons_self), read]
  rfl

/-- After a year of four digits a date alone is the month, a hyphen and the
day. -/
theorem exists_of_midnight {digits rest : List Char} {moment : Instant}
    (four : digits.length = 4)
    (all : ∀ digit ∈ digits, digit.isDigit = true)
    (read : midnight (digits ++ '-' :: rest) = some (moment, [])) :
    ∃ month day, rest = month ++ '-' :: day := by
  simp only [midnight, looseDate, bind_eq_some_iff, lift_run,
    Option.map_eq_some_iff, Prod.mk.injEq] at read
  obtain ⟨_, _, ⟨_, _, yearRead, _, _, hyphen, _, _, monthRead, _, _,
    secondHyphen, _, _, dayRead, ended⟩, _, -, -, left⟩ := read
  rw [year_digits _ four all] at yearRead
  cases yearRead
  rw [letter_cons] at hyphen
  cases hyphen
  cases ended
  subst left
  obtain ⟨month, shape, -⟩ := consumes_loose 2 monthRead
  obtain ⟨day, rfl, -⟩ := consumes_loose 2 dayRead
  rw [letter_eq_some_iff.mp secondHyphen, List.append_nil] at shape
  exact ⟨month, day, shape⟩

end Reader

/-- A text of fewer than ten letters has no room for a time of day. -/
theorem midnight_of_short {text : String} {moment : Instant}
    (read : ofText? text = some moment) (short : text.toList.length < 10) :
    Reader.midnight text.toList = some (moment, []) := by
  have untimed {least : Nat} {reader : Reader Instant}
      (takes : reader.Consumes least) (enough : 10 ≤ least) :
      reader text.toList ≠ some (moment, []) := by
    intro found
    obtain ⟨used, shape, many⟩ := takes found
    rw [List.append_nil] at shape
    rw [shape] at short
    omega
  have blanks := Reader.consumes_civil Reader.consumes_blanks
  have marked :=
    Reader.consumes_civil ((Reader.consumes_letter 'T').of_le (by decide))
  rcases ofText?_cases read with
    asInternet | asCivil | asMarked | asMidnight
  · exact (untimed Reader.consumes_internet (by decide) asInternet).elim
  · exact (untimed blanks (Nat.le_refl 10) asCivil).elim
  · exact (untimed marked (Nat.le_refl 10) asMarked).elim
  · exact asMidnight

end RecordQuery.Instant
