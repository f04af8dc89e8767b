import RecordQuery.Proofs.Json.Letters

/-!
# Numbers that are read

A number is read from a text that begins with a blank, a sign or a digit, and an
integer has no more digits than its text has letters.
-/

namespace RecordQuery.Json

open Number Source Text

namespace Source

/-! ## The digits of a number -/

theorem digits?_eq_some {letters digits rest : List Char}
    (read : digits? letters = some (digits, rest)) :
    letters = digits ++ rest ∧ digits ≠ [] ∧
      ∀ digit ∈ digits, digit.isDigit = true := by
  unfold digits? at read
  split at read
  · cases read
  · rename_i nonempty
    cases read
    exact ⟨List.takeWhile_append_dropWhile.symm, nonempty,
      List.all_eq_true.mp List.all_takeWhile⟩

theorem whole?_eq_some {letters whole rest : List Char}
    (read : whole? letters = some (whole, rest)) :
    letters = whole ++ rest ∧ whole ≠ [] ∧
      ∀ digit ∈ whole, digit.isDigit = true := by
  unfold whole? at read
  split at read
  · split at read
    · cases read
    · cases read
      refine ⟨rfl, List.cons_ne_nil _ _, fun digit member => ?_⟩
      rw [List.mem_singleton.mp member]
      rfl
  · exact digits?_eq_some read

theorem whole_of_numeral? {negative : Bool} {letters rest : List Char}
    {numeral : Numeral}
    (read : numeral? negative letters = some (numeral, rest)) :
    (∃ more, letters = numeral.whole ++ more) ∧ numeral.whole ≠ [] ∧
      ∀ digit ∈ numeral.whole, digit.isDigit = true := by
  simp only [numeral?, Option.bind_eq_bind, Option.bind_eq_some_iff,
    Option.pure_def, Option.some.injEq, Prod.exists, Prod.mk.injEq] at read
  obtain ⟨whole, afterWhole, wholeRead, _, _, _, _, _, _, rfl, _⟩ := read
  obtain ⟨shape, nonempty, all⟩ := whole?_eq_some wholeRead
  exact ⟨⟨afterWhole, shape⟩, nonempty, all⟩

theorem gather_lt (digits : List Char) :
    ∀ start : Nat, (∀ digit ∈ digits, digit.isDigit = true) →
      (gather start digits).1 < (start + 1) * 10 ^ digits.length := by
  induction digits with
  | nil =>
      intro start _
      simp [gather]
  | cons digit digits inductionHypothesis =>
      intro start all
      have most : digit.toNat - '0'.toNat ≤ 9 := by
        have upper := (toNat_of_isDigit (all digit List.mem_cons_self)).2
        have zero : '0'.toNat = 48 := rfl
        omega
      have power : 0 < 10 ^ digits.length := Nat.pow_pos (by decide)
      rw [gather, List.length_cons, Nat.pow_succ]
      split
      · have later := inductionHypothesis
          (start * 10 + (digit.toNat - '0'.toNat))
          fun other member => all other (List.mem_cons_of_mem _ member)
        nlinarith
      · nlinarith

/-! ## The numeral of a text -/

/-- What is read as a number stands behind the blanks, with its sign. -/
theorem exists_numeral?_of_value? {calls : Nat} {letters rest : List Char}
    {value? : Option Json}
    (read : Source.value? calls letters = some (.number value?, rest)) :
    ∃ negative unsigned numeral,
      skip letters = (if negative then '-' :: unsigned else unsigned) ∧
        numeral? negative unsigned = some (numeral, rest) ∧
          numeral.value? = value? := by
  cases calls with
  | zero =>
      rw [Source.value?] at read
      cases read
  | succ calls =>
      rw [Source.value?] at read
      split at read
      · cases read
      · cases read
      · cases read
      · obtain ⟨found, -, same⟩ := Option.map_eq_some_iff.mp read
        cases same
      · split at read
        · cases read
        · obtain ⟨found, -, same⟩ := Option.map_eq_some_iff.mp read
          cases same
      · split at read
        · cases read
        · obtain ⟨found, -, same⟩ := Option.map_eq_some_iff.mp read
          cases same
      · rename_i unsigned shape
        obtain ⟨⟨numeral, after⟩, found, same⟩ :=
          Option.map_eq_some_iff.mp read
        cases same
        exact ⟨true, unsigned, numeral, shape, found, rfl⟩
      · obtain ⟨⟨numeral, after⟩, found, same⟩ :=
          Option.map_eq_some_iff.mp read
        cases same
        exact ⟨false, _, numeral, rfl, found, rfl⟩

theorem eq_number_of_json? {source : Source} {json : Json}
    (number : json.kind = .number) (value : source.json? = some json) :
    source = .number (some json) := by
  cases source with
  | number value? =>
      rw [json?] at value
      rw [value]
  | null =>
      rw [json?] at value
      cases value
      cases number
  | bool truth =>
      rw [json?] at value
      cases value
      cases truth <;> cases number
  | string value? =>
      rw [json?] at value
      obtain ⟨_, -, rfl⟩ := Option.map_eq_some_iff.mp value
      cases number
  | array items =>
      rw [json?] at value
      obtain ⟨_, -, rfl⟩ := Option.map_eq_some_iff.mp value
      cases number
  | object members =>
      rw [json?] at value
      obtain ⟨_, -, rfl⟩ := Option.map_eq_some_iff.mp value
      cases number

end Source

section Read

variable {text : String} {json : Json}

theorem exists_numeral?_of_ofText? (number : json.kind = .number)
    (read : Json.ofText? text = some json) :
    ∃ negative unsigned numeral rest,
      skip text.toList = (if negative then '-' :: unsigned else unsigned) ∧
        numeral? negative unsigned = some (numeral, rest) ∧
          numeral.value? = some json := by
  unfold Json.ofText? at read
  split at read
  · rename_i source found
    simp only [Source.ofText?] at found
    split at found
    · rename_i valued
      split_ifs at read
      split_ifs at found
      cases found
      obtain rfl := eq_number_of_json? number read
      obtain ⟨negative, unsigned, numeral, shape, numbered, same⟩ :=
        exists_numeral?_of_value? valued
      exact ⟨negative, unsigned, numeral, _, shape, numbered, same⟩
    · cases found
  · cases read

/-- Before a number stand blanks only, and it begins with a hyphen or a digit. -/
theorem exists_first_of_ofText? (number : json.kind = .number)
    (read : Json.ofText? text = some json) :
    ∃ first rest, text.toList = first :: rest ∧
      9 ≤ first.toNat ∧ first.toNat < 0x3a := by
  obtain ⟨negative, unsigned, found, rest, shape, numbered, -⟩ :=
    exists_numeral?_of_ofText? number read
  obtain ⟨⟨more, digits⟩, nonempty, all⟩ := whole_of_numeral? numbered
  obtain ⟨digit, whole, cons⟩ := List.exists_cons_of_ne_nil nonempty
  have isDigit := all digit (by rw [cons]; exact List.mem_cons_self)
  rw [digits, cons, List.cons_append] at shape
  cases letters : text.toList with
  | nil =>
      rw [letters] at shape
      cases negative <;> cases shape
  | cons first after =>
      refine ⟨first, after, rfl, ?_⟩
      rw [letters, skip, List.dropWhile_cons] at shape
      split at shape
      · rename_i blank
        simp only [Bool.or_eq_true, beq_iff_eq, or_assoc] at blank
        rcases blank with rfl | rfl | rfl | rfl <;> decide
      · cases negative with
        | true =>
            cases shape
            decide
        | false =>
            cases shape
            obtain ⟨least, most⟩ := toNat_of_isDigit isDigit
            omega

/-- An integer is smaller than the power of ten of the letters it is read
from. -/
theorem natAbs_lt_of_ofText? {value : Int}
    (read : Json.ofText? text = some (.integer value)) :
    value.natAbs < 10 ^ text.toList.length := by
  obtain ⟨negative, unsigned, numeral, rest, shape, numbered, valued⟩ :=
    exists_numeral?_of_ofText? rfl read
  obtain ⟨⟨more, digits⟩, -, all⟩ := whole_of_numeral? numbered
  have fewer : numeral.whole.length ≤ text.toList.length := by
    have skipped : (skip text.toList).length ≤ text.toList.length :=
      (List.dropWhile_sublist _).length_le
    have inside : numeral.whole.length ≤ unsigned.length := by
      rw [digits, List.length_append]
      omega
    have signed : unsigned.length ≤ (skip text.toList).length := by
      rw [shape]
      cases negative with
      | true => exact Nat.le_succ _
      | false => exact Nat.le_refl _
    omega
  have bound := gather_lt numeral.whole 0 all
  have value : value.natAbs = (gather 0 numeral.whole).1 := by
    simp only [Numeral.value?] at valued
    split_ifs at valued
    · cases valued
      exact Int.natAbs_natCast _
    · cases valued
    · cases valued
    · cases valued
      rw [Int.natAbs_neg, Int.natAbs_natCast]
    · obtain ⟨_, -, same⟩ := Option.map_eq_some_iff.mp valued
      cases same
    · obtain ⟨_, -, same⟩ := Option.map_eq_some_iff.mp valued
      cases same
  rw [value]
  calc (gather 0 numeral.whole).1 < (0 + 1) * 10 ^ numeral.whole.length := bound
    _ ≤ 10 ^ text.toList.length := by
        rw [Nat.one_mul]
        exact Nat.pow_le_pow_right (by decide) fewer

end Read

end RecordQuery.Json
