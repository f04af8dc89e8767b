import RecordQuery.Proofs.Json.Text

/-!
# Letters of JSON texts

Every text begins with the letter of a kind, and one that begins like a number
is a number: a sign, digits, a point and an exponent.  So no text begins with
digits and a hyphen, with a point and more than four zeros behind it, or has
letters of other things than numbers in it.
-/

namespace RecordQuery.Json

open Number Source Text

/-! ## First letters -/

theorem toList_text (json : Json) : json.text.toList = json.letters :=
  String.toList_ofList

theorem letters_float_of_not_finite {number : Double}
    (infinite : number.isFinite = false) :
    (Json.float number).letters = ['n', 'u', 'l', 'l'] := by
  rw [Double.isFinite] at infinite
  rw [letters, floatText]
  cases read : number.reading with
  | finite => simp [read] at infinite
  | infinite negative => rfl
  | notANumber => rfl

/-- A text begins with the letter of a kind, also that of a number that has no
text of its own. -/
theorem exists_kindOf?_letters (json : Json) :
    ∃ first rest kind, json.letters = first :: rest ∧
      kindOf? first = some kind := by
  cases json with
  | null => exact ⟨'n', _, _, by rw [letters], rfl⟩
  | bool value =>
      cases value with
      | true => exact ⟨'t', _, _, by rw [letters], rfl⟩
      | false => exact ⟨'f', _, _, by rw [letters], rfl⟩
  | integer value =>
      obtain ⟨first, rest, shape, kind⟩ :=
        exists_letters_of_isNumber (Or.inl ⟨value, rfl, rfl⟩)
      exact ⟨first, rest, _, shape, kind⟩
  | float number =>
      cases finite : number.isFinite with
      | false => exact ⟨'n', _, _, letters_float_of_not_finite finite, rfl⟩
      | true =>
          obtain ⟨numeral, isNumber⟩ := exists_isNumber_of_isFinite finite
          obtain ⟨first, rest, shape, kind⟩ :=
            exists_letters_of_isNumber isNumber
          exact ⟨first, rest, _, shape, kind⟩
  | string value => exact ⟨'"', _, _, by rw [letters, quoted], rfl⟩
  | array items => exact ⟨'[', _, _, by rw [letters], rfl⟩
  | object members => exact ⟨'\x7b', _, _, by rw [letters], rfl⟩

/-- What begins like a number is one. -/
theorem exists_isNumber_of_first {json : Json} {first : Char}
    {rest : List Char} (shape : json.letters = first :: rest)
    (number : kindOf? first = some .number) :
    ∃ numeral, IsNumber json numeral := by
  have other {letter : Char} {more : List Char} {kind : Kind}
      (led : json.letters = letter :: more) (found : kindOf? letter = some kind)
      (apart : kind ≠ .number) : ∃ numeral, IsNumber json numeral := by
    rw [shape, List.cons.injEq] at led
    rw [← led.1, number, Option.some.injEq] at found
    exact (apart found.symm).elim
  cases json with
  | integer value => exact ⟨_, Or.inl ⟨value, rfl, rfl⟩⟩
  | float value =>
      cases finite : value.isFinite with
      | false =>
          exact other (letters_float_of_not_finite finite) rfl (by decide)
      | true => exact exists_isNumber_of_isFinite finite
  | null => exact other (by rw [letters]) rfl (by decide)
  | bool value =>
      cases value with
      | true => exact other (by rw [letters]) rfl (by decide)
      | false => exact other (by rw [letters]) rfl (by decide)
  | string value => exact other (by rw [letters, quoted]) rfl (by decide)
  | array items => exact other (by rw [letters]) rfl (by decide)
  | object members => exact other (by rw [letters]) rfl (by decide)

/-- Letters one of which stands in each text that is not a number's. -/
def wordMarks : List Char := ['n', 't', 'l', '"', '[', '\x7b']

theorem exists_isNumber_or_mem (json : Json) :
    (∃ numeral, IsNumber json numeral) ∨
      ∃ letter ∈ wordMarks, letter ∈ json.letters := by
  cases json with
  | integer value => exact Or.inl ⟨_, Or.inl ⟨value, rfl, rfl⟩⟩
  | float value =>
      cases finite : value.isFinite with
      | true => exact Or.inl (exists_isNumber_of_isFinite finite)
      | false =>
          refine Or.inr ⟨'n', by decide, ?_⟩
          rw [letters_float_of_not_finite finite]
          decide
  | null => exact Or.inr ⟨'n', by decide, by rw [letters]; decide⟩
  | bool value =>
      cases value with
      | true => exact Or.inr ⟨'t', by decide, by rw [letters]; decide⟩
      | false => exact Or.inr ⟨'l', by decide, by rw [letters]; decide⟩
  | string value =>
      refine Or.inr ⟨'"', by decide, ?_⟩
      rw [letters, quoted]
      exact List.mem_cons_self
  | array items =>
      refine Or.inr ⟨'[', by decide, ?_⟩
      rw [letters]
      exact List.mem_cons_self
  | object members =>
      refine Or.inr ⟨'\x7b', by decide, ?_⟩
      rw [letters]
      exact List.mem_cons_self

theorem kindOf?_of_isDecimal {first : Char} (decimal : IsDecimal first) :
    kindOf? first = some .number :=
  if_pos decimal

theorem kind_of_first {json : Json} {first : Char} {rest : List Char}
    (shape : json.letters = first :: rest)
    (number : kindOf? first = some .number) : json.kind = .number := by
  obtain ⟨numeral, isNumber⟩ := exists_isNumber_of_first shape number
  rcases isNumber with ⟨_, rfl, _⟩ | ⟨_, _, _, _, rfl, _⟩ <;> rfl

/-- Only an integer has the text of one. -/
theorem eq_integer_of_letters {json : Json} {value : Int}
    (same : json.letters = (toString value).toList) :
    json = .integer value := by
  have integer : IsNumber (.integer value) (.ofInt value) :=
    Or.inl ⟨value, rfl, rfl⟩
  obtain ⟨first, rest, shape, kind⟩ := exists_letters_of_isNumber integer
  have letters : json.letters = (Json.integer value).letters := by
    rw [same, Json.letters]
  obtain ⟨numeral, isNumber⟩ :=
    exists_isNumber_of_first (letters.trans shape) kind
  exact (isNumber.append_inj integer endsNumber_nil endsNumber_nil
    (congrArg (· ++ []) letters)).1

/-! ## Letters of numbers -/

/-- The letters that numbers are written with. -/
def numberMarks : List Char := ['-', '+', '.', 'e']

namespace Source.Numeral

variable {numeral : Numeral}

theorem mem_letters (written : numeral.IsWritten) {letter : Char}
    (member : letter ∈ numeral.letters) :
    letter.isDigit = true ∨ letter ∈ numberMarks := by
  obtain ⟨negative, whole, fraction, power?⟩ := numeral
  rw [letters, List.mem_append, List.mem_append] at member
  rcases member with (inWhole | inFraction) | inPower
  · exact Or.inl (written.whole_isDigit letter inWhole)
  · cases fraction with
    | nil => cases inFraction
    | cons first fraction =>
        rcases List.mem_cons.mp inFraction with rfl | digit
        · exact Or.inr (by decide)
        · exact Or.inl (written.fraction_isDigit letter digit)
  · cases power? with
    | none => cases inPower
    | some power =>
        rcases List.mem_cons.mp inPower with rfl | signed
        · exact Or.inr (by decide)
        · rcases List.mem_cons.mp signed with rfl | digit
          · split_ifs <;> exact Or.inr (by decide)
          · exact Or.inl (toDigits_isDigit _ letter digit)

theorem count_minus_of_digits {digits : List Char}
    (all : ∀ letter ∈ digits, letter.isDigit = true) :
    digits.count '-' = 0 :=
  List.count_eq_zero.mpr fun member => nomatch all '-' member

/-- At most one hyphen stands behind the sign of a number. -/
theorem count_minus_letters (written : numeral.IsWritten) :
    numeral.letters.count '-' ≤ 1 := by
  obtain ⟨negative, whole, fraction, power?⟩ := numeral
  have inWhole : whole.count '-' = 0 :=
    count_minus_of_digits written.whole_isDigit
  have inFraction : (fractionLetters fraction).count '-' = 0 := by
    cases fraction with
    | nil => rfl
    | cons first fraction =>
        rw [fractionLetters, List.count_cons,
          count_minus_of_digits written.fraction_isDigit]
        · rfl
        · exact List.cons_ne_nil first fraction
  have inPower : (exponentLetters power?).count '-' ≤ 1 := by
    cases power? with
    | none => exact Nat.zero_le _
    | some power =>
        rw [exponentLetters, powerLetters, List.count_cons, List.count_cons,
          count_minus_of_digits (toDigits_isDigit power.natAbs)]
        by_cases signed : power < 0 <;> simp [signed]
  show (whole ++ fractionLetters fraction ++ exponentLetters power?).count
    '-' ≤ 1
  rw [List.count_append, List.count_append, inWhole, inFraction]
  omega

end Source.Numeral

namespace IsNumber

variable {json : Json} {numeral : Numeral}

theorem mem_letters (isNumber : IsNumber json numeral) {letter : Char}
    (member : letter ∈ json.letters) :
    letter.isDigit = true ∨ letter ∈ numberMarks := by
  rw [isNumber.letters_eq, Numeral.signedLetters] at member
  split at member
  · rcases List.mem_cons.mp member with rfl | inside
    · exact Or.inr (by decide)
    · exact Numeral.mem_letters isNumber.isWritten inside
  · exact Numeral.mem_letters isNumber.isWritten member

theorem count_minus_le (isNumber : IsNumber json numeral) :
    json.letters.count '-' ≤ 2 := by
  have inside := Numeral.count_minus_letters isNumber.isWritten
  rw [isNumber.letters_eq, Numeral.signedLetters]
  split
  · rw [List.count_cons]
    simp
    omega
  · omega

end IsNumber

/-! ## Texts that are none -/

/-- Only a point or an exponent follows the first digits of a text. -/
theorem letters_ne_digits_minus (json : Json) {digits rest : List Char}
    (nonempty : digits ≠ []) (all : ∀ digit ∈ digits, digit.isDigit = true) :
    json.letters ≠ digits ++ '-' :: rest := by
  intro shape
  obtain ⟨first, more, rfl⟩ := List.exists_cons_of_ne_nil nonempty
  have isDigit := all first List.mem_cons_self
  obtain ⟨numeral, isNumber⟩ :=
    exists_isNumber_of_first shape (kindOf?_of_isDigit isDigit)
  have written := isNumber.isWritten
  rw [isNumber.letters_eq, Numeral.signedLetters] at shape
  split at shape
  · rw [List.cons_append, List.cons.injEq] at shape
    rw [← shape.1] at isDigit
    cases isDigit
  · -- what follows the digits of the text is no hyphen
    have ends :
        Undigited (Numeral.fractionLetters numeral.fraction ++
          Numeral.exponentLetters numeral.power?) := by
      have after :=
        Numeral.undigited_exponentLetters numeral.power? endsNumber_nil
      rw [List.append_nil] at after
      exact Numeral.undigited_fractionLetters numeral.fraction after
    rw [Numeral.letters, List.append_assoc] at shape
    have left := dropWhile_isDigit_append written.whole_isDigit ends
    have right :=
      dropWhile_isDigit_append all (undigited_cons rest (rfl : '-'.isDigit = false))
    rw [shape, right] at left
    cases fraction : numeral.fraction with
    | nil =>
        cases power : numeral.power? with
        | none => simp [fraction, power, Numeral.fractionLetters,
            Numeral.exponentLetters] at left
        | some power => simp [fraction, power, Numeral.fractionLetters,
            Numeral.exponentLetters] at left
    | cons digit fractionRest =>
        simp [fraction, Numeral.fractionLetters] at left

namespace Source.Numeral

/-- Digits behind a point have at most four zeros before them. -/
theorem letters_ofLayout_ne_zeros (negative : Bool) {digits : List Char}
    (nonempty : digits ≠ []) (led : digits.head? ≠ some '0') (point : Int)
    (rest : List Char) :
    (ofLayout negative digits point).letters ≠
      '0' :: '.' :: (List.replicate 5 '0' ++ rest) := by
  intro same
  obtain ⟨first, more, rfl⟩ := List.exists_cons_of_ne_nil nonempty
  have other : first ≠ '0' := fun zero => led (congrArg some zero)
  unfold ofLayout at same
  split_ifs at same with positional small short
  · obtain ⟨zeros, count⟩ :=
      Nat.exists_eq_add_of_lt (by omega : (-point).toNat < 5)
    rw [letters_of_fraction _ _
      (List.append_ne_nil_of_right_ne_nil _ nonempty), count, Nat.add_assoc,
      List.replicate_add, List.append_assoc, List.replicate_succ] at same
    exact other (List.cons.inj
      (List.append_cancel_left (List.cons.inj (List.cons.inj same).2).2)).1
  · exact other (List.cons.inj same).1
  · obtain ⟨before, count⟩ :=
      Nat.exists_eq_succ_of_ne_zero (by omega : point.toNat ≠ 0)
    rw [count] at same
    exact other (List.cons.inj same).1
  · exact other (List.cons.inj same).1

end Source.Numeral

/-- No text begins with a point and five zeros behind it. -/
theorem letters_ne_zeros (json : Json) (rest : List Char) :
    json.letters ≠ '0' :: '.' :: (List.replicate 5 '0' ++ rest) := by
  intro same
  obtain ⟨numeral, isNumber⟩ := exists_isNumber_of_first same rfl
  rcases isNumber with ⟨value, rfl, -⟩ |
    ⟨number, negative, significand, exponent, rfl, read, -⟩
  · have point : '.' ∈ (toString value).toList := by
      rw [letters] at same
      rw [same]
      exact List.mem_cons_of_mem _ List.mem_cons_self
    rcases isDecimal_toString value '.' point with digit | minus
    · cases digit
    · cases minus
  · rw [letters, ← Numeral.signedLetters_ofParts read,
      Numeral.signedLetters, Numeral.negative_ofParts] at same
    cases negative with
    | true => cases same
    | false =>
        rw [if_neg Bool.false_ne_true] at same
        unfold Numeral.ofParts at same
        split_ifs at same with zero
        · cases same
        · have positive :=
            (Double.isDouble_of_reading read).shortest_pos
              (Nat.pos_of_ne_zero zero) .even
          exact Numeral.letters_ofLayout_ne_zeros false Nat.toDigits_ne_nil
            (toDigits_head?_ne_zero
              (Decimal.digits_pos_of_toRat_pos positive)) _ rest same

end RecordQuery.Json
