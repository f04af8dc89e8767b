import RecordQuery.Proofs.Json.Numeral
import RecordQuery.Proofs.Json.Quoted

/-!
# Texts of JSON values

A value all of whose floating-point numbers are finite is known by its text.
Where two texts that begin with values agree, the values are the same and the
texts go on alike: the first letter tells the kind of a value, and each kind ends
by itself or where no number goes on.
-/

namespace RecordQuery.Json

open Number Source

/-- Whether all floating-point numbers of a value are finite. -/
inductive AllFinite : Json → Prop
  | null : AllFinite .null
  | bool (value : Bool) : AllFinite (.bool value)
  | integer (value : Int) : AllFinite (.integer value)
  | float {value : Double} (finite : value.isFinite = true) :
      AllFinite (.float value)
  | string (value : String) : AllFinite (.string value)
  | array {items : List Json} (all : ∀ item ∈ items, AllFinite item) :
      AllFinite (.array items)
  | object {members : List (String × Json)}
      (all : ∀ member ∈ members, AllFinite member.2) :
      AllFinite (.object members)

/-! ## Numbers -/

/-- Whether a value is a number that is written as the numeral. -/
def IsNumber (json : Json) (numeral : Numeral) : Prop :=
  (∃ value, json = .integer value ∧ numeral = .ofInt value) ∨
    ∃ number negative significand exponent, json = .float number ∧
      number.reading = .finite negative significand exponent ∧
        numeral = .ofParts negative significand exponent

theorem exists_isNumber_of_isFinite {number : Double}
    (finite : number.isFinite = true) :
    ∃ numeral, IsNumber (.float number) numeral := by
  obtain ⟨negative, significand, exponent, read⟩ :=
    Double.exists_reading_of_isFinite finite
  exact ⟨_, Or.inr ⟨number, negative, significand, exponent, rfl, read, rfl⟩⟩

namespace IsNumber

variable {json other : Json} {numeral : Numeral}

theorem isWritten (isNumber : IsNumber json numeral) : numeral.IsWritten := by
  rcases isNumber with
    ⟨value, -, rfl⟩ | ⟨number, negative, _, _, -, read, rfl⟩
  · exact Numeral.isWritten_ofInt value
  · exact Numeral.isWritten_ofParts negative (Double.isDouble_of_reading read)

theorem letters_eq (isNumber : IsNumber json numeral) :
    json.letters = numeral.signedLetters := by
  rcases isNumber with ⟨value, rfl, rfl⟩ | ⟨number, _, _, _, rfl, read, rfl⟩
  · rw [letters, Numeral.signedLetters_ofInt]
  · rw [letters, Numeral.signedLetters_ofParts read]

/-- A numeral is that of one value. -/
theorem unique (isNumber : IsNumber json numeral)
    (isOther : IsNumber other numeral) : json = other := by
  rcases isNumber with
    ⟨value, rfl, rfl⟩ | ⟨number, negative, _, _, rfl, read, rfl⟩
  · rcases isOther with
      ⟨otherValue, rfl, same⟩ | ⟨_, _, _, _, rfl, _, same⟩
    · rw [Numeral.ofInt_injective same]
    · exact (Numeral.ofParts_ne_ofInt _ _ same.symm).elim
  · rcases isOther with
      ⟨_, rfl, same⟩ | ⟨otherNumber, _, _, _, rfl, otherRead, same⟩
    · exact (Numeral.ofParts_ne_ofInt _ _ same).elim
    · obtain ⟨rfl, rfl, rfl⟩ :=
        Numeral.ofParts_inj (Double.isDouble_of_reading read)
          (Double.isDouble_of_reading otherRead) same
      rw [Double.eq_of_reading read otherRead]

theorem append_inj {otherNumeral : Numeral} {rest otherRest : List Char}
    (isNumber : IsNumber json numeral) (isOther : IsNumber other otherNumeral)
    (ends : EndsNumber rest) (otherEnds : EndsNumber otherRest)
    (same : json.letters ++ rest = other.letters ++ otherRest) :
    json = other ∧ rest = otherRest := by
  rw [isNumber.letters_eq, isOther.letters_eq] at same
  obtain ⟨rfl, rests⟩ :=
    Numeral.signedLetters_append_inj isNumber.isWritten isOther.isWritten ends
      otherEnds same
  exact ⟨isNumber.unique isOther, rests⟩

end IsNumber

/-! ## Kinds -/

inductive Kind where
  | null
  | true
  | false
  | number
  | string
  | array
  | object
deriving DecidableEq

def kind : Json → Kind
  | .null => .null
  | .bool true => .true
  | .bool false => .false
  | .integer _ => .number
  | .float _ => .number
  | .string _ => .string
  | .array _ => .array
  | .object _ => .object

section Kind

variable {json : Json}

theorem eq_null_of_kind (same : json.kind = .null) : json = .null := by
  cases json with
  | null => rfl
  | bool value => cases value <;> cases same
  | _ => cases same

theorem eq_bool_of_kind {value : Bool}
    (same : json.kind = (Json.bool value).kind) : json = .bool value := by
  cases json with
  | bool other => cases other <;> cases value <;> first | rfl | cases same
  | _ => cases value <;> cases same

theorem exists_isNumber_of_kind (finite : json.AllFinite)
    (same : json.kind = .number) : ∃ numeral, IsNumber json numeral := by
  cases finite with
  | integer value => exact ⟨_, Or.inl ⟨value, rfl, rfl⟩⟩
  | float finite => exact exists_isNumber_of_isFinite finite
  | bool value => cases value <;> cases same
  | _ => cases same

theorem exists_string_of_kind (same : json.kind = .string) :
    ∃ value, json = .string value := by
  cases json with
  | string value => exact ⟨value, rfl⟩
  | bool value => cases value <;> cases same
  | _ => cases same

theorem exists_array_of_kind (same : json.kind = .array) :
    ∃ items, json = .array items := by
  cases json with
  | array items => exact ⟨items, rfl⟩
  | bool value => cases value <;> cases same
  | _ => cases same

theorem exists_object_of_kind (same : json.kind = .object) :
    ∃ members, json = .object members := by
  cases json with
  | object members => exact ⟨members, rfl⟩
  | bool value => cases value <;> cases same
  | _ => cases same

end Kind

/-- The kind of the values that begin with a letter. -/
def kindOf? (first : Char) : Option Kind :=
  if first.isDigit ∨ first = '-' then some .number
  else if first = 'n' then some .null
  else if first = 't' then some .true
  else if first = 'f' then some .false
  else if first = '"' then some .string
  else if first = '[' then some .array
  else if first = '\x7b' then some .object
  else none

theorem kindOf?_of_isDigit {first : Char} (isDigit : first.isDigit = true) :
    kindOf? first = some .number :=
  if_pos (Or.inl isDigit)

theorem exists_signedLetters_eq_cons {numeral : Numeral}
    (written : numeral.IsWritten) :
    ∃ first rest, numeral.signedLetters = first :: rest ∧
      kindOf? first = some .number := by
  unfold Numeral.signedLetters
  by_cases negative : numeral.negative = true
  · rw [if_pos negative]
    exact ⟨'-', _, rfl, rfl⟩
  · obtain ⟨first, rest, shape, isDigit⟩ :=
      Numeral.exists_letters_eq_cons written
    rw [if_neg negative]
    exact ⟨first, rest, shape, kindOf?_of_isDigit isDigit⟩

theorem exists_letters_of_isNumber {json : Json} {numeral : Numeral}
    (isNumber : IsNumber json numeral) :
    ∃ first rest, json.letters = first :: rest ∧
      kindOf? first = some .number := by
  rw [isNumber.letters_eq]
  exact exists_signedLetters_eq_cons isNumber.isWritten

/-- The first letter of a text tells the kind of the value. -/
theorem exists_letters_eq_cons {json : Json} (finite : json.AllFinite) :
    ∃ first rest, json.letters = first :: rest ∧
      kindOf? first = some json.kind := by
  cases finite with
  | null => exact ⟨'n', _, by rw [letters], rfl⟩
  | bool value =>
      cases value with
      | true => exact ⟨'t', _, by rw [letters], rfl⟩
      | false => exact ⟨'f', _, by rw [letters], rfl⟩
  | integer value =>
      exact exists_letters_of_isNumber (Or.inl ⟨value, rfl, rfl⟩)
  | float finite =>
      obtain ⟨numeral, isNumber⟩ := exists_isNumber_of_isFinite finite
      exact exists_letters_of_isNumber isNumber
  | string value => exact ⟨'"', _, by rw [letters, quoted], rfl⟩
  | array all => exact ⟨'[', _, by rw [letters], rfl⟩
  | object all => exact ⟨'\x7b', _, by rw [letters], rfl⟩

theorem kind_eq_of_append_eq {left right : Json} {rest otherRest : List Char}
    (leftFinite : left.AllFinite) (rightFinite : right.AllFinite)
    (same : left.letters ++ rest = right.letters ++ otherRest) :
    left.kind = right.kind := by
  obtain ⟨first, more, shape, kind⟩ := exists_letters_eq_cons leftFinite
  obtain ⟨otherFirst, otherMore, otherShape, otherKind⟩ :=
    exists_letters_eq_cons rightFinite
  rw [shape, otherShape, List.cons_append, List.cons_append,
    List.cons.injEq] at same
  rw [same.1, otherKind, Option.some.injEq] at kind
  exact kind.symm

/-! ## Lists with commas -/

/-- The texts of items with commas between them. -/
def separated {α : Type} (print : α → List Char) : List α → List Char
  | [] => []
  | [item] => print item
  | item :: next :: rest => print item ++ ',' :: separated print (next :: rest)

theorem itemLetters_eq (items : List Json) :
    itemLetters items = separated letters items := by
  induction items with
  | nil => rw [itemLetters, separated]
  | cons item items inductionHypothesis =>
      cases items with
      | nil => rw [itemLetters, separated]
      | cons next items =>
          rw [itemLetters, separated, inductionHypothesis]

/-- A member's name and value. -/
def printMember (member : String × Json) : List Char :=
  quoted member.1 ++ ':' :: letters member.2

theorem memberLetters_eq (members : List (String × Json)) :
    memberLetters members = separated printMember members := by
  induction members with
  | nil => rw [memberLetters, separated]
  | cons member members inductionHypothesis =>
      obtain ⟨name, value⟩ := member
      cases members with
      | nil =>
          rw [memberLetters, separated, printMember]
      | cons next members =>
          rw [memberLetters, separated, inductionHypothesis, printMember,
            List.append_assoc, List.cons_append]

section Separated

variable {α : Type} {print : α → List Char} {close : Char}

/-- What follows an item: the bracket that closes the list, or a comma and the
further items. -/
def continued (print : α → List Char) (close : Char) :
    List α → List Char → List Char
  | [], rest => close :: rest
  | item :: items, rest =>
    ',' :: (separated print (item :: items) ++ close :: rest)

theorem separated_cons_append (item : α) (items : List α) (rest : List Char) :
    separated print (item :: items) ++ close :: rest =
      print item ++ continued print close items rest := by
  cases items with
  | nil => rfl
  | cons next items =>
      rw [separated, continued, List.append_assoc, List.cons_append]

theorem endsNumber_continued (closes : EndsNumber [close]) (items : List α)
    (rest : List Char) : EndsNumber (continued print close items rest) := by
  cases items with
  | nil => exact closes
  | cons item items => exact endsNumber_cons _ (by decide)

/-- Whether the text of an item shows where it ends. -/
def PrintsApart (print : α → List Char) (item other : α) : Prop :=
  ∀ {rest otherRest : List Char}, EndsNumber rest → EndsNumber otherRest →
    print item ++ rest = print other ++ otherRest →
      item = other ∧ rest = otherRest

/-- Lists of items that are told apart are told apart where they close. -/
theorem separated_append_inj (closes : EndsNumber [close])
    (notComma : close ≠ ',') {items : List α} :
    ∀ {others : List α} {rest otherRest : List Char},
      (∀ item ∈ items, ∀ other ∈ others, PrintsApart print item other) →
      (∀ item, item ∈ items ∨ item ∈ others →
        ∀ more before, print item ++ more ≠ close :: before) →
      separated print items ++ close :: rest =
        separated print others ++ close :: otherRest →
      items = others ∧ rest = otherRest := by
  induction items with
  | nil =>
      intro others rest otherRest apart opens same
      cases others with
      | nil => exact ⟨rfl, (List.cons.inj same).2⟩
      | cons other others =>
          rw [separated_cons_append] at same
          exact (opens other (Or.inr List.mem_cons_self) _ _ same.symm).elim
  | cons item items inductionHypothesis =>
      intro others rest otherRest apart opens same
      cases others with
      | nil =>
          rw [separated_cons_append] at same
          exact (opens item (Or.inl List.mem_cons_self) _ _ same).elim
      | cons other others =>
          rw [separated_cons_append, separated_cons_append] at same
          obtain ⟨rfl, following⟩ :=
            apart item List.mem_cons_self other List.mem_cons_self
              (endsNumber_continued closes items rest)
              (endsNumber_continued closes others otherRest) same
          cases items with
          | nil =>
              cases others with
              | nil => exact ⟨rfl, (List.cons.inj following).2⟩
              | cons next others =>
                  exact (notComma (List.cons.inj following).1).elim
          | cons next items =>
              cases others with
              | nil => exact (notComma (List.cons.inj following).1.symm).elim
              | cons otherNext others =>
                  obtain ⟨same, rests⟩ :=
                    inductionHypothesis
                      (fun item member other otherMember =>
                        apart item (List.mem_cons_of_mem _ member) other
                          (List.mem_cons_of_mem _ otherMember))
                      (fun item member =>
                        opens item
                          (member.imp (List.mem_cons_of_mem _)
                            (List.mem_cons_of_mem _)))
                      (List.cons.inj following).2
                  rw [same]
                  exact ⟨rfl, rests⟩

end Separated

/-! ## Values -/

theorem letters_append_ne_of_kindOf? {json : Json} {close : Char}
    (finite : json.AllFinite) (closing : kindOf? close = none)
    (rest other : List Char) : json.letters ++ rest ≠ close :: other := by
  obtain ⟨first, more, shape, kind⟩ := exists_letters_eq_cons finite
  rw [shape, List.cons_append]
  intro same
  rw [(List.cons.inj same).1, closing] at kind
  cases kind

theorem printsApart_member {member other : String × Json}
    (apart : PrintsApart letters member.2 other.2) :
    PrintsApart printMember member other := by
  intro rest otherRest ends otherEnds same
  rw [printMember, printMember, List.append_assoc, List.append_assoc] at same
  obtain ⟨names, following⟩ := quoted_append_inj same
  obtain ⟨values, rests⟩ :=
    apart ends otherEnds (List.cons.inj following).2
  exact ⟨Prod.ext names values, rests⟩

/-- Texts that begin alike begin with one value and go on alike. -/
theorem letters_append_inj {left : Json} (leftFinite : left.AllFinite) :
    ∀ {right : Json}, right.AllFinite → PrintsApart letters left right := by
  have bracket : EndsNumber [']'] := endsNumber_cons [] (by decide)
  have brace : EndsNumber ['\x7d'] := endsNumber_cons [] (by decide)
  induction leftFinite with
  | null =>
      intro right finite rest otherRest _ _ same
      have kinds := kind_eq_of_append_eq .null finite same
      obtain rfl := eq_null_of_kind kinds.symm
      exact ⟨rfl, List.append_cancel_left same⟩
  | bool value =>
      intro right finite rest otherRest _ _ same
      have kinds := kind_eq_of_append_eq (.bool value) finite same
      obtain rfl := eq_bool_of_kind kinds.symm
      exact ⟨rfl, List.append_cancel_left same⟩
  | integer value =>
      intro right finite rest otherRest ends otherEnds same
      have kinds := kind_eq_of_append_eq (.integer value) finite same
      obtain ⟨numeral, isNumber⟩ := exists_isNumber_of_kind finite kinds.symm
      exact IsNumber.append_inj (Or.inl ⟨value, rfl, rfl⟩) isNumber ends
        otherEnds same
  | float leftFinite =>
      intro right finite rest otherRest ends otherEnds same
      have kinds := kind_eq_of_append_eq (.float leftFinite) finite same
      obtain ⟨numeral, isNumber⟩ := exists_isNumber_of_kind finite kinds.symm
      obtain ⟨leftNumeral, isLeft⟩ := exists_isNumber_of_isFinite leftFinite
      exact isLeft.append_inj isNumber ends otherEnds same
  | string value =>
      intro right finite rest otherRest _ _ same
      have kinds := kind_eq_of_append_eq (.string value) finite same
      obtain ⟨other, rfl⟩ := exists_string_of_kind kinds.symm
      rw [letters, letters] at same
      obtain ⟨rfl, rests⟩ := quoted_append_inj same
      exact ⟨rfl, rests⟩
  | array all inductionHypothesis =>
      intro right finite rest otherRest _ _ same
      have kinds := kind_eq_of_append_eq (.array all) finite same
      obtain ⟨others, rfl⟩ := exists_array_of_kind kinds.symm
      rcases finite with _ | _ | _ | _ | _ | othersAll | _
      rw [letters, letters, itemLetters_eq, itemLetters_eq, List.cons_append,
        List.cons_append, List.append_assoc, List.append_assoc] at same
      obtain ⟨items, rests⟩ :=
        separated_append_inj bracket (by decide)
          (fun item member other otherMember =>
            inductionHypothesis item member (othersAll other otherMember))
          (fun item member =>
            letters_append_ne_of_kindOf?
              (member.elim (all item) (othersAll item)) rfl)
          (List.cons.inj same).2
      rw [items]
      exact ⟨rfl, rests⟩
  | object all inductionHypothesis =>
      intro right finite rest otherRest _ _ same
      have kinds := kind_eq_of_append_eq (.object all) finite same
      obtain ⟨others, rfl⟩ := exists_object_of_kind kinds.symm
      rcases finite with _ | _ | _ | _ | _ | _ | othersAll
      rw [letters, letters, memberLetters_eq, memberLetters_eq,
        List.cons_append, List.cons_append, List.append_assoc,
        List.append_assoc] at same
      obtain ⟨members, rests⟩ :=
        separated_append_inj brace (by decide)
          (fun member held other otherHeld =>
            printsApart_member
              (inductionHypothesis member held (othersAll other otherHeld)))
          (fun _ _ _ _ led => nomatch (List.cons.inj led).1)
          (List.cons.inj same).2
      rw [members]
      exact ⟨rfl, rests⟩

/-- A value whose floating-point numbers are finite is known by its text. -/
theorem text_inj {left right : Json} (leftFinite : left.AllFinite)
    (rightFinite : right.AllFinite) :
    left.text = right.text ↔ left = right := by
  constructor
  · intro same
    have letters : left.letters = right.letters := String.ofList_injective same
    exact (letters_append_inj leftFinite rightFinite endsNumber_nil
      endsNumber_nil (congrArg (· ++ []) letters)).1
  · rintro rfl
    rfl

end RecordQuery.Json
