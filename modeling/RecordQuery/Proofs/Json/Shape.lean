import RecordQuery.Proofs.Json.Letters

/-!
# What the text of a JSON value is read as

The text of a value has the shape of the value: arrays and objects come back
item by item and member by member, strings as they are, and a number as what
its numeral stands for.
-/

namespace RecordQuery.Json

open Number Source

/-- Induction over the items of arrays and the members of objects. -/
theorem induction {motive : Json → Prop} (null : motive .null)
    (bool : ∀ value, motive (.bool value))
    (integer : ∀ value, motive (.integer value))
    (float : ∀ value, motive (.float value))
    (string : ∀ value, motive (.string value))
    (array : ∀ items, (∀ item ∈ items, motive item) → motive (.array items))
    (object : ∀ members, (∀ member ∈ members, motive member.2) →
      motive (.object members)) : ∀ json, motive json :=
  @Json.rec motive (fun items => ∀ item ∈ items, motive item)
    (fun members => ∀ member ∈ members, motive member.2)
    (fun member => motive member.2)
    null bool integer float string array object
    nofun
    (fun _ _ first others => List.forall_mem_cons.mpr ⟨first, others⟩)
    nofun
    (fun _ _ first others => List.forall_mem_cons.mpr ⟨first, others⟩)
    (fun _ _ held => held)

/-! ## Shapes of values -/

/-- A floating-point number comes back as what its numeral stands for, or as
null if it has none. -/
def floatSource (number : Double) : Source :=
  match number.reading with
  | .finite negative significand exponent =>
    .number (Numeral.ofParts negative significand exponent).value?
  | _ => .null

mutual

/-- The shape of a value's text. -/
def source : Json → Source
  | .null => .null
  | .bool value => .bool value
  | .integer value => .number (Numeral.ofInt value).value?
  | .float value => floatSource value
  | .string value => .string (some value)
  | .array items => .array (itemSources items)
  | .object members => .object (memberSources members)

def itemSources : List Json → List Source
  | [] => []
  | item :: rest => source item :: itemSources rest

def memberSources : List (String × Json) → List (Option String × Source)
  | [] => []
  | (name, value) :: rest => (some name, source value) :: memberSources rest

end

/-! ## Reading -/

/-- Whether the text of a value is read as a shape wherever it stands, given two
calls for each letter. -/
def ReadsAs (json : Json) (shape : Source) : Prop :=
  ∀ (calls : Nat) (rest : List Char), EndsNumber rest →
    2 * json.letters.length ≤ calls →
      value? calls (json.letters ++ rest) = some (shape, rest)

theorem skip_cons (kind : Kind) {first : Char} {rest : List Char}
    (found : kindOf? first = some kind) :
    skip (first :: rest) = first :: rest := by
  have shown :
      (first == ' ' || first == '\n' || first == '\t' || first == '\r') =
        false := by
    by_contra blank
    simp only [Bool.not_eq_false, Bool.or_eq_true, beq_iff_eq] at blank
    rcases blank with ((rfl | rfl) | rfl) | rfl <;> cases found
  rw [skip, List.dropWhile_cons, shown]
  rfl

theorem skip_letters (json : Json) (rest : List Char) :
    skip (json.letters ++ rest) = json.letters ++ rest := by
  obtain ⟨first, more, kind, shape, found⟩ := exists_kindOf?_letters json
  rw [shape, List.cons_append, skip_cons kind found]

theorem value?_of_isDigit {first : Char} {rest : List Char}
    (isDigit : first.isDigit = true) (calls : Nat) :
    value? (calls + 1) (first :: rest) =
      (numeral? false (first :: rest)).map fun (numeral, rest) =>
        (.number numeral.value?, rest) := by
  rw [value?, skip_cons .number (kindOf?_of_isDigit isDigit)]
  split <;> first
    | rfl
    | next shape => cases shape; cases isDigit

theorem letters_append_ne (json : Json) {close : Char}
    (closing : kindOf? close = none) (rest other : List Char) :
    json.letters ++ rest ≠ close :: other := by
  obtain ⟨first, more, kind, shape, found⟩ := exists_kindOf?_letters json
  rw [shape, List.cons_append]
  intro same
  rw [(List.cons.inj same).1, closing] at found
  cases found

theorem readsAs_of_isNumber {json : Json} {numeral : Numeral}
    (isNumber : IsNumber json numeral) :
    ReadsAs json (.number numeral.value?) := by
  intro calls rest ends enough
  have written := isNumber.isWritten
  have read := Numeral.numeral?_letters written ends
  obtain ⟨first, more, shape, isDigit⟩ :=
    Numeral.exists_letters_eq_cons written
  cases calls with
  | zero =>
      obtain ⟨letter, others, kind, led, -⟩ := exists_kindOf?_letters json
      rw [led, List.length_cons] at enough
      omega
  | succ calls =>
      rw [isNumber.letters_eq, Numeral.signedLetters]
      cases negative : numeral.negative with
      | true =>
          rw [negative] at read
          rw [if_pos rfl, List.cons_append, value?, skip_cons .number rfl]
          simp only [read, Option.map_some]
      | false =>
          rw [negative] at read
          rw [if_neg Bool.false_ne_true, shape, List.cons_append,
            value?_of_isDigit isDigit, ← List.cons_append, ← shape, read,
            Option.map_some]

/-- A word is read as what it stands for. -/
theorem readsAs_of_word {json : Json} {shape : Source}
    (read : ∀ (calls : Nat) (rest : List Char),
      value? (calls + 1) (json.letters ++ rest) = some (shape, rest)) :
    ReadsAs json shape := by
  intro calls rest _ enough
  obtain ⟨first, more, kind, led, -⟩ := exists_kindOf?_letters json
  rw [led, List.length_cons] at enough
  obtain ⟨calls, rfl⟩ := Nat.exists_eq_add_of_le' (by omega : 1 ≤ calls)
  exact read calls rest

theorem readsAs_float (number : Double) :
    ReadsAs (.float number) (floatSource number) := by
  cases finite : number.isFinite with
  | true =>
      obtain ⟨negative, significand, exponent, read⟩ :=
        Double.exists_reading_of_isFinite finite
      have shape : floatSource number =
          .number (Numeral.ofParts negative significand exponent).value? := by
        rw [floatSource, read]
      rw [shape]
      exact readsAs_of_isNumber
        (Or.inr ⟨number, negative, significand, exponent, rfl, read, rfl⟩)
  | false =>
      have shape : floatSource number = .null := by
        rw [Double.isFinite] at finite
        rw [floatSource]
        cases read : number.reading with
        | finite => simp [read] at finite
        | infinite negative => rfl
        | notANumber => rfl
      rw [shape]
      refine readsAs_of_word fun calls rest => ?_
      rw [letters_float_of_not_finite finite]
      rfl

theorem readsAs_string (value : String) :
    ReadsAs (.string value) (.string (some value)) := by
  refine readsAs_of_word fun calls rest => ?_
  have read := string?_quoted value rest
  rw [letters, quoted, List.cons_append, List.append_assoc,
    List.singleton_append, value?, skip_cons .string rfl]
  simp only [read, Option.map_some]

section Lists

variable (rest : List Char)

/-- The items of an array are read one after another up to its bracket. -/
theorem items?_letters {items : List Json} :
    ∀ {item : Json} {calls : Nat},
      (∀ next ∈ item :: items, ReadsAs next next.source) →
      2 * (separated letters (item :: items)).length ≤ calls →
      items? (calls + 1) (item.letters ++ continued letters ']' items rest) =
        some (itemSources (item :: items), rest) := by
  have bracket : EndsNumber [']'] := endsNumber_cons [] (by decide)
  induction items with
  | nil =>
      intro item calls all enough
      have first : value? calls
          (item.letters ++ continued letters ']' [] rest) =
            some (item.source, ']' :: rest) :=
        all item List.mem_cons_self calls (']' :: rest)
          (endsNumber_cons rest (by decide)) enough
      rw [items?, first]
      rfl
  | cons next items inductionHypothesis =>
      intro item calls all enough
      rw [separated, List.length_append, List.length_cons] at enough
      obtain ⟨calls, rfl⟩ := Nat.exists_eq_add_of_le' (by omega : 1 ≤ calls)
      have first : value? (calls + 1)
          (item.letters ++ continued letters ']' (next :: items) rest) =
            some (item.source, continued letters ']' (next :: items) rest) :=
        all item List.mem_cons_self (calls + 1) _
          (endsNumber_continued bracket (next :: items) rest) (by omega)
      have others := inductionHypothesis
        (fun other member => all other (List.mem_cons_of_mem _ member))
        (by omega : 2 * (separated letters (next :: items)).length ≤ calls)
      rw [items?, first, continued, separated_cons_append]
      show (items? (calls + 1)
        (next.letters ++ continued letters ']' items rest)).map _ = _
      rw [others]
      rfl

theorem value?_bracket (calls : Nat) {letters : List Char}
    (nonempty : ∀ other, skip letters ≠ ']' :: other) :
    value? (calls + 1) ('[' :: letters) =
      (items? calls (skip letters)).map fun (items, rest) =>
        (.array items, rest) := by
  rw [value?, skip_cons .array rfl]
  -- By `nonempty` the letters do not match an empty array.
  simp only

theorem value?_brace (calls : Nat) {letters : List Char}
    (nonempty : ∀ other, skip letters ≠ '\x7d' :: other) :
    value? (calls + 1) ('\x7b' :: letters) =
      (members? calls (skip letters)).map fun (members, rest) =>
        (.object members, rest) := by
  rw [value?, skip_cons .object rfl]
  -- By `nonempty` the letters do not match an empty object.
  simp only

theorem readsAs_array {items : List Json}
    (all : ∀ item ∈ items, ReadsAs item item.source) :
    ReadsAs (.array items) (.array (itemSources items)) := by
  cases items with
  | nil =>
      refine readsAs_of_word fun calls rest => ?_
      rw [letters, itemLetters]
      rfl
  | cons item items =>
      intro calls rest _ enough
      rw [letters, itemLetters_eq, List.length_cons,
        List.length_append] at enough
      obtain ⟨calls, rfl⟩ := Nat.exists_eq_add_of_le' (by omega : 2 ≤ calls)
      have read := items?_letters rest all
        (by omega : 2 * (separated letters (item :: items)).length ≤ calls)
      rw [letters, itemLetters_eq, List.cons_append, List.append_assoc,
        List.singleton_append, separated_cons_append, value?_bracket,
        skip_letters, read, Option.map_some]
      intro other
      rw [skip_letters]
      exact letters_append_ne item rfl _ other

/-- What is read behind a member: others, or the brace. -/
def readBehind (calls : Nat) (member : Option String × Source)
    (after : List Char) :
    Option (List (Option String × Source) × List Char) :=
  match skip after with
  | ',' :: after =>
    (members? calls after).map fun (members, rest) => (member :: members, rest)
  | '\x7d' :: after => some ([member], after)
  | _ => none

/-- A member is read up to what stands behind its value. -/
theorem members?_printMember {member : String × Json} {calls : Nat}
    {after : List Char} (read : ReadsAs member.2 member.2.source)
    (ends : EndsNumber after)
    (enough : 2 * (printMember member).length ≤ calls) :
    members? (calls + 1) (printMember member ++ after) =
      readBehind calls (some member.1, member.2.source) after := by
  obtain ⟨name, value⟩ := member
  simp only [printMember, List.length_append, List.length_cons] at enough
  have named := string?_quoted name (':' :: (value.letters ++ after))
  have valued : value? calls (value.letters ++ after) =
      some (value.source, after) :=
    read calls after ends (by simp only; omega)
  rw [printMember, quoted, List.cons_append, List.cons_append,
    List.append_assoc, List.append_assoc, List.singleton_append,
    List.cons_append, members?, skip_cons .string rfl]
  simp only [named]
  rw [show skip (':' :: (value.letters ++ after)) =
    ':' :: (value.letters ++ after) from rfl]
  simp only [valued]
  rfl

/-- The members of an object are read one after another up to its brace. -/
theorem members?_letters {members : List (String × Json)} :
    ∀ {member : String × Json} {calls : Nat},
      (∀ next ∈ member :: members, ReadsAs next.2 next.2.source) →
      2 * (separated printMember (member :: members)).length ≤ calls →
      members? (calls + 1)
          (printMember member ++ continued printMember '\x7d' members rest) =
        some (memberSources (member :: members), rest) := by
  have brace : EndsNumber ['\x7d'] := endsNumber_cons [] (by decide)
  induction members with
  | nil =>
      intro member calls all enough
      rw [members?_printMember (all member List.mem_cons_self)
        (endsNumber_continued brace [] rest) enough]
      rfl
  | cons next members inductionHypothesis =>
      intro member calls all enough
      rw [separated, List.length_append, List.length_cons] at enough
      obtain ⟨calls, rfl⟩ := Nat.exists_eq_add_of_le' (by omega : 1 ≤ calls)
      have others := inductionHypothesis
        (fun other within => all other (List.mem_cons_of_mem _ within))
        (by omega :
          2 * (separated printMember (next :: members)).length ≤ calls)
      rw [members?_printMember (all member List.mem_cons_self)
        (endsNumber_continued brace (next :: members) rest) (by omega),
        continued, separated_cons_append]
      show (members? (calls + 1)
        (printMember next ++
          continued printMember '\x7d' members rest)).map _ = _
      rw [others]
      rfl

theorem readsAs_object {members : List (String × Json)}
    (all : ∀ member ∈ members, ReadsAs member.2 member.2.source) :
    ReadsAs (.object members) (.object (memberSources members)) := by
  cases members with
  | nil =>
      refine readsAs_of_word fun calls rest => ?_
      rw [letters, memberLetters]
      rfl
  | cons member members =>
      intro calls rest _ enough
      rw [letters, memberLetters_eq, List.length_cons,
        List.length_append] at enough
      obtain ⟨calls, rfl⟩ := Nat.exists_eq_add_of_le' (by omega : 2 ≤ calls)
      have read := members?_letters rest all
        (by omega :
          2 * (separated printMember (member :: members)).length ≤ calls)
      have led (after : List Char) :
          skip (printMember member ++ after) = printMember member ++ after :=
        skip_cons .string rfl
      rw [letters, memberLetters_eq, List.cons_append, List.append_assoc,
        List.singleton_append, separated_cons_append, value?_brace, led, read,
        Option.map_some]
      intro other
      rw [led]
      intro same
      cases same

end Lists

/-- The text of a value is read as its shape. -/
theorem readsAs_source (json : Json) : ReadsAs json json.source := by
  induction json using induction with
  | null =>
      refine readsAs_of_word fun calls rest => ?_
      rw [letters]
      rfl
  | bool value =>
      refine readsAs_of_word fun calls rest => ?_
      cases value <;> · rw [letters]; rfl
  | integer value =>
      rw [source]
      exact readsAs_of_isNumber (Or.inl ⟨value, rfl, rfl⟩)
  | float value =>
      rw [source]
      exact readsAs_float value
  | string value =>
      rw [source]
      exact readsAs_string value
  | array items inductionHypothesis =>
      rw [source]
      exact readsAs_array inductionHypothesis
  | object members inductionHypothesis =>
      rw [source]
      exact readsAs_object inductionHypothesis

theorem source_ofText?_text (json : Json) :
    Source.ofText? json.text = some json.source := by
  have read := readsAs_source json (2 * json.letters.length + 2) []
    endsNumber_nil (by omega)
  rw [List.append_nil] at read
  rw [Source.ofText?, toList_text]
  simp only [read]
  rfl

/-- What the text of a value is read as: nothing if it nests too deep, else what
its shape stands for. -/
theorem ofText?_text_eq (json : Json) :
    ofText? json.text =
      if json.source.depth ≤ maxDepth then json.source.json? else none := by
  rw [ofText?, source_ofText?_text]

end RecordQuery.Json
