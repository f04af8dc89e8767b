import RecordQuery.Proofs.Instance.Index
import RecordQuery.Proofs.Instant.Reading
import RecordQuery.Proofs.Json.Text
import RecordQuery.Proofs.Loading.Batch
import RecordQuery.Proofs.Text.Utf8
import RecordQuery.Proofs.Uuid

/-!
# Keys of values

The key of a value tells it from the other values of its kind, unless the value
is a floating-point number, or a byte string that is no text or one with the
replacement character in it.  Texts that name one instant count as one value.  A
value that is told apart is asked for in each batch, and the rows that a batch
finds under it are its own.
-/

namespace RecordQuery

open Text

namespace Value

/-- What holds of each value by the types that it is made of: instants lie in
their range, and the numbers in JSON are finite. -/
def IsWellFormed : Value → Prop
  | .instant value => value.IsRepresentable
  | .json value => value.AllFinite
  | _ => True

/-- Whether a value is neither NULL nor a floating-point number. -/
def IsExact : Value → Prop
  | .null => False
  | .float _ => False
  | _ => True

/-- Whether two values of one kind are the same join key: the same value, one
instant for instants, and for texts one text or two spellings of one instant. -/
def SameKey : Value → Value → Prop
  | .instant left, .instant right => left.settled = right.settled
  | .text left, .text right =>
    left = right ∨ ∃ moment, Instant.ofText? left = some moment ∧
      Instant.ofText? right = some moment
  | left, right => left = right

/-- Whether a byte string encodes a text without replacement characters; other
values have no bytes that could be broken. -/
def IsIntact : Value → Prop
  | .bytes value => Utf8.IsIntact value
  | _ => True

/-! ## Texts and instants -/

theorem textKey_cases (text : String) :
    textKey text = text ∨
      ∃ moment, Instant.ofText? text = some moment ∧
        textKey text = moment.text := by
  unfold textKey
  split
  · cases read : Instant.ofText? text with
    | none => exact Or.inl rfl
    | some moment => exact Or.inr ⟨moment, rfl, rfl⟩
  · exact Or.inl rfl

/-- The text of a moment names it. -/
theorem ofText?_text_of_read {text : String} {moment : Instant}
    (read : Instant.ofText? text = some moment) :
    Instant.ofText? moment.text = some moment :=
  Instant.ofText?_text (Instant.isValid_ofText? read)

theorem sameKey_text_of_textKey {left right : String}
    (same : textKey left = textKey right) :
    SameKey (.text left) (.text right) := by
  rcases textKey_cases left with leftSelf | ⟨moment, leftRead, leftKey⟩
  · rcases textKey_cases right with rightSelf | ⟨moment, rightRead, rightKey⟩
    · rw [leftSelf, rightSelf] at same
      exact Or.inl same
    · rw [leftSelf, rightKey] at same
      rw [same]
      exact Or.inr ⟨moment, ofText?_text_of_read rightRead, rightRead⟩
  · rcases textKey_cases right with rightSelf | ⟨other, rightRead, rightKey⟩
    · rw [leftKey, rightSelf] at same
      rw [← same]
      exact Or.inr ⟨moment, leftRead, ofText?_text_of_read leftRead⟩
    · rw [leftKey, rightKey] at same
      have moments :=
        Instant.text_inj_of_isValid (Instant.isValid_ofText? leftRead)
          (Instant.isValid_ofText? rightRead) same
      rw [← moments] at rightRead
      exact Or.inr ⟨moment, leftRead, rightRead⟩

/-! ## Values of one kind -/

theorem uuid_text_inj {left right : Uuid} (same : left.text = right.text) :
    left = right := by
  have read := Uuid.ofText?_text left
  rw [same, Uuid.ofText?_text, Option.some.injEq] at read
  exact read.symm

theorem int_key_inj {left right : Int64}
    (same : toString left.toInt = toString right.toInt) : left = right :=
  Int64.toInt_inj.mp (toString_injective same)

theorem bool_key_inj {left right : Bool}
    (same : (if left then "1" else "0") = if right then "1" else "0") :
    left = right := by
  cases left <;> cases right <;> first | rfl | exact absurd same (by decide)

/-- Well-formed values of one kind with one key are the same join key, if one of
them is intact. -/
theorem sameKey_of_indexKey {value other : Value}
    (wellFormed : value.IsWellFormed) (exact : value.IsExact)
    (intact : value.IsIntact) (otherFormed : other.IsWellFormed)
    (kinds : other.typeName = value.typeName)
    (keys : other.indexKey = value.indexKey) : SameKey other value := by
  cases value with
  | null => exact exact.elim
  | float value => exact exact.elim
  | bool value =>
      cases other with
      | bool other =>
          exact congrArg Value.bool (bool_key_inj (Option.some.inj keys))
      | _ => simp [typeName] at kinds
  | int value =>
      cases other with
      | int other =>
          exact congrArg Value.int (int_key_inj (Option.some.inj keys))
      | _ => simp [typeName] at kinds
  | text value =>
      cases other with
      | text other => exact sameKey_text_of_textKey (Option.some.inj keys)
      | _ => simp [typeName] at kinds
  | bytes value =>
      cases other with
      | bytes other =>
          exact congrArg Value.bytes
            ((Utf8.lossy_inj_iff value).mpr intact other (Option.some.inj keys))
      | _ => simp [typeName] at kinds
  | uuid value =>
      cases other with
      | uuid other =>
          exact congrArg Value.uuid (uuid_text_inj (Option.some.inj keys))
      | _ => simp [typeName] at kinds
  | instant value =>
      cases other with
      | instant other =>
          exact (Instant.text_eq_iff otherFormed wellFormed).mp
            (Option.some.inj keys)
      | _ => simp [typeName] at kinds
  | json value =>
      cases other with
      | json other =>
          exact congrArg Value.json
            ((Json.text_inj otherFormed wellFormed).mp (Option.some.inj keys))
      | _ => simp [typeName] at kinds

theorem indexKey_isSome {value : Value} (exact : value.IsExact) :
    ∃ key, value.indexKey = some key := by
  cases value with
  | null => exact exact.elim
  | _ => exact ⟨_, rfl⟩

/-- Whether the other values of its kind with its key are the same join key. -/
def IsKnownByKey (value : Value) : Prop :=
  ∀ other : Value, other.IsWellFormed → other.typeName = value.typeName →
    other.indexKey = value.indexKey → SameKey other value

/-- Whether a join key is asked for wherever it stands among values of its
kind. -/
def IsAskedFor (value : Value) : Prop :=
  ∀ values : List Value, value ∈ values →
    (∀ other ∈ values,
      other.IsWellFormed ∧ other.typeName = value.typeName) →
    ∃ asked ∈ distinctKeys [] values, SameKey asked value

section Known

variable {value : Value} (wellFormed : value.IsWellFormed)
  (exact : value.IsExact)

include wellFormed exact

theorem isKnownByKey_iff : value.IsKnownByKey ↔ value.IsIntact := by
  constructor
  · intro known
    cases value with
    | bytes value =>
        refine (Utf8.lossy_inj_iff value).mp fun other same => ?_
        have alike := known (.bytes other) trivial rfl (congrArg some same)
        exact Value.bytes.inj alike
    | _ => exact trivial
  · exact fun intact other otherFormed kinds keys =>
      sameKey_of_indexKey wellFormed exact intact otherFormed kinds keys

theorem isAskedFor_iff : value.IsAskedFor ↔ value.IsIntact := by
  obtain ⟨key, keyed⟩ := indexKey_isSome exact
  rw [← isKnownByKey_iff wellFormed exact]
  constructor
  · intro askedFor other otherFormed kinds keys
    -- behind the other value this one counts as seen
    have distinct : distinctKeys [] [other, value] = [other] := by
      simp [distinctKeys, keyed, keys.trans keyed]
    obtain ⟨asked, member, same⟩ :=
      askedFor [other, value] (by simp) fun held member => by
        rcases List.mem_pair.mp member with rfl | rfl
        · exact ⟨otherFormed, kinds⟩
        · exact ⟨wellFormed, rfl⟩
    rw [distinct, List.mem_singleton] at member
    rwa [member] at same
  · intro known values member kinds
    obtain ⟨asked, held, sameKey⟩ :=
      exists_mem_distinctKeys_iff.mpr
        ⟨List.not_mem_nil, value, member, keyed⟩
    obtain ⟨askedFormed, askedKind⟩ :=
      kinds asked (mem_of_mem_distinctKeys held).1
    exact ⟨asked, held,
      known asked askedFormed askedKind (sameKey.trans keyed.symm)⟩

end Known

end Value

/-! ## Rows under a key -/

namespace RelatedIndex

variable {schema : Schema} {column : String}

theorem columnKey_of_mem_all {instances : List Instance}
    {index : RelatedIndex Instance}
    (built : build schema column instances = .ok index) {value read : Value}
    {row : Instance} (found : row ∈ index.all value)
    (held : row.columnValue? schema column = some read) :
    read.indexKey = value.indexKey := by
  rw [all_build built, List.mem_filter] at found
  have keyed := (Bool.and_eq_true_iff.mp found.2).2
  rw [Instance.columnKey?, held, Option.bind_some] at keyed
  exact of_decide_eq_true keyed

end RelatedIndex

theorem all_empty (value : Value) :
    ({} : RelatedIndex Instance).all value = [] := by
  unfold RelatedIndex.all
  cases value.indexKey <;> rfl

/-- The rows that a batch finds under a value have its key in their column. -/
theorem indexKey_of_mem_fetchIndex {σ : Type} {schema : Schema}
    {executor : Executor σ} {context : Context} {related : Nat}
    {keys : RelationKeys} {values : List Value}
    {index : RelatedIndex Instance} {before after : σ}
    (fetched :
      Returns (fetchIndex schema executor context related keys values)
        before index after) {value read : Value} {row : Instance}
    (found : row ∈ index.all value)
    (held : row.columnValue? schema keys.relatedKey = some read) :
    read.indexKey = value.indexKey := by
  rcases returns_fetchIndex_iff.mp fetched with
    ⟨_, rfl, _⟩ | ⟨_, _, _, built⟩
  · rw [all_empty] at found
    exact (List.not_mem_nil found).elim
  · exact RelatedIndex.columnKey_of_mem_all built found held

namespace Value

/-- A well-formed value that is neither NULL nor a floating-point number is told
apart by its key from all others of its kind, and asked for in each batch that it
belongs to, exactly when it is intact.  A batch then finds under it only rows of
the same join key. -/
theorem indexKey_tells_apart_iff {value : Value}
    (wellFormed : value.IsWellFormed) (exact : value.IsExact) :
    (value.IsKnownByKey ↔ value.IsIntact) ∧
      (value.IsAskedFor ↔ value.IsIntact) ∧
      (value.IsIntact →
        ∀ {σ : Type} (schema : Schema) (executor : Executor σ)
          (context : Context) (related : Nat) (keys : RelationKeys)
          (values : List Value) (index : RelatedIndex Instance)
          (before after : σ),
          Returns (fetchIndex schema executor context related keys values)
            before index after →
          ∀ row ∈ index.all value, ∀ read,
            row.columnValue? schema keys.relatedKey = some read →
              read.IsWellFormed → read.typeName = value.typeName →
                SameKey read value) := by
  have known := isKnownByKey_iff wellFormed exact
  refine ⟨known, isAskedFor_iff wellFormed exact, ?_⟩
  intro intact σ schema executor context related keys values index before
    after fetched row found read held readFormed kinds
  exact known.mpr intact read readFormed kinds
    (indexKey_of_mem_fetchIndex fetched found held)

/-- No other instant has the key of a leap second, and two spellings of noon on a
day are one join key, since their keys agree. -/
theorem indexKey_tells_apart_iff_leapSecond_and_noon :
    (Value.instant ⟨1483228799, 1500000000⟩).IsKnownByKey ∧
      (Value.text "2024-05-01T14:00:00+02:00").indexKey =
        (Value.text "2024-05-01 12:00:00").indexKey ∧
      SameKey (.text "2024-05-01T14:00:00+02:00")
        (.text "2024-05-01 12:00:00") := by
  have leapSecond :
      (Value.instant ⟨1483228799, 1500000000⟩).IsWellFormed :=
    ⟨by decide, by decide, by decide⟩
  have noon : (Value.text "2024-05-01 12:00:00").IsWellFormed := trivial
  have keys :
      (Value.text "2024-05-01T14:00:00+02:00").indexKey =
        (Value.text "2024-05-01 12:00:00").indexKey := by
    decide +kernel
  have same :=
    (indexKey_tells_apart_iff noon trivial).1.mpr trivial
      (.text "2024-05-01T14:00:00+02:00") trivial rfl keys
  exact ⟨(indexKey_tells_apart_iff leapSecond trivial).1.mpr trivial, keys,
    same⟩

/-- Byte strings that are no texts share the key of the replacement character:
the second is not asked for, and finds the rows of the first. -/
theorem brokenBytes_share_a_key :
    (Value.bytes [0xff]).indexKey = (Value.bytes [0xfe]).indexKey ∧
      ¬SameKey (.bytes [0xff]) (.bytes [0xfe]) ∧
      distinctKeys [] [.bytes [0xff], .bytes [0xfe]] = [.bytes [0xff]] ∧
      (({} : RelatedIndex Nat).insert (.bytes [0xff]) 1).1.all
        (.bytes [0xfe]) = [1] := by
  have first : (Value.bytes [0xff]).indexKey = some "\ufffd" := by
    decide +kernel
  have second : (Value.bytes [0xfe]).indexKey = some "\ufffd" := by
    decide +kernel
  have apart : ¬SameKey (.bytes [0xff]) (.bytes [0xfe]) :=
    fun same => absurd (Value.bytes.inj same) (by decide)
  refine ⟨first.trans second.symm, apart, ?_, ?_⟩
  · simp [distinctKeys, first, second]
  · simp [RelatedIndex.insert, RelatedIndex.all, RelatedIndex.addTo,
      RelatedIndex.withKey, first, second]

end Value

end RecordQuery
