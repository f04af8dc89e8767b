import RecordQuery.Proofs.Declaration.Records
import RecordQuery.Proofs.Instance.Fetched

/-!
# Records and instances

Records of a derived model and instances of the model that its metadata
describe show the same of a row, where the types of the fields are scalar types.
-/

namespace RecordQuery

namespace Instance

variable {schema : Schema} {place : Nat} {values : List Value}

theorem slot?_make (name : String) :
    (make schema place values).slot? schema name =
      ((schema.model place).relation? name).bind fun relation =>
        if relation.hidden then none
        else some (.fresh relation.kind relation.related) := by
  unfold slot? slotPlace? make Model.relation?
  rw [List.find?_eq_bind_findIdx?_getElem?]
  dsimp only
  cases (schema.model place).relations.findIdx?
      fun relation => relation.name == name with
  | none => rfl
  | some index =>
      cases read : (schema.model place).relations[index]? with
      | none => simp [read]
      | some relation =>
          cases hidden : relation.hidden <;> simp [read, hidden]

end Instance

namespace Declaration.DerivedModel

variable {model : DerivedModel} {row : Row}
variable {scalarType : String → ScalarType} {related : String → Nat}
variable {scopes : String → List Scope}

theorem read_eq_of_decode {type column : String} {value : Value}
    {held : Scalar} (found : row.get? column = some value)
    (decoded : (Vocabulary.ofScalars scalarType related scopes).decode type
      value = .ok held) :
    row.read column (scalarType type) = .ok held := by
  unfold Row.read
  rw [found]
  change ((scalarType type).decode value).mapError _ = _ at decoded
  dsimp only
  cases reached : (scalarType type).decode value with
  | error fault =>
      rw [reached] at decoded
      cases decoded
  | ok scalar =>
      rw [reached] at decoded
      cases decoded
      rfl

/-- A field of the metadata is read from the row as the field of the record
is. -/
theorem read_describeColumn
    {record : Record (Vocabulary.ofScalars scalarType related scopes)}
    (distinct : model.fieldNames.Nodup)
    (filled : model.fromRow row = .ok record) {entry : DerivedColumn}
    (declared : entry ∈ model.columns) :
    ∃ held : Scalar,
      record.content entry.field = .member entry.type held ∧
        row.read entry.column (scalarType entry.type) = .ok held := by
  have member : .column entry.field entry.type entry.column ∈ model.reads :=
    List.mem_append_left _ (List.mem_map_of_mem declared)
  obtain ⟨value, held, found, decoded, content⟩ :=
    readField_column_eq_ok_iff.mp (content_of_fromRow distinct filled member)
  exact ⟨held, (Prod.mk.inj content).2, read_eq_of_decode found decoded⟩

theorem columnValue?_make {schema : Schema} {place : Nat}
    {words : Vocabulary}
    (described : schema.model place = model.metadata words)
    (value : DerivedColumn → Value) (column : String) :
    (Instance.make schema place (model.columns.map value)).columnValue? schema
        column =
      (model.columns.find? fun entry => entry.column == column).map value := by
  have fields : (schema.model place).fields =
      model.columns.map (describeColumn words) :=
    congrArg Model.fields described
  have matching :
      (fun field : Field => field.column == column) ∘ describeColumn words =
        fun entry => entry.column == column :=
    rfl
  unfold Instance.columnValue? Instance.fieldPlace? Instance.make
  dsimp only
  rw [fields, List.findIdx?_map, matching,
    List.find?_eq_bind_findIdx?_getElem?]
  cases model.columns.findIdx? fun entry => entry.column == column with
  | none => rfl
  | some index =>
      cases read : model.columns[index]? with
      | none => simp [read]
      | some entry => simp [read, describeColumn]

/-- What is read from a row as an instance of the described model shows what
the record shows. -/
theorem ofRow_of_fromRow
    {record : Record (Vocabulary.ofScalars scalarType related scopes)}
    {schema : Schema} {place : Nat}
    (described : schema.model place =
      model.metadata (Vocabulary.ofScalars scalarType related scopes))
    (distinct : model.fieldNames.Nodup)
    (filled : model.fromRow row = .ok record) :
    ∃ self, Instance.ofRow schema place row = .ok self ∧
      (∀ column,
        self.columnValue? schema column = model.columnValue? record column) ∧
      ∀ name, self.slot? schema name = model.slot? record name := by
  let value (entry : DerivedColumn) : Value :=
    (record.content entry.field).value?.getD .null
  refine ⟨Instance.make schema place (model.columns.map value), ?_, ?_, ?_⟩
  · refine Instance.ofRow_eq_ok_iff.mpr ⟨_, ?_, rfl⟩
    rw [described]
    refine List.forall₂_map_left_iff.mpr (List.forall₂_map_right_iff.mpr ?_)
    refine List.forall₂_same.mpr fun entry declared => ?_
    obtain ⟨held, content, read⟩ := read_describeColumn distinct filled declared
    show (row.read entry.column (scalarType entry.type)).map _ =
      .ok (value entry)
    rw [read]
    simp only [value, content]
    rfl
  · intro column
    rw [columnValue?_make described, columnValue?_eq]
    cases first : model.columns.find? fun entry => entry.column == column with
    | none => rfl
    | some entry =>
        obtain ⟨held, content, _⟩ := read_describeColumn distinct filled
          (List.mem_of_find?_eq_some first)
        simp only [Option.map_some, Option.bind_some, value, content]
        rfl
  · intro name
    rw [Instance.slot?_make, slot?_of_fromRow distinct filled, described,
      relation?_metadata]
    cases model.relations.find? fun entry => entry.field == name <;> rfl

end Declaration.DerivedModel

end RecordQuery
