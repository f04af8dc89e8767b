import RecordQuery.Declaration.Record
import RecordQuery.Proofs.Declaration.Derived
import RecordQuery.Proofs.Instance.Accessors
import RecordQuery.Proofs.Pairs

/-!
# Records and their accessors

How rows are read, which values and slots are shown, and what the metadata
declare is derived in four lists.  A record that is read from a row shows a
value for exactly the columns that are declared, and a fresh slot for exactly
the relationships that are.
-/

namespace RecordQuery.Declaration

/-- The field that is filled. -/
def FieldRead.field : FieldRead → String
  | .column field _ _ => field
  | .default field => field

/-! ## Names and what they lead to -/

theorem lookup_map_eq_find? {α β : Type} (key : α → String) (value : α → β)
    (entries : List α) (name : String) :
    (entries.map fun entry => (key entry, value entry)).lookup name =
      (entries.find? fun entry => key entry == name).map value := by
  induction entries with
  | nil => rfl
  | cons entry rest inductionHypothesis =>
      rw [List.map_cons, List.lookup_cons, List.find?_cons,
        inductionHypothesis, BEq.comm (a := name)]
      cases key entry == name <;> rfl

theorem lookup_of_mem {α β : Type} [BEq α] [LawfulBEq α]
    {entries : List (α × β)} (distinct : (entries.map Prod.fst).Nodup)
    {entry : α × β} (member : entry ∈ entries) :
    entries.lookup entry.1 = some entry.2 := by
  induction entries with
  | nil => cases member
  | cons first rest inductionHypothesis =>
      obtain ⟨apart, distinctRest⟩ := List.nodup_cons.mp distinct
      rcases List.mem_cons.mp member with rfl | later
      · exact List.lookup_cons_self
      · have different : (entry.1 == first.1) = false := by
          refine beq_false_of_ne fun same => apart ?_
          exact same ▸ List.mem_map_of_mem (f := Prod.fst) later
        rw [List.lookup_cons, different]
        exact inductionHypothesis distinctRest later

theorem relation?_of_mem {model : Model}
    (distinct : (model.relations.map Relation.name).Nodup)
    {relation : Relation} (member : relation ∈ model.relations) :
    model.relation? relation.name = some relation := by
  have names :
      ((model.relations.map fun entry => (entry.name, entry)).map
        Prod.fst).Nodup := by
    simpa [Function.comp_def] using distinct
  have found := lookup_of_mem names (List.mem_map_of_mem member)
  rwa [lookup_map_eq_find?, Option.map_id'] at found

theorem Content.slot?_eq_some_iff {words : Vocabulary}
    {content : Content words} {slot : Slot} :
    content.slot? = some slot ↔ content = .slot slot := by
  cases content <;> simp [Content.slot?]

namespace DerivedModel

variable {words : Vocabulary} {model : DerivedModel} {row : Row}
variable {record : Record words}

/-! ## Rows -/

theorem readField_column_eq_ok_iff {field type column : String}
    {entry : String × Content words} :
    model.readField row (.column field type column) = .ok entry ↔
      ∃ value held,
        row.get? column = some value ∧
          words.decode type value = .ok held ∧
          entry = (field, .member type held) := by
  rw [readField]
  cases row.get? column with
  | none => simp
  | some value =>
      cases decoded : words.decode type value with
      | error reason => simp [decoded]
      | ok held => simp [decoded, eq_comm]

theorem fst_of_readField {read : FieldRead} {entry : String × Content words}
    (filled : model.readField row read = .ok entry) :
    entry.1 = read.field := by
  cases read with
  | column field type column =>
      obtain ⟨_, _, _, _, rfl⟩ := readField_column_eq_ok_iff.mp filled
      rfl
  | default field =>
      cases filled
      rfl

theorem map_field_reads :
    model.reads.map FieldRead.field = model.fieldNames := by
  simp [reads, fieldNames, FieldRead.field, Function.comp_def]

theorem fromRow_eq_ok_iff :
    model.fromRow row = .ok record ↔
      ∃ contents,
        List.Forall₂ (fun read entry => model.readField row read = .ok entry)
          model.reads contents ∧
          record = ⟨fun field => (contents.lookup field).getD .other⟩ := by
  simp only [fromRow, exceptBind_eq_ok_iff, mapM_eq_ok_iff]
  constructor
  · rintro ⟨contents, each, outcome⟩
    cases outcome
    exact ⟨contents, each, rfl⟩
  · rintro ⟨contents, each, rfl⟩
    exact ⟨contents, each, rfl⟩

/-- A field holds what it was filled with, when no other field has its name. -/
theorem content_of_fromRow (distinct : model.fieldNames.Nodup)
    (filled : model.fromRow row = .ok record) {read : FieldRead}
    (member : read ∈ model.reads) :
    model.readField row read = .ok (read.field, record.content read.field) := by
  obtain ⟨contents, each, rfl⟩ := fromRow_eq_ok_iff.mp filled
  have names : contents.map Prod.fst = model.fieldNames := by
    rw [← map_field_reads]
    exact (map_eq_map_of_forall₂ (each.imp fun _ _ readAs =>
      (fst_of_readField readAs).symm)).symm
  -- Fields are looked up by name, so no other may be found in front.
  obtain ⟨entry, entryMember, readAs⟩ := exists_right_of_forall₂ each member
  have found := lookup_of_mem (names ▸ distinct) entryMember
  rw [← fst_of_readField readAs]
  dsimp only
  rw [found, readAs]
  rfl

/-! ## Fields of columns and of relationships -/

theorem columnValue?_eq (record : Record words) (column : String) :
    model.columnValue? record column =
      (model.columns.find? fun entry => entry.column == column).bind
        fun entry => (record.content entry.field).value? := by
  unfold columnValue? columnFields
  rw [lookup_map_eq_find?, Option.bind_eq_bind, Option.bind_map]
  rfl

theorem relationFields_lookup (name : String) :
    model.relationFields.lookup name =
      (model.relations.find? fun entry => entry.field == name).map
        fun _ => name := by
  unfold relationFields
  rw [lookup_map_eq_find?]
  cases found : model.relations.find? fun entry => entry.field == name with
  | none => rfl
  | some entry =>
      have named : entry.field = name := by
        simpa using List.find?_some found
      rw [Option.map_some, Option.map_some, named]

theorem slot?_eq (record : Record words) (name : String) :
    model.slot? record name =
      (model.relations.find? fun entry => entry.field == name).bind
        fun _ => (record.content name).slot? := by
  unfold slot?
  rw [relationFields_lookup, Option.bind_eq_bind, Option.bind_map]
  rfl

theorem changeSlot?_eq (record : Record words) (name : String)
    (change : Slot → Slot) :
    model.changeSlot? record name change =
      (model.slot? record name).map fun slot =>
        record.set name (.slot (change slot)) := by
  rw [slot?_eq]
  unfold changeSlot?
  rw [relationFields_lookup]
  cases model.relations.find? fun entry => entry.field == name with
  | none => rfl
  | some entry => cases shown : (record.content name).slot? <;> simp [shown]

theorem hasColumn_metadata (words : Vocabulary) (column : String) :
    (model.metadata words).hasColumn column =
      (model.columns.find? fun entry => entry.column == column).isSome := by
  unfold Model.hasColumn Model.field? metadata
  rw [List.find?_map, Option.isSome_map]
  rfl

theorem relation?_metadata (words : Vocabulary) (name : String) :
    (model.metadata words).relation? name =
      (model.relations.find? fun entry => entry.field == name).map
        (describeRelation words) := by
  unfold Model.relation? metadata
  rw [List.find?_map]
  rfl

/-! ## What a record that is read from a row shows -/

theorem columnValue?_of_fromRow (distinct : model.fieldNames.Nodup)
    (filled : model.fromRow row = .ok record) {column : String}
    {entry : DerivedColumn}
    (first : (model.columns.find? fun entry => entry.column == column) =
      some entry) :
    ∃ value held,
      row.get? column = some value ∧
        words.decode entry.type value = .ok held ∧
        model.columnValue? record column =
          some (words.toValue entry.type held) := by
  have named : entry.column = column := by
    simpa using List.find?_some first
  have member : .column entry.field entry.type entry.column ∈ model.reads :=
    List.mem_append_left _
      (List.mem_map_of_mem (List.mem_of_find?_eq_some first))
  obtain ⟨value, held, found, decoded, content⟩ :=
    readField_column_eq_ok_iff.mp (content_of_fromRow distinct filled member)
  refine ⟨value, held, named ▸ found, decoded, ?_⟩
  have holds : record.content entry.field = .member entry.type held :=
    (Prod.mk.inj content).2
  rw [columnValue?_eq, first, Option.bind_some, holds]
  rfl

theorem slot?_of_fromRow (distinct : model.fieldNames.Nodup)
    (filled : model.fromRow row = .ok record) (name : String) :
    model.slot? record name =
      ((model.metadata words).relation? name).map fun relation =>
        .fresh relation.kind relation.related := by
  rw [slot?_eq, relation?_metadata]
  cases found : model.relations.find? fun entry => entry.field == name with
  | none => rfl
  | some entry =>
      have named : entry.field = name := by
        simpa using List.find?_some found
      have member : .default name ∈ model.reads := by
        refine List.mem_append_right _ (List.mem_map_of_mem ?_)
        refine List.mem_append_left _ (List.mem_map.mpr ⟨entry, ?_, named⟩)
        exact List.mem_of_find?_eq_some found
      -- The field was filled by the search that the metadata answer with.
      have content : model.initialContent name = record.content name :=
        (Prod.mk.inj (Except.ok.inj
          (content_of_fromRow distinct filled member))).2
      rw [initialContent, found] at content
      rw [Option.bind_some, ← content]
      rfl

theorem isComplete_of_fromRow (distinct : model.fieldNames.Nodup)
    (filled : model.fromRow row = .ok record) :
    (model.accessors words).IsComplete record where
  columnValue?_isSome column := by
    show (model.columnValue? record column).isSome =
      (model.metadata words).hasColumn column
    rw [hasColumn_metadata]
    cases first : model.columns.find? fun entry => entry.column == column with
    | none => rw [columnValue?_eq, first]; rfl
    | some entry =>
        obtain ⟨_, _, _, _, shown⟩ :=
          columnValue?_of_fromRow distinct filled first
        rw [shown]
        rfl
  slot?_isSome name := by
    show (model.slot? record name).isSome = _
    rw [slot?_of_fromRow distinct filled, Option.isSome_map]
    rfl

/-! ## Changing a slot -/

@[simp]
theorem content_set_self (record : Record words) (field : String)
    (content : Content words) :
    (record.set field content).content field = content :=
  if_pos rfl

theorem content_set_of_ne (record : Record words) {field other : String}
    (content : Content words) (apart : other ≠ field) :
    (record.set field content).content other = record.content other :=
  if_neg apart

theorem slot?_eq_some_iff {name : String} {slot : Slot} :
    model.slot? record name = some slot ↔
      (∃ entry,
        (model.relations.find? fun entry => entry.field == name) =
          some entry) ∧
        record.content name = .slot slot := by
  rw [slot?_eq, Option.bind_eq_some_iff, exists_and_right,
    Content.slot?_eq_some_iff]

theorem slot?_set_self {name : String} {old : Slot} (slot : Slot)
    (shown : model.slot? record name = some old) :
    model.slot? (record.set name (.slot slot)) name = some slot := by
  obtain ⟨declared, _⟩ := slot?_eq_some_iff.mp shown
  exact slot?_eq_some_iff.mpr ⟨declared, content_set_self record name _⟩

theorem slot?_set_of_ne {name other : String} (slot : Slot)
    (apart : other ≠ name) :
    model.slot? (record.set name (.slot slot)) other =
      model.slot? record other := by
  rw [slot?_eq, slot?_eq, content_set_of_ne record _ apart]

/-- No column's value is taken from a field that holds a slot. -/
theorem columnValue?_set {name : String} {old : Slot} (slot : Slot)
    (shown : model.slot? record name = some old) (column : String) :
    model.columnValue? (record.set name (.slot slot)) column =
      model.columnValue? record column := by
  obtain ⟨_, holds⟩ := slot?_eq_some_iff.mp shown
  rw [columnValue?_eq, columnValue?_eq]
  refine congrArg _ (funext fun entry => ?_)
  by_cases same : entry.field = name
  · rw [same, content_set_self, holds]
    rfl
  · rw [content_set_of_ne record _ same]

theorem accessors_isLawful : (model.accessors words).IsLawful where
  change_isSome record name change := by
    show (model.changeSlot? record name change).isSome = _
    rw [changeSlot?_eq, Option.isSome_map]
    rfl
  slot?_change {record next name change} changed := by
    obtain ⟨slot, shown, rfl⟩ := Option.map_eq_some_iff.mp
      ((changeSlot?_eq record name change).symm.trans changed)
    have put := slot?_set_self (change slot) shown
    exact put.trans (congrArg (Option.map change) shown.symm)
  slot?_change_of_ne {record next name other change} changed apart := by
    obtain ⟨slot, _, rfl⟩ := Option.map_eq_some_iff.mp
      ((changeSlot?_eq record name change).symm.trans changed)
    exact slot?_set_of_ne _ apart
  columnValue?_change {record next name change} column changed := by
    obtain ⟨slot, shown, rfl⟩ := Option.map_eq_some_iff.mp
      ((changeSlot?_eq record name change).symm.trans changed)
    exact columnValue?_set _ shown column

/-! ## Records and metadata -/

/-- Whether a record shows what is declared, as it stands in a row: values for
the columns, each read in the first field of its column, and slots that know
nothing for the relationships, to look at and to change. -/
structure ShowsRow (model : DerivedModel) (row : Row) (record : Record words) :
    Prop where
  columnValue?_isSome (column : String) :
    (model.columnValue? record column).isSome =
      (model.metadata words).hasColumn column
  columnValue?_eq_some {column : String} {entry : DerivedColumn} :
    (model.columns.find? fun entry => entry.column == column) = some entry →
      ∃ value held,
        row.get? column = some value ∧
          words.decode entry.type value = .ok held ∧
          model.columnValue? record column =
            some (words.toValue entry.type held)
  slot?_eq_fresh (name : String) :
    model.slot? record name =
      ((model.metadata words).relation? name).map fun relation =>
        .fresh relation.kind relation.related
  changeSlot?_eq_set (name : String) (change : Slot → Slot) :
    model.changeSlot? record name change =
      ((model.metadata words).relation? name).map fun relation =>
        record.set name
          (.slot (change (.fresh relation.kind relation.related)))

theorem showsRow_of_fromRow (distinct : model.fieldNames.Nodup)
    (filled : model.fromRow row = .ok record) :
    model.ShowsRow row record where
  columnValue?_isSome := (isComplete_of_fromRow distinct filled).1
  columnValue?_eq_some := columnValue?_of_fromRow distinct filled
  slot?_eq_fresh := slot?_of_fromRow distinct filled
  changeSlot?_eq_set name change := by
    rw [changeSlot?_eq, slot?_of_fromRow distinct filled, Option.map_map]
    rfl

theorem metadata_relation_names (distinct : model.fieldNames.Nodup) :
    ((model.metadata words).relations.map Relation.name).Nodup := by
  have names :
      (model.metadata words).relations.map Relation.name =
        model.relations.map DerivedRelation.field :=
    List.map_map
  rw [names]
  exact (List.nodup_append.mp (List.nodup_append.mp distinct).2.1).1

/-- The slots of a record whose slots are all initialized. -/
theorem slot?_initializeAll (distinct : model.fieldNames.Nodup)
    (filled : model.fromRow row = .ok record) {schema : Schema}
    {initialized : Record words}
    (succeeded : (model.accessors words).initializeAll schema record =
      (initialized, none))
    {relation : Relation}
    (declared : relation ∈ (model.metadata words).relations)
    {keys : RelationKeys}
    (resolved : relation.resolve schema (model.metadata words) = .ok keys) :
    ∃ value,
      model.columnValue? record keys.parentKey = some value ∧
        model.columnValue? initialized keys.parentKey = some value ∧
        model.slot? initialized relation.name =
          some ⟨relation.kind, relation.related, some keys, value,
            false, []⟩ := by
  have names : ((model.metadata words).relations.map Relation.name).Nodup :=
    metadata_relation_names distinct
  obtain ⟨value, read, kept, shown⟩ :=
    Accessors.shown_of_initializeAll accessors_isLawful names succeeded
      declared resolved
  refine ⟨value, read, kept, shown.trans ?_⟩
  show (model.slot? record relation.name).map _ = _
  rw [slot?_of_fromRow distinct filled, relation?_of_mem names declared]
  rfl

/-- The fields of a record have different names.  What is read from a row shows
what the metadata of the model declare.  Its slots can all be initialized
exactly if each relationship has join columns; each slot then has those of its
relationship, and the value of the record's own column. -/
theorem fromRow_agrees_with_metadata {declaration : Declaration}
    (distinct : (declaration.fields.map FieldDeclaration.name).Nodup)
    (derived : deriveModel declaration = .ok model)
    (filled : model.fromRow row = .ok record) :
    model.Distributes (declaration.fields.map FieldDeclaration.name) ∧
    model.ShowsRow row record ∧
    ∀ (schema : Schema) (initialized : Record words) (error? : Option Error),
      (model.accessors words).initializeAll schema record =
          (initialized, error?) →
        (error? = none ↔
          ∀ relation ∈ (model.metadata words).relations,
            ∃ keys,
              relation.resolve schema (model.metadata words) = .ok keys) ∧
        (error? = none →
          ∀ relation ∈ (model.metadata words).relations,
          ∀ keys, relation.resolve schema (model.metadata words) = .ok keys →
            ∃ value,
              model.columnValue? record keys.parentKey = some value ∧
              model.columnValue? initialized keys.parentKey = some value ∧
              model.slot? initialized relation.name =
                some ⟨relation.kind, relation.related, some keys, value,
                  false, []⟩) := by
  have distributes := distributes_of_deriveModel derived
  have distinctFields := distributes.perm.nodup_iff.mpr distinct
  have complete := isComplete_of_fromRow distinctFields filled
  refine ⟨distributes, showsRow_of_fromRow distinctFields filled,
    fun schema initialized error? run => ⟨?_, ?_⟩⟩
  · exact Accessors.initializeAll_succeeds_iff accessors_isLawful complete run
  · rintro rfl relation declared keys resolved
    exact slot?_initializeAll distinctFields filled run declared resolved

/-- Books, with two fields for one column, a relationship, and one that is
skipped. -/
def bookDeclaration : Declaration where
  name := "Book"
  fields :=
    [{ name := "id"
       type := "i64"
       attributes := [⟨"orm", [⟨"id", none⟩]⟩] },
     { name := "available"
       type := "bool"
       attributes := [⟨"orm", [⟨"column", some (.text "copies")⟩]⟩] },
     { name := "copies", type := "i64" },
     { name := "author_id", type := "i64" },
     { name := "author", type := "BelongsTo<Author>" },
     { name := "cited"
       type := "HasMany<Author>"
       attributes := [⟨"orm", [⟨"skip", none⟩]⟩] }]

def bookModel : DerivedModel where
  name := "Book"
  table := "books"
  columns :=
    [⟨"id", "i64", "id", { primary := true }⟩,
     ⟨"available", "bool", "copies", { column? := some "copies" }⟩,
     ⟨"copies", "i64", "copies", {}⟩,
     ⟨"author_id", "i64", "author_id", {}⟩]
  relations := [⟨"author", .belongsTo, "Author", {}⟩]
  skipped := ["cited"]
  scopes? := none

def bookWords : Vocabulary :=
  .ofScalars
    (fun type => if type = "bool" then .bool else .integer ⟨true, 64⟩)
    (fun _ => 0) (fun _ => [])

def bookRow : Row :=
  .ofPairs [("id", .int 1), ("copies", .int 3), ("author_id", .int 7)]

def authorSchema : Schema where
  models :=
    [{ name := "Author"
       table := "authors"
       fields :=
         [{ name := "id"
            column := "id"
            type := .integer ⟨true, 64⟩
            primary := true }] }]

def authorKeys : RelationKeys :=
  ⟨"author", .belongsTo, "books", "author_id", "authors", "id"⟩

theorem deriveModel_bookDeclaration :
    deriveModel bookDeclaration = .ok bookModel := by
  have same : (deriveModel bookDeclaration).toOption = some bookModel := by
    decide +kernel
  cases derived : deriveModel bookDeclaration with
  | error fault =>
      rw [derived] at same
      cases same
  | ok model =>
      rw [derived] at same
      rw [Option.some.inj same]

/-- Of the two fields of one column the first is shown, as the truth value that
it is read as; what is skipped is not shown. -/
theorem fromRow_agrees_with_metadata_book :
    (bookDeclaration.fields.map FieldDeclaration.name).Nodup ∧
      deriveModel bookDeclaration = .ok bookModel ∧
      ∃ record initialized : Record bookWords,
        bookModel.fromRow bookRow = .ok record ∧
          bookModel.columnValue? record "copies" = some (.bool true) ∧
          bookModel.columnValue? record "available" = none ∧
          bookModel.slot? record "author" = some (.fresh .belongsTo 0) ∧
          bookModel.slot? record "cited" = none ∧
          (bookModel.accessors bookWords).initializeAll authorSchema record =
            (initialized, none) ∧
          bookModel.slot? initialized "author" =
            some ⟨.belongsTo, 0, some authorKeys, .int 7, false, []⟩ := by
  have distinct :
      (bookDeclaration.fields.map FieldDeclaration.name).Nodup := by
    decide
  obtain ⟨record, filled⟩ :
      ∃ record : Record bookWords, bookModel.fromRow bookRow = .ok record :=
    ⟨_, rfl⟩
  obtain ⟨_, shows, initializes⟩ :=
    fromRow_agrees_with_metadata distinct deriveModel_bookDeclaration filled
  obtain ⟨initialized, error?, run⟩ :
      ∃ initialized error?,
        (bookModel.accessors bookWords).initializeAll authorSchema record =
          (initialized, error?) :=
    ⟨_, _, rfl⟩
  obtain ⟨succeeds, slots⟩ := initializes authorSchema initialized error? run
  obtain rfl : error? = none := by
    refine succeeds.mpr fun relation declared => ⟨authorKeys, ?_⟩
    obtain rfl := List.mem_singleton.mp declared
    rfl
  obtain ⟨key, keyRead, _, shown⟩ :=
    slots rfl _ (List.mem_singleton_self _) authorKeys rfl
  obtain ⟨_, _, ⟨⟩, ⟨⟩, authorId⟩ :=
    shows.columnValue?_eq_some
      (show (bookModel.columns.find? fun entry => entry.column == "author_id") =
        some ⟨"author_id", "i64", "author_id", {}⟩ from rfl)
  obtain ⟨_, _, ⟨⟩, ⟨⟩, copies⟩ :=
    shows.columnValue?_eq_some
      (show (bookModel.columns.find? fun entry => entry.column == "copies") =
        some ⟨"available", "bool", "copies", { column? := some "copies" }⟩
        from rfl)
  obtain rfl := Option.some.inj (authorId.symm.trans keyRead)
  exact ⟨distinct, deriveModel_bookDeclaration, record, initialized, filled,
    copies, rfl, shows.slot?_eq_fresh "author", shows.slot?_eq_fresh "cited",
    run, shown⟩

end DerivedModel

end RecordQuery.Declaration
