import RecordQuery.Proofs.Loading.Loader
import RecordQuery.Proofs.Loading.Segments

/-!
# Loading from fixed tables

When loaders are answered from a fixed table for each model, the index that is
fetched for many keys has for each of them what the table has: the rows with
that key, read as instances, in the order of the table.
-/

namespace RecordQuery

variable {σ : Type} {schema : Schema} {executor : Executor σ}
variable {context : Context} {table : Nat → List Row} {before after : σ}
variable {related : Nat} {keys : RelationKeys} {given : List Value}

/-- Whether a row of a model's table has the key of a value in a column.  No
row has the key of NULL. -/
def Row.hasKeyOf (schema : Schema) (place : Nat) (column : String)
    (value : Value) (row : Row) : Bool :=
  value.indexKey.isSome &&
    row.decodedKey schema place column = value.indexKey

/-- The rows of a table that have the key of a value in a column. -/
def matchingRows (schema : Schema) (table : Nat → List Row) (place : Nat)
    (column : String) (value : Value) : List Row :=
  (table place).filter (Row.hasKeyOf schema place column value)

/-- Whether an executor answers every loader from fixed tables: with the rows
that have the key of one of the values asked for, in the order of the table. -/
def Executor.AnswersFrom (schema : Schema) (context : Context)
    (table : Nat → List Row) (executor : Executor σ) : Prop :=
  ∀ (place : Nat) (column : String) (given : List Value)
      (compiled : Compiled) (before : σ),
    (schema.model place).hasColumn column = true →
    distinctKeys [] given ≠ [] →
    (loaderQuery schema context place column
        (distinctKeys [] given)).query.toSql executor.dialect =
      .ok compiled →
    ∃ after,
      Returns (executor.query context compiled.sql compiled.bindings) before
        ((table place).filter fun row =>
          (distinctKeys [] given).any fun value =>
            row.hasKeyOf schema place column value) after

/-- What can be read of a table for one value: its matching rows are instances
with the column, and the loader for it compiles. -/
structure ReadsMatching (schema : Schema) (context : Context)
    (table : Nat → List Row) (place : Nat) (column : String) (value : Value)
    (rows : List Instance) : Prop where
  read :
    List.Forall₂ (Instance.Reads schema place)
      (matchingRows schema table place column value) rows
  keyed : ∀ row ∈ rows, ∃ own, row.columnValue? schema column = some own
  compilable :
    value.indexKey.isSome = true →
      LoaderIsCompilable schema context place column

theorem exists_mem_distinctKeys {value : Value} {key : String}
    (member : value ∈ given) (keyed : value.indexKey = some key) :
    ∃ asked ∈ distinctKeys [] given, asked.indexKey = some key :=
  exists_mem_distinctKeys_iff.mpr
    ⟨List.not_mem_nil, value, member, keyed⟩

theorem Row.hasKeyOf_congr {place : Nat} {column : String}
    {value other : Value} (same : value.indexKey = other.indexKey)
    (row : Row) :
    row.hasKeyOf schema place column value =
      row.hasKeyOf schema place column other := by
  rw [hasKeyOf, hasKeyOf, same]

theorem filter_matching_filter_asked {place : Nat} {column : String}
    {value : Value} (member : value ∈ given) (rows : List Row) :
    (rows.filter fun row =>
        (distinctKeys [] given).any fun asked =>
          row.hasKeyOf schema place column asked).filter
        (Row.hasKeyOf schema place column value) =
      rows.filter (Row.hasKeyOf schema place column value) := by
  rw [List.filter_filter]
  refine List.filter_congr fun row _ => ?_
  cases matched : row.hasKeyOf schema place column value with
  | false => rfl
  | true =>
      have keyed : value.indexKey.isSome = true := by
        rw [Row.hasKeyOf, Bool.and_eq_true] at matched
        exact matched.1
      obtain ⟨key, keyed⟩ := Option.isSome_iff_exists.mp keyed
      obtain ⟨asked, askedMember, same⟩ :=
        exists_mem_distinctKeys member keyed
      rw [Row.hasKeyOf_congr (keyed.trans same.symm)] at matched
      rw [Bool.true_and]
      exact List.any_eq_true.mpr ⟨asked, askedMember, matched⟩

/-! ## What a fetched index has -/

theorem matchingRows_of_not_hasColumn {place : Nat} {column : String}
    (missing : (schema.model place).hasColumn column = false)
    (value : Value) :
    matchingRows schema table place column value = [] := by
  have absent : (schema.model place).field? column = none := by
    simpa [Model.hasColumn] using missing
  rw [matchingRows, List.filter_eq_nil_iff]
  intro row _
  cases keyed : value.indexKey <;>
    simp [Row.hasKeyOf, Row.decodedKey, absent, keyed]

theorem matchingRows_of_indexKey_eq_none {place : Nat} {column : String}
    {value : Value} (keyless : value.indexKey = none) :
    matchingRows schema table place column value = [] := by
  rw [matchingRows, List.filter_eq_nil_iff]
  intro row _
  simp [Row.hasKeyOf, keyless]

/-- Of what is read of the rows that were asked for, the instances with the
key of one value are what is read of its matching rows. -/
theorem forall₂_reads_matchingRows {column : String} {value : Value}
    {found : List Instance} (member : value ∈ given)
    (read :
      List.Forall₂ (Instance.Reads schema related)
        ((table related).filter fun row =>
          (distinctKeys [] given).any fun asked =>
            row.hasKeyOf schema related column asked) found)
    (columns : ∀ row ∈ found, ∃ own,
      row.columnValue? schema column = some own) :
    List.Forall₂ (Instance.Reads schema related)
      (matchingRows schema table related column value)
      (found.filter fun row =>
        value.indexKey.isSome &&
          row.columnKey? schema column = value.indexKey) := by
  rw [matchingRows, ← filter_matching_filter_asked member]
  have paired := (List.forall₂_and_left found _).mpr ⟨columns, read.flip⟩
  refine (forall₂_filter (List.Forall₂.imp ?_ paired)).flip
  rintro self row ⟨⟨own, ownRead⟩, reads⟩
  refine ⟨reads, ?_⟩
  have same : row.decodedKey schema related column = own.indexKey :=
    Instance.Reads.decodedKey_eq reads ownRead
  rw [Row.hasKeyOf, same, Instance.columnKey?, ownRead]
  rfl

theorem hasColumn_of_reads {column : String} {rows : List Row}
    {found : List Instance} {self : Instance}
    (read : List.Forall₂ (Instance.Reads schema related) rows found)
    (member : self ∈ found)
    (keyed : ∃ own, self.columnValue? schema column = some own) :
    (schema.model related).hasColumn column = true := by
  obtain ⟨own, ownRead⟩ := keyed
  obtain ⟨_, _, reads⟩ := exists_left_of_forall₂ read member
  have present := Instance.hasColumn_of_columnValue? ownRead
  rw [reads.place_and_values.1] at present
  exact present

/-- When nothing was asked for, none of the given values matches anything. -/
theorem readsMatching_nil {column : String} {value : Value}
    (nothing : distinctKeys [] given = []) (member : value ∈ given) :
    ReadsMatching schema context table related column value
      (({} : RelatedIndex Instance).all value) := by
  have keyless : value.indexKey = none := by
    cases keyed : value.indexKey with
    | none => rfl
    | some key =>
        obtain ⟨other, otherMember, _⟩ :=
          exists_mem_distinctKeys member keyed
        rw [nothing] at otherMember
        cases otherMember
  rw [RelatedIndex.all, keyless]
  constructor
  · rw [matchingRows_of_indexKey_eq_none keyless]
    exact .nil
  · intro row absurdMember
    cases absurdMember
  · intro keyed
    rw [keyless] at keyed
    cases keyed

/-- An index that was fetched from fixed tables has under each of the given
values the rows of the table with its key. -/
theorem readsMatching_all
    (answers : executor.AnswersFrom schema context table)
    (fetched :
      Returns (fetchIndex schema executor context related keys given)
        before index after)
    {value : Value} (member : value ∈ given) :
    ReadsMatching schema context table related keys.relatedKey value
      (index.all value) := by
  rcases returns_fetchIndex_iff.mp fetched with
    ⟨nothing, rfl, _⟩ | ⟨asked, found, ran, built⟩
  · exact readsMatching_nil nothing member
  obtain ⟨compiled, rows, compiles, answered, read⟩ :=
    ModelQuery.returns_fetch_iff.mp ran
  have columns := RelatedIndex.exists_build_iff.mp ⟨index, built⟩
  rw [RelatedIndex.all_build built value]
  constructor
  · cases declared :
        (schema.model related).hasColumn keys.relatedKey with
    | false =>
        have none : found = [] := by
          rw [List.eq_nil_iff_forall_not_mem]
          intro row rowMember
          have present :=
            hasColumn_of_reads read rowMember (columns row rowMember)
          exact Bool.false_ne_true (declared.symm.trans present)
        rw [matchingRows_of_not_hasColumn declared, none]
        exact .nil
    | true =>
        obtain ⟨_, fromTable⟩ :=
          answers related keys.relatedKey given compiled before declared
            asked compiles
        obtain rfl := answered.unique fromTable
        exact forall₂_reads_matchingRows member read columns
  · intro row rowMember
    exact columns row (List.mem_of_mem_filter rowMember)
  · intro _
    exact (isCompilable_loaderQuery_iff asked).mp
      ((Fragment.exists_toSql_iff executor.dialect _).mp
        ⟨compiled, compiles⟩)

/-! ## What can be fetched -/

theorem ReadsMatching.unique {place : Nat} {column : String} {value : Value}
    {rows others : List Instance}
    (matched : ReadsMatching schema context table place column value rows)
    (otherMatched :
      ReadsMatching schema context table place column value others) :
    rows = others :=
  List.right_unique_forall₂'
    (fun _ _ _ reads otherReads => reads.unique otherReads)
    matched.read otherMatched.read

/-- Every row that was asked for is an instance with the column when the rows
of each given value are. -/
theorem exists_reads_of_asked
    (readable : ∀ value ∈ given, ∃ rows,
      ReadsMatching schema context table related keys.relatedKey value rows)
    {row : Row}
    (answered :
      row ∈ (table related).filter fun row =>
        (distinctKeys [] given).any fun value =>
          row.hasKeyOf schema related keys.relatedKey value) :
    ∃ self, Instance.Reads schema related row self ∧
      ∃ own, self.columnValue? schema keys.relatedKey = some own := by
  obtain ⟨inTable, asked⟩ := List.mem_filter.mp answered
  obtain ⟨value, valueAsked, matched⟩ := List.any_eq_true.mp asked
  obtain ⟨rows, matching⟩ :=
    readable value (mem_of_mem_distinctKeys valueAsked).1
  have rowMatches :
      row ∈ matchingRows schema table related keys.relatedKey value :=
    List.mem_filter.mpr ⟨inTable, matched⟩
  obtain ⟨self, member, reads⟩ :=
    exists_right_of_forall₂ matching.read rowMatches
  exact ⟨self, reads, matching.keyed self member⟩

theorem exists_returns_fetchIndex
    (answers : executor.AnswersFrom schema context table)
    (declared : (schema.model related).hasColumn keys.relatedKey = true)
    (readable : ∀ value ∈ given, ∃ rows,
      ReadsMatching schema context table related keys.relatedKey value rows)
    (before : σ) :
    ∃ index after,
      Returns (fetchIndex schema executor context related keys given)
        before index after := by
  by_cases asked : distinctKeys [] given = []
  · exact ⟨{}, before,
      returns_fetchIndex_iff.mpr (Or.inl ⟨asked, rfl, rfl⟩)⟩
  have compilable :
      LoaderIsCompilable schema context related keys.relatedKey := by
    obtain ⟨value, valueAsked⟩ := List.exists_mem_of_ne_nil _ asked
    obtain ⟨member, keyed⟩ := mem_of_mem_distinctKeys valueAsked
    obtain ⟨_, matching⟩ := readable value member
    exact matching.compilable keyed
  obtain ⟨compiled, compiles⟩ :=
    (Fragment.exists_toSql_iff executor.dialect _).mpr
      ((isCompilable_loaderQuery_iff asked).mpr compilable)
  obtain ⟨after, answered⟩ :=
    answers related keys.relatedKey given compiled before declared asked
      compiles
  obtain ⟨found, read⟩ :=
    exists_forall₂ fun row answered =>
      exists_reads_of_asked readable answered
  obtain ⟨index, built⟩ :
      ∃ index,
        RelatedIndex.build schema keys.relatedKey found = .ok index := by
    refine RelatedIndex.exists_build_iff.mpr ?_
    intro self member
    obtain ⟨_, _, _, keyed⟩ := exists_left_of_forall₂ read member
    exact keyed
  refine ⟨index, after, returns_fetchIndex_iff.mpr
    (Or.inr ⟨asked, found, ?_, built⟩)⟩
  refine ModelQuery.returns_fetch_iff.mpr
    ⟨compiled, _, compiles, answered, ?_⟩
  exact List.Forall₂.imp (fun _ _ both => both.1) read

end RecordQuery
