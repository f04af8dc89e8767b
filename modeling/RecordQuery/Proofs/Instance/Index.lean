import RecordQuery.Instance
import RecordQuery.Proofs.Outcome

/-!
# Rows grouped by key

Under each key an index holds the rows that were inserted with it, in the order
of insertion.  An index that is built from instances by a column thus answers
for a value with the instances whose column has the key of the value.
-/

namespace RecordQuery

theorem Value.indexKey_eq_none_iff (value : Value) :
    value.indexKey = none ↔ value.isNull = true := by
  cases value <;> simp [Value.indexKey, Value.isNull]

theorem Value.isNull_of_indexKey {value : Value} {key : String}
    (keyed : value.indexKey = some key) : value.isNull = false := by
  rw [← Bool.not_eq_true, ← value.indexKey_eq_none_iff, keyed]
  exact Option.some_ne_none key

namespace RelatedIndex

variable {α : Type}

theorem lookup_addTo (key wanted : String) (row : α)
    (groups : List (String × List α)) :
    ((addTo key row groups).lookup wanted).getD [] =
      (groups.lookup wanted).getD [] ++
        if key = wanted then [row] else [] := by
  induction groups with
  | nil =>
      by_cases same : key = wanted
      · simp [addTo, same]
      · have apart : (wanted == key) = false :=
          beq_eq_false_iff_ne.mpr (Ne.symm same)
        simp [addTo, same, List.lookup_cons, apart]
  | cons group rest inductionHypothesis =>
      rcases group with ⟨held, rows⟩
      rw [addTo]
      by_cases here : held = key
      · subst here
        by_cases same : held = wanted
        · simp [same]
        · have apart : (wanted == held) = false :=
            beq_eq_false_iff_ne.mpr (Ne.symm same)
          simp [same, List.lookup_cons, apart]
      · by_cases found : held = wanted
        · subst found
          have apart : ¬key = held := fun same => here same.symm
          simp [here, apart]
        · have apart : (wanted == held) = false :=
            beq_eq_false_iff_ne.mpr (Ne.symm found)
          simpa [here, List.lookup_cons, apart] using inductionHypothesis

theorem withKey_insert (index : RelatedIndex α) (value : Value) (row : α)
    (key : String) :
    (index.insert value row).1.withKey key =
      index.withKey key ++
        if value.indexKey = some key then [row] else [] := by
  unfold insert
  cases value.indexKey with
  | none => simp
  | some own =>
      simp only [Option.some.injEq]
      exact lookup_addTo own key row index.groups

end RelatedIndex

/-- The key by which a column matches an instance. -/
def Instance.columnKey? (schema : Schema) (column : String)
    (self : Instance) : Option String :=
  (self.columnValue? schema column).bind Value.indexKey

namespace RelatedIndex

variable {schema : Schema} {column : String}

def insertRow (schema : Schema) (column : String)
    (index : RelatedIndex Instance) (row : Instance) :
    Except Error (RelatedIndex Instance) :=
  match row.columnValue? schema column with
  | none => .error (.missingField (schema.model row.place).name column)
  | some value => .ok (index.insert value row).1

theorem insertRow_eq_ok_iff {index next : RelatedIndex Instance}
    {row : Instance} :
    insertRow schema column index row = .ok next ↔
      ∃ value, row.columnValue? schema column = some value ∧
        next = (index.insert value row).1 := by
  unfold insertRow
  cases row.columnValue? schema column with
  | none => simp
  | some value => simp [eq_comm]

theorem build_eq_foldlM (instances : List Instance) :
    build schema column instances =
      instances.foldlM (insertRow schema column) {} :=
  rfl

theorem withKey_foldlM_insertRow (key : String) (instances : List Instance) :
    ∀ {start index : RelatedIndex Instance},
      instances.foldlM (insertRow schema column) start = .ok index →
        index.withKey key =
          start.withKey key ++
            instances.filter fun row =>
              row.columnKey? schema column = some key := by
  induction instances with
  | nil =>
      intro start index built
      cases built
      simp
  | cons row rest inductionHypothesis =>
      intro start index built
      rw [List.foldlM_cons, exceptBind_eq_ok_iff] at built
      obtain ⟨next, inserted, later⟩ := built
      obtain ⟨value, read, rfl⟩ := insertRow_eq_ok_iff.mp inserted
      rw [inductionHypothesis later, withKey_insert, List.append_assoc,
        List.filter_cons]
      by_cases same : value.indexKey = some key
      · simp [Instance.columnKey?, read, same]
      · simp [Instance.columnKey?, read, same]

theorem exists_foldlM_insertRow (instances : List Instance) :
    ∀ start : RelatedIndex Instance,
      (∃ index,
        instances.foldlM (insertRow schema column) start = .ok index) ↔
        ∀ row ∈ instances, ∃ value,
          row.columnValue? schema column = some value := by
  induction instances with
  | nil =>
      intro start
      exact ⟨fun _ _ member => (List.not_mem_nil member).elim,
        fun _ => ⟨start, rfl⟩⟩
  | cons row rest inductionHypothesis =>
      intro start
      simp only [List.foldlM_cons, exceptBind_eq_ok_iff,
        insertRow_eq_ok_iff, List.forall_mem_cons]
      constructor
      · rintro ⟨index, next, ⟨value, read, _⟩, later⟩
        exact ⟨⟨value, read⟩, (inductionHypothesis next).mp ⟨index, later⟩⟩
      · rintro ⟨⟨value, read⟩, others⟩
        obtain ⟨index, later⟩ :=
          (inductionHypothesis (start.insert value row).1).mpr others
        exact ⟨index, _, ⟨value, read, rfl⟩, later⟩

/-- For a value an index answers with the instances whose column has the key
of the value, in their order, and for NULL with none. -/
theorem all_build {instances : List Instance}
    {index : RelatedIndex Instance}
    (built : build schema column instances = .ok index) (value : Value) :
    index.all value =
      instances.filter fun row =>
        value.indexKey.isSome &&
          row.columnKey? schema column = value.indexKey := by
  unfold all
  cases value.indexKey with
  | none => simp
  | some key =>
      rw [build_eq_foldlM] at built
      have kept := withKey_foldlM_insertRow key instances built
      simpa [withKey] using kept

theorem exists_build_iff {instances : List Instance} :
    (∃ index, build schema column instances = .ok index) ↔
      ∀ row ∈ instances, ∃ value,
        row.columnValue? schema column = some value := by
  simp only [build_eq_foldlM]
  exact exists_foldlM_insertRow instances {}

end RelatedIndex

end RecordQuery
