import RecordQuery.Instance.Load
import RecordQuery.Proofs.Fragment.Compilable
import RecordQuery.Proofs.Fragment.Items
import RecordQuery.Proofs.Query.Scopes

/-!
# The query that asks for related rows

A loader asks for the rows that have one of some values in a column.  Whether
its query compiles depends on the model, the column and the context, and not on
which values are asked for or how many.
-/

namespace RecordQuery

variable {schema : Schema} {context : Context} {related : Nat}
variable {column : String} {values : List Value}

theorem Query.isCompilable_layout_prependWheres
    {predicates : Conditions} {query : Query} :
    (query.prependWheres predicates).layout.IsCompilable ↔
      (∀ predicate ∈ predicates, predicate.fragment.IsCompilable) ∧
        query.layout.IsCompilable := by
  have sameFault : (query.prependWheres predicates).fault? = query.fault? :=
    rfl
  cases faulty : query.fault? with
  | some fault =>
      have neither :
          ∀ {failed : Query}, failed.fault? = some fault →
            ¬failed.layout.IsCompilable := by
        intro failed faultAt compilable
        rw [fault?_eq_none_of_isCompilable compilable] at faultAt
        cases faultAt
      have first := neither (sameFault.trans faulty)
      have second := neither faulty
      simp only [first, second, and_false]
  | none =>
      rw [isCompilable_layout_iff (sameFault.trans faulty),
        isCompilable_layout_iff faulty]
      simp only [Conditions.isCompilable_fragment, prependWheres,
        List.forall_mem_append]
      constructor
      · rintro ⟨select, source, joins, ⟨first, wheres⟩, rest⟩
        exact ⟨first, select, source, joins, wheres, rest⟩
      · rintro ⟨first, select, source, joins, wheres, rest⟩
        exact ⟨select, source, joins, ⟨first, wheres⟩, rest⟩

theorem Predicate.fragment_inList (asked : values ≠ []) :
    (inList .and false column values).fragment =
      .joined " " (.joined "" (.name column) (.text (" " ++ "IN")))
        (.group (.join ", " (values.map .bound))) := by
  have present : values.isEmpty = false := by simpa using asked
  rw [inList, present]
  rfl

theorem loaderQuery_eq_prependWheres :
    (loaderQuery schema context related column values).query =
      Query.prependWheres [.inList .and false column values]
        { (ModelQuery.ofModel schema related).query with context } :=
  rfl

/-- Whether rows of a model can be asked for by a column at all. -/
def LoaderIsCompilable (schema : Schema) (context : Context) (related : Nat)
    (column : String) : Prop :=
  (Fragment.name column).IsCompilable ∧
    Fragment.IsCompilable
      ({ (ModelQuery.ofModel schema related).query with
        context } : Query).fragment

theorem isCompilable_loaderQuery_iff (asked : values ≠ []) :
    (loaderQuery schema context related column
        values).query.fragment.IsCompilable ↔
      LoaderIsCompilable schema context related column := by
  rw [loaderQuery_eq_prependWheres, Query.fragment,
    Query.applyScopes_prependWheres,
    Query.isCompilable_layout_prependWheres, List.forall_mem_singleton,
    Predicate.fragment_inList asked]
  simp [LoaderIsCompilable, Query.fragment]

/-! ## The bindings of a loader -/

/-- The bindings of a loader without scopes are the values that it asks
for. -/
theorem bindings_loaderQuery {dialect : Dialect} {compiled : Compiled}
    (unscoped : (schema.model related).scopes = []) (asked : values ≠ [])
    (compiles :
      (loaderQuery schema context related column values).query.toSql
        dialect = .ok compiled) :
    compiled.bindings = values := by
  have printed :=
    Fragment.compile_isPrinted dialect
      (loaderQuery schema context related column values).query.fragment
      (Prod.ext compiles rfl)
  have scopeless :
      (loaderQuery schema context related column values).query.applyScopes =
        { source? := some (.table (schema.model related).table)
          wheres := [.inList .and false column values]
          context } := by
    simp [loaderQuery, ModelQuery.ofModel, Query.applyScopes,
      ScopeSet.active, Query.withGlobalScopes, Query.table, unscoped,
      Query.addPredicate]
  rw [printed.bindings, Query.fragment, scopeless]
  show Fragment.values _ = values
  simp [Query.layout, Query.selectFragment, Query.tableName?, Source.name,
    Source.fragment, Query.listed, Query.limitFragment,
    Conditions.fragment, Predicate.fragment_inList asked,
    List.flatMap_map]

end RecordQuery
