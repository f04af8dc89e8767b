import RecordQuery.Executor.Script
import RecordQuery.Proofs.Loading.Loader
import RecordQuery.Proofs.Loading.Batch
import RecordQuery.Proofs.Model.ContextOrder

/-!
# What a batch asks for

An executor that keeps a record shows which statements loading runs.  A batch
of slots runs at most one, and none when no slot of it has a key other than
NULL.  The statement asks for those keys, each of them once, in the order in
which they first come.
-/

namespace RecordQuery

variable {σ : Type} {schema : Schema} {executor : Executor σ}
variable {context : Context} {before after : σ}

/-! ## Executors that keep a record -/

/-- An executor that does as another one and keeps the statements that it was
asked to run, the newest last. -/
def Executor.recorded (executor : Executor σ) :
    Executor (σ × List Statement) where
  dialect := executor.dialect
  query context sql bindings := fun (state, log) =>
    let (outcome, after) := (executor.query context sql bindings).run.run state
    (outcome, after, log ++ [⟨context, sql, bindings⟩])
  execute context sql bindings := fun (state, log) =>
    let (outcome, after) :=
      (executor.execute context sql bindings).run.run state
    (outcome, after, log ++ [⟨context, sql, bindings⟩])
  note event := fun (state, log) => (executor.note event state, log)

theorem returns_query_recorded {sql : String} {bindings : List Value}
    {rows : List Row}
    (ran : Returns (executor.query context sql bindings) before rows after)
    (log : List Statement) :
    Returns (executor.recorded.query context sql bindings) (before, log) rows
      (after, log ++ [⟨context, sql, bindings⟩]) := by
  show
    (((executor.query context sql bindings).run.run before).1,
      ((executor.query context sql bindings).run.run before).2,
      log ++ [⟨context, sql, bindings⟩]) = _
  rw [ran]

theorem returns_fetch_recorded {typed : ModelQuery} {found : List Instance}
    (ran : Returns (typed.fetch schema executor) before found after) :
    ∃ compiled,
      typed.query.toSql executor.dialect = .ok compiled ∧
        ∀ log, Returns (typed.fetch schema executor.recorded) (before, log)
          found
          (after, log ++
            [⟨typed.query.context, compiled.sql, compiled.bindings⟩]) := by
  obtain ⟨compiled, rows, compiles, answered, read⟩ :=
    ModelQuery.returns_fetch_iff.mp ran
  exact ⟨compiled, compiles, fun log => ModelQuery.returns_fetch_iff.mpr
    ⟨compiled, rows, compiles, returns_query_recorded answered log, read⟩⟩

/-! ## Each key once -/

/-- The values other than NULL, and of those with one key the first. -/
def firstOfEachKey (values : List Value) : List Value :=
  (values.filter fun value => !value.isNull).eraseDupsBy
    fun first second => first.indexKey == second.indexKey

/-- Whether a value has a key that was not seen yet. -/
def Value.isUnseen (seen : List String) (value : Value) : Bool :=
  match value.indexKey with
  | none => false
  | some key => !seen.contains key

theorem distinctKeys_eq_eraseDupsBy (values : List Value) :
    ∀ seen : List String,
      distinctKeys seen values =
        (values.filter (Value.isUnseen seen)).eraseDupsBy
          fun first second => first.indexKey == second.indexKey := by
  induction values with
  | nil =>
      intro seen
      rfl
  | cons value rest inductionHypothesis =>
      intro seen
      rw [distinctKeys]
      cases keyed : value.indexKey with
      | none =>
          have known : ¬value.isUnseen seen = true := by
            simp [Value.isUnseen, keyed]
          rw [List.filter_cons_of_neg known]
          exact inductionHypothesis seen
      | some key =>
          by_cases member : seen.contains key = true
          · have known : ¬value.isUnseen seen = true := by
              rw [Value.isUnseen, keyed]
              simp only [member]
              decide
            rw [List.filter_cons_of_neg known]
            simp only [member, if_true]
            exact inductionHypothesis seen
          · have unseen : value.isUnseen seen = true := by
              rw [Value.isUnseen, keyed]
              simp only [member]
              decide
            rw [List.filter_cons_of_pos unseen, List.eraseDupsBy_cons,
              List.filter_filter]
            simp only [member]
            rw [if_neg (by decide), inductionHypothesis]
            congr 2
            refine List.filter_congr fun other _ => ?_
            unfold Value.isUnseen
            cases otherKeyed : other.indexKey with
            | none => simp
            | some own =>
                rw [keyed]
                by_cases same : own = key <;> simp [same]

theorem distinctKeys_nil_eq (values : List Value) :
    distinctKeys [] values = firstOfEachKey values := by
  rw [distinctKeys_eq_eraseDupsBy, firstOfEachKey]
  congr 1
  refine List.filter_congr fun value _ => ?_
  cases keyed : value.indexKey with
  | none =>
      have null := value.indexKey_eq_none_iff.mp keyed
      simp [Value.isUnseen, keyed, null]
  | some key =>
      simp [Value.isUnseen, keyed, Value.isNull_of_indexKey keyed]

theorem firstOfEachKey_ne_nil_iff {values : List Value} :
    firstOfEachKey values ≠ [] ↔ ∃ value ∈ values, value.isNull = false := by
  rw [firstOfEachKey]
  constructor
  · intro asked
    have present : (values.filter fun value => !value.isNull) ≠ [] := by
      intro nothing
      rw [nothing] at asked
      exact asked rfl
    obtain ⟨value, member⟩ := List.exists_mem_of_ne_nil _ present
    obtain ⟨inside, seen⟩ := List.mem_filter.mp member
    exact ⟨value, inside, by simpa using seen⟩
  · rintro ⟨value, member, present⟩
    have inside :
        value ∈ values.filter fun value => !value.isNull :=
      List.mem_filter.mpr ⟨member, by simp [present]⟩
    obtain ⟨first, rest, split⟩ :=
      List.exists_cons_of_ne_nil (List.ne_nil_of_mem inside)
    rw [split, List.eraseDupsBy_cons]
    exact List.cons_ne_nil _ _

/-! ## The statement of a loader -/

theorem Predicate.values_inList {column : String} {values : List Value}
    (asked : values ≠ []) :
    (inList .and false column values).fragment.values = values := by
  simp [fragment_inList asked, List.flatMap_map]

theorem Predicate.isSilent_inList {column : String} {values : List Value}
    (asked : values ≠ []) :
    (inList .and false column values).fragment.isSilent = false := by
  have written : (Fragment.text (" " ++ "IN")).isSilent = false :=
    Fragment.isSilent_text_of_ne (by decide)
  rw [fragment_inList asked, Fragment.isSilent_joined,
    Fragment.isSilent_joined, written, Bool.and_false, Bool.false_and]

theorem Predicate.link_inList (column : String) (values : List Value) :
    (inList .and false column values).link = .and := by
  unfold inList
  split <;> rfl

/-- Whether a statement asks, in a context, for the rows of a model that have
one of some values in a column.  It is the compiled query of the loader: its
text and its bindings show the list of the values between the items of the
rest. -/
structure Statement.AsksFor (schema : Schema) (dialect : Dialect)
    (context : Context) (related : Nat) (column : String)
    (values : List Value) (statement : Statement) : Prop where
  compiled :
    (loaderQuery schema context related column values).query.toSql dialect =
      .ok ⟨statement.sql, statement.bindings⟩
  context_eq : statement.context = context
  placed : ∃ front back : List Item,
    statement.sql =
        Item.print dialect 0
          (front ++ (Predicate.inList .and false column values).fragment.items
            ++ back) ∧
      statement.bindings = Item.values front ++ values ++ Item.values back

/-- What is compiled for a loader has the list of its values at one place. -/
theorem exists_place_loaderQuery {dialect : Dialect} {related : Nat}
    {column : String} {values : List Value} {compiled : Compiled}
    (compiles :
      (loaderQuery schema context related column values).query.toSql
        dialect = .ok compiled) :
    ∃ place : Place,
      (loaderQuery schema context related column values).query.fragment =
        place.fill (Predicate.inList .and false column values).fragment := by
  have compilable :=
    (Fragment.returns_compile_iff dialect _ 0).mp
      ⟨compiled, _, Prod.ext compiles rfl⟩
  rw [loaderQuery_eq_prependWheres, Query.fragment,
    Query.applyScopes_prependWheres] at compilable ⊢
  have faultless :=
    Query.fault?_eq_none_of_isCompilable
      (Query.isCompilable_layout_prependWheres.mp compilable).2
  obtain ⟨place, filled⟩ :=
    Query.exists_place_layout faultless .where_ [] .and
  exact ⟨place, filled _ (Predicate.link_inList column values)⟩

theorem asksFor_of_compiles {dialect : Dialect} {related : Nat}
    {column : String} {values : List Value} {compiled : Compiled}
    (asked : values ≠ [])
    (compiles :
      (loaderQuery schema context related column values).query.toSql
        dialect = .ok compiled) :
    Statement.AsksFor schema dialect context related column values
      ⟨context, compiled.sql, compiled.bindings⟩ := by
  refine ⟨compiles, rfl, ?_⟩
  obtain ⟨place, filled⟩ := exists_place_loaderQuery compiles
  obtain ⟨front, back, around⟩ := place.exists_items_fill
  have printed :=
    Fragment.compile_isPrinted dialect
      (loaderQuery schema context related column values).query.fragment
      (Prod.ext compiles rfl)
  have seen :
      (Predicate.inList .and false column values).fragment.isSilent =
        false :=
    Predicate.isSilent_inList asked
  rw [filled, around _ seen] at printed
  refine ⟨front, back, printed.sql, ?_⟩
  rw [printed.bindings, Item.values_append, Item.values_append]
  exact congrArg (fun own => Item.values front ++ own ++ Item.values back)
    (Predicate.values_inList asked)

/-- A loader has no paths of its own to load, so that fetching its query is
all that it does. -/
theorem get_loaderQuery {related : Nat} {column : String}
    {values : List Value} :
    (loaderQuery schema context related column values).get schema executor =
      (loaderQuery schema context related column values).fetch schema
        executor :=
  bind_pure _

/-! ## The statement of a batch -/

/-- What is asked for some keys: nothing when all of them are NULL, and else
one statement for each of them once. -/
def Asked (schema : Schema) (dialect : Dialect) (context : Context)
    (related : Nat) (column : String) (keys : List Value) :
    Option Statement → Prop
  | none => ∀ key ∈ keys, key.isNull = true
  | some statement =>
      (∃ key ∈ keys, key.isNull = false) ∧
        statement.AsksFor schema dialect context related column
          (firstOfEachKey keys)

theorem returns_fetchIndex_recorded {related : Nat} {keys : RelationKeys}
    {values : List Value} {index : RelatedIndex Instance}
    (ran :
      Returns (fetchIndex schema executor context related keys values)
        before index after) :
    ∃ statement?,
      Asked schema executor.dialect context related keys.relatedKey values
          statement? ∧
        ∀ log, Returns
          (fetchIndex schema executor.recorded context related keys values)
          (before, log) index (after, log ++ statement?.toList) := by
  rcases returns_fetchIndex_iff.mp ran with
    ⟨nothing, empty, rfl⟩ | ⟨asked, found, fetched, built⟩
  · refine ⟨none, ?_, fun log => returns_fetchIndex_iff.mpr
      (Or.inl ⟨nothing, empty, by simp⟩)⟩
    intro key member
    by_contra present
    rw [distinctKeys_nil_eq] at nothing
    exact firstOfEachKey_ne_nil_iff.mpr
      ⟨key, member, by simpa using present⟩ nothing
  · obtain ⟨compiled, compiles, recorded⟩ :=
      returns_fetch_recorded fetched
    refine ⟨some ⟨context, compiled.sql, compiled.bindings⟩, ?_,
      fun log => returns_fetchIndex_iff.mpr
        (Or.inr ⟨asked, found, recorded log, built⟩)⟩
    rw [distinctKeys_nil_eq] at asked compiles
    exact ⟨firstOfEachKey_ne_nil_iff.mp asked,
      asksFor_of_compiles asked compiles⟩

theorem returns_loadBatch_recorded {first : Slot} {batch loaded : List Slot}
    (ran :
      Returns (loadBatch schema executor context first batch)
        before loaded after) :
    ∃ keys statement?,
      (∀ slot ∈ batch, slot.role = first.role ∧ slot.keys? = some keys) ∧
        Asked schema executor.dialect context first.related keys.relatedKey
          (batch.map Slot.parentValue) statement? ∧
        ∀ log, Returns
          (loadBatch schema executor.recorded context first batch)
          (before, log) loaded (after, log ++ statement?.toList) := by
  obtain ⟨keys, index, between, shared, fetched, rfl, assigned⟩ :=
    returns_loadBatch_iff.mp ran
  obtain ⟨statement?, asked, recorded⟩ :=
    returns_fetchIndex_recorded fetched
  exact ⟨keys, statement?, (sharedKeys_eq_ok_iff.mp shared).2, asked,
    fun log => returns_loadBatch_iff.mpr
      ⟨keys, index, _, shared, recorded log, rfl, assigned⟩⟩

/-- The slots of a segment run at most one statement, for the pending ones
among them, which relate to the same rows. -/
theorem returns_loadSlots_recorded {onlyMissing : Bool}
    {path segment : String} {slots loaded : List Slot}
    (ran :
      Returns
        (loadSlots schema executor context onlyMissing path segment slots)
        before loaded after) :
    ∃ related column statement?,
      (∀ slot ∈ slots.filter (isPending onlyMissing),
        slot.related = related ∧
          ∃ keys, slot.keys? = some keys ∧ keys.relatedKey = column) ∧
        Asked schema executor.dialect context related column
          ((slots.filter (isPending onlyMissing)).map Slot.parentValue)
          statement? ∧
        ∀ log, Returns
          (loadSlots schema executor.recorded context onlyMissing path
            segment slots)
          (before, log) loaded (after, log ++ statement?.toList) := by
  rcases returns_loadSlots_iff.mp ran with
    ⟨nothing, same, rfl⟩ | ⟨first, others, batch, pending, batchRan, merged⟩
  · refine ⟨0, "", none, ?_, ?_, fun log => returns_loadSlots_iff.mpr
      (Or.inl ⟨nothing, same, by simp⟩)⟩
    · rw [nothing]
      exact fun slot member => (List.not_mem_nil member).elim
    · rw [nothing]
      exact fun key member => (List.not_mem_nil member).elim
  · obtain ⟨keys, statement?, shared, asked, recorded⟩ :=
      returns_loadBatch_recorded batchRan
    rw [← pending] at shared asked
    refine ⟨first.related, keys.relatedKey, statement?, ?_, asked,
      fun log => returns_loadSlots_iff.mpr
        (Or.inr ⟨first, others, batch, pending, recorded log, merged⟩)⟩
    intro slot member
    obtain ⟨role, given⟩ := shared slot member
    simp only [Slot.role, Prod.mk.injEq] at role
    exact ⟨role.2, keys, given, rfl⟩

end RecordQuery
