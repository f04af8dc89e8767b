import RecordQuery.Instance.Load
import RecordQuery.Proofs.Model.ContextOrder

/-!
# Filters that fail

A filter by a relationship that the model does not declare, or whose join
columns cannot be found, leaves its failure in the query.  The first failure
stays there through all later steps and all scopes: the query is compiled and
run with that failure and no other, without a statement being sent, and no query
that has it as a sub-query compiles.
-/

namespace RecordQuery

/-! ## Failures of filters -/

theorem Model.deferred_of_primaryKeyFor {model : Model} {relation : String}
    {cause : Error} (failed : model.primaryKeyFor relation = .error cause) :
    cause.deferred = cause := by
  unfold primaryKeyFor at failed
  split at failed
  · cases failed
    rfl
  · cases failed
  · cases failed
    rfl

theorem Relation.deferred_of_keyOr {stated? : Option String}
    {derived : Except Error String} {cause : Error}
    (kept : derived = .error cause → cause.deferred = cause)
    (failed : keyOr stated? derived = .error cause) :
    cause.deferred = cause := by
  cases stated? with
  | none => exact kept failed
  | some column => cases failed

theorem Relation.keyOr_ok_ne_error {stated? : Option String}
    {column : String} {cause : Error} :
    keyOr stated? (.ok column) ≠ .error cause := by
  cases stated? <;> exact nofun

theorem Relation.deferred_of_columnPair {relation : Relation}
    {parent related : Model} {cause : Error}
    (failed : relation.columnPair parent related = .error cause) :
    cause.deferred = cause := by
  unfold columnPair at failed
  split at failed <;>
    rcases exceptBind_eq_error_iff.mp failed with first | ⟨_, -, second⟩
  all_goals first
    | exact deferred_of_keyOr Model.deferred_of_primaryKeyFor first
    | rcases exceptBind_eq_error_iff.mp second with derived | ⟨_, -, paired⟩
      · exact absurd derived keyOr_ok_ne_error
      · cases paired

/-- A relationship whose join columns cannot be found fails with what a query
keeps as it is. -/
theorem Relation.deferred_of_resolve {schema : Schema} {relation : Relation}
    {parent : Model} {cause : Error}
    (failed : relation.resolve schema parent = .error cause) :
    cause.deferred = cause := by
  unfold resolve at failed
  rcases exceptBind_eq_error_iff.mp failed with first | ⟨columns, -, second⟩
  · exact deferred_of_columnPair first
  · dsimp only at second
    cases parentHas : parent.hasColumn columns.1 with
    | false =>
        rw [parentHas] at second
        cases second
        rfl
    | true =>
        cases relatedHas :
            (schema.model relation.related).hasColumn columns.2 with
        | false =>
            rw [parentHas, relatedHas] at second
            cases second
            rfl
        | true =>
            rw [parentHas, relatedHas] at second
            cases second

theorem Relation.subquery_eq_error_iff {schema : Schema}
    {relation : Relation} {parent : Model} {cause : Error} :
    relation.subquery schema parent = .error cause ↔
      relation.resolve schema parent = .error cause := by
  unfold subquery
  cases relation.resolve schema parent with
  | error fault =>
      constructor
      · rintro ⟨⟩
        rfl
      · rintro ⟨⟩
        rfl
  | ok keys => exact ⟨nofun, nofun⟩

/-- How a filter by relationship fails: the model has to declare the
relationship and does not, or the join columns cannot be found. -/
inductive ModelStep.FailsWith (schema : Schema) (typed : ModelQuery) :
    ModelStep → Error → Prop
  | undeclared {clause : Clause} {link : Link} {name : String}
      {refinement : List Step}
      (unknown : (schema.model typed.place).relation? name = none)
      (strict : typed.unknownRelation = .error) :
      FailsWith schema typed (.has clause link name refinement)
        (.missingRelationship (schema.model typed.place).name name)
  | unresolved {clause : Clause} {link : Link} {name : String}
      {refinement : List Step} {relation : Relation} {cause : Error}
      (declared : (schema.model typed.place).relation? name = some relation)
      (failed : relation.resolve schema (schema.model typed.place) =
        .error cause) :
      FailsWith schema typed (.has clause link name refinement) cause

namespace ModelQuery

/-- The failure of the first step that fails, each seen in the query that the
steps before it have built. -/
inductive FirstFailure (schema : Schema) :
    ModelQuery → List ModelStep → Error → Prop
  | now {typed : ModelQuery} {step : ModelStep} {error : Error}
      (rest : List ModelStep) (fails : step.FailsWith schema typed error) :
      FirstFailure schema typed (step :: rest) error
  | later {typed : ModelQuery} {step : ModelStep} {rest : List ModelStep}
      {error : Error} (passes : ∀ cause, ¬step.FailsWith schema typed cause)
      (failure : FirstFailure schema (typed.apply schema step) rest error) :
      FirstFailure schema typed (step :: rest) error

end ModelQuery

variable {schema : Schema}

theorem ModelStep.failure?_eq_some_iff {typed : ModelQuery}
    {step : ModelStep} {error : Error} :
    step.failure? schema (schema.model typed.place) typed.unknownRelation =
        some error ↔
      step.FailsWith schema typed error := by
  constructor
  · intro found
    cases step with
    | has clause link name refinement =>
        simp only [failure?] at found
        cases declared : (schema.model typed.place).relation? name with
        | none =>
            cases policy : typed.unknownRelation with
            | skip => simp [declared, policy] at found
            | error =>
                simp only [declared, policy, Option.some.injEq] at found
                exact found ▸ .undeclared declared policy
        | some relation =>
            cases resolved :
                relation.subquery schema (schema.model typed.place) with
            | ok sub => simp [declared, resolved] at found
            | error cause =>
                have failed := Relation.subquery_eq_error_iff.mp resolved
                simp only [declared, resolved, Option.some.injEq,
                  Relation.deferred_of_resolve failed] at found
                exact found ▸ .unresolved declared failed
    | _ => cases found
  · rintro (⟨unknown, strict⟩ | ⟨declared, failed⟩)
    · simp only [failure?, unknown, strict]
    · have resolved := Relation.subquery_eq_error_iff.mpr failed
      simp only [failure?, declared, resolved,
        Relation.deferred_of_resolve failed]

theorem ModelStep.failure?_eq_none_of_subquery? {model : Model}
    {context : Context} {policy : UnknownRelation} {step : ModelStep}
    {sub : Query}
    (asked : step.subquery? schema model context = some sub) :
    step.failure? schema model policy = none := by
  cases step with
  | has clause link name refinement =>
      simp only [subquery?] at asked
      simp only [failure?]
      cases declared : model.relation? name with
      | none => simp [declared] at asked
      | some relation =>
          cases resolved : relation.subquery schema model with
          | error cause => simp [declared, resolved] at asked
          | ok found => simp [resolved]
  | _ => cases asked

/-! ## Failures that stay -/

theorem Step.fault?_apply (query : Query) (step : Step) :
    (step.apply query).fault? = query.fault? := by
  cases step with
  | filter clause predicate => cases clause <;> rfl
  | filterByContext kind column operator =>
      simp only [Step.apply]
      split <;> rfl
  | _ => rfl

namespace Query

theorem fault?_applyAll (steps : List Step) (query : Query) :
    (query.applyAll steps).fault? = query.fault? := by
  induction steps generalizing query with
  | nil => rfl
  | cons step rest inductionHypothesis =>
      exact (inductionHypothesis _).trans (step.fault?_apply query)

theorem fault?_applyScopes (query : Query) :
    query.applyScopes.fault? = query.fault? := by
  rw [applyScopes_eq_applyAll, fault?_applyAll]

theorem fault?_addPredicate (query : Query) (clause : Clause)
    (predicate : Predicate) :
    (query.addPredicate clause predicate).fault? = query.fault? := by
  cases clause <;> rfl

/-- A query with a failure is refused as it stands. -/
theorem fragment_of_fault? {query : Query} {error : Error}
    (faulty : query.fault? = some error) : query.fragment = .refused error := by
  rw [fragment, layout, fault?_applyScopes, faulty]

theorem toSql_of_fault? {query : Query} {error : Error}
    (faulty : query.fault? = some error) (dialect : Dialect) :
    query.toSql dialect = .error error := by
  rw [toSql, fragment_of_fault? faulty]
  rfl

end Query

namespace ModelQuery

theorem fault?_withFailure (failure? : Option Error) (typed : ModelQuery) :
    (typed.withFailure failure?).query.fault? =
      typed.query.fault?.or failure? := by
  cases failure? with
  | none => exact (Option.or_none).symm
  | some fault => rfl

/-- A step leaves its failure where there is none yet. -/
theorem fault?_apply (schema : Schema) (typed : ModelQuery)
    (step : ModelStep) :
    (typed.apply schema step).query.fault? =
      typed.query.fault?.or
        (step.failure? schema (schema.model typed.place)
          typed.unknownRelation) := by
  cases step with
  | plain step =>
      exact (step.fault?_apply typed.query).trans Option.or_none.symm
  | unknownRelation policy => exact (Option.or_none).symm
  | load path => exact (Option.or_none).symm
  | has clause link name refinement =>
      cases asked :
          (ModelStep.has clause link name refinement).subquery? schema
            (schema.model typed.place) typed.query.context with
      | none => rw [apply_has_of_none asked, fault?_withFailure]
      | some sub =>
          rw [apply_has_of_some asked, Query.fault?_addPredicate,
            ModelStep.failure?_eq_none_of_subquery? asked, Option.or_none]

theorem fault?_applyAll_of_some {error : Error} (steps : List ModelStep) :
    ∀ typed : ModelQuery, typed.query.fault? = some error →
      (typed.applyAll schema steps).query.fault? = some error := by
  induction steps with
  | nil =>
      intro typed faulty
      exact faulty
  | cons step rest inductionHypothesis =>
      intro typed faulty
      refine inductionHypothesis (typed.apply schema step) ?_
      rw [fault?_apply, faulty, Option.some_or]

/-- A chain with a step that fails has a failure, be it an earlier one. -/
theorem exists_fault?_of_failsWith {typed : ModelQuery}
    {before : List ModelStep} {step : ModelStep} {cause : Error}
    (fails : step.FailsWith schema (typed.applyAll schema before) cause)
    (after : List ModelStep) :
    ∃ error,
      (typed.applyAll schema (before ++ step :: after)).query.fault? =
        some error := by
  have reached := fault?_apply schema
    (typed.applyAll schema before) step
  rw [ModelStep.failure?_eq_some_iff.mpr fails] at reached
  rw [applyAll, List.foldl_append, List.foldl_cons]
  cases earlier : (typed.applyAll schema before).query.fault? with
  | none =>
      rw [earlier, Option.none_or] at reached
      exact ⟨cause, fault?_applyAll_of_some after _ reached⟩
  | some error =>
      rw [earlier, Option.some_or] at reached
      exact ⟨error, fault?_applyAll_of_some after _ reached⟩

theorem fault?_applyAll_iff {error : Error} (steps : List ModelStep) :
    ∀ typed : ModelQuery, typed.query.fault? = none →
      ((typed.applyAll schema steps).query.fault? = some error ↔
        FirstFailure schema typed steps error) := by
  induction steps with
  | nil =>
      intro typed faultless
      constructor
      · intro faulty
        cases faultless.symm.trans faulty
      · nofun
  | cons step rest inductionHypothesis =>
      intro typed faultless
      have after := fault?_apply schema typed step
      rw [faultless, Option.none_or] at after
      cases failure :
          step.failure? schema (schema.model typed.place)
            typed.unknownRelation with
      | none =>
          have passes : ∀ cause, ¬step.FailsWith schema typed cause := by
            intro cause fails
            rw [← ModelStep.failure?_eq_some_iff, failure] at fails
            cases fails
          rw [failure] at after
          constructor
          · intro faulty
            exact .later passes
              ((inductionHypothesis _ after).mp faulty)
          · rintro (⟨_, fails⟩ | ⟨_, later⟩)
            · exact absurd fails (passes _)
            · exact (inductionHypothesis _ after).mpr later
      | some first =>
          have fails : step.FailsWith schema typed first :=
            ModelStep.failure?_eq_some_iff.mp failure
          rw [failure] at after
          have kept :
              ((typed.apply schema step).applyAll schema rest).query.fault? =
                some first :=
            fault?_applyAll_of_some rest _ after
          constructor
          · intro faulty
            cases kept.symm.trans faulty
            exact .now rest fails
          · rintro (⟨_, other⟩ | ⟨passes, _⟩)
            · rw [← ModelStep.failure?_eq_some_iff, failure] at other
              cases other
              exact kept
            · exact absurd fails (passes first)

end ModelQuery

/-! ## Fragments with a part that fails -/

namespace Fragment

variable {dialect : Dialect} {error : Error}

theorem toSql_of_fails {fragment : Fragment}
    (fails : Fails (fragment.compile dialect) 0 error) :
    fragment.toSql dialect = .error error := by
  obtain ⟨after, outcome⟩ := fails
  exact congrArg Prod.fst outcome

theorem fails_refused (cause : Error) (count : Nat) :
    Fails ((refused cause).compile dialect) count cause :=
  Fails.throw_iff.mpr rfl

theorem fails_group {inner : Fragment} {count : Nat}
    (fails : Fails (inner.compile dialect) count error) :
    Fails ((group inner).compile dialect) count error :=
  Fails.bind_iff.mpr (Or.inl fails)

theorem fails_joined_left {separator : String} {left right : Fragment}
    {count : Nat} (fails : Fails (left.compile dialect) count error) :
    Fails ((joined separator left right).compile dialect) count error :=
  Fails.bind_iff.mpr (Or.inl fails)

theorem fails_joined_right {separator : String} {left right : Fragment}
    (compilable : left.IsCompilable)
    (fails : ∀ count, Fails (right.compile dialect) count error)
    (count : Nat) :
    Fails ((joined separator left right).compile dialect) count error := by
  obtain ⟨done, between, returned⟩ :=
    (returns_compile_iff dialect left count).mpr compilable
  exact Fails.bind_iff.mpr (Or.inr ⟨done, between, returned,
    Fails.bind_iff.mpr (Or.inl (fails between))⟩)

theorem fails_foldl_joined {separator : String} (after : List Fragment) :
    ∀ {start : Fragment} {count : Nat},
      Fails (start.compile dialect) count error →
        Fails ((after.foldl (.joined separator) start).compile dialect)
          count error := by
  induction after with
  | nil =>
      intro start count fails
      exact fails
  | cons next rest inductionHypothesis =>
      intro start count fails
      exact inductionHypothesis (fails_joined_left fails)

/-- The first part that fails says how the whole does. -/
theorem fails_join {separator : String} {before : List Fragment}
    {part : Fragment} {after : List Fragment}
    (compilable : ∀ earlier ∈ before, earlier.IsCompilable)
    (fails : ∀ count, Fails (part.compile dialect) count error)
    (count : Nat) :
    Fails ((join separator (before ++ part :: after)).compile dialect)
      count error := by
  have front : (join separator before).IsCompilable :=
    (isCompilable_join separator before).mpr compilable
  rw [join, List.foldl_append, List.foldl_cons]
  exact fails_foldl_joined after (fails_joined_right front fails count)

end Fragment

theorem Source.fails_derived {dialect : Dialect} {query : Fragment}
    {error : Error}
    (fails : ∀ count, Fails (query.compile dialect) count error)
    (label : String) (count : Nat) :
    Fails ((derived query label).fragment.compile dialect) count error :=
  Fragment.fails_joined_left
    (Fragment.fails_joined_right (Fragment.isCompilable_text _)
      (fun count => Fragment.fails_group (fails count)) count)

/-! ## Runs of a query with a failure -/

/-- What follows an action that fails is not run. -/
theorem run_bind_of_error {σ α β : Type} {action : Action σ α}
    {error : Error} {before after : σ}
    (failed : action.run.run before = (.error error, after))
    (next : α → Action σ β) :
    (action >>= next).run.run before = (.error error, after) := by
  rw [ExceptT.run_bind, StateT.run_bind, failed]
  rfl

namespace Query

variable {σ : Type} {query : Query} {error : Error}

theorem fetchRows_of_fault? (faulty : query.fault? = some error)
    (executor : Executor σ) (state : σ) :
    (query.fetchRows executor).run.run state = (.error error, state) := by
  refine run_bind_of_error ?_ _
  rw [toSql_of_fault? faulty executor.dialect]
  rfl

theorem hasRow_of_fault? (faulty : query.fault? = some error)
    (executor : Executor σ) (state : σ) :
    (query.hasRow executor).run.run state = (.error error, state) :=
  run_bind_of_error
    (fetchRows_of_fault?
      (show ({ query with limit? := some 1 } : Query).fault? = some error
        from faulty) executor state) _

/-- The query that counts the rows fails with the failure of the query, be it
counted as it stands or as a derived table. -/
theorem toSql_countQuery_of_fault? (faulty : query.fault? = some error)
    (dialect : Dialect) :
    query.countQuery.toSql dialect = .error error := by
  have kept : query.applyScopes.fault? = some error := by
    rw [fault?_applyScopes, faulty]
  unfold countQuery
  dsimp only
  split
  · have refused :
        ({ query.applyScopes with
            orderBy := [], limit? := none, offset? := none } :
          Query).fragment = .refused error := fragment_of_fault? kept
    have selected : ∀ earlier ∈ [Fragment.joined " " (.text "SELECT")
        (.join ", " [.text "COUNT(*) AS count"])], earlier.IsCompilable := by
      simp
    rw [refused]
    exact Fragment.toSql_of_fails
      (Fragment.fails_join selected
        (Source.fails_derived (Fragment.fails_refused error) "sub") 0)
  · exact toSql_of_fault?
      (show ({ query.applyScopes with
          orderBy := [], limit? := none, offset? := none, distinct := false,
          columns := [.text "COUNT(*) AS count"] } : Query).fault? =
        some error from kept) dialect

end Query

namespace ModelQuery

variable {σ : Type} {typed : ModelQuery} {error : Error}

theorem get_of_fault? (faulty : typed.query.fault? = some error)
    (schema : Schema) (executor : Executor σ) (state : σ) :
    (typed.get schema executor).run.run state = (.error error, state) :=
  run_bind_of_error
    (run_bind_of_error
      (run_bind_of_error (Query.fetchRows_of_fault? faulty executor state) _)
      _) _

theorem first_of_fault? (faulty : typed.query.fault? = some error)
    (schema : Schema) (executor : Executor σ) (state : σ) :
    (typed.first schema executor).run.run state = (.error error, state) :=
  run_bind_of_error
    (get_of_fault?
      (show ({ typed with
          query := { typed.query with limit? := some 1 } } :
            ModelQuery).query.fault? = some error from faulty)
      schema executor state) _

theorem count_of_fault? (faulty : typed.query.fault? = some error)
    (executor : Executor σ) (state : σ) :
    (typed.count executor).run.run state = (.error error, state) := by
  refine run_bind_of_error (run_bind_of_error (run_bind_of_error ?_ _) _) _
  rw [Query.toSql_countQuery_of_fault? faulty executor.dialect]
  rfl

end ModelQuery

/-! ## Queries with a failing part -/

/-- What a predicate compares. -/
def Predicate.sides (predicate : Predicate) : List Fragment :=
  predicate.column?.toList ++ predicate.operand?.toList

/-- What a query renders, clause by clause. -/
def Query.parts (query : Query) : List Fragment :=
  (query.source?.map Source.fragment).toList ++ query.columns ++
    (query.joins.flatMap Join.on).map Predicate.fragment ++
    query.wheres.map Predicate.fragment ++ query.groupBy ++
    query.havings.map Predicate.fragment ++
    query.orderBy.map SortKey.fragment

/-- That a part is rendered somewhere in a fragment: among its words, on a side
of a predicate, in a list of conditions, or in a clause that a query has under
its scopes. -/
inductive Fragment.IsPartOf (part : Fragment) : Fragment → Prop
  | itself : IsPartOf part part
  | group {inner : Fragment} (within : IsPartOf part inner) :
      IsPartOf part (.group inner)
  | left (separator : String) {left : Fragment} (right : Fragment)
      (within : IsPartOf part left) :
      IsPartOf part (.joined separator left right)
  | right (separator : String) (left : Fragment) {right : Fragment}
      (within : IsPartOf part right) :
      IsPartOf part (.joined separator left right)
  | led (keyword : String) {body : Fragment} (within : IsPartOf part body) :
      IsPartOf part (.led keyword body)
  | side {predicate : Predicate} {side : Fragment}
      (member : side ∈ predicate.sides) (within : IsPartOf part side) :
      IsPartOf part predicate.fragment
  | condition {conditions : Conditions} {predicate : Predicate}
      (member : predicate ∈ conditions)
      (within : IsPartOf part predicate.fragment) :
      IsPartOf part conditions.fragment
  | clause {query : Query} {clause : Fragment}
      (member : clause ∈ query.applyScopes.parts)
      (within : IsPartOf part clause) : IsPartOf part query.fragment

theorem Predicate.isCompilable_of_mem_sides {predicate : Predicate}
    {side : Fragment} (member : side ∈ predicate.sides)
    (compilable : predicate.fragment.IsCompilable) : side.IsCompilable := by
  rcases predicate with ⟨link, column?, operator?, operand?⟩
  simp only [sides, List.mem_append, Option.mem_toList] at member
  unfold fragment at compilable
  cases checked :
      (Predicate.mk link column? operator? operand?).checkedOperator with
  | error cause => simp [checked] at compilable
  | ok operator? =>
      rw [checked] at compilable
      cases column? with
      | none =>
          rcases member with named | compared
          · cases named
          · subst compared
            cases operator? <;> simpa using compilable
      | some column =>
          cases operator? with
          | none => simp at compilable
          | some operator =>
              cases operand? with
              | none =>
                  rcases member with named | compared
                  · cases named
                    cases test : nullTest? operator with
                    | none => simp [test] at compilable
                    | some text => simpa [test] using compilable
                  · cases compared
              | some operand =>
                  have both : column.IsCompilable ∧ operand.IsCompilable := by
                    simpa using compilable
                  rcases member with named | compared
                  · cases named
                    exact both.1
                  · cases compared
                    exact both.2

theorem Join.isCompilable_on {join : Join}
    (compilable : join.fragment.IsCompilable) :
    ∀ predicate ∈ join.on, predicate.fragment.IsCompilable :=
  (Conditions.isCompilable_fragment join.on).mp
    ((Fragment.isCompilable_led _ _).mp
      ((Fragment.isCompilable_joined _ _ _).mp compilable).2)

theorem Query.isCompilable_of_mem_listed {keyword : String}
    {items : List Fragment} (compilable : (listed keyword items).IsCompilable) :
    ∀ item ∈ items, item.IsCompilable := by
  unfold listed at compilable
  split at compilable
  · next empty => simp [List.isEmpty_iff.mp empty]
  · simpa using compilable

theorem Query.isCompilable_of_mem_columns {query : Query}
    (compilable : query.selectFragment.IsCompilable) :
    ∀ column ∈ query.columns, column.IsCompilable := by
  have selected :=
    ((Fragment.isCompilable_joined _ _ _).mp compilable).2
  split at selected
  · next empty => simp [List.isEmpty_iff.mp empty]
  · simpa using selected

theorem Query.isCompilable_of_mem_parts {query : Query} {part : Fragment}
    (member : part ∈ query.parts) (compilable : query.layout.IsCompilable) :
    part.IsCompilable := by
  obtain ⟨selected, source, joins, wheres, groups, havings, sorted, -⟩ :=
    (isCompilable_layout_iff
      (fault?_eq_none_of_isCompilable compilable)).mp compilable
  simp only [parts, List.mem_append] at member
  rcases member with
    (((((ofSource | ofColumns) | ofJoins) | ofWheres) | ofGroups) | ofHavings)
      | ofOrder
  · rw [Option.mem_toList.mp ofSource] at source
    exact source
  · exact isCompilable_of_mem_columns selected part ofColumns
  · obtain ⟨predicate, on, rfl⟩ := List.mem_map.mp ofJoins
    obtain ⟨join, joined, inOn⟩ := List.mem_flatMap.mp on
    exact Join.isCompilable_on (joins join joined) predicate inOn
  · obtain ⟨predicate, filtered, rfl⟩ := List.mem_map.mp ofWheres
    exact (Conditions.isCompilable_fragment _).mp wheres predicate filtered
  · exact isCompilable_of_mem_listed groups part ofGroups
  · obtain ⟨predicate, filtered, rfl⟩ := List.mem_map.mp ofHavings
    exact (Conditions.isCompilable_fragment _).mp havings predicate filtered
  · exact isCompilable_of_mem_listed sorted part ofOrder

/-- A part that cannot be compiled keeps everything that renders it from being
compiled. -/
theorem Fragment.isCompilable_of_isPartOf {part whole : Fragment}
    (rendered : part.IsPartOf whole) (compilable : whole.IsCompilable) :
    part.IsCompilable := by
  induction rendered with
  | itself => exact compilable
  | group within inductionHypothesis =>
      exact inductionHypothesis ((isCompilable_group _).mp compilable)
  | left separator right within inductionHypothesis =>
      exact inductionHypothesis
        ((isCompilable_joined separator _ right).mp compilable).1
  | right separator left within inductionHypothesis =>
      exact inductionHypothesis
        ((isCompilable_joined separator left _).mp compilable).2
  | led keyword within inductionHypothesis =>
      exact inductionHypothesis ((isCompilable_led keyword _).mp compilable)
  | side member within inductionHypothesis =>
      exact inductionHypothesis
        (Predicate.isCompilable_of_mem_sides member compilable)
  | condition member within inductionHypothesis =>
      exact inductionHypothesis
        ((Conditions.isCompilable_fragment _).mp compilable _ member)
  | clause member within inductionHypothesis =>
      exact inductionHypothesis
        (Query.isCompilable_of_mem_parts member compilable)

theorem Query.exists_toSql_error {query : Query} {part : Fragment}
    (rendered : part.IsPartOf query.fragment) (refused : ¬part.IsCompilable)
    (dialect : Dialect) : ∃ cause, query.toSql dialect = .error cause := by
  cases outcome : query.toSql dialect with
  | error cause => exact ⟨cause, rfl⟩
  | ok compiled =>
      have compilable : query.fragment.IsCompilable :=
        (Fragment.exists_toSql_iff dialect _).mp ⟨compiled, outcome⟩
      exact (refused
        (Fragment.isCompilable_of_isPartOf rendered compilable)).elim

namespace ModelQuery

/-- A chain of steps with a filter by relationship that fails is compiled and
run with the first failure in it, whatever follows and whatever its scopes do,
and no statement is sent.  Every query that renders it fails as well. -/
theorem fails_with_first_failure (place : Nat) {before : List ModelStep}
    {step : ModelStep} {cause : Error} (after : List ModelStep)
    (fails : step.FailsWith schema
      ((ofModel schema place).applyAll schema before) cause) :
    let built :=
      (ofModel schema place).applyAll schema (before ++ step :: after)
    ∃ error,
      FirstFailure schema (ofModel schema place) (before ++ step :: after)
        error ∧
      (∀ dialect, built.query.toSql dialect = .error error) ∧
      (∀ (σ : Type) (executor : Executor σ) (state : σ),
        (built.get schema executor).run.run state = (.error error, state) ∧
        (built.first schema executor).run.run state = (.error error, state) ∧
        (built.count executor).run.run state = (.error error, state) ∧
        (built.query.hasRow executor).run.run state = (.error error, state) ∧
        (built.query.fetchRows executor).run.run state =
          (.error error, state)) ∧
      ∀ outer : Query, built.query.fragment.IsPartOf outer.fragment →
        ∀ dialect, ∃ refusal, outer.toSql dialect = .error refusal := by
  intro built
  have started : (ofModel schema place).query.fault? = none := rfl
  have failure : ∃ error, built.query.fault? = some error :=
    exists_fault?_of_failsWith fails after
  obtain ⟨error, faulty⟩ := failure
  refine ⟨error, (fault?_applyAll_iff _ _ started).mp faulty,
    Query.toSql_of_fault? faulty, ?_, ?_⟩
  · intro σ executor state
    exact ⟨get_of_fault? faulty schema executor state,
      first_of_fault? faulty schema executor state,
      count_of_fault? faulty executor state,
      Query.hasRow_of_fault? faulty executor state,
      Query.fetchRows_of_fault? faulty executor state⟩
  · intro outer rendered
    refine Query.exists_toSql_error rendered ?_
    rw [Query.fragment_of_fault? faulty]
    exact Fragment.not_isCompilable_refused error

theorem fails_with_first_failure_of_unknown_relation :
    let schema : Schema := { models := [{ name := "Foo", table := "foos" }] }
    let before : List ModelStep := [.plain .distinct, .load "bar"]
    let step : ModelStep := .has .where_ .or "bar" []
    let after : List ModelStep :=
      [.has .having .and "baz" [],
        .plain (.attach ⟨"few", [.limit 3, .unordered]⟩)]
    let built :=
      (ofModel schema 0).applyAll schema (before ++ step :: after)
    let outer := (Query.table "quxes").addPredicate .where_
      (.inQuery false "foo_id" built.query.fragment)
    step.FailsWith schema ((ofModel schema 0).applyAll schema before)
        (.missingRelationship "Foo" "bar") ∧
      (∀ dialect, built.query.toSql dialect =
        .error (.missingRelationship "Foo" "bar")) ∧
      ∀ dialect, ∃ refusal, outer.toSql dialect = .error refusal := by
  intro schema before step after built outer
  have fails :
      step.FailsWith schema ((ofModel schema 0).applyAll schema before)
        (.missingRelationship "Foo" "bar") := .undeclared rfl rfl
  obtain ⟨error, -, refused, -, embedded⟩ :=
    fails_with_first_failure 0 after fails
  have faulty :
      built.query.fault? = some (.missingRelationship "Foo" "bar") := rfl
  have first : error = .missingRelationship "Foo" "bar" := by
    have outcome := Query.toSql_of_fault? faulty .sqlite
    rw [refused .sqlite] at outcome
    injection outcome
  rw [first] at refused
  refine ⟨fails, refused, embedded outer ?_⟩
  have filtered :
      (Predicate.inQuery false "foo_id" built.query.fragment).fragment ∈
        outer.applyScopes.parts :=
    List.mem_cons_of_mem _ List.mem_cons_self
  have operand : .group built.query.fragment ∈
      (Predicate.inQuery false "foo_id" built.query.fragment).sides :=
    List.mem_cons_of_mem _ List.mem_cons_self
  exact .clause filtered (.side operand (.group .itself))

end ModelQuery

end RecordQuery
