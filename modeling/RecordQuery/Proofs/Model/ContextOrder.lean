import Mathlib.Data.List.Induction
import RecordQuery.Model.Query
import RecordQuery.Proofs.Fragment.Places
import RecordQuery.Proofs.Query.Scopes

/-!
# Where in a chain the context is set

The scopes of a model take effect when the query is compiled and see its final
context.  The sub-query of a filter by relationship starts with the context that
the query has when the filter is added, so that a context which is set later
does not reach the scopes of the related model.  Setting the context is thus
free to stand anywhere exactly when no sub-query comes out differently with it
than without it.
-/

namespace RecordQuery

/-! ## Fragments with a sub-query -/

namespace Query

theorem isSilent_selectFragment (query : Query) :
    query.selectFragment.isSilent = false := by
  have written :
      (Fragment.text
        (if query.distinct then "SELECT DISTINCT" else "SELECT")).isSilent =
        false := by
    cases query.distinct <;> exact Fragment.isSilent_text_of_ne (by decide)
  rw [selectFragment, Fragment.isSilent_joined, written, Bool.false_and]

/-- A statement that can be compiled has text. -/
theorem isSilent_fragment {query : Query}
    (compilable : query.fragment.IsCompilable) :
    query.fragment.isSilent = false := by
  have faultless : query.applyScopes.fault? = none :=
    fault?_eq_none_of_isCompilable compilable
  have laidOut :
      query.fragment =
        (Place.among " " [] .here
          [(query.applyScopes.source?.map Source.fragment).getD .nothing,
            .join " " (query.applyScopes.joins.map Join.fragment),
            .led "WHERE" query.applyScopes.wheres.fragment,
            listed "GROUP BY" query.applyScopes.groupBy,
            .led "HAVING" query.applyScopes.havings.fragment,
            listed "ORDER BY"
              (query.applyScopes.orderBy.map SortKey.fragment),
            query.applyScopes.limitFragment]).fill
          query.applyScopes.selectFragment := by
    rw [Place.fill_among, fragment, layout, faultless]
    rfl
  rw [laidOut]
  exact Place.isSilent_fill query.applyScopes.isSilent_selectFragment _

/-- Filters by two sub-queries come out the same exactly when the sub-queries
do. -/
theorem alike_existence_iff (link : Link) (left right : Query) :
    (Predicate.existence link false left.fragment).fragment.Alike
        (Predicate.existence link false right.fragment).fragment ↔
      left.fragment.Alike right.fragment := by
  let between : Place := .right " " (.text "EXISTS") (.group .here)
  have open_ : between.IsCompilable :=
    ⟨Fragment.isCompilable_text _, trivial⟩
  have filled :
      ∀ query : Query,
        (Predicate.existence link false query.fragment).fragment =
          between.fill query.fragment :=
    fun query => Predicate.fragment_existence link query.fragment
  have compilable_iff :
      ∀ query : Query,
        (between.fill query.fragment).IsCompilable ↔
          query.fragment.IsCompilable :=
    fun query =>
      (between.isCompilable_fill_iff query.fragment).trans
        (and_iff_right open_)
  rw [filled, filled]
  constructor
  · intro alike
    have same := alike.1
    rw [compilable_iff, compilable_iff] at same
    refine ⟨same, fun compilable => ?_⟩
    have both :=
      (between.alike_fill_iff (isSilent_fragment (same.mpr compilable))
        (isSilent_fragment compilable)).mp alike open_
    exact both.2 compilable
  · intro alike
    have same := alike.1
    rw [← compilable_iff, ← compilable_iff] at same
    refine ⟨same, fun compilable => ?_⟩
    have rightCompilable := (compilable_iff right).mp compilable
    have both :=
      (between.alike_fill_iff
        (isSilent_fragment (alike.1.mpr rightCompilable))
        (isSilent_fragment rightCompilable)).mpr fun _ => alike
    exact both.2 compilable

/-! ## The place of a predicate in a statement -/

theorem fault?_prepend (clause : Clause) (predicates : Conditions)
    (query : Query) :
    (query.prepend clause predicates).fault? = query.fault? := by
  cases clause <;> rfl

/-- In a query without failure a predicate stands at a place that does not
depend on it. -/
theorem exists_place_layout {query : Query} (faultless : query.fault? = none)
    (clause : Clause) (before : Conditions) (link : Link) :
    ∃ place : Place, ∀ predicate : Predicate, predicate.link = link →
      (query.prepend clause (before ++ [predicate])).layout =
        place.fill predicate.fragment := by
  cases clause with
  | where_ =>
      refine ⟨.among " "
        [query.selectFragment,
          (query.source?.map Source.fragment).getD .nothing,
          .join " " (query.joins.map Join.fragment)]
        (.led "WHERE" (.ofPredicate link before query.wheres))
        [listed "GROUP BY" query.groupBy,
          .led "HAVING" query.havings.fragment,
          listed "ORDER BY" (query.orderBy.map SortKey.fragment),
          query.limitFragment], ?_⟩
      rintro predicate rfl
      rw [Place.fill_among, Place.fill, Place.fill_ofPredicate, layout,
        fault?_prepend, faultless]
      simp only [prepend, List.append_assoc, List.cons_append,
        List.nil_append]
      rfl
  | having =>
      refine ⟨.among " "
        [query.selectFragment,
          (query.source?.map Source.fragment).getD .nothing,
          .join " " (query.joins.map Join.fragment),
          .led "WHERE" query.wheres.fragment,
          listed "GROUP BY" query.groupBy]
        (.led "HAVING" (.ofPredicate link before query.havings))
        [listed "ORDER BY" (query.orderBy.map SortKey.fragment),
          query.limitFragment], ?_⟩
      rintro predicate rfl
      rw [Place.fill_among, Place.fill, Place.fill_ofPredicate, layout,
        fault?_prepend, faultless]
      simp only [prepend, List.append_assoc, List.cons_append,
        List.nil_append]
      rfl

/-- The query without the conditions of a clause. -/
def cleared (clause : Clause) (query : Query) : Query :=
  match clause with
  | .where_ => { query with wheres := [] }
  | .having => { query with havings := [] }

theorem addPredicate_eq_prepend (query : Query) (clause : Clause)
    (predicate : Predicate) :
    query.addPredicate clause predicate =
      (query.cleared clause).prepend clause
        (query.conditions clause ++ [predicate]) := by
  cases clause <;> simp [addPredicate, cleared, prepend, conditions]

end Query

namespace ModelQuery

variable {schema : Schema}

def prepend (clause : Clause) (predicates : Conditions)
    (typed : ModelQuery) : ModelQuery :=
  { typed with query := typed.query.prepend clause predicates }

theorem withFault_prepend (clause : Clause) (predicates : Conditions)
    (query : Query) (fault : Error) :
    (query.prepend clause predicates).withFault fault =
      (query.withFault fault).prepend clause predicates := by
  cases clause <;> rfl

theorem apply_prepend (schema : Schema) (clause : Clause)
    (predicates : Conditions) (typed : ModelQuery) (step : ModelStep) :
    (typed.prepend clause predicates).apply schema step =
      (typed.apply schema step).prepend clause predicates := by
  cases step with
  | plain step =>
      simp only [apply, prepend, Query.apply_prepend]
  | unknownRelation policy => rfl
  | load path => rfl
  | has added link name refinement =>
      simp only [apply, has, prepend, Query.context_prepend]
      split
      · split
        · rfl
        · simp only [withFault_prepend]
      · split
        · simp only [withFault_prepend]
        · simp only [Query.addPredicate_prepend]

theorem applyAll_prepend (clause : Clause) (predicates : Conditions)
    (steps : List ModelStep) :
    ∀ typed : ModelQuery,
      (typed.prepend clause predicates).applyAll schema steps =
        (typed.applyAll schema steps).prepend clause predicates := by
  induction steps with
  | nil =>
      intro typed
      rfl
  | cons step rest inductionHypothesis =>
      intro typed
      have first := apply_prepend schema clause predicates typed step
      have later := inductionHypothesis (typed.apply schema step)
      rw [applyAll, List.foldl_cons, first]
      exact later

/-- A predicate that a step adds to a query keeps its place through all later
steps, unless the query has failed by then. -/
theorem exists_place_of_addPredicate (schema : Schema) (typed : ModelQuery)
    (clause : Clause) (link : Link) (later : List ModelStep) :
    (∃ fault, ∀ predicate : Predicate,
      (({ typed with
            query := typed.query.addPredicate clause predicate } :
          ModelQuery).applyAll schema later).query.fragment =
        .refused fault) ∨
    ∃ place : Place, ∀ predicate : Predicate, predicate.link = link →
      (({ typed with
            query := typed.query.addPredicate clause predicate } :
          ModelQuery).applyAll schema later).query.fragment =
        place.fill predicate.fragment := by
  let rest : Query :=
    ((({ typed with query := typed.query.cleared clause } :
      ModelQuery).applyAll schema later).query).applyScopes
  have built :
      ∀ predicate : Predicate,
        (({ typed with
              query := typed.query.addPredicate clause predicate } :
            ModelQuery).applyAll schema later).query.fragment =
          (rest.prepend clause
            (typed.query.conditions clause ++ [predicate])).layout := by
    intro predicate
    have front :
        ({ typed with
            query := typed.query.addPredicate clause predicate } :
          ModelQuery) =
          ({ typed with query := typed.query.cleared clause } :
            ModelQuery).prepend clause
              (typed.query.conditions clause ++ [predicate]) := by
      rw [prepend, Query.addPredicate_eq_prepend]
    rw [front, applyAll_prepend, prepend, Query.fragment,
      Query.applyScopes_prepend]
  cases failed : rest.fault? with
  | some fault =>
      refine Or.inl ⟨fault, fun predicate => ?_⟩
      rw [built predicate, Query.layout, Query.fault?_prepend, failed]
  | none =>
      obtain ⟨place, placed⟩ :=
        Query.exists_place_layout failed clause
          (typed.query.conditions clause) link
      refine Or.inr ⟨place, fun predicate linked => ?_⟩
      rw [built predicate, placed predicate linked]

end ModelQuery

/-! ## Chains with a context -/

def Step.readsContext : Step → Bool
  | .filterByContext .. => true
  | _ => false

def Step.setsContext : Step → Bool
  | .withContext _ => true
  | _ => false

namespace ModelStep

/-- Whether a step of a chain neither sets the context nor reads it.  What
refines a sub-query may set a context of its own. -/
def isContextFree : ModelStep → Bool
  | .plain step => !step.readsContext && !step.setsContext
  | .has _ _ _ refinement => refinement.all fun step => !step.readsContext
  | .unknownRelation _ | .load _ => true

/-- The sub-query that a step adds to a query over a model with this context,
if it adds one. -/
def subquery? (schema : Schema) (model : Model) (context : Context) :
    ModelStep → Option Query
  | .has _ _ name refinement =>
      match model.relation? name with
      | none => none
      | some relation =>
          match relation.subquery schema model with
          | .error _ => none
          | .ok sub => some ({ sub with context }.applyAll refinement)
  | _ => none

/-- The failure that a step leaves in a query over a model instead of a
sub-query, if it leaves one. -/
def failure? (schema : Schema) (model : Model) (policy : UnknownRelation) :
    ModelStep → Option Error
  | .has _ _ name _ =>
      match model.relation? name with
      | none =>
          match policy with
          | .skip => none
          | .error => some (.missingRelationship model.name name)
      | some relation =>
          match relation.subquery schema model with
          | .error cause => some cause.deferred
          | .ok _ => none
  | _ => none

/-- Whether the sub-query of a step comes out the same with the context as
without one. -/
def IgnoresContext (schema : Schema) (model : Model) (context : Context)
    (step : ModelStep) : Prop :=
  ∀ informed uninformed : Query,
    step.subquery? schema model context = some informed →
    step.subquery? schema model {} = some uninformed →
      informed.fragment.Alike uninformed.fragment

end ModelStep

namespace ModelStep

variable {schema : Schema} {model : Model} {step : ModelStep}

/-- Whether there is a sub-query does not depend on the context. -/
theorem exists_subquery? {context : Context} {sub : Query} (other : Context)
    (asked : step.subquery? schema model context = some sub) :
    ∃ sub', step.subquery? schema model other = some sub' := by
  cases step with
  | has clause link name refinement =>
      unfold subquery? at asked ⊢
      cases declared : model.relation? name with
      | none => simp [declared] at asked
      | some relation =>
          cases resolved : relation.subquery schema model with
          | error cause => simp [declared, resolved] at asked
          | ok found => simp [declared, resolved]
  | _ => cases asked

theorem subquery?_eq_none_iff (context other : Context) :
    step.subquery? schema model context = none ↔
      step.subquery? schema model other = none := by
  have absent :
      ∀ context other : Context,
        step.subquery? schema model context = none →
          step.subquery? schema model other = none := by
    intro context other unasked
    cases asked : step.subquery? schema model other with
    | none => rfl
    | some sub =>
        obtain ⟨sub', asked'⟩ := exists_subquery? context asked
        rw [unasked] at asked'
        cases asked'
  exact ⟨absent context other, absent other context⟩

end ModelStep

namespace ModelQuery

def inContext (context : Context) (typed : ModelQuery) : ModelQuery :=
  { typed with query := { typed.query with context } }

theorem addPredicate_inContext (context : Context) (query : Query)
    (clause : Clause) (predicate : Predicate) :
    { query.addPredicate clause predicate with context } =
      { query with context }.addPredicate clause predicate := by
  cases clause <;> rfl

/-- The query with a failure, if there is one. -/
def withFailure (failure? : Option Error) (typed : ModelQuery) : ModelQuery :=
  match failure? with
  | none => typed
  | some fault => { typed with query := typed.query.withFault fault }

theorem inContext_withFailure (context : Context) (typed : ModelQuery)
    (failure? : Option Error) :
    (typed.withFailure failure?).inContext context =
      (typed.inContext context).withFailure failure? := by
  cases failure? <;> rfl

section Has

variable {schema : Schema} {typed : ModelQuery} {clause : Clause}
variable {link : Link} {name : String} {refinement : List Step}

theorem apply_has_of_some {sub : Query}
    (asked :
      (ModelStep.has clause link name refinement).subquery? schema
        (schema.model typed.place) typed.query.context = some sub) :
    typed.apply schema (.has clause link name refinement) =
      { typed with
        query := typed.query.addPredicate clause
          (.existence link false sub.fragment) } := by
  unfold ModelStep.subquery? at asked
  simp only [apply, has]
  cases declared : (schema.model typed.place).relation? name with
  | none => simp [declared] at asked
  | some relation =>
      cases resolved : relation.subquery schema (schema.model typed.place) with
      | error cause => simp [declared, resolved] at asked
      | ok found =>
          simp only [declared, resolved, Option.some.injEq] at asked
          simp only [resolved, ← asked]

theorem apply_has_of_none
    (unasked :
      (ModelStep.has clause link name refinement).subquery? schema
        (schema.model typed.place) typed.query.context = none) :
    typed.apply schema (.has clause link name refinement) =
      typed.withFailure
        ((ModelStep.has clause link name refinement).failure? schema
          (schema.model typed.place) typed.unknownRelation) := by
  rcases typed with ⟨place, query, eager, policy⟩
  unfold ModelStep.subquery? at unasked
  simp only [apply, has, ModelStep.failure?]
  cases declared : (schema.model place).relation? name with
  | none =>
      cases policy with
      | skip => simp [withFailure]
      | error => simp [withFailure]
  | some relation =>
      cases resolved : relation.subquery schema (schema.model place) with
      | error cause => simp [resolved, withFailure]
      | ok found => simp [declared, resolved] at unasked

end Has

/-- What a step of a chain makes of a query: without a sub-query the same
before and after the context is set, else a filter by the sub-query that the
context at the time gives. -/
theorem apply_inContext (schema : Schema) (context : Context)
    (typed : ModelQuery) (unset : typed.query.context = {})
    {step : ModelStep} (free : step.isContextFree = true) :
    (step.subquery? schema (schema.model typed.place) context = none ∧
      (typed.inContext context).apply schema step =
        (typed.apply schema step).inContext context) ∨
    ∃ (clause : Clause) (link : Link) (informed uninformed : Query),
      step.subquery? schema (schema.model typed.place) context =
        some informed ∧
      step.subquery? schema (schema.model typed.place) {} =
        some uninformed ∧
      (typed.inContext context).apply schema step =
        { typed.inContext context with
          query := (typed.inContext context).query.addPredicate clause
            (.existence link false informed.fragment) } ∧
      (typed.apply schema step).inContext context =
        { typed.inContext context with
          query := (typed.inContext context).query.addPredicate clause
            (.existence link false uninformed.fragment) } := by
  cases step with
  | plain step =>
      refine Or.inl ⟨rfl, ?_⟩
      cases step with
      | filter clause predicate => cases clause <;> rfl
      | filterByContext => simp [ModelStep.isContextFree, Step.readsContext] at free
      | withContext => simp [ModelStep.isContextFree, Step.setsContext] at free
      | _ => rfl
  | unknownRelation policy => exact Or.inl ⟨rfl, rfl⟩
  | load path => exact Or.inl ⟨rfl, rfl⟩
  | has clause link name refinement =>
      cases asked :
          (ModelStep.has clause link name refinement).subquery? schema
            (schema.model typed.place) context with
      | none =>
          have unasked :=
            (ModelStep.subquery?_eq_none_iff context {}).mp asked
          rw [← unset] at unasked
          have early :
              (typed.inContext context).apply schema
                  (.has clause link name refinement) = _ :=
            apply_has_of_none asked
          have late := apply_has_of_none unasked
          refine Or.inl ⟨rfl, ?_⟩
          rw [early, late, inContext_withFailure]
          rfl
      | some informed =>
          obtain ⟨uninformed, unasked⟩ :=
            ModelStep.exists_subquery? {} asked
          have early :
              (typed.inContext context).apply schema
                  (.has clause link name refinement) = _ :=
            apply_has_of_some asked
          refine Or.inr ⟨clause, link, informed, uninformed, rfl, unasked,
            early, ?_⟩
          rw [← unset] at unasked
          rw [apply_has_of_some unasked, inContext, addPredicate_inContext]
          rfl

theorem place_apply (schema : Schema) (typed : ModelQuery)
    (step : ModelStep) :
    (typed.apply schema step).place = typed.place := by
  cases step with
  | has clause link name refinement =>
      simp only [apply, has]
      split
      · split <;> rfl
      · split <;> rfl
  | _ => rfl

theorem context_apply (schema : Schema) (typed : ModelQuery)
    {step : ModelStep} (free : step.isContextFree = true) :
    (typed.apply schema step).query.context = typed.query.context := by
  cases step with
  | plain step =>
      rw [apply, step.context_apply]
      cases step with
      | withContext => simp [ModelStep.isContextFree, Step.setsContext] at free
      | _ => rfl
  | unknownRelation policy => rfl
  | load path => rfl
  | has clause link name refinement =>
      simp only [apply, has]
      split
      · split <;> rfl
      · split
        · rfl
        · cases clause <;> rfl

/-- The query over a model that steps build, the context set between them. -/
def chain (schema : Schema) (place : Nat) (before : List ModelStep)
    (context : Context) (after : List ModelStep) : ModelQuery :=
  (ofModel schema place).applyAll schema
    (before ++ .plain (.withContext context) :: after)

theorem chain_eq (schema : Schema) (place : Nat)
    (before after : List ModelStep) (context : Context) :
    chain schema place before context after =
      (((ofModel schema place).applyAll schema before).inContext
        context).applyAll schema after := by
  rw [chain, applyAll, List.foldl_append]
  rfl

theorem applyAll_concat (schema : Schema) (typed : ModelQuery)
    (steps : List ModelStep) (step : ModelStep) :
    typed.applyAll schema (steps ++ [step]) =
      (typed.applyAll schema steps).apply schema step := by
  rw [applyAll, List.foldl_append]
  rfl

theorem unset_applyAll (schema : Schema) (place : Nat)
    {steps : List ModelStep}
    (free : ∀ step ∈ steps, step.isContextFree = true) :
    ((ofModel schema place).applyAll schema steps).place = place ∧
      ((ofModel schema place).applyAll schema steps).query.context = {} := by
  induction steps using List.reverseRecOn with
  | nil => exact ⟨rfl, rfl⟩
  | append_singleton before last inductionHypothesis =>
      have earlier :=
        inductionHypothesis fun step member =>
          free step (List.mem_append_left _ member)
      have lastFree : last.isContextFree = true :=
        free last (List.mem_append_right _ (List.mem_singleton_self last))
      rw [applyAll_concat, place_apply, context_apply schema _ lastFree]
      exact earlier

/-- Setting the context before a step or after it comes out the same exactly
when the sub-query of the step ignores it, or when neither compiles. -/
theorem alike_chain_iff (schema : Schema) (place : Nat) (context : Context)
    {before : List ModelStep} {step : ModelStep} (after : List ModelStep)
    (free : ∀ step ∈ before, step.isContextFree = true)
    (stepFree : step.isContextFree = true) :
    (chain schema place before context (step :: after)).query.fragment.Alike
        (chain schema place (before ++ [step]) context
          after).query.fragment ↔
      ((chain schema place before context
            (step :: after)).query.fragment.IsCompilable ∨
          (chain schema place (before ++ [step]) context
            after).query.fragment.IsCompilable →
        step.IgnoresContext schema (schema.model place) context) := by
  let built := (ofModel schema place).applyAll schema before
  obtain ⟨samePlace, unset⟩ := unset_applyAll schema place free
  have early :
      chain schema place before context (step :: after) =
        ((built.inContext context).apply schema step).applyAll schema
          after := by
    rw [chain_eq, applyAll, List.foldl_cons]
    rfl
  have late :
      chain schema place (before ++ [step]) context after =
        ((built.apply schema step).inContext context).applyAll schema
          after := by
    rw [chain_eq, applyAll_concat]
  have outcomes := apply_inContext schema context built unset stepFree
  rw [show built.place = place from samePlace] at outcomes
  rcases outcomes with
    ⟨none_, same⟩ |
      ⟨clause, link, informed, uninformed, asked, unasked, first, second⟩
  · rw [early, late, same]
    refine iff_of_true (.refl _) ?_
    intro _ informed _ asked
    rw [none_] at asked
    cases asked
  · have ignores_iff :
        step.IgnoresContext schema (schema.model place) context ↔
          (Predicate.existence link false informed.fragment).fragment.Alike
            (Predicate.existence link false uninformed.fragment).fragment := by
      rw [Query.alike_existence_iff]
      constructor
      · intro ignores
        exact ignores informed uninformed asked unasked
      · intro alike informed' uninformed' asked' unasked'
        rw [asked] at asked'
        rw [unasked] at unasked'
        cases asked'
        cases unasked'
        exact alike
    have seen :
        ∀ query : Fragment,
          (Predicate.existence link false query).fragment.isSilent =
            false := by
      intro query
      have written : (Fragment.text "EXISTS").isSilent = false :=
        Fragment.isSilent_text_of_ne (by decide)
      rw [Predicate.fragment_existence, Fragment.isSilent_joined, written,
        Bool.false_and]
    rw [ignores_iff, early, late, first, second]
    rcases exists_place_of_addPredicate schema (built.inContext context)
        clause link after with
      ⟨fault, failed⟩ | ⟨placed, filled⟩
    · rw [failed, failed]
      refine iff_of_true (.refl _) fun compilable => ?_
      rw [or_self] at compilable
      exact (Fragment.not_isCompilable_refused fault compilable).elim
    · rw [filled _ rfl, filled _ rfl, Place.isCompilable_fill_iff,
        Place.isCompilable_fill_iff, placed.alike_fill_iff (seen _) (seen _),
        ← and_or_left, and_imp]
      refine imp_congr_right fun _ => ⟨fun alike _ => alike, fun alike => ?_⟩
      exact Fragment.alike_of_imp alike

/-- Setting the context at any place of a chain comes out the same as setting
it at the end, and then the same in every dialect, exactly when each sub-query
of the chain ignores the context. -/
theorem chain_alike_iff (schema : Schema) (place : Nat) (context : Context)
    (before after : List ModelStep)
    (free : ∀ step ∈ before ++ after, step.isContextFree = true)
    (dialect : Dialect) (compiled : Compiled)
    (compiles :
      (chain schema place before context after).query.toSql dialect =
        .ok compiled) :
    ((∀ early late : List ModelStep, before ++ after = early ++ late →
        (chain schema place early context late).query.fragment.Alike
          (chain schema place (before ++ after) context
            []).query.fragment) ↔
      ∀ step ∈ before ++ after,
        step.IgnoresContext schema (schema.model place) context) ∧
    ((∀ step ∈ before ++ after,
        step.IgnoresContext schema (schema.model place) context) →
      ∀ (early late : List ModelStep) (other : Dialect),
        before ++ after = early ++ late →
          (chain schema place early context late).query.toSql other =
            (chain schema place (before ++ after) context
              []).query.toSql other) := by
  have compilable :
      (chain schema place before context after).query.fragment.IsCompilable :=
    (Fragment.exists_toSql_iff dialect _).mp ⟨compiled, compiles⟩
  generalize whole : before ++ after = steps at free
  have earlyFree :
      ∀ {early late : List ModelStep}, steps = early ++ late →
        ∀ step ∈ early, step.isContextFree = true := by
    intro early late divided step member
    exact free step (divided ▸ List.mem_append_left late member)
  have alike_of_ignores :
      (∀ step ∈ steps,
        step.IgnoresContext schema (schema.model place) context) →
      ∀ late early : List ModelStep, steps = early ++ late →
        (chain schema place early context late).query.fragment.Alike
          (chain schema place steps context []).query.fragment := by
    intro ignores late
    induction late with
    | nil =>
        rintro early divided
        rw [List.append_nil] at divided
        exact divided ▸ .refl _
    | cons step rest inductionHypothesis =>
        intro early divided
        have member : step ∈ steps := by simp [divided]
        have later := inductionHypothesis (early ++ [step]) (by simp [divided])
        have moved :=
          (alike_chain_iff schema place context rest (earlyFree divided)
            (free step member)).mpr fun _ => ignores step member
        exact moved.trans later
  refine ⟨⟨fun alike step member => ?_, fun ignores early late =>
    alike_of_ignores ignores late early⟩, fun ignores early late other
    divided => ?_⟩
  · have lastCompilable := (alike before after whole.symm).1.mp compilable
    obtain ⟨earlier, later, divided⟩ := List.append_of_mem member
    have early := alike earlier (step :: later) divided
    have late := alike (earlier ++ [step]) later (by simp [divided])
    exact (alike_chain_iff schema place context later (earlyFree divided)
      (free step member)).mp (early.trans late.symm)
      (Or.inr (late.1.mpr lastCompilable))
  · have lastCompilable :=
      (alike_of_ignores ignores after before whole.symm).1.mp compilable
    exact (alike_of_ignores ignores late early divided).toSql_eq
      lastCompilable other

end ModelQuery

/-! ## Sub-queries without regard to the context -/

namespace Query

/-- Whether two queries differ in nothing but their contexts. -/
def SameButContext (first second : Query) : Prop :=
  { first with context := {} } = { second with context := {} }

theorem SameButContext.apply {first second : Query}
    (same : first.SameButContext second) {step : Step}
    (unread : step.readsContext = false) :
    (step.apply first).SameButContext (step.apply second) := by
  have applied :
      ∀ query : Query,
        { step.apply query with context := {} } =
          { step.apply { query with context := {} } with context := {} } := by
    intro query
    cases step with
    | filter clause predicate => cases clause <;> rfl
    | filterByContext => simp [Step.readsContext] at unread
    | _ => rfl
  unfold SameButContext at same ⊢
  rw [applied first, applied second, same]

theorem SameButContext.applyAll {steps : List Step}
    (unread : ∀ step ∈ steps, step.readsContext = false) :
    ∀ {first second : Query}, first.SameButContext second →
      (first.applyAll steps).SameButContext (second.applyAll steps) := by
  induction steps with
  | nil => exact id
  | cons step rest inductionHypothesis =>
      intro first second same
      exact inductionHypothesis
        (fun later member => unread later (List.mem_cons_of_mem _ member))
        (same.apply (unread step List.mem_cons_self))

/-- What does not look at the context is the same of both. -/
theorem SameButContext.image_eq {Part : Type} {first second : Query}
    (same : first.SameButContext second) (part : Query → Part)
    (blind : ∀ query : Query,
      part query = part { query with context := {} }) :
    part first = part second :=
  calc
    part first = part { first with context := {} } := blind first
    _ = part { second with context := {} } := congrArg part same
    _ = part second := (blind second).symm

theorem SameButContext.fragment_eq {first second : Query}
    (same : first.SameButContext second)
    (unread : ∀ step ∈ first.scopeSteps, step.readsContext = false) :
    first.fragment = second.fragment := by
  have sameSteps : first.scopeSteps = second.scopeSteps := by
    rw [scopeSteps, scopeSteps, same.image_eq scopes fun _ => rfl]
  have unscoped :
      { first with scopes := {} }.SameButContext
        { second with scopes := {} } := by
    have bare :=
      same.image_eq
        (fun query => ({ query with scopes := {}, context := {} } : Query))
        fun _ => rfl
    exact bare
  rw [fragment, fragment, applyScopes_eq_applyAll, applyScopes_eq_applyAll,
    ← sameSteps]
  exact (unscoped.applyAll unread).image_eq layout fun _ => rfl

end Query

/-- A sub-query ignores the context when neither what refines it nor a scope
that is active in it reads the context. -/
theorem ModelStep.ignoresContext_of_unread {schema : Schema} {model : Model}
    {context : Context} {step : ModelStep}
    (free : step.isContextFree = true)
    (unread : ∀ sub, step.subquery? schema model context = some sub →
      ∀ own ∈ sub.scopeSteps, own.readsContext = false) :
    step.IgnoresContext schema model context := by
  intro informed uninformed asked unasked
  have unreadScopes := unread informed asked
  cases step with
  | has clause link name refinement =>
      have unreadRefinement :
          ∀ own ∈ refinement, own.readsContext = false := by
        simpa [isContextFree] using free
      unfold subquery? at asked unasked
      cases declared : model.relation? name with
      | none => simp [declared] at asked
      | some relation =>
          cases resolved : relation.subquery schema model with
          | error cause => simp [declared, resolved] at asked
          | ok sub =>
              simp only [declared, resolved, Option.some.injEq] at asked unasked
              have start :
                  { sub with context }.SameButContext
                    { sub with context := {} } :=
                rfl
              have same := start.applyAll unreadRefinement
              rw [asked, unasked] at same
              rw [same.fragment_eq unreadScopes]
              exact .refl _
  | _ => cases asked

namespace ModelQuery

/-! ## Tenants of related rows -/

/-- Two models whose scopes keep the rows of a tenant, and a third that has a
scope but no tenants. -/
def tenantsSchema : Schema where
  models :=
    [{ name := "Foo"
       table := "foos"
       fields :=
         [{ name := "id"
            column := "id"
            type := .integer ⟨true, 64⟩
            primary := true }]
       relations :=
         [{ name := "bar", kind := .hasOne, related := 1 },
           { name := "tags", kind := .hasMany, related := 2 }]
       scopes := [⟨"tenant", [.filterByContext "tenant" "tenant_id" "="]⟩] },
     { name := "Bar"
       table := "bars"
       fields :=
         [{ name := "foo_id"
            column := "foo_id"
            type := .integer ⟨true, 64⟩ }]
       scopes := [⟨"tenant", [.filterByContext "tenant" "tenant_id" "="]⟩] },
     { name := "Tag"
       table := "tags"
       fields :=
         [{ name := "foo_id"
            column := "foo_id"
            type := .integer ⟨true, 64⟩ }]
       scopes :=
         [⟨"live",
           [.filter .where_ (.compare .and "deleted_at" "=" .null)]⟩] }]

def tenantSeven : Context where
  entries := [("tenant", .int 7)]

/-- Foos with a named tag, or with a bar of the tenant eight, whatever the
tenant of the foo. -/
def taggedSteps : List ModelStep :=
  [.has .where_ .and "tags"
      [.filter .where_ (.compare .and "name" "=" (.text "x"))],
    .has .where_ .or "bar"
      [.withContext ⟨[("tenant", .int 8)]⟩, .suppress "other"],
    .plain (.limit 3)]

theorem ignoresContext_taggedSteps :
    ∀ step ∈ taggedSteps,
      step.IgnoresContext tenantsSchema (tenantsSchema.model 0)
        tenantSeven := by
  intro step member
  simp only [taggedSteps, List.mem_cons, List.not_mem_nil, or_false] at member
  rcases member with rfl | rfl | rfl
  · refine ModelStep.ignoresContext_of_unread rfl ?_
    intro sub asked own within
    cases asked
    simp only [Query.scopeSteps] at within
    obtain rfl := List.mem_singleton.mp within
    rfl
  · intro informed uninformed asked unasked
    cases asked
    cases unasked
    exact .refl _
  · intro informed _ asked
    cases asked

set_option maxRecDepth 4000 in
/-- The scope of the tags reads no context and the bars are given one of their
own, so the tenant may be set first, last or between. -/
theorem chain_alike_iff_taggedSteps :
    (chain tenantsSchema 0 taggedSteps tenantSeven []).query.toSql .sqlite =
        .ok ⟨"SELECT \"foos\".* FROM \"foos\" WHERE EXISTS " ++
          "(SELECT \"tags\".* FROM \"tags\" WHERE " ++
          "\"foo_id\" = \"foos\".\"id\" AND \"name\" = ? " ++
          "AND \"deleted_at\" IS NULL) OR EXISTS " ++
          "(SELECT \"bars\".* FROM \"bars\" WHERE " ++
          "\"foo_id\" = \"foos\".\"id\" AND \"tenant_id\" = ?) " ++
          "AND \"tenant_id\" = ? LIMIT 3",
          [.text "x", .int 8, .int 7]⟩ ∧
      ∀ (before after : List ModelStep) (other : Dialect),
        taggedSteps = before ++ after →
          (chain tenantsSchema 0 before tenantSeven after).query.toSql other =
            (chain tenantsSchema 0 taggedSteps tenantSeven
              []).query.toSql other := by
  refine ⟨rfl, ?_⟩
  have independent :=
    (chain_alike_iff tenantsSchema 0 tenantSeven taggedSteps [] (by decide)
      .sqlite _ rfl).2
  exact independent ignoresContext_taggedSteps

set_option maxRecDepth 4000 in
/-- A tenant that is set after the filter by bars reaches the scope of the foos
but not that of the bars: a foo passes by a bar of another tenant. -/
theorem lateContext_missed_by_related :
    (chain tenantsSchema 0 [] tenantSeven
        [.has .where_ .and "bar" []]).query.toSql .sqlite =
        .ok ⟨"SELECT \"foos\".* FROM \"foos\" WHERE EXISTS " ++
          "(SELECT \"bars\".* FROM \"bars\" WHERE " ++
          "\"foo_id\" = \"foos\".\"id\" AND \"tenant_id\" = ?) " ++
          "AND \"tenant_id\" = ?", [.int 7, .int 7]⟩ ∧
      (chain tenantsSchema 0 [.has .where_ .and "bar" []] tenantSeven
        []).query.toSql .sqlite =
        .ok ⟨"SELECT \"foos\".* FROM \"foos\" WHERE EXISTS " ++
          "(SELECT \"bars\".* FROM \"bars\" WHERE " ++
          "\"foo_id\" = \"foos\".\"id\") AND \"tenant_id\" = ?",
          [.int 7]⟩ ∧
      (chain tenantsSchema 0 [] tenantSeven
        [.has .where_ .and "bar" []]).query.toSql .sqlite ≠
      (chain tenantsSchema 0 [.has .where_ .and "bar" []] tenantSeven
        []).query.toSql .sqlite := by
  refine ⟨rfl, rfl, fun same => ?_⟩
  have bindings := congrArg (Except.map fun compiled => compiled.bindings.length) same
  exact absurd bindings (by decide)

end ModelQuery

end RecordQuery
