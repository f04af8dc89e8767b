import RecordQuery.Query.Layout

/-!
# What scopes add to a query

Building only ever appends to the WHERE clause.  What a step appends depends on
the context alone, so the predicates that the scopes of a query append can be
read off before any of them takes effect.
-/

namespace RecordQuery

def Step.contextAfter (context : Context) : Step → Context
  | .withContext next => next
  | _ => context

/-- The predicates that a step appends to the WHERE clause. -/
def Step.filters (context : Context) : Step → List Predicate
  | .filter .where_ predicate => [predicate]
  | .filterByContext kind column operator =>
      match context.get? kind with
      | some value => [.compare .and column operator value]
      | none => []
  | _ => []

theorem Step.context_apply (query : Query) (step : Step) :
    (step.apply query).context = step.contextAfter query.context := by
  cases step with
  | filter clause predicate => cases clause <;> rfl
  | filterByContext kind column operator =>
      simp only [Step.apply, Step.contextAfter]
      split <;> rfl
  | _ => rfl

theorem Step.wheres_apply (query : Query) (step : Step) :
    (step.apply query).wheres =
      query.wheres ++ step.filters query.context := by
  cases step with
  | filter clause predicate =>
      cases clause with
      | where_ => rfl
      | having => exact (List.append_nil _).symm
  | filterByContext kind column operator =>
      cases found : query.context.get? kind with
      | some value =>
          simp only [Step.apply, Step.filters, found]
          rfl
      | none => simp [Step.apply, Step.filters, found]
  | _ => exact (List.append_nil _).symm

namespace Context

def after (context : Context) (steps : List Step) : Context :=
  steps.foldl Step.contextAfter context

/-- The predicates that steps append to the WHERE clause of a query with this
context. -/
def filters (context : Context) : List Step → List Predicate
  | [] => []
  | step :: rest =>
      step.filters context ++ (step.contextAfter context).filters rest

/-- The predicates that scopes append one after another. -/
def scopeFilters (context : Context) : List Scope → List Predicate
  | [] => []
  | scope :: rest =>
      context.filters scope.steps ++
        (context.after scope.steps).scopeFilters rest

theorem scopeFilters_append (later : List Scope) :
    ∀ (earlier : List Scope) (context : Context),
      context.scopeFilters (earlier ++ later) =
        context.scopeFilters earlier ++
          (context.after (earlier.flatMap Scope.steps)).scopeFilters later
  | [], _ => rfl
  | scope :: rest, context => by
      simp [scopeFilters, scopeFilters_append later rest, after,
        List.foldl_append, List.append_assoc]

end Context

namespace Query

theorem context_applyAll (steps : List Step) :
    ∀ query : Query,
      (query.applyAll steps).context = query.context.after steps := by
  induction steps with
  | nil =>
      intro query
      rfl
  | cons step rest inductionHypothesis =>
      intro query
      rw [Context.after, List.foldl_cons, ← step.context_apply]
      exact inductionHypothesis (step.apply query)

theorem wheres_applyAll (steps : List Step) :
    ∀ query : Query,
      (query.applyAll steps).wheres =
        query.wheres ++ query.context.filters steps := by
  induction steps with
  | nil =>
      intro query
      exact (List.append_nil _).symm
  | cons step rest inductionHypothesis =>
      intro query
      have tail := inductionHypothesis (step.apply query)
      rw [step.wheres_apply, step.context_apply,
        List.append_assoc] at tail
      exact tail

theorem wheres_foldl_scopes (scopes : List Scope) :
    ∀ query : Query,
      (scopes.foldl Scope.apply query).wheres =
        query.wheres ++ query.context.scopeFilters scopes := by
  induction scopes with
  | nil =>
      intro query
      exact (List.append_nil _).symm
  | cons scope rest inductionHypothesis =>
      intro query
      have tail := inductionHypothesis (scope.apply query)
      rw [Scope.apply, ← Query.applyAll, wheres_applyAll, context_applyAll,
        List.append_assoc] at tail
      exact tail

/-- The predicates that the global scopes append to the WHERE clause, the
suppressed ones left aside.  The local scopes come before them and may change
the context that they see. -/
def globalFilters (query : Query) : List Predicate :=
  (query.context.after (query.scopes.locals.flatMap Scope.steps)).scopeFilters
    (query.scopes.globals.filter fun scope =>
      !query.scopes.suppressAll &&
        !query.scopes.suppressed.contains scope.name)

/-- The WHERE clause of a query under its scopes: what the caller asked for,
then what the local scopes append, then what the global ones append. -/
theorem wheres_applyScopes (query : Query) :
    query.applyScopes.wheres =
      query.wheres ++ query.context.scopeFilters query.scopes.locals ++
        query.globalFilters := by
  rw [applyScopes, wheres_foldl_scopes, ScopeSet.active,
    Context.scopeFilters_append, ← List.append_assoc]
  rfl

end Query

/-! ## What steps add to the other clauses -/

/-- The joins that a step adds. -/
def Step.addedJoins : Step → List Join
  | .join joined => [joined]
  | _ => []

/-- The predicates that a step appends to the HAVING clause. -/
def Step.addedHavings : Step → List Predicate
  | .filter .having predicate => [predicate]
  | _ => []

/-- What a query selects from after a step. -/
def Step.sourceAfter (source? : Option Source) : Step → Option Source
  | .fromSource source => some source
  | _ => source?

/-- The FROM clause of a source, if there is one. -/
def Source.clause (source? : Option Source) : Fragment :=
  (source?.map Source.fragment).getD .nothing

theorem Step.joins_apply (query : Query) (step : Step) :
    (step.apply query).joins = query.joins ++ step.addedJoins := by
  cases step with
  | filter clause predicate => cases clause <;> exact (List.append_nil _).symm
  | filterByContext kind column operator =>
      simp only [Step.apply, Step.addedJoins, List.append_nil]
      split <;> rfl
  | join joined => rfl
  | _ => exact (List.append_nil _).symm

theorem Step.havings_apply (query : Query) (step : Step) :
    (step.apply query).havings = query.havings ++ step.addedHavings := by
  cases step with
  | filter clause predicate =>
      cases clause with
      | where_ => exact (List.append_nil _).symm
      | having => rfl
  | filterByContext kind column operator =>
      simp only [Step.apply, Step.addedHavings, List.append_nil]
      split <;> rfl
  | _ => exact (List.append_nil _).symm

theorem Step.source?_apply (query : Query) (step : Step) :
    (step.apply query).source? = step.sourceAfter query.source? := by
  cases step with
  | filter clause predicate => cases clause <;> rfl
  | filterByContext kind column operator =>
      simp only [Step.apply, Step.sourceAfter]
      split <;> rfl
  | _ => rfl

namespace Query

theorem joins_applyAll (steps : List Step) (query : Query) :
    (query.applyAll steps).joins =
      query.joins ++ steps.flatMap Step.addedJoins := by
  rw [List.flatMap_def, ← List.foldl_append_eq_append, applyAll,
    List.foldl_hom Query.joins fun query step => (step.joins_apply query).symm]

theorem havings_applyAll (steps : List Step) (query : Query) :
    (query.applyAll steps).havings =
      query.havings ++ steps.flatMap Step.addedHavings := by
  rw [List.flatMap_def, ← List.foldl_append_eq_append, applyAll,
    List.foldl_hom Query.havings
      fun query step => (step.havings_apply query).symm]

theorem source?_applyAll (steps : List Step) (query : Query) :
    (query.applyAll steps).source? =
      steps.foldl Step.sourceAfter query.source? := by
  rw [applyAll, List.foldl_hom Query.source?
    fun query step => (step.source?_apply query).symm]

/-! ## Predicates in front -/

def conditions (clause : Clause) (query : Query) : Conditions :=
  match clause with
  | .where_ => query.wheres
  | .having => query.havings

def prepend (clause : Clause) (predicates : Conditions)
    (query : Query) : Query :=
  match clause with
  | .where_ => { query with wheres := predicates ++ query.wheres }
  | .having => { query with havings := predicates ++ query.havings }

@[simp]
theorem context_prepend (clause : Clause) (predicates : Conditions)
    (query : Query) :
    (query.prepend clause predicates).context = query.context := by
  cases clause <;> rfl

@[simp]
theorem scopes_prepend (clause : Clause) (predicates : Conditions)
    (query : Query) :
    (query.prepend clause predicates).scopes = query.scopes := by
  cases clause <;> rfl

theorem addPredicate_prepend (clause added : Clause)
    (predicates : Conditions) (predicate : Predicate) (query : Query) :
    (query.prepend clause predicates).addPredicate added predicate =
      (query.addPredicate added predicate).prepend clause predicates := by
  cases clause <;> cases added <;>
    simp [prepend, addPredicate, List.append_assoc]

theorem apply_prepend (clause : Clause) (predicates : Conditions)
    (query : Query) (step : Step) :
    step.apply (query.prepend clause predicates) =
      (step.apply query).prepend clause predicates := by
  cases step with
  | filter added predicate =>
      exact addPredicate_prepend clause added predicates predicate query
  | filterByContext kind column operator =>
      simp only [Step.apply, context_prepend]
      split
      · exact addPredicate_prepend clause .where_ predicates _ query
      · rfl
  | _ => cases clause <;> rfl

theorem applyAll_prepend (clause : Clause) (predicates : Conditions)
    (steps : List Step) :
    ∀ query : Query,
      (query.prepend clause predicates).applyAll steps =
        (query.applyAll steps).prepend clause predicates := by
  induction steps with
  | nil =>
      intro query
      rfl
  | cons step rest inductionHypothesis =>
      intro query
      have first := apply_prepend clause predicates query step
      have later := inductionHypothesis (step.apply query)
      rw [applyAll, List.foldl_cons, first]
      exact later

/-- Applying scopes one after another is applying all of their steps. -/
theorem foldl_scopes_eq_applyAll (scopes : List Scope) :
    ∀ query : Query,
      scopes.foldl Scope.apply query =
        query.applyAll (scopes.flatMap Scope.steps) := by
  induction scopes with
  | nil =>
      intro query
      rfl
  | cons scope rest inductionHypothesis =>
      intro query
      rw [List.foldl_cons, inductionHypothesis, List.flatMap_cons, applyAll,
        applyAll, List.foldl_append]
      rfl

/-- The steps of the scopes that are active in a query. -/
def scopeSteps (query : Query) : List Step :=
  query.scopes.active.flatMap Scope.steps

theorem applyScopes_eq_applyAll (query : Query) :
    query.applyScopes =
      { query with scopes := {} }.applyAll query.scopeSteps :=
  foldl_scopes_eq_applyAll _ _

/-- No scope reads the conditions, so what stands in front of them stays in
front. -/
theorem applyScopes_prepend (clause : Clause) (predicates : Conditions)
    (query : Query) :
    (query.prepend clause predicates).applyScopes =
      query.applyScopes.prepend clause predicates := by
  have unscoped :
      { query.prepend clause predicates with scopes := {} } =
        { query with scopes := {} }.prepend clause predicates := by
    cases clause <;> rfl
  rw [applyScopes_eq_applyAll, applyScopes_eq_applyAll, scopeSteps,
    scopes_prepend, unscoped, applyAll_prepend]
  rfl

def prependWheres (predicates : Conditions) (query : Query) : Query :=
  { query with wheres := predicates ++ query.wheres }

theorem applyScopes_prependWheres (predicates : Conditions)
    (query : Query) :
    (query.prependWheres predicates).applyScopes =
      query.applyScopes.prependWheres predicates :=
  applyScopes_prepend .where_ predicates query

end Query

end RecordQuery
