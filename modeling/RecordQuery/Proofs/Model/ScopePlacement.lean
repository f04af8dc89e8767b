import RecordQuery.Proofs.Model.ContextOrder

/-!
# Where in a chain scopes are attached

Scopes take effect when a query is compiled, so it does not matter where in a
chain of steps they are attached: the query compiles like the chain without the
steps that change its scopes, with the steps of the scopes that are left put
behind it.  A local scope is left unless a later step removes it, a global one
unless a step anywhere in the chain suppresses it.
-/

namespace RecordQuery

/-! ## Steps that change the scopes -/

namespace Step

def touchesScopes : Step → Bool
  | .attach _ | .detach _ | .attachGlobal _ | .suppress _ | .suppressAll => true
  | _ => false

/-- Whether a step removes the local scopes of a name. -/
def detaches (name : String) : Step → Bool
  | .detach removed => name == removed
  | _ => false

/-- Whether a step opts out of the global scopes of a name. -/
def suppresses (name : String) : Step → Bool
  | .suppress suppressed => name == suppressed
  | .suppressAll => true
  | _ => false

def attachedLocal? : Step → Option Scope
  | .attach scope => some scope
  | _ => none

def attachedGlobal? : Step → Option Scope
  | .attachGlobal scope => some scope
  | _ => none

end Step

namespace ScopeSet

def suppresses (scopes : ScopeSet) (name : String) : Bool :=
  scopes.suppressAll || scopes.suppressed.contains name

/-- The scopes after a step. -/
def after (scopes : ScopeSet) : Step → ScopeSet
  | .attach scope => { scopes with locals := scopes.locals ++ [scope] }
  | .detach name =>
      { scopes with
        locals := scopes.locals.filter fun scope => scope.name != name }
  | .attachGlobal scope => { scopes with globals := scopes.globals ++ [scope] }
  | .suppress name => { scopes with suppressed := scopes.suppressed ++ [name] }
  | .suppressAll => { scopes with suppressAll := true }
  | _ => scopes

theorem locals_after (scopes : ScopeSet) (step : Step) :
    (scopes.after step).locals =
      scopes.locals.filter (fun scope => !step.detaches scope.name) ++
        step.attachedLocal?.toList := by
  cases step with
  | detach name => exact (List.append_nil _).symm
  | _ => simp [after, Step.detaches, Step.attachedLocal?]

theorem globals_after (scopes : ScopeSet) (step : Step) :
    (scopes.after step).globals =
      scopes.globals ++ step.attachedGlobal?.toList := by
  cases step <;> simp [after, Step.attachedGlobal?]

theorem suppresses_after (scopes : ScopeSet) (step : Step) (name : String) :
    (scopes.after step).suppresses name =
      (scopes.suppresses name || step.suppresses name) := by
  cases step <;>
    simp [after, suppresses, Step.suppresses, beq_eq_decide, Bool.or_assoc]

end ScopeSet

theorem Step.scopes_apply (query : Query) (step : Step) :
    (step.apply query).scopes = query.scopes.after step := by
  cases step with
  | filter clause predicate => cases clause <;> rfl
  | filterByContext kind column operator =>
      simp only [Step.apply]
      split <;> rfl
  | _ => rfl

/-! ## What is left of the scopes -/

/-- The local scopes that steps attach and do not remove after that, in the
order in which they are attached. -/
def survivingLocals : List Step → List Scope
  | [] => []
  | step :: later =>
      step.attachedLocal?.toList.filter
          (fun scope => !later.any (Step.detaches scope.name)) ++
        survivingLocals later

namespace ScopeSet

/-- The scopes that are active after steps: the local ones that are not removed
after they were attached, then the global ones that no step suppresses. -/
def survivors (scopes : ScopeSet) (steps : List Step) : List Scope :=
  scopes.locals.filter
      (fun scope => !steps.any (Step.detaches scope.name)) ++
    survivingLocals steps ++
    (scopes.globals ++ steps.filterMap Step.attachedGlobal?).filter
      fun scope =>
        !(scopes.suppresses scope.name ||
          steps.any (Step.suppresses scope.name))

theorem survivors_nil (scopes : ScopeSet) :
    scopes.survivors [] = scopes.active := by
  simp [survivors, survivingLocals, active, suppresses]

/-- A step may be counted with the scopes or with the steps to come. -/
theorem survivors_after (scopes : ScopeSet) (step : Step)
    (later : List Step) :
    (scopes.after step).survivors later = scopes.survivors (step :: later) := by
  have attached :
      (step :: later).filterMap Step.attachedGlobal? =
        step.attachedGlobal?.toList ++
          later.filterMap Step.attachedGlobal? := by
    cases found : step.attachedGlobal? <;> simp [found]
  simp only [survivors, survivingLocals, locals_after, globals_after,
    suppresses_after, attached, List.any_cons, List.filter_append,
    List.filter_filter, List.append_assoc, Bool.or_assoc, Bool.not_or,
    Bool.and_comm]

theorem active_foldl_after (steps : List Step) :
    ∀ scopes : ScopeSet,
      (steps.foldl after scopes).active = scopes.survivors steps := by
  induction steps with
  | nil =>
      intro scopes
      exact scopes.survivors_nil.symm
  | cons step rest inductionHypothesis =>
      intro scopes
      rw [List.foldl_cons, inductionHypothesis, survivors_after]

end ScopeSet

/-! ## Chains without the steps that change the scopes -/

/-- The query without its scopes. -/
def Query.unscoped (query : Query) : Query :=
  { query with scopes := {} }

theorem ScopeSet.after_of_untouched (scopes : ScopeSet) {step : Step}
    (untouched : step.touchesScopes = false) : scopes.after step = scopes := by
  cases step with
  | attach | detach | attachGlobal | suppress | suppressAll => cases untouched
  | _ => rfl

theorem Query.scopes_applyAll_of_untouched {steps : List Step}
    (untouched : ∀ step ∈ steps, step.touchesScopes = false) :
    ∀ query : Query, (query.applyAll steps).scopes = query.scopes := by
  induction steps with
  | nil =>
      intro query
      rfl
  | cons step rest inductionHypothesis =>
      intro query
      have later :=
        inductionHypothesis
          (fun next member => untouched next (List.mem_cons_of_mem _ member))
          (step.apply query)
      rw [applyAll, List.foldl_cons, ← applyAll, later, step.scopes_apply,
        ScopeSet.after_of_untouched _ (untouched step List.mem_cons_self)]

theorem Step.unscoped_apply_of_touches (query : Query) {step : Step}
    (touches : step.touchesScopes = true) :
    (step.apply query).unscoped = query.unscoped := by
  cases step with
  | attach | detach | attachGlobal | suppress | suppressAll => rfl
  | _ => cases touches

theorem Step.unscoped_apply_of_untouched (query : Query) {step : Step}
    (untouched : step.touchesScopes = false) :
    (step.apply query).unscoped = step.apply query.unscoped := by
  cases step with
  | attach | detach | attachGlobal | suppress | suppressAll => cases untouched
  | filter clause predicate => cases clause <;> rfl
  | filterByContext kind column operator =>
      simp only [Step.apply, Query.unscoped]
      split <;> rfl
  | _ => rfl

/-- Scopes that leave the scopes alone leave a query without scopes as it is
compiled. -/
theorem Query.applyScopes_foldl_of_untouched {scopes : List Scope}
    {query : Query}
    (untouched : ∀ scope ∈ scopes, ∀ step ∈ scope.steps,
      step.touchesScopes = false)
    (scopeless : query.scopes = {}) :
    (scopes.foldl Scope.apply query).applyScopes =
      scopes.foldl Scope.apply query := by
  have kept : (scopes.foldl Scope.apply query).scopes = {} := by
    rw [foldl_scopes_eq_applyAll]
    refine (scopes_applyAll_of_untouched ?_ query).trans scopeless
    intro step member
    obtain ⟨scope, attached, within⟩ := List.mem_flatMap.mp member
    exact untouched scope attached step within
  rw [applyScopes, kept]
  show { scopes.foldl Scope.apply query with scopes := {} } = _
  rw [← kept]

namespace ModelStep

/-- The step of a plain query that a step of a chain is, if it is one.  What
refines a sub-query is of no concern to the scopes of the query. -/
def plain? : ModelStep → Option Step
  | .plain step => some step
  | _ => none

/-- Whether a step changes the scopes of the query itself. -/
def touchesScopes : ModelStep → Bool
  | .plain step => step.touchesScopes
  | _ => false

end ModelStep

namespace ModelQuery

variable {schema : Schema}

def unscoped (typed : ModelQuery) : ModelQuery :=
  { typed with query := typed.query.unscoped }

theorem unscoped_addPredicate (query : Query) (clause : Clause)
    (predicate : Predicate) :
    (query.addPredicate clause predicate).unscoped =
      query.unscoped.addPredicate clause predicate := by
  cases clause <;> rfl

theorem unscoped_withFailure (typed : ModelQuery) (failure? : Option Error) :
    (typed.withFailure failure?).unscoped =
      typed.unscoped.withFailure failure? := by
  cases failure? <;> rfl

theorem unscoped_apply_of_untouched (typed : ModelQuery) {step : ModelStep}
    (untouched : step.touchesScopes = false) :
    (typed.apply schema step).unscoped = typed.unscoped.apply schema step := by
  cases step with
  | plain step =>
      simp only [apply, unscoped]
      rw [step.unscoped_apply_of_untouched typed.query untouched]
  | unknownRelation policy => rfl
  | load path => rfl
  | has clause link name refinement =>
      have same :
          (ModelStep.has clause link name refinement).subquery? schema
            (schema.model typed.unscoped.place) typed.unscoped.query.context =
          (ModelStep.has clause link name refinement).subquery? schema
            (schema.model typed.place) typed.query.context := rfl
      cases asked :
          (ModelStep.has clause link name refinement).subquery? schema
            (schema.model typed.place) typed.query.context with
      | none =>
          rw [apply_has_of_none asked, apply_has_of_none (same.trans asked),
            unscoped_withFailure]
          rfl
      | some sub =>
          rw [apply_has_of_some asked, apply_has_of_some (same.trans asked),
            unscoped, unscoped_addPredicate]
          rfl

/-- Leaving the scopes aside is leaving out the steps that change them. -/
theorem unscoped_applyAll (steps : List ModelStep) :
    ∀ typed : ModelQuery,
      (typed.applyAll schema steps).unscoped =
        typed.unscoped.applyAll schema
          (steps.filter fun step => !step.touchesScopes) := by
  induction steps with
  | nil =>
      intro typed
      rfl
  | cons step rest inductionHypothesis =>
      intro typed
      rw [applyAll, List.foldl_cons]
      refine (inductionHypothesis (typed.apply schema step)).trans ?_
      cases touched : step.touchesScopes with
      | false =>
          rw [unscoped_apply_of_untouched typed touched,
            List.filter_cons_of_pos (by simp [touched])]
          rfl
      | true =>
          cases step with
          | plain step =>
              have same : (typed.apply schema (.plain step)).unscoped =
                  typed.unscoped := by
                simp only [apply, unscoped]
                rw [step.unscoped_apply_of_touches typed.query touched]
              rw [same, List.filter_cons_of_neg (by simp [touched])]
          | unknownRelation | load | has => cases touched

theorem scopes_apply_has (typed : ModelQuery) (clause : Clause) (link : Link)
    (name : String) (refinement : List Step) :
    (typed.apply schema (.has clause link name refinement)).query.scopes =
      typed.query.scopes := by
  cases asked :
      (ModelStep.has clause link name refinement).subquery? schema
        (schema.model typed.place) typed.query.context with
  | none =>
      rw [apply_has_of_none asked]
      unfold withFailure
      split <;> rfl
  | some sub =>
      rw [apply_has_of_some asked]
      cases clause <;> rfl

/-- The scopes of a query change with the plain steps alone. -/
theorem scopes_applyAll (steps : List ModelStep) :
    ∀ typed : ModelQuery,
      (typed.applyAll schema steps).query.scopes =
        (steps.filterMap ModelStep.plain?).foldl ScopeSet.after
          typed.query.scopes := by
  induction steps with
  | nil =>
      intro typed
      rfl
  | cons step rest inductionHypothesis =>
      intro typed
      rw [applyAll, List.foldl_cons]
      refine (inductionHypothesis (typed.apply schema step)).trans ?_
      cases step with
      | plain step =>
          rw [apply, step.scopes_apply]
          rfl
      | unknownRelation policy => rfl
      | load path => rfl
      | has clause link name refinement =>
          rw [scopes_apply_has]
          rfl

/-- The chain without the steps that change the scopes of a query leaves a query
without scopes. -/
theorem scopes_applyAll_unscoped (schema : Schema) (start : ModelQuery)
    (steps : List ModelStep) :
    (start.unscoped.applyAll schema
      (steps.filter fun step => !step.touchesScopes)).query.scopes = {} := by
  rw [← unscoped_applyAll]
  rfl

/-- Applying the scopes of a query is putting those that are left behind the
chain without the steps that change them. -/
theorem applyScopes_applyAll (schema : Schema) (start : ModelQuery)
    (steps : List ModelStep) :
    (start.applyAll schema steps).query.applyScopes =
      (start.query.scopes.survivors
        (steps.filterMap ModelStep.plain?)).foldl Scope.apply
        (start.unscoped.applyAll schema
          (steps.filter fun step => !step.touchesScopes)).query := by
  have active :
      (start.applyAll schema steps).query.scopes.active =
        start.query.scopes.survivors
          (steps.filterMap ModelStep.plain?) := by
    rw [scopes_applyAll, ScopeSet.active_foldl_after]
  rw [Query.applyScopes, active, ← unscoped_applyAll]
  rfl

/-- A query compiles like the chain without the steps that change its scopes,
extended by the scopes that are left, as long as these leave the scopes
alone. -/
theorem toSql_applyAll_eq_scopes_last (schema : Schema) (start : ModelQuery)
    (steps : List ModelStep)
    (untouched :
      ∀ scope ∈
        start.query.scopes.survivors (steps.filterMap ModelStep.plain?),
        ∀ step ∈ scope.steps, step.touchesScopes = false)
    (dialect : Dialect) :
    (start.applyAll schema steps).query.toSql dialect =
      ((start.query.scopes.survivors
          (steps.filterMap ModelStep.plain?)).foldl Scope.apply
        (start.unscoped.applyAll schema
          (steps.filter fun step => !step.touchesScopes)).query).toSql
        dialect := by
  have applied :=
    Query.applyScopes_foldl_of_untouched untouched
      (scopes_applyAll_unscoped schema start steps)
  rw [Query.toSql, Query.fragment, applyScopes_applyAll, Query.toSql,
    Query.fragment, applied]

/-! ### Rows of a tenant -/

def tenancy : Scope :=
  ⟨"tenancy", [.filterByContext "tenant" "tenant_id" "="]⟩

def few : Scope :=
  ⟨"few", [.limit 3]⟩

def tenancySchema : Schema where
  models := [{ name := "Foo", table := "foos", scopes := [tenancy] }]

/-- A scope removed before it is attached again, another suppressed before it
is attached, and a context that is set after all scopes. -/
def tenancySteps : List ModelStep :=
  [.plain (.attach few), .plain (.suppress "live"), .plain (.detach "few"),
    .plain (.limit 5), .plain (.attach few),
    .plain (.attachGlobal ⟨"live", [.unordered]⟩),
    .plain (.withContext ⟨[("tenant", .int 7)]⟩)]

/-- The other steps, and then the scopes that are left. -/
def tenancyLast : Query :=
  [few, tenancy].foldl Scope.apply
    ((ofModel tenancySchema 0).unscoped.applyAll tenancySchema
      [.plain (.limit 5), .plain (.withContext ⟨[("tenant", .int 7)]⟩)]).query

theorem toSql_applyAll_eq_scopes_last_of_tenancy :
    let start := ofModel tenancySchema 0
    let sql :=
      "SELECT \"foos\".* FROM \"foos\" WHERE \"tenant_id\" = $1 LIMIT 3"
    start.query.scopes.survivors (tenancySteps.filterMap ModelStep.plain?) =
        [few, tenancy] ∧
      (∀ scope ∈ [few, tenancy], ∀ step ∈ scope.steps,
        step.touchesScopes = false) ∧
      (∀ dialect,
        (start.applyAll tenancySchema tenancySteps).query.toSql dialect =
          tenancyLast.toSql dialect) ∧
      (start.applyAll tenancySchema tenancySteps).query.toSql .postgres =
        .ok ⟨sql, [.int 7]⟩ ∧
      tenancyLast.toSql .postgres = .ok ⟨sql, [.int 7]⟩ := by
  have survivors :
      (ofModel tenancySchema 0).query.scopes.survivors
          (tenancySteps.filterMap ModelStep.plain?) =
        [few, tenancy] := rfl
  have untouched :
      ∀ scope ∈ [few, tenancy], ∀ step ∈ scope.steps,
        step.touchesScopes = false := by
    simp [few, tenancy, Step.touchesScopes]
  refine ⟨survivors, untouched, fun dialect => ?_, rfl, rfl⟩
  exact toSql_applyAll_eq_scopes_last tenancySchema (ofModel tenancySchema 0)
    tenancySteps (survivors ▸ untouched) dialect

end ModelQuery

end RecordQuery
