import Mathlib.Data.List.Forall2
import RecordQuery.Executor

/-!
# What computations that may fail return

`Returns action before value after` says that an action succeeds.  Each way of
putting actions together has one lemma that says when the whole succeeds, so
that a run is taken apart step by step.
-/

namespace RecordQuery

variable {σ α β : Type}

/-- The action, started in `before`, succeeds with `value` and leaves
`after`. -/
def Returns (action : ExceptT Error (StateM σ) α)
    (before : σ) (value : α) (after : σ) : Prop :=
  action.run.run before = (.ok value, after)

namespace Returns

variable {before after : σ}

theorem unique {action : ExceptT Error (StateM σ) α} {value other : α}
    {otherAfter : σ} (returned : Returns action before value after)
    (otherReturned : Returns action before other otherAfter) :
    value = other := by
  have same := returned.symm.trans otherReturned
  cases same
  rfl

@[simp]
theorem pure_iff {value result : α} :
    Returns (pure value) before result after ↔
      value = result ∧ before = after := by
  simp only [Returns, ExceptT.run_pure, StateT.run_pure]
  constructor
  · intro outcome
    cases outcome
    exact ⟨rfl, rfl⟩
  · rintro ⟨rfl, rfl⟩
    rfl

theorem bind_iff {action : ExceptT Error (StateM σ) α}
    {next : α → ExceptT Error (StateM σ) β} {result : β} :
    Returns (action >>= next) before result after ↔
      ∃ value between,
        Returns action before value between ∧
          Returns (next value) between result after := by
  simp only [Returns, ExceptT.run_bind, StateT.run_bind]
  generalize StateT.run action.run before = ran
  rcases ran with ⟨error | value, between⟩
  · constructor
    · intro outcome
      cases outcome
    · rintro ⟨_, _, outcome, _⟩
      cases outcome
  · constructor
    · intro outcome
      exact ⟨value, between, rfl, outcome⟩
    · rintro ⟨_, _, outcome, rest⟩
      cases outcome
      exact rest

theorem map_iff {action : ExceptT Error (StateM σ) α}
    {change : α → β} {result : β} :
    Returns (change <$> action) before result after ↔
      ∃ value, Returns action before value after ∧ change value = result := by
  rw [map_eq_pure_bind, bind_iff]
  constructor
  · rintro ⟨value, between, ran, changed⟩
    obtain ⟨rfl, rfl⟩ := pure_iff.mp changed
    exact ⟨value, ran, rfl⟩
  · rintro ⟨value, ran, rfl⟩
    exact ⟨value, after, ran, pure_iff.mpr ⟨rfl, rfl⟩⟩

theorem exists_map_iff {action : ExceptT Error (StateM σ) α}
    {change : α → β} :
    (∃ result after, Returns (change <$> action) before result after) ↔
      ∃ value after, Returns action before value after := by
  simp only [map_iff]
  constructor
  · rintro ⟨_, after, value, ran, _⟩
    exact ⟨value, after, ran⟩
  · rintro ⟨value, after, ran⟩
    exact ⟨change value, after, value, ran, rfl⟩

@[simp]
theorem throw_iff {error : Error} {result : α} :
    Returns (throw error) before result after ↔ False := by
  constructor
  · intro outcome
    cases outcome
  · exact False.elim

@[simp]
theorem lift_iff {computed : Except Error α} {result : α} :
    Returns (liftM computed) before result after ↔
      computed = .ok result ∧ before = after := by
  rcases computed with error | value
  · constructor
    · intro outcome
      cases outcome
    · rintro ⟨outcome, _⟩
      cases outcome
  · constructor
    · intro outcome
      cases outcome
      exact ⟨rfl, rfl⟩
    · rintro ⟨outcome, rfl⟩
      cases outcome
      rfl

@[simp]
theorem get_iff {result : σ} :
    Returns get before result after ↔
      before = result ∧ before = after := by
  constructor
  · intro outcome
    cases outcome
    exact ⟨rfl, rfl⟩
  · rintro ⟨rfl, rfl⟩
    rfl

@[simp]
theorem set_iff {state : σ} {result : PUnit} :
    Returns (set state) before result after ↔ state = after := by
  constructor
  · intro outcome
    cases outcome
    rfl
  · rintro rfl
    rfl

@[simp]
theorem tryCatch_throw_iff {action : ExceptT Error (StateM σ) α}
    {rename : Error → Error} {result : α} :
    Returns (tryCatch action fun error => throw (rename error))
        before result after ↔
      Returns action before result after := by
  simp only [Returns, ExceptT.run_tryCatch, StateT.run_bind]
  generalize StateT.run action.run before = ran
  rcases ran with ⟨error | value, between⟩
  · constructor
    · intro outcome
      cases outcome
    · intro outcome
      cases outcome
  · exact Iff.rfl

@[simp]
theorem emit_iff {executor : Executor σ} {event : Event} {result : Unit} :
    Returns (executor.emit event) before result after ↔
      executor.note event before = after := by
  constructor
  · intro outcome
    cases outcome
    rfl
  · rintro rfl
    rfl

@[simp]
theorem liftState_iff {action : StateM σ α} {result : α} :
    Returns (liftM action) before result after ↔
      action.run before = (result, after) := by
  constructor
  · intro outcome
    cases outcome
    rfl
  · intro outcome
    show (Except.ok (action.run before).1, (action.run before).2) = _
    rw [outcome]

end Returns

/-- The action, started in `before`, fails with this error. -/
def Fails (action : ExceptT Error (StateM σ) α) (before : σ)
    (error : Error) : Prop :=
  ∃ after, action.run.run before = (.error error, after)

namespace Fails

variable {before : σ} {error : Error}

@[simp]
theorem pure_iff {value : α} :
    Fails (pure value) before error ↔ False := by
  constructor
  · rintro ⟨_, outcome⟩
    cases outcome
  · exact False.elim

@[simp]
theorem throw_iff {cause : Error} :
    Fails (throw cause : ExceptT Error (StateM σ) α) before error ↔
      cause = error := by
  constructor
  · rintro ⟨_, outcome⟩
    cases outcome
    rfl
  · intro same
    exact ⟨before, by rw [same]; rfl⟩

/-- A sequence fails where its first action does, or after it. -/
theorem bind_iff {action : ExceptT Error (StateM σ) α}
    {next : α → ExceptT Error (StateM σ) β} :
    Fails (action >>= next) before error ↔
      Fails action before error ∨
        ∃ value between,
          Returns action before value between ∧
            Fails (next value) between error := by
  simp only [Fails, Returns, ExceptT.run_bind, StateT.run_bind]
  generalize StateT.run action.run before = ran
  rcases ran with ⟨cause | value, between⟩
  · constructor
    · rintro ⟨after, outcome⟩
      cases outcome
      exact Or.inl ⟨between, rfl⟩
    · rintro (⟨after, outcome⟩ | ⟨_, _, outcome, _⟩)
      · cases outcome
        exact ⟨between, rfl⟩
      · cases outcome
  · constructor
    · intro later
      exact Or.inr ⟨value, between, rfl, later⟩
    · rintro (⟨_, outcome⟩ | ⟨_, _, outcome, later⟩)
      · cases outcome
      · cases outcome
        exact later

@[simp]
theorem map_iff {action : ExceptT Error (StateM σ) α} {change : α → β} :
    Fails (change <$> action) before error ↔ Fails action before error := by
  rw [map_eq_pure_bind, bind_iff]
  simp

@[simp]
theorem get_iff : Fails (get : ExceptT Error (StateM σ) σ) before error ↔
    False := by
  constructor
  · rintro ⟨_, outcome⟩
    cases outcome
  · exact False.elim

@[simp]
theorem set_iff {state : σ} :
    Fails (set state : ExceptT Error (StateM σ) PUnit) before error ↔
      False := by
  constructor
  · rintro ⟨_, outcome⟩
    cases outcome
  · exact False.elim

theorem not_returns {action : ExceptT Error (StateM σ) α}
    (failed : Fails action before error) {value : α} {after : σ} :
    ¬Returns action before value after := by
  intro returned
  obtain ⟨_, outcome⟩ := failed
  rw [Returns, outcome] at returned
  cases returned

end Fails

theorem returns_or_fails (action : ExceptT Error (StateM σ) α) (before : σ) :
    (∃ value after, Returns action before value after) ∨
      ∃ error, Fails action before error := by
  unfold Fails Returns
  generalize action.run.run before = ran
  rcases ran with ⟨error | value, after⟩
  · exact Or.inr ⟨error, after, rfl⟩
  · exact Or.inl ⟨value, after, rfl⟩

theorem exceptBind_eq_ok_iff {ε : Type} {computed : Except ε α}
    {next : α → Except ε β} {result : β} :
    computed >>= next = .ok result ↔
      ∃ value, computed = .ok value ∧ next value = .ok result := by
  cases computed with
  | error error =>
      constructor
      · intro outcome
        cases outcome
      · rintro ⟨_, outcome, _⟩
        cases outcome
  | ok value =>
      constructor
      · intro outcome
        exact ⟨value, rfl, outcome⟩
      · rintro ⟨_, ⟨⟩, outcome⟩
        exact outcome

theorem exceptBind_eq_error_iff {computed : Except Error α}
    {next : α → Except Error β} {error : Error} :
    computed >>= next = .error error ↔
      computed = .error error ∨
        ∃ value, computed = .ok value ∧ next value = .error error := by
  cases computed with
  | error cause =>
      constructor
      · intro outcome
        cases outcome
        exact Or.inl rfl
      · rintro (⟨⟨⟩⟩ | ⟨_, outcome, _⟩)
        · rfl
        · cases outcome
  | ok value =>
      constructor
      · intro outcome
        exact Or.inr ⟨value, rfl, outcome⟩
      · rintro (outcome | ⟨_, ⟨⟩, outcome⟩)
        · cases outcome
        · exact outcome

theorem mapM_eq_ok_iff {ε : Type} {read : α → Except ε β}
    {entries : List α} {results : List β} :
    entries.mapM read = .ok results ↔
      List.Forall₂ (fun entry result => read entry = .ok result)
        entries results := by
  induction entries generalizing results with
  | nil =>
      rw [List.mapM_nil, List.forall₂_nil_left_iff]
      constructor
      · intro outcome
        cases outcome
        rfl
      · rintro rfl
        rfl
  | cons entry rest inductionHypothesis =>
      rw [List.mapM_cons, List.forall₂_cons_left_iff]
      constructor
      · intro outcome
        cases head : read entry with
        | error error =>
            rw [head] at outcome
            cases outcome
        | ok first =>
            cases tail : rest.mapM read with
            | error error =>
                rw [head, tail] at outcome
                cases outcome
            | ok later =>
                rw [head, tail] at outcome
                cases outcome
                exact ⟨first, later, rfl,
                  inductionHypothesis.mp tail, rfl⟩
      · rintro ⟨first, later, head, tail, rfl⟩
        rw [head, inductionHypothesis.mpr tail]
        rfl

end RecordQuery
