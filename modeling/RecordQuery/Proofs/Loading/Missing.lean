import RecordQuery.Proofs.Loading.Failing

/-!
# Loading what is missing

With only missing relationships loaded, whatever is loaded and current along a
path stays: the instances that it holds are the same, up to what is loaded in
them.  A path that was loaded in this way is settled, so that loading it once
more does nothing, and needs no executor to do it.
-/

namespace RecordQuery

variable {σ : Type} {schema : Schema} {executor : Executor σ}
variable {context : Context} {before after : σ}

/-! ## What is kept -/

/-- Whether loading what is missing along a path may make this of an instance:
at most its slot for the first segment is replaced, and when that was loaded
and current, it is still loaded, with what it held, on which the rest of the
path is loaded in the same way. -/
def Instance.KeptAlong (schema : Schema) :
    List String → Instance → Instance → Prop
  | [] => fun owner result => result = owner
  | segment :: rest => fun owner result =>
      result = owner ∨
        ∃ slot next,
          owner.slot? schema segment = some slot ∧
            result = owner.setSlot schema segment next ∧
            (slot.loaded = true → owner.IsCurrent schema segment slot →
              next.loaded = true ∧
                List.Forall₂ (KeptAlong schema rest) slot.held next.held)

theorem Instance.KeptAlong.refl (path : List String) (owner : Instance) :
    owner.KeptAlong schema path owner := by
  cases path with
  | nil => rfl
  | cons segment rest => exact Or.inl rfl

theorem Instance.LeftBy.keptAlong {segment : String} {later : List String}
    {owner result : Instance} (left : owner.LeftBy schema segment result) :
    owner.KeptAlong schema (segment :: later) result := by
  rcases left with same | ⟨slot, next, found, rfl, _, kept | dropped⟩
  · exact Or.inl same
  · refine Or.inr ⟨slot, next, found, rfl, ?_⟩
    intro loaded _
    rw [kept.1, kept.2]
    exact ⟨loaded, List.forall₂_same.mpr fun held _ =>
      Instance.KeptAlong.refl later held⟩
  · refine Or.inr ⟨slot, next, found, rfl, ?_⟩
    intro _ current
    exact (dropped.2.1 current).elim

/-- A slot that is loaded and current is given its join columns without being
dropped. -/
theorem exists_kept_of_initializeNamed {segment : String}
    {owner initialized : Instance} {slot : Slot}
    (done : owner.initializeNamed schema segment = .ok initialized)
    (found : initialized.slot? schema segment = some slot) :
    ∃ old,
      owner.slot? schema segment = some old ∧
        (∀ next, initialized.setSlot schema segment next =
          owner.setSlot schema segment next) ∧
        (old.loaded = true → owner.IsCurrent schema segment old →
          slot.loaded = true ∧ slot.held = old.held) := by
  obtain ⟨keys, value, old, own, read, oldFound, rfl⟩ :=
    Instance.initializeNamed_iff.mp done
  rw [Instance.slot?_setSlot_self _ oldFound] at found
  obtain rfl := Option.some.inj found
  refine ⟨old, oldFound, fun next => Instance.setSlot_setSlot _ _ _ _, ?_⟩
  intro loaded current
  rw [Slot.initializeWith_of_not_stale fun _ =>
    current keys value own read]
  exact ⟨loaded, rfl⟩

/-- What is loaded and current stays when one part of a path is loaded and what
this leads to is changed in a way that keeps it along the other part. -/
theorem keptAlong_of_loadedAs {finds : Slot → List Instance → Prop}
    {changed : Instance → Instance → Prop} {later : List String}
    (keeps : ∀ owner result, changed owner result →
      owner.KeptAlong schema later result)
    (earlier : List String) :
    ∀ {owner middle result : Instance},
      LoadedAs schema (Slot.FindsOrKeeps true finds) earlier owner middle →
      ChangedAt schema changed earlier middle result →
        owner.KeptAlong schema (earlier ++ later) result := by
  induction earlier with
  | nil =>
      rintro owner middle result rfl change
      exact keeps owner result change
  | cons segment rest inductionHypothesis =>
      rintro owner middle result
        ⟨initialized, slot, found, held, done, slotFound, finding,
          allLoaded, rfl⟩
        ⟨next, last, nextFound, allChanged, rfl⟩
      rw [Instance.slot?_setSlot_self _ slotFound] at nextFound
      obtain rfl := Option.some.inj nextFound
      obtain ⟨old, oldFound, replaced, kept⟩ :=
        exists_kept_of_initializeNamed done slotFound
      rw [Instance.setSlot_setSlot, replaced]
      refine Or.inr ⟨old, _, oldFound, rfl, ?_⟩
      intro loaded current
      obtain ⟨slotLoaded, sameHeld⟩ := kept loaded current
      have notPending : ¬isPending true slot = true := by
        simp [isPending, slotLoaded]
      rw [Slot.FindsOrKeeps, if_neg notPending] at finding
      rw [finding, sameHeld] at allLoaded
      refine ⟨rfl, List.Forall₂.imp ?_
        (forall₂_exists_between_iff.mpr ⟨held, allLoaded, allChanged⟩)⟩
      rintro first last ⟨_, one, other⟩
      exact inductionHypothesis one other

theorem changedAt_same_of_loadedAs {finds : Slot → List Instance → Prop}
    (path : List String) :
    ∀ {owner result : Instance},
      LoadedAs schema finds path owner result →
        ChangedAt schema (fun first second => second = first) path
          result result := by
  induction path with
  | nil =>
      intro owner result _
      rfl
  | cons segment rest inductionHypothesis =>
      rintro owner result
        ⟨initialized, slot, found, held, _, slotFound, _, allLoaded, rfl⟩
      refine ⟨_, held, Instance.slot?_setSlot_self _ slotFound, ?_, ?_⟩
      · rw [List.forall₂_same]
        intro next member
        obtain ⟨earlier, _, loaded⟩ := exists_left_of_forall₂ allLoaded member
        exact inductionHypothesis loaded
      · rw [Instance.setSlot_setSlot]

theorem forall₂_keptAlong_of_completes {path : String}
    (segments : List String) {models result : List Instance}
    (completed :
      Completes (loadSegments schema executor context true path segments
        models) before result after) :
    List.Forall₂ (Instance.KeptAlong schema segments) models result := by
  refine List.Forall₂.imp ?_
    (loadedAs_findsOrKeeps_of_completes batch_finds_fresh segments completed)
  intro owner next loaded
  have kept : owner.KeptAlong schema (segments ++ []) next :=
    keptAlong_of_loadedAs (fun _ _ same => same) segments loaded
      (changedAt_same_of_loadedAs segments loaded)
  rw [List.append_nil] at kept
  exact kept

theorem forall₂_keptAlong_of_stops {path : String} (segments : List String)
    {models result : List Instance} {error : Error}
    (stopped :
      Stops (loadSegments schema executor context true path segments models)
        before result error) :
    List.Forall₂ (Instance.KeptAlong schema segments) models result := by
  obtain ⟨earlier, segment, later, middle, between, rfl, completed, _,
    changed⟩ := exists_stage_of_stops segments stopped
  have loaded :=
    loadedAs_findsOrKeeps_of_completes batch_finds_fresh earlier completed
  refine List.Forall₂.imp ?_
    (forall₂_exists_between_iff.mpr ⟨middle, loaded, changed⟩)
  rintro owner next ⟨_, one, other⟩
  exact keptAlong_of_loadedAs (fun _ _ attempted =>
    attempted.leftBy.keptAlong) earlier one other

/-! ## Settled paths -/

/-- Whether loading what is missing along a path has nothing to do: each slot
along it is loaded, and giving it its join columns again changes nothing. -/
def Instance.Settled (schema : Schema) : List String → Instance → Prop
  | [] => fun _ => True
  | segment :: rest => fun owner =>
      owner.initializeNamed schema segment = .ok owner ∧
        ∃ slot, owner.slot? schema segment = some slot ∧
          slot.loaded = true ∧ ∀ next ∈ slot.held, Settled schema rest next

theorem settled_of_loadedAs {finds : Slot → List Instance → Prop}
    (path : List String) :
    ∀ {owner result : Instance},
      LoadedAs schema finds path owner result →
        result.Settled schema path := by
  induction path with
  | nil =>
      intro owner result _
      trivial
  | cons segment rest inductionHypothesis =>
      rintro owner result
        ⟨initialized, slot, found, held, done, slotFound, _, allLoaded, rfl⟩
      refine ⟨Instance.initializeNamed_setSlot_of_initializeNamed done
        slotFound held, _, Instance.slot?_setSlot_self _ slotFound, rfl, ?_⟩
      intro next member
      obtain ⟨earlier, _, loaded⟩ := exists_left_of_forall₂ allLoaded member
      exact inductionHypothesis loaded

theorem refill_self :
    ∀ slots : List Slot, refill slots (slots.flatMap Slot.held) = slots
  | [] => rfl
  | slot :: rest => by
      cases slot
      rw [List.flatMap_cons, refill, List.take_left, List.drop_left,
        refill_self rest]

theorem putSlots_self {segment : String} :
    ∀ {rows : List Instance},
      (∀ row ∈ rows, ∃ slot, row.slot? schema segment = some slot) →
        putSlots schema segment rows (segmentSlots schema segment rows) =
          rows
  | [], _ => rfl
  | row :: rows, slotted => by
      obtain ⟨⟨slot, found⟩, others⟩ := List.forall_mem_cons.mp slotted
      have rest := putSlots_self others
      rw [putSlots, segmentSlots] at rest ⊢
      simp only [List.filterMap_cons, found, List.zipWith_cons_cons, rest,
        Instance.setSlot_of_slot? found]

/-- A settled path is loaded without a change to anything, the state of the
executor included. -/
theorem completes_of_settled {path : String} (segments : List String) :
    ∀ {models : List Instance},
      (∀ model ∈ models, model.Settled schema segments) →
        Completes (loadSegments schema executor context true path segments
          models) before models before := by
  induction segments with
  | nil =>
      intro models _
      exact completes_nil_iff.mpr ⟨rfl, rfl⟩
  | cons segment rest inductionHypothesis =>
      intro models settled
      by_cases nothing : models = []
      · exact completes_cons_iff.mpr (Or.inl ⟨nothing, nothing, rfl⟩)
      have slotted :
          ∀ model ∈ models,
            ∃ slot, model.slot? schema segment = some slot := by
        intro model member
        obtain ⟨_, slot, found, _⟩ := settled model member
        exact ⟨slot, found⟩
      have eachSettled :
          ∀ slot ∈ segmentSlots schema segment models,
            slot.loaded = true ∧
              ∀ next ∈ slot.held, next.Settled schema rest := by
        intro slot member
        obtain ⟨model, modelMember, found⟩ := List.mem_filterMap.mp member
        obtain ⟨_, own, ownFound, loaded, later⟩ := settled model modelMember
        rw [found] at ownFound
        obtain rfl := Option.some.inj ownFound
        exact ⟨loaded, later⟩
      have nonePending :
          (segmentSlots schema segment models).filter (isPending true) =
            [] := by
        rw [List.filter_eq_nil_iff]
        intro slot member
        simp [isPending, (eachSettled slot member).1]
      have heldSettled :
          ∀ next ∈ (segmentSlots schema segment models).flatMap Slot.held,
            next.Settled schema rest := by
        intro next member
        obtain ⟨slot, slotMember, held⟩ := List.mem_flatMap.mp member
        exact (eachSettled slot slotMember).2 next held
      refine completes_cons_iff.mpr (Or.inr ⟨nothing, models, _, _, before,
        ?_, returns_loadSlots_iff.mpr (Or.inl ⟨nonePending, rfl, rfl⟩),
        inductionHypothesis heldSettled, ?_⟩)
      · exact List.forall₂_same.mpr fun model member =>
          (settled model member).1
      · rw [refill_self, putSlots_self slotted]

/-- Loading what is missing along a path, whether it succeeds or fails, keeps
what is loaded and current, up to what is loaded inside.  After a success,
loading it again succeeds with any executor in any state, changes nothing in
the instances, and leaves that state alone, so that no statement is run. -/
theorem loadPath_missing_settles {path : String}
    {models result : List Instance} {error? : Option Error}
    (ran :
      (loadPath schema executor context true path models).run before =
        ((result, error?), after)) :
    (match pathSegments path with
      | .ok segments =>
          List.Forall₂ (Instance.KeptAlong schema segments) models result
      | .error _ => result = models) ∧
      (error? = none →
        ∀ (τ : Type) (other : Executor τ) (again : Context) (state : τ),
          Completes (loadPath schema other again true path result)
            state result state) := by
  cases error? with
  | none =>
      obtain ⟨segments, read, completed⟩ := completes_loadPath_iff.mp ran
      rw [read]
      refine ⟨forall₂_keptAlong_of_completes segments completed, ?_⟩
      intro _ τ other again state
      refine completes_loadPath_iff.mpr ⟨segments, read, ?_⟩
      refine completes_of_settled segments ?_
      intro model member
      obtain ⟨owner, _, loaded⟩ :=
        exists_left_of_forall₂
          (loadedAs_findsOrKeeps_of_completes batch_finds_fresh segments
            completed) member
      exact settled_of_loadedAs segments loaded
  | some error =>
      refine ⟨?_, fun succeeded => by cases succeeded⟩
      rcases stops_loadPath_iff.mp ⟨after, ran⟩ with
        ⟨refused, rfl⟩ | ⟨segments, read, stopped⟩
      · rw [refused]
      · rw [read]
        exact forall₂_keptAlong_of_stops segments stopped

/-! ## A path that is loaded in part -/

/-- Two foos, of which only the first has its bar. -/
def someFoos : List Instance :=
  [fooAt 1 true [barAt 10 1 1 false []], fooAt 3 false []]

def allFoos : List Instance :=
  [fooAt 1 true [barAt 10 1 1 true [fooAt 1 false []]],
    fooAt 3 true [barAt 11 3 3 true [fooAt 3 false []]]]

/-- The missing bar, and the foos of both bars. -/
def missingAnswers : List (List Row) :=
  [[⟨["id", "foo_id"], [.int 11, .int 3]⟩],
    [⟨["id"], [.int 1]⟩, ⟨["id"], [.int 3]⟩]]

set_option maxRecDepth 8000 in
theorem completes_someFoos :
    Completes
      (loadPath pairSchema answersInTurn {} true "bar.foo" someFoos)
      missingAnswers allFoos [] :=
  completes_loadPath_iff.mpr ⟨["bar", "foo"], by rfl, by rfl⟩

theorem loadPath_missing_settles_someFoos :
    (loadPath pairSchema answersInTurn {} true "bar.foo" someFoos).run
          missingAnswers =
        ((allFoos, none), []) ∧
      (match pathSegments "bar.foo" with
        | .ok segments =>
            List.Forall₂ (Instance.KeptAlong pairSchema segments) someFoos
              allFoos
        | .error _ => allFoos = someFoos) ∧
      ((none : Option Error) = none →
        ∀ (τ : Type) (other : Executor τ) (again : Context) (state : τ),
          Completes (loadPath pairSchema other again true "bar.foo" allFoos)
            state allFoos state) :=
  ⟨completes_someFoos, loadPath_missing_settles completes_someFoos⟩

end RecordQuery
