import RecordQuery.Proofs.Loading.Batch

/-!
# What loading a path makes of each instance

Loading works on whole working sets, but what becomes of an instance can be
said of it alone: along the path its slot is loaded with instances that were
found for it, on which the rest of the path is loaded.  `LoadedAs` says this
for any notion of what is found; a successful run does it to every instance.
-/

namespace RecordQuery

variable {σ : Type} {schema : Schema} {executor : Executor σ}
variable {context : Context} {before after : σ}

/-- Loading ends without a failure. -/
def Completes (action : StateM σ (List Instance × Option Error))
    (before : σ) (result : List Instance) (after : σ) : Prop :=
  action.run before = ((result, none), after)

theorem initializeSegment_eq_iff {segment : String}
    {working initialized : List Instance} :
    initializeSegment schema segment working = (initialized, none) ↔
      List.Forall₂ (fun row next =>
        row.initializeNamed schema segment = .ok next)
        working initialized := by
  induction working generalizing initialized with
  | nil =>
      rw [initializeSegment, List.forall₂_nil_left_iff, Prod.mk.injEq]
      simp [eq_comm]
  | cons row rest inductionHypothesis =>
      rw [initializeSegment, List.forall₂_cons_left_iff]
      cases row.initializeNamed schema segment with
      | error error => simp
      | ok next =>
          simp only [Prod.mk.injEq, Except.ok.injEq]
          constructor
          · rintro ⟨rfl, done⟩
            exact ⟨next, _, rfl,
              inductionHypothesis.mp (Prod.ext rfl done), rfl⟩
          · rintro ⟨_, later, rfl, done, rfl⟩
            rw [inductionHypothesis.mpr done]
            exact ⟨rfl, rfl⟩

theorem completes_nil_iff {onlyMissing : Bool} {path : String}
    {working result : List Instance} :
    Completes (loadSegments schema executor context onlyMissing path []
        working) before result after ↔
      working = result ∧ before = after := by
  constructor
  · intro outcome
    cases outcome
    exact ⟨rfl, rfl⟩
  · rintro ⟨rfl, rfl⟩
    rfl

/-- The body of a segment: slots are loaded, and the instances that they hold
go on. -/
theorem completes_body_iff (initialized : List Instance)
    (load : ExceptT Error (StateM σ) (List Slot))
    (next : List Slot → StateM σ (List Instance × Option Error))
    (put : List Slot → List Instance → List Instance)
    {result : List Instance} :
    Completes
        (do
          match ← load.run with
          | .error error => pure (initialized, some error)
          | .ok loaded =>
              let (held, error?) ← next loaded
              pure (put loaded held, error?))
        before result after ↔
      ∃ loaded held between,
        Returns load before loaded between ∧
          Completes (next loaded) between held after ∧
          put loaded held = result := by
  simp only [Completes, Returns, StateT.run_bind]
  generalize load.run.run before = ran
  rcases ran with ⟨error | loaded, between⟩
  · constructor
    · intro outcome
      cases outcome
    · rintro ⟨_, _, _, outcome, _⟩
      cases outcome
  · constructor
    · intro outcome
      change
        ((put loaded ((next loaded).run between).1.1,
          ((next loaded).run between).1.2),
          ((next loaded).run between).2) = ((result, none), after) at outcome
      simp only [Prod.mk.injEq] at outcome
      obtain ⟨⟨placed, succeeded⟩, ended⟩ := outcome
      exact ⟨loaded, _, between, rfl,
        Prod.ext (Prod.ext rfl succeeded) ended, placed⟩
    · rintro ⟨_, held, _, outcome, followed, rfl⟩
      cases outcome
      show
        ((put loaded ((next loaded).run between).1.1,
          ((next loaded).run between).1.2),
          ((next loaded).run between).2) = ((put loaded held, none), after)
      rw [followed]

/-- A segment is loaded when the slots of the working set are given their join
columns and loaded, and the rest of the path is loaded on what they then
hold. -/
theorem completes_cons_iff {onlyMissing : Bool} {path segment : String}
    {rest : List String} {working result : List Instance} :
    Completes (loadSegments schema executor context onlyMissing path
        (segment :: rest) working) before result after ↔
      (working = [] ∧ result = [] ∧ before = after) ∨
      (working ≠ [] ∧ ∃ initialized loaded held between,
        List.Forall₂ (fun row next =>
          row.initializeNamed schema segment = .ok next)
          working initialized ∧
        Returns
          (loadSlots schema executor context onlyMissing path segment
            (segmentSlots schema segment initialized))
          before loaded between ∧
        Completes (loadSegments schema executor context onlyMissing path rest
          (loaded.flatMap Slot.held)) between held after ∧
        putSlots schema segment initialized (refill loaded held) =
          result) := by
  cases working with
  | nil =>
      constructor
      · intro outcome
        cases outcome
        exact Or.inl ⟨rfl, rfl, rfl⟩
      · rintro (⟨_, rfl, rfl⟩ | ⟨seen, _⟩)
        · rfl
        · exact (seen rfl).elim
  | cons row others =>
      simp only [reduceCtorEq, false_and, false_or, ne_eq, not_false_eq_true,
        true_and, ← initializeSegment_eq_iff]
      rw [loadSegments, if_neg (by simp)]
      rcases initializeSegment schema segment (row :: others) with
        ⟨initialized, none | error⟩
      · refine Iff.trans
          (completes_body_iff initialized
            (loadSlots schema executor context onlyMissing path segment
              (segmentSlots schema segment initialized))
            (fun loaded =>
              loadSegments schema executor context onlyMissing path rest
                (loaded.flatMap Slot.held))
            (fun loaded held =>
              putSlots schema segment initialized (refill loaded held))) ?_
        constructor
        · rintro ⟨loaded, held, between, steps⟩
          exact ⟨initialized, loaded, held, between, rfl, steps⟩
        · rintro ⟨_, loaded, held, between, ⟨⟩, steps⟩
          exact ⟨loaded, held, between, steps⟩
      · constructor
        · intro outcome
          cases outcome
        · rintro ⟨_, _, _, _, outcome, _⟩
          cases outcome

theorem completes_loadPath_iff {onlyMissing : Bool} {path : String}
    {working result : List Instance} :
    Completes (loadPath schema executor context onlyMissing path working)
        before result after ↔
      ∃ segments,
        pathSegments path = .ok segments ∧
          Completes
            (loadSegments schema executor context onlyMissing path segments
              working) before result after := by
  unfold loadPath
  cases pathSegments path with
  | error error =>
      constructor
      · intro outcome
        cases outcome
      · rintro ⟨_, absurdSegments, _⟩
        cases absurdSegments
  | ok segments => simp

/-! ## Slots put back -/

theorem forall₂_segmentSlots_iff {segment : String} {rows : List Instance}
    {slots : List Slot} :
    List.Forall₂ (fun row slot => row.slot? schema segment = some slot)
        rows slots ↔
      (∀ row ∈ rows, ∃ slot, row.slot? schema segment = some slot) ∧
        segmentSlots schema segment rows = slots := by
  induction rows generalizing slots with
  | nil =>
      rw [List.forall₂_nil_left_iff]
      constructor
      · rintro rfl
        exact ⟨fun _ member => (List.not_mem_nil member).elim, rfl⟩
      · rintro ⟨_, rfl⟩
        rfl
  | cons row rest inductionHypothesis =>
      rw [List.forall₂_cons_left_iff, List.forall_mem_cons]
      cases found : row.slot? schema segment with
      | none => simp
      | some slot =>
          have first :
              segmentSlots schema segment (row :: rest) =
                slot :: segmentSlots schema segment rest := by
            simp [segmentSlots, found]
          rw [first]
          constructor
          · rintro ⟨_, later, ⟨⟩, tail, rfl⟩
            obtain ⟨others, rfl⟩ := inductionHypothesis.mp tail
            exact ⟨⟨⟨slot, rfl⟩, others⟩, rfl⟩
          · rintro ⟨⟨_, others⟩, rfl⟩
            exact ⟨slot, _, rfl,
              inductionHypothesis.mpr ⟨others, rfl⟩, rfl⟩

/-- What all slots hold, changed entry by entry and put back, is for each slot
what it held, changed. -/
theorem forall₂_refill {changed : Instance → Instance → Prop} :
    ∀ {slots : List Slot} {held : List Instance},
      List.Forall₂ changed (slots.flatMap Slot.held) held →
        List.Forall₂ (fun slot next =>
          ∃ own, List.Forall₂ changed slot.held own ∧
            next = { slot with held := own })
          slots (refill slots held)
  | [], _, _ => .nil
  | slot :: rest, held, allChanged => by
      rw [List.flatMap_cons] at allChanged
      have own := List.forall₂_take slot.held.length allChanged
      have later := List.forall₂_drop slot.held.length allChanged
      rw [List.take_left] at own
      rw [List.drop_left] at later
      exact .cons ⟨_, own, rfl⟩ (forall₂_refill later)

/-- Conversely slots whose held instances were changed are the given ones,
refilled with all that they hold. -/
theorem refill_flatMap {changed : Instance → Instance → Prop} :
    ∀ {slots nexts : List Slot},
      List.Forall₂ (fun slot next =>
          ∃ own, List.Forall₂ changed slot.held own ∧
            next = { slot with held := own })
          slots nexts →
        refill slots (nexts.flatMap Slot.held) = nexts ∧
          List.Forall₂ changed (slots.flatMap Slot.held)
            (nexts.flatMap Slot.held)
  | [], [], .nil => ⟨rfl, .nil⟩
  | slot :: rest, _ :: later, .cons ⟨own, ownChanged, rfl⟩ tail => by
      obtain ⟨refilled, allChanged⟩ := refill_flatMap tail
      have sameLength := ownChanged.length_eq
      constructor
      · rw [List.flatMap_cons, refill, sameLength, List.take_left,
          List.drop_left, refilled]
      · rw [List.flatMap_cons, List.flatMap_cons]
        exact List.rel_append ownChanged allChanged

/-! ## Instances with a path loaded -/

/-- What loading a path makes of an instance.  The slot of the first segment is
given its join columns and loaded with the instances that are found for it, on
which the rest of the path is loaded. -/
def LoadedAs (schema : Schema) (finds : Slot → List Instance → Prop) :
    List String → Instance → Instance → Prop
  | [] => Eq
  | segment :: rest => fun owner result =>
      ∃ initialized slot found held,
        owner.initializeNamed schema segment = .ok initialized ∧
          initialized.slot? schema segment = some slot ∧
          finds slot found ∧
          List.Forall₂ (LoadedAs schema finds rest) found held ∧
          result =
            initialized.setSlot schema segment
              { slot with loaded := true, held }

def Slot.FilledBy (finds : Slot → List Instance → Prop)
    (slot next : Slot) : Prop :=
  ∃ found, finds slot found ∧ next = { slot with loaded := true, held := found }

theorem exists_slot?_of_initializeNamed {segment : String}
    {owner initialized : Instance}
    (done : owner.initializeNamed schema segment = .ok initialized) :
    ∃ slot, initialized.slot? schema segment = some slot := by
  obtain ⟨_, _, _, slot, _, _, _, found, rfl⟩ :=
    Instance.initializeNamed_eq_ok_iff.mp done
  exact ⟨_, Instance.slot?_setSlot_self _ found⟩

theorem exists_slot?_of_prepared {segment : String}
    {working initialized : List Instance}
    (prepared :
      List.Forall₂ (fun row next =>
        row.initializeNamed schema segment = .ok next)
        working initialized) :
    ∀ row ∈ initialized, ∃ slot, row.slot? schema segment = some slot := by
  intro row member
  obtain ⟨owner, _, done⟩ := exists_left_of_forall₂ prepared member
  exact exists_slot?_of_initializeNamed done

/-- The same in steps, each of which leads from one thing to the next: to the
instance with its join columns, to its slot, to the slot as it is filled, and
to the slot with the rest of the path loaded on what it holds. -/
theorem loadedAs_cons_iff {finds : Slot → List Instance → Prop}
    {segment : String} {rest : List String} {owner result : Instance} :
    LoadedAs schema finds (segment :: rest) owner result ↔
      ∃ row, owner.initializeNamed schema segment = .ok row ∧
        ∃ next, (∃ slot, row.slot? schema segment = some slot ∧
          ∃ filled, Slot.FilledBy finds slot filled ∧
            ∃ own, List.Forall₂ (LoadedAs schema finds rest)
              filled.held own ∧ next = { filled with held := own }) ∧
          result = row.setSlot schema segment next := by
  constructor
  · rintro ⟨row, slot, found, own, done, slotted, finding, changed, rfl⟩
    exact ⟨row, done, _, ⟨slot, slotted, _, ⟨found, finding, rfl⟩, own,
      changed, rfl⟩, rfl⟩
  · rintro ⟨row, done, _, ⟨slot, slotted, _, ⟨found, finding, rfl⟩, own,
      changed, rfl⟩, rfl⟩
    exact ⟨row, slot, found, own, done, slotted, finding, changed, rfl⟩

/-- A segment is loaded on each instance alone exactly when it is loaded on the
slots of all of them at once and the rest of the path on all that these
hold. -/
theorem forall₂_loadedAs_cons_iff {finds : Slot → List Instance → Prop}
    {segment : String} {rest : List String}
    {working result : List Instance} :
    List.Forall₂ (LoadedAs schema finds (segment :: rest)) working result ↔
      ∃ initialized loaded held,
        List.Forall₂ (fun row next =>
          row.initializeNamed schema segment = .ok next)
          working initialized ∧
        List.Forall₂ (Slot.FilledBy finds)
          (segmentSlots schema segment initialized) loaded ∧
        List.Forall₂ (LoadedAs schema finds rest)
          (loaded.flatMap Slot.held) held ∧
        putSlots schema segment initialized (refill loaded held) =
          result := by
  constructor
  · intro allLoaded
    have stepwise :=
      List.Forall₂.imp (fun _ _ => loadedAs_cons_iff.mp) allLoaded
    obtain ⟨initialized, prepared, placed⟩ :=
      forall₂_exists_between_iff.mp stepwise
    obtain ⟨nexts, refilled, same⟩ :=
      (forall₂_zipWith_iff fun (row : Instance) (slot : Slot) =>
        row.setSlot schema segment slot).mp placed
    obtain ⟨slots, slotted, filledThenChanged⟩ :=
      forall₂_exists_between_iff.mp refilled
    obtain ⟨loaded, filled, changed⟩ :=
      forall₂_exists_between_iff.mp filledThenChanged
    obtain ⟨_, rfl⟩ := forall₂_segmentSlots_iff.mp slotted
    obtain ⟨restored, allChanged⟩ := refill_flatMap changed
    refine ⟨initialized, loaded, nexts.flatMap Slot.held, prepared, filled,
      allChanged, ?_⟩
    rw [restored]
    exact same.symm
  · rintro ⟨initialized, loaded, held, prepared, filled, changed, rfl⟩
    have slotted :
        List.Forall₂ (fun row slot => row.slot? schema segment = some slot)
          initialized (segmentSlots schema segment initialized) := by
      exact forall₂_segmentSlots_iff.mpr
        ⟨exists_slot?_of_prepared prepared, rfl⟩
    have placed :=
      (forall₂_zipWith_iff fun (row : Instance) (slot : Slot) =>
        row.setSlot schema segment slot).mpr
        ⟨_, forall₂_exists_between_iff.mpr ⟨_, slotted,
          forall₂_exists_between_iff.mpr
            ⟨_, filled, forall₂_refill changed⟩⟩, rfl⟩
    exact List.Forall₂.imp (fun _ _ => loadedAs_cons_iff.mpr)
      (forall₂_exists_between_iff.mpr ⟨_, prepared, placed⟩)

/-! ## Slots that are loaded already -/

/-- What is found for a slot when only some slots are loaded: a pending slot is
given what a batch finds for it, any other keeps what it holds. -/
def Slot.FindsOrKeeps (onlyMissing : Bool)
    (finds : Slot → List Instance → Prop)
    (slot : Slot) (found : List Instance) : Prop :=
  if isPending onlyMissing slot then finds slot found else found = slot.held

theorem Slot.findsOrKeeps_false (finds : Slot → List Instance → Prop) :
    Slot.FindsOrKeeps false finds = finds := by
  funext slot found
  simp [FindsOrKeeps, isPending]

theorem Slot.loaded_of_not_isPending {onlyMissing : Bool} {slot : Slot}
    (kept : ¬isPending onlyMissing slot = true) :
    slot.loaded = true := by
  have both : onlyMissing = true ∧ slot.loaded = true := by
    simpa [isPending] using kept
  exact both.2

theorem Slot.filledBy_of_not_isPending {onlyMissing : Bool}
    (finds : Slot → List Instance → Prop) {slot : Slot}
    (kept : ¬isPending onlyMissing slot = true) :
    Slot.FilledBy (Slot.FindsOrKeeps onlyMissing finds) slot slot := by
  refine ⟨slot.held, ?_, ?_⟩
  · rw [FindsOrKeeps, if_neg kept]
  · have loaded := loaded_of_not_isPending kept
    cases slot
    subst loaded
    rfl

/-- The slots of a batch go back to the places of the pending ones, and the
others stay. -/
theorem forall₂_mergeBatch {onlyMissing : Bool}
    {finds : Slot → List Instance → Prop} :
    ∀ {slots batch : List Slot},
      List.Forall₂ (Slot.FilledBy finds)
          (slots.filter (isPending onlyMissing)) batch →
        List.Forall₂
          (Slot.FilledBy (Slot.FindsOrKeeps onlyMissing finds))
          slots (mergeBatch onlyMissing slots batch)
  | [], _, _ => .nil
  | slot :: rest, batch, filled => by
      unfold mergeBatch
      by_cases pending : isPending onlyMissing slot = true
      · rw [List.filter_cons_of_pos pending] at filled
        rw [if_pos pending]
        cases filled with
        | cons first later =>
            obtain ⟨found, finding, rfl⟩ := first
            refine .cons ⟨found, ?_, rfl⟩ (forall₂_mergeBatch later)
            rw [Slot.FindsOrKeeps, if_pos pending]
            exact finding
      · rw [List.filter_cons_of_neg pending] at filled
        rw [if_neg pending]
        exact .cons (Slot.filledBy_of_not_isPending finds pending)
          (forall₂_mergeBatch filled)

theorem forall₂_filledBy_of_loadSlots {onlyMissing : Bool}
    {finds : Slot → List Instance → Prop}
    (batchFinds : ∀ {first : Slot} {batch loaded : List Slot} {before after : σ},
      Returns (loadBatch schema executor context first batch)
        before loaded after →
      List.Forall₂ (Slot.FilledBy finds) batch loaded)
    {path segment : String} {slots loaded : List Slot}
    (ran :
      Returns
        (loadSlots schema executor context onlyMissing path segment slots)
        before loaded after) :
    List.Forall₂ (Slot.FilledBy (Slot.FindsOrKeeps onlyMissing finds))
      slots loaded := by
  rcases returns_loadSlots_iff.mp ran with
    ⟨nothing, rfl, _⟩ | ⟨first, others, batch, pending, batchRan, rfl⟩
  · rw [List.forall₂_same]
    intro slot member
    exact Slot.filledBy_of_not_isPending finds
      (List.filter_eq_nil_iff.mp nothing slot member)
  · refine forall₂_mergeBatch ?_
    rw [pending]
    exact batchFinds batchRan

/-- Loading does to every instance of the working set what is said of it alone,
for any `finds` that batches satisfy. -/
theorem loadedAs_findsOrKeeps_of_completes {onlyMissing : Bool}
    {finds : Slot → List Instance → Prop}
    (batchFinds : ∀ {first : Slot} {batch loaded : List Slot} {before after : σ},
      Returns (loadBatch schema executor context first batch)
        before loaded after →
      List.Forall₂ (Slot.FilledBy finds) batch loaded)
    {path : String} (segments : List String) :
    ∀ {working result : List Instance} {before after : σ},
      Completes (loadSegments schema executor context onlyMissing path
        segments working) before result after →
      List.Forall₂
        (LoadedAs schema (Slot.FindsOrKeeps onlyMissing finds) segments)
        working result := by
  induction segments with
  | nil =>
      intro working result before after completed
      obtain ⟨rfl, _⟩ := completes_nil_iff.mp completed
      exact List.forall₂_same.mpr fun row _ => rfl
  | cons segment rest inductionHypothesis =>
      intro working result before after completed
      rcases completes_cons_iff.mp completed with
        ⟨rfl, rfl, _⟩ | ⟨_, initialized, loaded, held, between, prepared,
          slotsLoaded, restCompleted, same⟩
      · exact .nil
      · exact forall₂_loadedAs_cons_iff.mpr
          ⟨initialized, loaded, held, prepared,
            forall₂_filledBy_of_loadSlots batchFinds slotsLoaded,
            inductionHypothesis restCompleted, same⟩

/-- Without regard to what is loaded, every slot is given what is found for
it. -/
theorem loadedAs_of_completes {finds : Slot → List Instance → Prop}
    (batchFinds : ∀ {first : Slot} {batch loaded : List Slot} {before after : σ},
      Returns (loadBatch schema executor context first batch)
        before loaded after →
      List.Forall₂ (Slot.FilledBy finds) batch loaded)
    {path : String} (segments : List String)
    {working result : List Instance} {before after : σ}
    (completed :
      Completes (loadSegments schema executor context false path segments
        working) before result after) :
    List.Forall₂ (LoadedAs schema finds segments) working result := by
  have loaded :=
    loadedAs_findsOrKeeps_of_completes batchFinds segments completed
  rw [Slot.findsOrKeeps_false] at loaded
  exact loaded

/-! ## What batches find is fresh -/

theorem isFresh_of_mem_all {related : Nat} {keys : RelationKeys}
    {values : List Value} {index : RelatedIndex Instance}
    (fetched :
      Returns (fetchIndex schema executor context related keys values)
        before index after)
    {value : Value} {row : Instance} (member : row ∈ index.all value) :
    row.IsFresh := by
  rcases returns_fetchIndex_iff.mp fetched with
    ⟨_, rfl, _⟩ | ⟨_, found, ran, built⟩
  · have nothing : ({} : RelatedIndex Instance).all value = [] := by
      unfold RelatedIndex.all
      cases value.indexKey <;> rfl
    rw [nothing] at member
    cases member
  · rw [RelatedIndex.all_build built] at member
    obtain ⟨_, rows, _, _, read⟩ := ModelQuery.returns_fetch_iff.mp ran
    obtain ⟨_, _, reads⟩ :=
      exists_left_of_forall₂ read (List.mem_of_mem_filter member)
    exact reads.isFresh

theorem batch_finds_fresh {first : Slot} {batch loaded : List Slot}
    (ran :
      Returns (loadBatch schema executor context first batch)
        before loaded after) :
    List.Forall₂
      (Slot.FilledBy fun _ found => ∀ row ∈ found, row.IsFresh)
      batch loaded := by
  obtain ⟨keys, index, between, _, fetched, _, rfl⟩ :=
    returns_loadBatch_iff.mp ran
  rw [List.forall₂_map_right_iff, List.forall₂_same]
  intro slot _
  refine ⟨Slot.keep slot.kind (index.all slot.parentValue), ?_, rfl⟩
  intro row member
  exact isFresh_of_mem_all fetched (Slot.mem_of_mem_keep member)

end RecordQuery
