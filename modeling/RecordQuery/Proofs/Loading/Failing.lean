import RecordQuery.Proofs.Instance.Staleness
import RecordQuery.Proofs.Loading.History

/-!
# What a failed load leaves

A load that fails has loaded the segments before the one at which it fails, as
loading them alone would have.  Of that segment and what comes behind it
nothing is loaded: in the instances that the path leads to, the slot of the
segment is as it was, or was dropped because it had gone stale.
-/

namespace RecordQuery

variable {σ : Type} {schema : Schema} {executor : Executor σ}
variable {context : Context} {before : σ}

/-- Loading ends with a failure and gives the instances back as they are by
then. -/
def Stops (action : StateM σ (List Instance × Option Error))
    (before : σ) (result : List Instance) (error : Error) : Prop :=
  ∃ after, action.run before = ((result, some error), after)

/-! ## Where loading stops -/

theorem not_stops_nil {onlyMissing : Bool} {path : String}
    {working result : List Instance} {error : Error} :
    ¬Stops (loadSegments schema executor context onlyMissing path []
      working) before result error := by
  rintro ⟨after, outcome⟩
  cases outcome

/-- The body of a segment fails where its slots are loaded, or later on the
path. -/
theorem stops_body_iff (initialized : List Instance)
    (load : ExceptT Error (StateM σ) (List Slot))
    (next : List Slot → StateM σ (List Instance × Option Error))
    (put : List Slot → List Instance → List Instance)
    {result : List Instance} {error : Error} :
    Stops
        (do
          match ← load.run with
          | .error error => pure (initialized, some error)
          | .ok loaded =>
              let (held, error?) ← next loaded
              pure (put loaded held, error?))
        before result error ↔
      (Fails load before error ∧ initialized = result) ∨
        ∃ loaded held between,
          Returns load before loaded between ∧
            Stops (next loaded) between held error ∧
            put loaded held = result := by
  simp only [Stops, Fails, Returns, StateT.run_bind]
  generalize load.run.run before = ran
  rcases ran with ⟨cause | loaded, between⟩
  · constructor
    · rintro ⟨after, outcome⟩
      cases outcome
      exact Or.inl ⟨⟨between, rfl⟩, rfl⟩
    · rintro (⟨⟨after, outcome⟩, rfl⟩ | ⟨_, _, _, outcome, _⟩)
      · cases outcome
        exact ⟨between, rfl⟩
      · cases outcome
  · constructor
    · rintro ⟨after, outcome⟩
      change
        ((put loaded ((next loaded).run between).1.1,
          ((next loaded).run between).1.2),
          ((next loaded).run between).2) =
            ((result, some error), after) at outcome
      simp only [Prod.mk.injEq] at outcome
      obtain ⟨⟨placed, failed⟩, ended⟩ := outcome
      exact Or.inr ⟨loaded, _, between, rfl,
        ⟨after, Prod.ext (Prod.ext rfl failed) ended⟩, placed⟩
    · rintro (⟨⟨_, outcome⟩, _⟩ | ⟨_, held, _, outcome, ⟨after, followed⟩, rfl⟩)
      · cases outcome
      · cases outcome
        refine ⟨after, ?_⟩
        show
          ((put loaded ((next loaded).run between).1.1,
            ((next loaded).run between).1.2),
            ((next loaded).run between).2) =
              ((put loaded held, some error), after)
        rw [followed]

/-- A path fails at its first segment, when a slot cannot be given its join
columns or the slots cannot be loaded, or on what the first segment holds. -/
theorem stops_cons_iff {onlyMissing : Bool} {path segment : String}
    {rest : List String} {working result : List Instance} {error : Error} :
    Stops (loadSegments schema executor context onlyMissing path
        (segment :: rest) working) before result error ↔
      initializeSegment schema segment working = (result, some error) ∨
      ∃ initialized,
        initializeSegment schema segment working = (initialized, none) ∧
        working ≠ [] ∧
        ((Fails
            (loadSlots schema executor context onlyMissing path segment
              (segmentSlots schema segment initialized)) before error ∧
            initialized = result) ∨
          ∃ loaded held between,
            Returns
              (loadSlots schema executor context onlyMissing path segment
                (segmentSlots schema segment initialized))
              before loaded between ∧
            Stops (loadSegments schema executor context onlyMissing path
              rest (loaded.flatMap Slot.held)) between held error ∧
            putSlots schema segment initialized (refill loaded held) =
              result) := by
  cases working with
  | nil =>
      constructor
      · rintro ⟨_, outcome⟩
        cases outcome
      · rintro (outcome | ⟨_, _, seen, _⟩)
        · cases outcome
        · exact (seen rfl).elim
  | cons row others =>
      rw [loadSegments, if_neg (by simp)]
      rcases initializeSegment schema segment (row :: others) with
        ⟨initialized, none | cause⟩
      · refine Iff.trans
          (stops_body_iff initialized
            (loadSlots schema executor context onlyMissing path segment
              (segmentSlots schema segment initialized))
            (fun loaded =>
              loadSegments schema executor context onlyMissing path rest
                (loaded.flatMap Slot.held))
            (fun loaded held =>
              putSlots schema segment initialized (refill loaded held))) ?_
        constructor
        · intro outcomes
          exact Or.inr ⟨initialized, rfl, List.cons_ne_nil _ _, outcomes⟩
        · rintro (outcome | ⟨_, outcome, _, outcomes⟩)
          · cases outcome
          · cases outcome
            exact outcomes
      · constructor
        · rintro ⟨_, outcome⟩
          cases outcome
          exact Or.inl rfl
        · rintro (outcome | ⟨_, outcome, _⟩)
          · cases outcome
            exact ⟨before, rfl⟩
          · cases outcome

theorem stops_loadPath_iff {onlyMissing : Bool} {path : String}
    {working result : List Instance} {error : Error} :
    Stops (loadPath schema executor context onlyMissing path working)
        before result error ↔
      (pathSegments path = .error error ∧ result = working) ∨
        ∃ segments,
          pathSegments path = .ok segments ∧
            Stops
              (loadSegments schema executor context onlyMissing path
                segments working) before result error := by
  unfold loadPath
  cases pathSegments path with
  | error cause =>
      constructor
      · rintro ⟨_, outcome⟩
        cases outcome
        exact Or.inl ⟨rfl, rfl⟩
      · rintro (⟨same, rfl⟩ | ⟨_, absurdSegments, _⟩)
        · cases same
          exact ⟨before, rfl⟩
        · cases absurdSegments
  | ok segments => simp

/-! ## Changes at the end of a path -/

/-- Whether two instances differ only in what a path leads to, where each
instance is changed in this way. -/
def ChangedAt (schema : Schema) (changed : Instance → Instance → Prop) :
    List String → Instance → Instance → Prop
  | [] => changed
  | segment :: rest => fun owner result =>
      ∃ slot held,
        owner.slot? schema segment = some slot ∧
          List.Forall₂ (ChangedAt schema changed rest) slot.held held ∧
          result = owner.setSlot schema segment { slot with held }

/-- What is changed in all that the slots of a segment hold is changed at the
end of the path that starts with the segment. -/
theorem forall₂_changedAt_putSlots {changed : Instance → Instance → Prop}
    {segment : String} {rest : List String} :
    ∀ {rows : List Instance} {slots : List Slot}
        {first second : List Instance},
      (∀ row ∈ rows, ∃ slot, row.slot? schema segment = some slot) →
      List.Forall₂ (ChangedAt schema changed rest) first second →
        List.Forall₂ (ChangedAt schema changed (segment :: rest))
          (putSlots schema segment rows (refill slots first))
          (putSlots schema segment rows (refill slots second))
  | [], _, _, _, _, _ => .nil
  | _ :: _, [], _, _, _, _ => .nil
  | row :: rows, slot :: slots, first, second, slotted, allChanged => by
      obtain ⟨⟨old, found⟩, others⟩ := List.forall_mem_cons.mp slotted
      have own := List.forall₂_take slot.held.length allChanged
      have later := List.forall₂_drop slot.held.length allChanged
      refine .cons
        ⟨_, second.take slot.held.length,
          Instance.slot?_setSlot_self _ found, own, ?_⟩
        (forall₂_changedAt_putSlots others later)
      rw [Instance.setSlot_setSlot]

/-- Whether a slot was given its join columns and key, or was left alone. -/
def Instance.MaybeInitialized (schema : Schema) (segment : String)
    (owner result : Instance) : Prop :=
  result = owner ∨ owner.initializeNamed schema segment = .ok result

theorem forall₂_maybeInitialized (segment : String)
    (working : List Instance) :
    List.Forall₂ (Instance.MaybeInitialized schema segment) working
      (initializeSegment schema segment working).1 := by
  induction working with
  | nil => exact .nil
  | cons row rest inductionHypothesis =>
      rw [initializeSegment]
      cases done : row.initializeNamed schema segment with
      | error error =>
          exact .cons (Or.inl rfl)
            (List.forall₂_same.mpr fun _ _ => Or.inl rfl)
      | ok next => exact .cons (Or.inr done) inductionHypothesis

/-! ## The segment that fails -/

/-- A run that fails splits at a segment: the path up to there is loaded, the
segment fails on what this leads to, and at most its slots are given their join
columns. -/
theorem exists_stage_of_stops {onlyMissing : Bool} {path : String}
    (segments : List String) :
    ∀ {working result : List Instance} {before : σ} {error : Error},
      Stops (loadSegments schema executor context onlyMissing path segments
        working) before result error →
      ∃ earlier segment later middle between,
        segments = earlier ++ segment :: later ∧
          Completes (loadSegments schema executor context onlyMissing path
            earlier working) before middle between ∧
          (∃ left,
            Stops (loadSegments schema executor context onlyMissing path
              [segment] (reached schema earlier middle)) between left
              error) ∧
          List.Forall₂
            (ChangedAt schema (Instance.MaybeInitialized schema segment)
              earlier)
            middle result := by
  induction segments with
  | nil =>
      intro working result before error stopped
      exact (not_stops_nil stopped).elim
  | cons segment rest inductionHypothesis =>
      intro working result before error stopped
      have here :
          ∀ {left : List Instance} {error? : Option Error},
            initializeSegment schema segment working = (left, error?) →
              List.Forall₂
                (ChangedAt schema
                  (Instance.MaybeInitialized schema segment) [])
                working left := by
        intro left error? outcome
        have attempted :
            List.Forall₂ (Instance.MaybeInitialized schema segment) working
              (initializeSegment schema segment working).1 :=
          forall₂_maybeInitialized segment working
        rw [outcome] at attempted
        exact attempted
      rcases stops_cons_iff.mp stopped with
        outcome | ⟨initialized, outcome, seen, failure⟩
      · exact ⟨[], segment, rest, working, before, rfl,
          completes_nil_iff.mpr ⟨rfl, rfl⟩,
          ⟨result, stops_cons_iff.mpr (Or.inl outcome)⟩, here outcome⟩
      rcases failure with
        ⟨failed, rfl⟩ |
          ⟨loaded, held, between, slotsLoaded, restStopped, rfl⟩
      · exact ⟨[], segment, rest, working, before, rfl,
          completes_nil_iff.mpr ⟨rfl, rfl⟩,
          ⟨initialized, stops_cons_iff.mpr (Or.inr
            ⟨initialized, outcome, seen, Or.inl ⟨failed, rfl⟩⟩)⟩,
          here outcome⟩
      · obtain ⟨earlier, last, later, middle, beyond, rfl, completed,
          alone, changed⟩ := inductionHypothesis restStopped
        have prepared := initializeSegment_eq_iff.mp outcome
        have filled :=
          forall₂_filledBy_of_loadSlots batch_finds_fresh slotsLoaded
        have sameHeld :=
          (loadedAs_findsOrKeeps_of_completes batch_finds_fresh earlier
            completed).length_eq
        refine ⟨segment :: earlier, last, later, _, beyond, rfl,
          completes_cons_iff.mpr (Or.inr
            ⟨seen, initialized, loaded, middle, between, prepared,
              slotsLoaded, completed, rfl⟩),
          ?_, forall₂_changedAt_putSlots
            (exists_slot?_of_prepared prepared) changed⟩
        rw [reached_putSlots_refill prepared filled.length_eq.symm
          sameHeld.symm]
        exact alone

/-- What a failed segment leaves of an instance: its slot has the same flag and
holds the same instances, or it was dropped because its join columns or key had
changed since it was loaded.  All else is untouched. -/
def Instance.LeftBy (schema : Schema) (segment : String)
    (owner result : Instance) : Prop :=
  result = owner ∨
    ∃ slot next,
      owner.slot? schema segment = some slot ∧
        result = owner.setSlot schema segment next ∧
        next.role = slot.role ∧
        (next.loaded = slot.loaded ∧ next.held = slot.held ∨
          slot.loaded = true ∧ ¬owner.IsCurrent schema segment slot ∧
            next.loaded = false ∧ next.held = [])

theorem Instance.MaybeInitialized.leftBy {segment : String}
    {owner result : Instance}
    (attempted : owner.MaybeInitialized schema segment result) :
    owner.LeftBy schema segment result := by
  rcases attempted with same | done
  · exact Or.inl same
  obtain ⟨keys, value, slot, own, read, found, rfl⟩ :=
    Instance.initializeNamed_iff.mp done
  refine Or.inr ⟨slot, _, found, rfl, by simp [Slot.role], ?_⟩
  rcases slot.initializeWith_keeps_or_drops keys value with
    ⟨_, kept⟩ | ⟨⟨loaded, apart⟩, dropped⟩
  · rw [kept]
    exact Or.inl ⟨rfl, rfl⟩
  · rw [dropped]
    refine Or.inr ⟨loaded, ?_, rfl, rfl⟩
    intro current
    exact apart (current keys value own read)

theorem ChangedAt.imp {changed weaker : Instance → Instance → Prop}
    (weaken : ∀ owner result, changed owner result → weaker owner result)
    (path : List String) :
    ∀ {owner result : Instance},
      ChangedAt schema changed path owner result →
        ChangedAt schema weaker path owner result := by
  induction path with
  | nil =>
      intro owner result change
      exact weaken owner result change
  | cons segment rest inductionHypothesis =>
      rintro owner result ⟨slot, held, found, allChanged, rfl⟩
      exact ⟨slot, held, found,
        List.Forall₂.imp (fun _ _ => inductionHypothesis) allChanged, rfl⟩

/-! ## Where the instances at the end of a path come from -/

theorem Instance.IsFresh.heldIn_eq_nil {segment : String} {owner : Instance}
    (fresh : owner.IsFresh) :
    owner.heldIn schema segment = [] := by
  unfold heldIn
  cases found : owner.slot? schema segment with
  | none => rfl
  | some slot => exact (fresh slot (mem_slots_of_slot? found)).2

/-- Beside what is reached from given instances, fresh ones lead to fresh ones
only. -/
theorem mem_reached_or_isFresh (path : List String) :
    ∀ {found owners : List Instance},
      (∀ next ∈ found, next ∈ owners ∨ next.IsFresh) →
        ∀ member ∈ reached schema path found,
          member ∈ reached schema path owners ∨ member.IsFresh := by
  induction path with
  | nil =>
      intro found owners origin member
      exact origin member
  | cons segment rest inductionHypothesis =>
      intro found owners origin
      refine inductionHypothesis ?_
      intro next member
      obtain ⟨owner, ownerMember, held⟩ := List.mem_flatMap.mp member
      rcases origin owner ownerMember with before | fresh
      · exact Or.inl (List.mem_flatMap.mpr ⟨owner, before, held⟩)
      · rw [fresh.heldIn_eq_nil] at held
        cases held

/-- What a slot holds after its join columns were given was held before. -/
theorem mem_heldIn_of_initializeNamed {segment : String}
    {owner initialized next : Instance} {slot : Slot}
    (done : owner.initializeNamed schema segment = .ok initialized)
    (found : initialized.slot? schema segment = some slot)
    (member : next ∈ slot.held) :
    next ∈ owner.heldIn schema segment := by
  obtain ⟨keys, value, old, _, _, oldFound, rfl⟩ :=
    Instance.eq_initializeWith_of_initializeNamed done found
  rw [Instance.heldIn, oldFound]
  rcases old.initializeWith_keeps_or_drops keys value with
    ⟨_, kept⟩ | ⟨_, dropped⟩
  · rw [kept] at member
    exact member
  · rw [dropped] at member
    cases member

/-- After a path is loaded, each instance that it leads to was there before, or
was fetched and has nothing loaded. -/
theorem mem_reached_of_loadedAs {onlyMissing : Bool} (path : List String) :
    ∀ {owners results : List Instance},
      List.Forall₂
          (LoadedAs schema
            (Slot.FindsOrKeeps onlyMissing fun _ found =>
              ∀ row ∈ found, row.IsFresh) path)
          owners results →
        ∀ member ∈ reached schema path results,
          member ∈ reached schema path owners ∨ member.IsFresh := by
  induction path with
  | nil =>
      intro owners results allLoaded member
      obtain rfl : owners = results := by
        rw [← List.forall₂_eq_eq_eq]
        exact allLoaded
      exact Or.inl
  | cons segment rest inductionHypothesis =>
      intro owners results allLoaded
      obtain ⟨initialized, loaded, held, prepared, filled, changed, rfl⟩ :=
        forall₂_loadedAs_cons_iff.mp allLoaded
      intro member
      rw [reached_putSlots_refill prepared filled.length_eq.symm
        changed.length_eq.symm]
      intro reachedHeld
      rcases inductionHypothesis changed member reachedHeld with
        before | fresh
      · refine mem_reached_or_isFresh rest ?_ member before
        intro next nextMember
        obtain ⟨filledSlot, slotMember, nextHeld⟩ :=
          List.mem_flatMap.mp nextMember
        obtain ⟨slot, slotAt, found, finds, rfl⟩ :=
          exists_left_of_forall₂ filled slotMember
        unfold Slot.FindsOrKeeps at finds
        split at finds
        · exact Or.inr (finds next nextHeld)
        · obtain ⟨row, rowMember, slotFound⟩ := List.mem_filterMap.mp slotAt
          obtain ⟨owner, ownerMember, done⟩ :=
            exists_left_of_forall₂ prepared rowMember
          refine Or.inl (List.mem_flatMap.mpr ⟨owner, ownerMember, ?_⟩)
          have inSlot : next ∈ slot.held := finds ▸ nextHeld
          exact mem_heldIn_of_initializeNamed done slotFound inSlot
      · exact Or.inr fresh

/-- A load that fails has loaded its path up to some segment, at which it fails
as loading that segment alone would.  The instances that the path leads to
there were there before, or were fetched and have nothing loaded; of them, the
slot of the segment is left as it was unless it had gone stale and was dropped,
and the rest of the run changes nothing else. -/
theorem loadPath_failure_leaves {onlyMissing : Bool} {path : String}
    {models result : List Instance} {error : Error}
    (stopped :
      Stops (loadPath schema executor context onlyMissing path models)
        before result error) :
    (pathSegments path = .error error ∧ result = models) ∨
      ∃ earlier segment later middle between,
        pathSegments path = .ok (earlier ++ segment :: later) ∧
          Completes (loadSegments schema executor context onlyMissing path
            earlier models) before middle between ∧
          (∃ left,
            Stops (loadSegments schema executor context onlyMissing path
              [segment] (reached schema earlier middle)) between left
              error) ∧
          (∀ member ∈ reached schema earlier middle,
            member ∈ reached schema earlier models ∨ member.IsFresh) ∧
          List.Forall₂
            (ChangedAt schema (Instance.LeftBy schema segment) earlier)
            middle result := by
  rcases stops_loadPath_iff.mp stopped with
    refused | ⟨segments, read, ran⟩
  · exact Or.inl refused
  obtain ⟨earlier, segment, later, middle, between, rfl, completed,
    alone, changed⟩ := exists_stage_of_stops segments ran
  have loaded :=
    loadedAs_findsOrKeeps_of_completes batch_finds_fresh earlier completed
  have left :
      ∀ owner result : Instance,
        owner.MaybeInitialized schema segment result →
          owner.LeftBy schema segment result :=
    fun _ _ attempted => attempted.leftBy
  exact Or.inr ⟨earlier, segment, later, middle, between, read, completed,
    alone, mem_reached_of_loadedAs earlier loaded,
    List.Forall₂.imp (fun _ _ => ChangedAt.imp left earlier) changed⟩

/-! ## A bar that moved to another foo -/

def fooKeys : RelationKeys :=
  ⟨"foo", .belongsTo, "bars", "foo_id", "foos", "id"⟩

def fooAt (id : Int64) (loaded : Bool) (bars : List Instance) : Instance :=
  ⟨0, [.int id], [⟨.hasOne, 1, some barKeys, .int id, loaded, bars⟩]⟩

/-- A bar of the foo `owner`, whose slot was given the key `given`. -/
def barAt (id owner given : Int64) (loaded : Bool)
    (foos : List Instance) : Instance :=
  ⟨1, [.int id, .int owner],
    [⟨.belongsTo, 0, some fooKeys, .int given, loaded, foos⟩]⟩

/-- Two foos: the bar of the first had its own foo loaded before it moved, and
the second has no bar yet. -/
def movedFoos : List Instance :=
  [fooAt 1 true [barAt 10 1 2 true [fooAt 2 false []]], fooAt 3 false []]

def leftFoos : List Instance :=
  [fooAt 1 true [barAt 10 1 1 false []],
    fooAt 3 true [barAt 11 3 3 false []]]

set_option maxRecDepth 8000 in
/-- The bar of the second foo is found, but there is no answer for the foos of
the two bars. -/
theorem stops_movedFoos :
    Stops
      (loadPath pairSchema answersInTurn {} true "bar.foo" movedFoos)
      [[⟨["id", "foo_id"], [.int 11, .int 3]⟩]] leftFoos
      (.load "foo" (.other "no answer left")) :=
  stops_loadPath_iff.mpr
    (Or.inr ⟨["bar", "foo"], by rfl, [], by rfl⟩)

theorem loadPath_failure_leaves_movedFoos :
    Stops
        (loadPath pairSchema answersInTurn {} true "bar.foo" movedFoos)
        [[⟨["id", "foo_id"], [.int 11, .int 3]⟩]] leftFoos
        (.load "foo" (.other "no answer left")) ∧
      ((pathSegments "bar.foo" =
            .error (.load "foo" (.other "no answer left")) ∧
          leftFoos = movedFoos) ∨
        ∃ earlier segment later middle between,
          pathSegments "bar.foo" = .ok (earlier ++ segment :: later) ∧
            Completes (loadSegments pairSchema answersInTurn {} true
              "bar.foo" earlier movedFoos)
              [[⟨["id", "foo_id"], [.int 11, .int 3]⟩]] middle between ∧
            (∃ left,
              Stops (loadSegments pairSchema answersInTurn {} true
                "bar.foo" [segment] (reached pairSchema earlier middle))
                between left (.load "foo" (.other "no answer left"))) ∧
            (∀ member ∈ reached pairSchema earlier middle,
              member ∈ reached pairSchema earlier movedFoos ∨
                member.IsFresh) ∧
            List.Forall₂
              (ChangedAt pairSchema (Instance.LeftBy pairSchema segment)
                earlier)
              middle leftFoos) :=
  ⟨stops_movedFoos, loadPath_failure_leaves stops_movedFoos⟩

end RecordQuery
