import RecordQuery.Proofs.Loading.Segments

/-!
# Following a path

What is reached from instances by following the segments of a path, and how far
a path is loaded.  Where instances were fetched for a path and the path loaded
on them, they hold nothing beside it: a step that the path does not take starts
at slots that are not loaded, if it starts anywhere.
-/

namespace RecordQuery

variable {schema : Schema}

def Instance.heldIn (schema : Schema) (segment : String) (owner : Instance) :
    List Instance :=
  match owner.slot? schema segment with
  | some slot => slot.held
  | none => []

def Instance.HasLoaded (schema : Schema) (segment : String)
    (owner : Instance) : Prop :=
  ∃ slot, owner.slot? schema segment = some slot ∧ slot.loaded = true

def reached (schema : Schema) : List String → List Instance → List Instance
  | [], owners => owners
  | segment :: rest, owners =>
      reached schema rest (owners.flatMap (Instance.heldIn schema segment))

/-- Whether every relationship that is reached by following a path, from
whichever instance and however far, is loaded. -/
def LoadedAlong (schema : Schema) (path : List String)
    (owners : List Instance) : Prop :=
  ∀ earlier segment later, path = earlier ++ segment :: later →
    ∀ owner ∈ reached schema earlier owners, owner.HasLoaded schema segment

@[simp]
theorem reached_nil (path : List String) : reached schema path [] = [] := by
  induction path with
  | nil => rfl
  | cons segment rest inductionHypothesis => exact inductionHypothesis

/-! ## Following a segment that was put back -/

theorem flatMap_heldIn (segment : String) (owners : List Instance) :
    owners.flatMap (Instance.heldIn schema segment) =
      (segmentSlots schema segment owners).flatMap Slot.held := by
  induction owners with
  | nil => rfl
  | cons owner rest inductionHypothesis =>
      rw [List.flatMap_cons, inductionHypothesis, Instance.heldIn,
        segmentSlots, segmentSlots]
      cases found : owner.slot? schema segment <;> simp [found]

theorem segmentSlots_putSlots {segment : String} :
    ∀ {rows : List Instance} {slots : List Slot},
      (∀ row ∈ rows, ∃ slot, row.slot? schema segment = some slot) →
      slots.length = rows.length →
        segmentSlots schema segment (putSlots schema segment rows slots) =
          slots
  | [], [], _, _ => rfl
  | row :: rows, slot :: slots, slotted, sameLength => by
      obtain ⟨⟨old, found⟩, others⟩ := List.forall_mem_cons.mp slotted
      have later : slots.length = rows.length := by simpa using sameLength
      have first := Instance.slot?_setSlot_self slot found
      have rest := segmentSlots_putSlots others later
      rw [segmentSlots, putSlots] at rest ⊢
      simp only [List.zipWith_cons_cons, List.filterMap_cons, first, rest]

theorem flatMap_held_refill :
    ∀ {slots : List Slot} {held : List Instance},
      held.length = (slots.flatMap Slot.held).length →
        (refill slots held).flatMap Slot.held = held
  | [], held, sameLength => by
      have nothing : held = [] := by simpa using sameLength
      rw [nothing]
      rfl
  | slot :: rest, held, sameLength => by
      rw [List.flatMap_cons, List.length_append] at sameLength
      have later :
          (held.drop slot.held.length).length =
            (rest.flatMap Slot.held).length := by
        rw [List.length_drop]
        omega
      rw [refill, List.flatMap_cons, flatMap_held_refill later]
      exact List.take_append_drop slot.held.length held

theorem length_refill :
    ∀ (slots : List Slot) (held : List Instance),
      (refill slots held).length = slots.length
  | [], _ => rfl
  | slot :: rest, held => by
      rw [refill, List.length_cons, List.length_cons, length_refill rest]

/-- Following a segment whose slots were loaded and put back leads to what they
were refilled with. -/
theorem reached_putSlots_refill {segment : String} {path : List String}
    {working initialized held : List Instance} {loaded : List Slot}
    (prepared :
      List.Forall₂ (fun row next =>
        row.initializeNamed schema segment = .ok next)
        working initialized)
    (sameSlots :
      loaded.length = (segmentSlots schema segment initialized).length)
    (sameHeld : held.length = (loaded.flatMap Slot.held).length) :
    reached schema (segment :: path)
        (putSlots schema segment initialized (refill loaded held)) =
      reached schema path held := by
  have slotted := exists_slot?_of_prepared prepared
  have eachSlot := (forall₂_segmentSlots_iff.mpr ⟨slotted, rfl⟩).length_eq
  rw [reached, flatMap_heldIn, segmentSlots_putSlots slotted,
    flatMap_held_refill sameHeld]
  rw [length_refill, sameSlots, eachSlot]

/-! ## Paths that are loaded on what was fetched for them -/

/-- Whether an instance has exactly the slots along a path loaded. -/
def LoadedOnly (schema : Schema) : List String → Instance → Prop
  | [] => Instance.IsFresh
  | segment :: rest => fun owner =>
      (∃ slot, owner.slot? schema segment = some slot ∧
        slot.loaded = true ∧
        ∀ next ∈ slot.held, LoadedOnly schema rest next) ∧
      ∀ other slot, other ≠ segment →
        owner.slot? schema other = some slot → slot.IsBlank

/-- Whether the slot of a segment is loaded with instances on which exactly the
rest of a path is. -/
def LoadedUnder (schema : Schema) (segment : String) (rest : List String)
    (owner : Instance) : Prop :=
  ∃ slot, owner.slot? schema segment = some slot ∧ slot.loaded = true ∧
    ∀ next ∈ slot.held, LoadedOnly schema rest next

theorem LoadedUnder.hasLoaded {segment : String} {rest : List String}
    {owner : Instance} (under : LoadedUnder schema segment rest owner) :
    owner.HasLoaded schema segment := by
  obtain ⟨slot, found, loaded, _⟩ := under
  exact ⟨slot, found, loaded⟩

theorem loadedOnly_of_mem_heldIn {segment : String} {rest : List String}
    {owners : List Instance}
    (under : ∀ owner ∈ owners, LoadedUnder schema segment rest owner) :
    ∀ next ∈ owners.flatMap (Instance.heldIn schema segment),
      LoadedOnly schema rest next := by
  intro next member
  obtain ⟨owner, ownerMember, held⟩ := List.mem_flatMap.mp member
  obtain ⟨slot, found, _, allOnly⟩ := under owner ownerMember
  rw [Instance.heldIn, found] at held
  exact allOnly next held

theorem loadedUnder_of_loadedAs {segment : String} {rest : List String}
    (restOnly : ∀ {owner result : Instance}, owner.IsFresh →
      LoadedAs schema (fun _ found => ∀ next ∈ found, next.IsFresh)
        rest owner result →
      LoadedOnly schema rest result)
    {owner result : Instance}
    (loaded :
      LoadedAs schema (fun _ found => ∀ next ∈ found, next.IsFresh)
        (segment :: rest) owner result) :
    LoadedUnder schema segment rest result := by
  obtain ⟨initialized, slot, found, held, _, slotted, allFresh, changed,
    rfl⟩ := loaded
  refine ⟨_, Instance.slot?_setSlot_self _ slotted, rfl, ?_⟩
  intro next member
  obtain ⟨earlier, earlierMember, nextLoaded⟩ :=
    exists_left_of_forall₂ changed member
  exact restOnly (allFresh earlier earlierMember) nextLoaded

/-- Loading a path on a fresh instance, with fresh ones found for it, loads
that path and no other slot. -/
theorem loadedOnly_of_loadedAs (path : List String) :
    ∀ {owner result : Instance},
      owner.IsFresh →
        LoadedAs schema (fun _ found => ∀ next ∈ found, next.IsFresh)
          path owner result →
        LoadedOnly schema path result := by
  induction path with
  | nil =>
      rintro owner result fresh rfl
      exact fresh
  | cons segment rest inductionHypothesis =>
      intro owner result fresh loaded
      refine ⟨loadedUnder_of_loadedAs inductionHypothesis loaded, ?_⟩
      obtain ⟨initialized, slot, found, held, done, _, _, _, rfl⟩ := loaded
      obtain ⟨_, _, _, _, _, _, _, _, rfl⟩ :=
        Instance.initializeNamed_eq_ok_iff.mp done
      intro other otherSlot apart otherFound
      rw [Instance.slot?_setSlot_of_ne _ apart,
        Instance.slot?_setSlot_of_ne _ apart] at otherFound
      exact fresh otherSlot (Instance.mem_slots_of_slot? otherFound)

theorem LoadedOnly.heldIn_of_ne {path : List String} {owner : Instance}
    {segment : String} (only : LoadedOnly schema path owner)
    (elsewhere : path.head? ≠ some segment) :
    ∀ slot, owner.slot? schema segment = some slot → slot.IsBlank := by
  intro slot found
  cases path with
  | nil => exact only slot (Instance.mem_slots_of_slot? found)
  | cons first rest =>
      refine only.2 segment slot ?_ found
      rintro rfl
      exact elsewhere rfl

theorem LoadedOnly.heldIn_eq_nil {path : List String} {owner : Instance}
    {segment : String} (only : LoadedOnly schema path owner)
    (elsewhere : path.head? ≠ some segment) :
    owner.heldIn schema segment = [] := by
  unfold Instance.heldIn
  cases found : owner.slot? schema segment with
  | none => rfl
  | some slot => exact (only.heldIn_of_ne elsewhere slot found).2

theorem LoadedOnly.not_hasLoaded {path : List String} {owner : Instance}
    {segment : String} (only : LoadedOnly schema path owner)
    (elsewhere : path.head? ≠ some segment) :
    ¬owner.HasLoaded schema segment := by
  rintro ⟨slot, found, loaded⟩
  rw [(only.heldIn_of_ne elsewhere slot found).1] at loaded
  cases loaded

/-- A step is loaded wherever it starts when the loaded path takes it too, and
otherwise only when it starts nowhere. -/
theorem hasLoaded_reached_iff {segment : String} (earlier : List String) :
    ∀ {path : List String} {owners : List Instance},
      (∀ owner ∈ owners, LoadedOnly schema path owner) →
        ((∀ owner ∈ reached schema earlier owners,
            owner.HasLoaded schema segment) ↔
          earlier ++ [segment] <+: path ∨
            reached schema earlier owners = []) := by
  induction earlier with
  | nil =>
      intro path owners only
      rw [List.nil_append, reached]
      by_cases taken : path.head? = some segment
      · obtain ⟨rest, rfl⟩ := List.head?_eq_some_iff.mp taken
        refine iff_of_true ?_ (Or.inl ⟨rest, rfl⟩)
        intro owner member
        exact LoadedUnder.hasLoaded (only owner member).1
      · have untaken : ¬[segment] <+: path := by
          rintro ⟨rest, rfl⟩
          exact taken rfl
        rw [or_iff_right untaken, List.eq_nil_iff_forall_not_mem]
        exact forall₂_congr fun owner member =>
          iff_false_intro ((only owner member).not_hasLoaded taken)
  | cons first others inductionHypothesis =>
      intro path owners only
      rw [reached]
      -- Either both take the first step, or nothing is held where it leads.
      by_cases taken : path.head? = some first
      · obtain ⟨rest, rfl⟩ := List.head?_eq_some_iff.mp taken
        have heldOnly :=
          loadedOnly_of_mem_heldIn fun owner member => (only owner member).1
        rw [inductionHypothesis heldOnly, List.cons_append,
          List.cons_prefix_cons]
        simp
      · have nowhere :
            owners.flatMap (Instance.heldIn schema first) = [] := by
          rw [List.flatMap_eq_nil_iff]
          intro owner member
          exact (only owner member).heldIn_eq_nil taken
        rw [nowhere, reached_nil]
        exact iff_of_true (fun owner member => by cases member)
          (Or.inr rfl)

end RecordQuery
