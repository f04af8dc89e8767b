import RecordQuery.Proofs.Loading.Reach
import RecordQuery.Proofs.Loading.Table

/-!
# Batches against single instances

What a batch finds for a slot is what the tables have for it, whichever other
slots are in the batch.  A path that is loaded on many instances at once
therefore makes of each what it would make of it alone.
-/

namespace RecordQuery

variable {σ : Type} {schema : Schema} {executor : Executor σ}
variable {context : Context} {table : Nat → List Row} {before after : σ}

/-- Whether instances are what the tables have for a slot. -/
def Slot.Finds (schema : Schema) (context : Context)
    (table : Nat → List Row) (slot : Slot) (found : List Instance) : Prop :=
  ∃ keys rows,
    slot.keys? = some keys ∧
      ReadsMatching schema context table slot.related keys.relatedKey
        slot.parentValue rows ∧
      found = Slot.keep slot.kind rows

theorem Slot.Finds.place_and_slots {slot : Slot} {found : List Instance}
    {row : Instance} (finds : slot.Finds schema context table found)
    (member : row ∈ found) :
    row.place = slot.related ∧ row.HasOwnSlots schema := by
  obtain ⟨keys, rows, _, matching, rfl⟩ := finds
  obtain ⟨_, _, reads⟩ :=
    exists_left_of_forall₂ matching.read (Slot.mem_of_mem_keep member)
  exact ⟨reads.place_and_values.1, reads.hasOwnSlots⟩

/-! ## One batch -/

theorem batch_finds_matching
    (answers : executor.AnswersFrom schema context table)
    {first : Slot} {batch loaded : List Slot}
    (ran :
      Returns (loadBatch schema executor context first batch)
        before loaded after) :
    List.Forall₂ (Slot.FilledBy (Slot.Finds schema context table))
      batch loaded := by
  obtain ⟨keys, index, between, shared, fetched, _, rfl⟩ :=
    returns_loadBatch_iff.mp ran
  obtain ⟨_, alike⟩ := sharedKeys_eq_ok_iff.mp shared
  rw [List.forall₂_map_right_iff, List.forall₂_same]
  intro slot member
  obtain ⟨sameRole, held⟩ := alike slot member
  have sameRelated : slot.related = first.related :=
    congrArg Prod.snd sameRole
  have matching :=
    readsMatching_all answers fetched
      (List.mem_map_of_mem (f := Slot.parentValue) member)
  rw [← sameRelated] at matching
  exact ⟨_, ⟨keys, _, held, matching, rfl⟩, rfl⟩

theorem forall₂_assign_of_filled {first : Slot} {batch loaded : List Slot}
    {keys : RelationKeys} (shared : sharedKeys first batch = .ok keys)
    (filled :
      List.Forall₂ (Slot.FilledBy (Slot.Finds schema context table))
        batch loaded) :
    List.Forall₂ (fun slot next => ∃ rows,
        ReadsMatching schema context table first.related keys.relatedKey
          slot.parentValue rows ∧
        slot.assign rows = next) batch loaded := by
  obtain ⟨_, alike⟩ := sharedKeys_eq_ok_iff.mp shared
  refine List.Forall₂.imp ?_
    ((List.forall₂_and_left batch loaded).mpr ⟨alike, filled⟩)
  rintro slot next
    ⟨⟨sameRole, held⟩, _, ⟨own, rows, ownHeld, matching, rfl⟩, rfl⟩
  obtain rfl : own = keys :=
    Option.some.inj (ownHeld.symm.trans held)
  have sameRelated : slot.related = first.related :=
    congrArg Prod.snd sameRole
  rw [sameRelated] at matching
  exact ⟨rows, matching, rfl⟩

theorem exists_returns_loadBatch
    (answers : executor.AnswersFrom schema context table)
    {first : Slot} {batch loaded : List Slot} {keys : RelationKeys}
    (shared : sharedKeys first batch = .ok keys)
    (declared :
      (schema.model first.related).hasColumn keys.relatedKey = true)
    (filled :
      List.Forall₂ (Slot.FilledBy (Slot.Finds schema context table))
        batch loaded)
    (before : σ) :
    ∃ after,
      Returns (loadBatch schema executor context first batch)
        before loaded after := by
  have assigned := forall₂_assign_of_filled shared filled
  have readable :
      ∀ value ∈ batch.map Slot.parentValue, ∃ rows,
        ReadsMatching schema context table first.related keys.relatedKey
          value rows := by
    intro value member
    obtain ⟨slot, slotMember, rfl⟩ := List.mem_map.mp member
    obtain ⟨_, _, rows, matching, _⟩ :=
      exists_right_of_forall₂ assigned slotMember
    exact ⟨rows, matching⟩
  obtain ⟨index, after, fetched⟩ :=
    exists_returns_fetchIndex answers declared readable before
  refine ⟨_, returns_loadBatch_iff.mpr
    ⟨keys, index, after, shared, fetched, rfl, ?_⟩⟩
  rw [← List.forall₂_eq_eq_eq, List.forall₂_map_left_iff]
  have inBatch : ∀ slot ∈ batch, slot ∈ batch := fun _ member => member
  refine List.Forall₂.imp ?_
    ((List.forall₂_and_left batch loaded).mpr ⟨inBatch, assigned⟩)
  rintro slot next ⟨member, rows, matching, rfl⟩
  have sameRows :=
    (readsMatching_all answers fetched
      (List.mem_map_of_mem member)).unique matching
  rw [sameRows]

/-! ## The slots of a working set -/

/-- A slot that was given its join columns is that of the declared
relationship, with the instance's own key. -/
theorem slot_of_initializeNamed {segment : String}
    {owner initialized : Instance} {slot : Slot}
    (own : owner.HasOwnSlots schema)
    (done : owner.initializeNamed schema segment = .ok initialized)
    (found : initialized.slot? schema segment = some slot) :
    ∃ relation keys,
      (schema.model owner.place).relation? segment = some relation ∧
        relation.resolve schema (schema.model owner.place) = .ok keys ∧
        owner.columnValue? schema keys.parentKey = some slot.parentValue ∧
        slot.role = relation.role ∧
        slot.keys? = some keys := by
  obtain ⟨relation, keys, value, old, declared, resolved, read, oldFound,
    rfl⟩ := Instance.initializeNamed_eq_ok_iff.mp done
  rw [Instance.slot?_setSlot_self _ oldFound] at found
  obtain rfl := Option.some.inj found
  have sameRole := own.role_eq oldFound declared
  refine ⟨relation, keys, declared, resolved, ?_, ?_, ?_⟩
  · rw [read, Slot.initializeWith_parentValue]
  · rw [← sameRole]
    simp [Slot.role]
  · exact Slot.initializeWith_keys? old keys value

/-- The slots of a segment in instances of one model share their join
columns. -/
theorem exists_sharedKeys_segmentSlots {place : Nat} {segment : String}
    {working initialized : List Instance}
    (alike : ∀ row ∈ working, row.place = place ∧ row.HasOwnSlots schema)
    (prepared :
      List.Forall₂ (fun row next =>
        row.initializeNamed schema segment = .ok next) working initialized) :
    segmentSlots schema segment initialized = [] ∨
      ∃ first others keys,
        segmentSlots schema segment initialized = first :: others ∧
          sharedKeys first (first :: others) = .ok keys ∧
          (schema.model first.related).hasColumn keys.relatedKey = true := by
  have describe :
      ∀ slot ∈ segmentSlots schema segment initialized, ∃ relation keys,
        (schema.model place).relation? segment = some relation ∧
          relation.resolve schema (schema.model place) = .ok keys ∧
          slot.role = relation.role ∧ slot.keys? = some keys := by
    intro slot member
    obtain ⟨row, rowMember, found⟩ := List.mem_filterMap.mp member
    obtain ⟨owner, ownerMember, done⟩ :=
      exists_left_of_forall₂ prepared rowMember
    obtain ⟨rfl, own⟩ := alike owner ownerMember
    obtain ⟨relation, keys, declared, resolved, _, described⟩ :=
      slot_of_initializeNamed own done found
    exact ⟨relation, keys, declared, resolved, described⟩
  cases slotList : segmentSlots schema segment initialized with
  | nil => exact Or.inl rfl
  | cons first others =>
      rw [slotList] at describe
      obtain ⟨relation, keys, declared, resolved, firstRole, firstKeys⟩ :=
        describe first List.mem_cons_self
      refine Or.inr ⟨first, others, keys, rfl, ?_, ?_⟩
      · refine sharedKeys_eq_ok_iff.mpr ⟨firstKeys, ?_⟩
        intro slot member
        obtain ⟨other, otherKeys, otherDeclared, otherResolved, role,
          held⟩ := describe slot member
        obtain rfl := Option.some.inj (otherDeclared.symm.trans declared)
        obtain rfl := Except.ok.inj (otherResolved.symm.trans resolved)
        exact ⟨role.trans firstRole.symm, held⟩
      · have sameRelated : first.related = relation.related :=
          congrArg Prod.snd firstRole
        obtain ⟨_, _, _, _, relatedColumn, rfl⟩ :=
          Relation.resolve_eq_ok_iff.mp resolved
        rw [sameRelated]
        exact relatedColumn

/-- What is found for the slots of a segment is of one model again. -/
theorem exists_place_of_filled {place : Nat} {segment : String}
    {working initialized : List Instance} {loaded : List Slot}
    (alike : ∀ row ∈ working, row.place = place ∧ row.HasOwnSlots schema)
    (prepared :
      List.Forall₂ (fun row next =>
        row.initializeNamed schema segment = .ok next) working initialized)
    (filled :
      List.Forall₂ (Slot.FilledBy (Slot.Finds schema context table))
        (segmentSlots schema segment initialized) loaded) :
    ∃ next, ∀ row ∈ loaded.flatMap Slot.held,
      row.place = next ∧ row.HasOwnSlots schema := by
  rcases exists_sharedKeys_segmentSlots alike prepared with
    nothing | ⟨first, others, keys, slotList, shared, _⟩
  · rw [nothing] at filled
    cases filled
    refine ⟨0, ?_⟩
    intro row absurdMember
    cases absurdMember
  · obtain ⟨_, sameKeys⟩ := sharedKeys_eq_ok_iff.mp shared
    refine ⟨first.related, ?_⟩
    intro row member
    obtain ⟨next, nextMember, rowHeld⟩ := List.mem_flatMap.mp member
    rw [slotList] at filled
    obtain ⟨slot, slotMember, found, finds, rfl⟩ :=
      exists_left_of_forall₂ filled nextMember
    obtain ⟨rowPlace, ownSlots⟩ := finds.place_and_slots rowHeld
    have sameRelated : slot.related = first.related :=
      congrArg Prod.snd (sameKeys slot slotMember).1
    exact ⟨rowPlace.trans sameRelated, ownSlots⟩

theorem exists_returns_loadSlots
    (answers : executor.AnswersFrom schema context table) {place : Nat}
    {path segment : String} {working initialized : List Instance}
    {loaded : List Slot}
    (alike : ∀ row ∈ working, row.place = place ∧ row.HasOwnSlots schema)
    (prepared :
      List.Forall₂ (fun row next =>
        row.initializeNamed schema segment = .ok next) working initialized)
    (filled :
      List.Forall₂ (Slot.FilledBy (Slot.Finds schema context table))
        (segmentSlots schema segment initialized) loaded)
    (before : σ) :
    ∃ after,
      Returns
        (loadSlots schema executor context false path segment
          (segmentSlots schema segment initialized))
        before loaded after := by
  rcases exists_sharedKeys_segmentSlots alike prepared with
    nothing | ⟨first, others, keys, slotList, shared, declared⟩
  · rw [nothing] at filled ⊢
    cases filled
    exact ⟨before,
      returns_loadSlots_false_iff.mpr (Or.inl ⟨rfl, rfl, rfl⟩)⟩
  · rw [slotList] at filled ⊢
    obtain ⟨after, ran⟩ :=
      exists_returns_loadBatch answers shared declared filled
        (executor.note
          (loadingEvent path segment (first :: others).length 0) before)
    exact ⟨after, returns_loadSlots_false_iff.mpr
      (Or.inr ⟨first, others, rfl, ran⟩)⟩

/-! ## Whole paths -/

/-- A path loads on instances of one model what can be said of each alone. -/
theorem exists_completes_of_loadedAs
    (answers : executor.AnswersFrom schema context table) {path : String}
    (segments : List String) :
    ∀ {place : Nat} {working result : List Instance},
      (∀ row ∈ working, row.place = place ∧ row.HasOwnSlots schema) →
      List.Forall₂
          (LoadedAs schema (Slot.Finds schema context table) segments)
          working result →
        ∀ before : σ, ∃ after,
          Completes
            (loadSegments schema executor context false path segments
              working) before result after := by
  induction segments with
  | nil =>
      intro place working result _ allLoaded before
      obtain rfl : working = result := by
        rw [← List.forall₂_eq_eq_eq]
        exact allLoaded
      exact ⟨before, completes_nil_iff.mpr ⟨rfl, rfl⟩⟩
  | cons segment rest inductionHypothesis =>
      intro place working result alike allLoaded before
      by_cases nothing : working = []
      · subst nothing
        cases allLoaded
        exact ⟨before, completes_cons_iff.mpr (Or.inl ⟨rfl, rfl, rfl⟩)⟩
      obtain ⟨initialized, loaded, held, prepared, filled, changed, same⟩ :=
        forall₂_loadedAs_cons_iff.mp allLoaded
      -- What the slots hold is of one model again, though of another one.
      obtain ⟨next, nextAlike⟩ :=
        exists_place_of_filled alike prepared filled
      obtain ⟨between, slotsLoaded⟩ :=
        exists_returns_loadSlots answers alike prepared filled before
      obtain ⟨after, restCompleted⟩ :=
        inductionHypothesis nextAlike changed between
      exact ⟨after, completes_cons_iff.mpr (Or.inr
        ⟨nothing, initialized, loaded, held, between, prepared, slotsLoaded,
          restCompleted, same⟩)⟩

theorem sameRow_of_loadedAs {finds : Slot → List Instance → Prop}
    {segments : List String} {owner result : Instance}
    (loaded : LoadedAs schema finds segments owner result) :
    owner.SameRow result := by
  cases segments with
  | nil =>
      obtain rfl : owner = result := loaded
      exact Instance.SameRow.refl owner
  | cons segment rest =>
      obtain ⟨initialized, slot, found, held, done, _, _, _, rfl⟩ := loaded
      obtain ⟨_, _, _, _, _, _, _, _, rfl⟩ :=
        Instance.initializeNamed_eq_ok_iff.mp done
      exact (Instance.sameRow_setSlot owner segment _).trans
        (Instance.sameRow_setSlot _ segment _)

/-! ## What is held -/

/-- Whether the relationship of a segment is loaded on an instance with the
rows of the related table that have the instance's key: all of them, in the
order of the table, or the first. -/
def Instance.HoldsMatches (schema : Schema) (table : Nat → List Row)
    (segment : String) (owner : Instance) : Prop :=
  ∃ relation keys value slot,
    (schema.model owner.place).relation? segment = some relation ∧
      relation.resolve schema (schema.model owner.place) = .ok keys ∧
      owner.columnValue? schema keys.parentKey = some value ∧
      owner.slot? schema segment = some slot ∧
      slot.loaded = true ∧
      List.Forall₂ (fun row held => ∃ read,
          Instance.Reads schema relation.related row read ∧
            read.SameRow held)
        (Slot.keep relation.kind
          (matchingRows schema table relation.related keys.relatedKey value))
        slot.held

theorem forall₂_keep {α β : Type} {related : α → β → Prop}
    {left : List α} {right : List β} (kind : RelationKind)
    (allRelated : List.Forall₂ related left right) :
    List.Forall₂ related (Slot.keep kind left) (Slot.keep kind right) := by
  cases kind with
  | hasMany => exact allRelated
  | hasOne => exact List.forall₂_take 1 allRelated
  | belongsTo => exact List.forall₂_take 1 allRelated

theorem holdsMatches_of_loadedAs {segment : String} {rest : List String}
    {owner result : Instance} (own : owner.HasOwnSlots schema)
    (loaded :
      LoadedAs schema (Slot.Finds schema context table) (segment :: rest)
        owner result) :
    result.HoldsMatches schema table segment := by
  have sameRow := sameRow_of_loadedAs loaded
  obtain ⟨initialized, slot, _, held, done, slotFound,
    ⟨keys, rows, slotKeys, matching, rfl⟩, changed, rfl⟩ := loaded
  obtain ⟨relation, resolvedKeys, declared, resolved, read, role,
    ownKeys⟩ := slot_of_initializeNamed own done slotFound
  obtain rfl : keys = resolvedKeys :=
    Option.some.inj (slotKeys.symm.trans ownKeys)
  have sameKind : slot.kind = relation.kind := congrArg Prod.fst role
  have sameRelated : slot.related = relation.related :=
    congrArg Prod.snd role
  rw [sameRelated] at matching
  rw [sameKind] at changed
  rw [sameRow.1] at declared resolved
  rw [sameRow.columnValue?_eq] at read
  refine ⟨relation, keys, slot.parentValue, _, declared, resolved, read,
    Instance.slot?_setSlot_self _ slotFound, rfl, ?_⟩
  refine forall₂_exists_between_iff.mpr
    ⟨_, forall₂_keep relation.kind matching.read, ?_⟩
  exact List.Forall₂.imp (fun _ _ => sameRow_of_loadedAs) changed

/-- Along a loaded path every instance that is reached has the next segment
loaded with its matches. -/
theorem holdsMatches_of_mem_reached (earlier : List String) :
    ∀ {segment : String} {later : List String} {results : List Instance},
      (∀ result ∈ results, ∃ owner, owner.HasOwnSlots schema ∧
        LoadedAs schema (Slot.Finds schema context table)
          (earlier ++ segment :: later) owner result) →
      ∀ owner ∈ reached schema earlier results,
        owner.HoldsMatches schema table segment := by
  induction earlier with
  | nil =>
      intro segment later results allLoaded result member
      obtain ⟨owner, own, loaded⟩ := allLoaded result member
      exact holdsMatches_of_loadedAs own loaded
  | cons first others inductionHypothesis =>
      intro segment later results allLoaded owner member
      have heldLoaded :
          ∀ next ∈ results.flatMap (Instance.heldIn schema first),
            ∃ owner, owner.HasOwnSlots schema ∧
              LoadedAs schema (Slot.Finds schema context table)
                (others ++ segment :: later) owner next := by
        intro next nextMember
        obtain ⟨result, resultMember, nextHeld⟩ :=
          List.mem_flatMap.mp nextMember
        obtain ⟨_, _, initialized, slot, found, held, _, slotFound, finds,
          changed, rfl⟩ := allLoaded result resultMember
        rw [Instance.heldIn, Instance.slot?_setSlot_self _ slotFound]
          at nextHeld
        obtain ⟨read, readMember, loaded⟩ :=
          exists_left_of_forall₂ changed nextHeld
        exact ⟨read, (finds.place_and_slots readMember).2, loaded⟩
      exact inductionHypothesis heldLoaded owner member

/-- When a path is loaded from fixed tables, whatever is reached by following
a part of it has the next segment loaded with exactly the rows that have its
key, and each of the instances is what loading the path on it alone makes of
it. -/
theorem loadPath_holdsMatches
    (answers : executor.AnswersFrom schema context table) {path : String}
    {models loaded : List Instance}
    (own : ∀ model ∈ models, model.HasOwnSlots schema)
    (completed :
      Completes (loadPath schema executor context false path models)
        before loaded after) :
    ∃ segments,
      pathSegments path = .ok segments ∧
        (∀ earlier segment later,
          segments = earlier ++ segment :: later →
            ∀ owner ∈ reached schema earlier loaded,
              owner.HoldsMatches schema table segment) ∧
        List.Forall₂ (fun model result =>
            model.SameRow result ∧
              ∀ alone : σ, ∃ done,
                Completes
                  (loadPath schema executor context false path [model])
                  alone [result] done)
          models loaded := by
  obtain ⟨segments, read, ran⟩ := completes_loadPath_iff.mp completed
  have allLoaded :=
    loadedAs_of_completes (batch_finds_matching answers) segments ran
  refine ⟨segments, read, ?_, ?_⟩
  · rintro earlier segment later rfl
    have eachLoaded :
        ∀ result ∈ loaded, ∃ model, model.HasOwnSlots schema ∧
          LoadedAs schema (Slot.Finds schema context table)
            (earlier ++ segment :: later) model result := by
      intro result member
      obtain ⟨model, modelMember, modelLoaded⟩ :=
        exists_left_of_forall₂ allLoaded member
      exact ⟨model, own model modelMember, modelLoaded⟩
    exact holdsMatches_of_mem_reached earlier eachLoaded
  · refine List.Forall₂.imp ?_
      ((List.forall₂_and_left models loaded).mpr ⟨own, allLoaded⟩)
    rintro model result ⟨modelOwn, modelLoaded⟩
    refine ⟨sameRow_of_loadedAs modelLoaded, ?_⟩
    intro alone
    have single :
        ∀ row ∈ [model],
          row.place = model.place ∧ row.HasOwnSlots schema := by
      intro row member
      obtain rfl := List.mem_singleton.mp member
      exact ⟨rfl, modelOwn⟩
    obtain ⟨done, aloneRan⟩ :=
      exists_completes_of_loadedAs answers segments single
        (.cons modelLoaded .nil) alone
    exact ⟨done, completes_loadPath_iff.mpr ⟨segments, read, aloneRan⟩⟩

/-! ## Readings of one sensor -/

/-- A model whose instances relate to those of the same sensor. -/
def readingSchema : Schema where
  models :=
    [{ name := "Reading"
       table := "readings"
       fields :=
         [{ name := "sensor"
            column := "sensor"
            type := .optional (.integer ⟨true, 64⟩) }]
       relations :=
         [{ name := "peers"
            kind := .hasMany
            related := 0
            localKey? := some "sensor"
            foreignKey? := some "sensor" },
          { name := "first"
            kind := .hasOne
            related := 0
            localKey? := some "sensor"
            foreignKey? := some "sensor" }] }]

def answersBySensor (rows : List Row) : Executor Unit where
  dialect := .sqlite
  query := fun _ _ bindings =>
    pure (rows.filter fun row =>
      bindings.any fun value =>
        row.hasKeyOf readingSchema 0 "sensor" value)
  execute := fun _ _ _ => pure 0
  note := fun _ _ => ()

theorem answersBySensor_answersFrom (context : Context) (rows : List Row) :
    (answersBySensor rows).AnswersFrom readingSchema context
      fun _ => rows := by
  intro place column given compiled before declared asked compiles
  cases place with
  | succ later =>
      have nothing : readingSchema.model (later + 1) = {} := by
        simp [Schema.model, readingSchema]
      rw [nothing] at declared
      cases declared
  | zero =>
      have sensor : "sensor" = column := by
        simpa [Schema.model, readingSchema, Model.hasColumn,
          Model.field?] using declared
      subst sensor
      refine ⟨(), ?_⟩
      rw [bindings_loaderQuery (by rfl) asked compiles]
      rfl

def readingSlot (name : String) (kind : RelationKind) (sensor : Value)
    (held? : Option (List Instance)) : Slot :=
  ⟨kind, 0, some ⟨name, kind, "readings", "sensor", "readings", "sensor"⟩,
    sensor, held?.isSome, held?.getD []⟩

def readingWith (sensor : Value) (peers? first? : Option (List Instance)) :
    Instance :=
  ⟨0, [sensor],
    [readingSlot "peers" .hasMany sensor peers?,
      readingSlot "first" .hasOne sensor first?]⟩

/-- Two readings of one sensor and between them one of none. -/
def readingRows : List Row :=
  [⟨["sensor"], [.int 1]⟩, ⟨["sensor"], [.null]⟩, ⟨["sensor"], [.int 1]⟩]

def bareReadings : List Instance :=
  [readingWith (.int 1) none none, readingWith .null none none,
    readingWith (.int 1) none none]

/-- A reading that was found as a peer, with the first of its own. -/
def peerReading : Instance :=
  readingWith (.int 1) none (some [readingWith (.int 1) none none])

def loadedReadings : List Instance :=
  [readingWith (.int 1) (some [peerReading, peerReading]) none,
    readingWith .null (some []) none,
    readingWith (.int 1) (some [peerReading, peerReading]) none]

set_option maxRecDepth 8000 in
theorem completes_loadedReadings :
    Completes
      (loadPath readingSchema (answersBySensor readingRows) {} false
        "peers.first" bareReadings) () loadedReadings () := by
  refine completes_loadPath_iff.mpr ⟨["peers", "first"], by rfl, ?_⟩
  refine completes_cons_iff.mpr (Or.inr ⟨List.cons_ne_nil _ _, bareReadings,
    [readingSlot "peers" .hasMany (.int 1)
        (some
          [readingWith (.int 1) none none, readingWith (.int 1) none none]),
      readingSlot "peers" .hasMany .null (some []),
      readingSlot "peers" .hasMany (.int 1)
        (some
          [readingWith (.int 1) none none, readingWith (.int 1) none none])],
    [peerReading, peerReading, peerReading, peerReading], (), ?_, ?_, ?_,
    ?_⟩)
  · exact .cons (by rfl) (.cons (by rfl) (.cons (by rfl) .nil))
  · rfl
  · rfl
  · rfl

theorem loadPath_holdsMatches_readings :
    (answersBySensor readingRows).AnswersFrom readingSchema {}
        (fun _ => readingRows) ∧
      (∀ model ∈ bareReadings, model.HasOwnSlots readingSchema) ∧
      Completes
        (loadPath readingSchema (answersBySensor readingRows) {} false
          "peers.first" bareReadings) () loadedReadings () ∧
      ∃ segments,
        pathSegments "peers.first" = .ok segments ∧
          (∀ earlier segment later,
            segments = earlier ++ segment :: later →
              ∀ owner ∈ reached readingSchema earlier loadedReadings,
                owner.HoldsMatches readingSchema (fun _ => readingRows)
                  segment) ∧
          List.Forall₂ (fun model result =>
              model.SameRow result ∧
                ∀ alone : Unit, ∃ done,
                  Completes
                    (loadPath readingSchema (answersBySensor readingRows) {}
                      false "peers.first" [model])
                    alone [result] done)
            bareReadings loadedReadings := by
  have answers := answersBySensor_answersFrom {} readingRows
  have own :
      ∀ model ∈ bareReadings, model.HasOwnSlots readingSchema := by
    simp [bareReadings, readingWith, Instance.HasOwnSlots, readingSlot,
      readingSchema, Schema.model, Slot.role, Relation.role]
  exact ⟨answers, own, completes_loadedReadings,
    loadPath_holdsMatches answers own completes_loadedReadings⟩

end RecordQuery
