import RecordQuery.Instance.Load
import RecordQuery.Proofs.Instance.Fetched
import RecordQuery.Proofs.Instance.Index

/-!
# When a batch of slots is loaded

Each stage of loading the slots of one segment has one lemma that says when it
succeeds and with what: the keys that are asked for, the index that is built of
the answer, the join columns that the slots share, and the slots afterwards.
-/

namespace RecordQuery

variable {σ : Type} {schema : Schema} {executor : Executor σ}
variable {context : Context} {before after : σ}

/-! ## The keys of a batch -/

theorem mem_of_mem_distinctKeys {value : Value} {values : List Value} :
    ∀ {seen : List String},
      value ∈ distinctKeys seen values →
        value ∈ values ∧ value.indexKey.isSome = true := by
  induction values with
  | nil =>
      intro seen member
      cases member
  | cons first rest inductionHypothesis =>
      intro seen member
      rw [distinctKeys] at member
      have later :
          ∀ {seen : List String}, value ∈ distinctKeys seen rest →
            value ∈ first :: rest ∧ value.indexKey.isSome = true := by
        intro seen member
        obtain ⟨found, keyed⟩ := inductionHypothesis member
        exact ⟨List.mem_cons_of_mem _ found, keyed⟩
      split at member
      · exact later member
      · next key keyed =>
          split at member
          · exact later member
          · rcases List.mem_cons.mp member with rfl | member
            · exact ⟨List.mem_cons_self, by rw [keyed]; rfl⟩
            · exact later member

/-- The values that are asked for have exactly the keys of the given values,
those that were seen before left out. -/
theorem exists_mem_distinctKeys_iff {key : String} {values : List Value} :
    ∀ {seen : List String},
      (∃ value ∈ distinctKeys seen values, value.indexKey = some key) ↔
        key ∉ seen ∧ ∃ value ∈ values, value.indexKey = some key := by
  induction values with
  | nil => simp [distinctKeys]
  | cons first rest inductionHypothesis =>
      intro seen
      rw [distinctKeys]
      cases keyed : first.indexKey with
      | none => simp [inductionHypothesis, keyed]
      | some own =>
          by_cases repeated : own ∈ seen
          · have here : seen.contains own = true := by simpa using repeated
            simp only [here, if_true, inductionHypothesis,
              List.exists_mem_cons_iff, keyed, Option.some.injEq]
            constructor
            · rintro ⟨unseen, later⟩
              exact ⟨unseen, Or.inr later⟩
            · rintro ⟨unseen, same | later⟩
              · exact (unseen (same ▸ repeated)).elim
              · exact ⟨unseen, later⟩
          · have here : seen.contains own = false := by simpa using repeated
            simp only [here, Bool.false_eq_true, if_false]
            by_cases same : own = key
            · subst same
              simp [keyed, repeated]
            · simp [keyed, inductionHypothesis, same, Ne.symm same]

/-! ## The index of a batch -/

theorem returns_fetchIndex_iff {related : Nat} {keys : RelationKeys}
    {values : List Value} {index : RelatedIndex Instance} :
    Returns (fetchIndex schema executor context related keys values)
        before index after ↔
      (distinctKeys [] values = [] ∧ {} = index ∧ before = after) ∨
      (distinctKeys [] values ≠ [] ∧
        ∃ found,
          Returns
            ((loaderQuery schema context related keys.relatedKey
              (distinctKeys [] values)).fetch schema executor)
            before found after ∧
          RelatedIndex.build schema keys.relatedKey found = .ok index) := by
  unfold fetchIndex
  cases asked : distinctKeys [] values with
  | nil => simp
  | cons first rest =>
      simp only [reduceCtorEq, false_and, ne_eq, not_false_eq_true, true_and,
        false_or, Returns.bind_iff, Returns.lift_iff]
      constructor
      · rintro ⟨found, _, fetched, built, rfl⟩
        exact ⟨found, fetched, built⟩
      · rintro ⟨found, fetched, built⟩
        exact ⟨found, after, fetched, built, rfl⟩

/-! ## The join columns of a batch -/

theorem requireKeys_eq_ok_iff {keys : RelationKeys} {slot : Slot} :
    slot.requireKeys = .ok keys ↔ slot.keys? = some keys := by
  unfold Slot.requireKeys
  cases slot.keys? with
  | none => simp
  | some own => simp

theorem requireSameKeys_eq_ok_iff {keys : RelationKeys} {slot : Slot} :
    requireSameKeys keys slot = .ok () ↔ slot.keys? = some keys := by
  unfold requireSameKeys
  simp only [exceptBind_eq_ok_iff, requireKeys_eq_ok_iff]
  constructor
  · rintro ⟨own, held, outcome⟩
    split at outcome
    · cases outcome
    · next same =>
        rw [held]
        simpa using same
  · intro held
    refine ⟨keys, held, ?_⟩
    rw [if_neg (by simp)]
    rfl

theorem forM_eq_ok_iff {α : Type} {check : α → Except Error Unit}
    {entries : List α} :
    entries.forM check = .ok () ↔
      ∀ entry ∈ entries, check entry = .ok () := by
  induction entries with
  | nil => exact ⟨fun _ _ member => (List.not_mem_nil member).elim,
      fun _ => rfl⟩
  | cons entry rest inductionHypothesis =>
      rw [List.forall_mem_cons, ← inductionHypothesis]
      show (check entry >>= fun _ => rest.forM check) = .ok () ↔ _
      rw [exceptBind_eq_ok_iff]
      constructor
      · rintro ⟨⟨⟩, first, later⟩
        exact ⟨first, later⟩
      · rintro ⟨first, later⟩
        exact ⟨(), first, later⟩

/-- The slots of a batch share the join columns of the first when they are of
its kind and relate to the same model. -/
theorem sharedKeys_eq_ok_iff {first : Slot} {batch : List Slot}
    {keys : RelationKeys} :
    sharedKeys first batch = .ok keys ↔
      first.keys? = some keys ∧
        ∀ slot ∈ batch, slot.role = first.role ∧ slot.keys? = some keys := by
  unfold sharedKeys
  split
  · next mixed =>
      constructor
      · intro outcome
        cases outcome
      · rintro ⟨_, shared⟩
        obtain ⟨slot, member, apart⟩ := List.any_eq_true.mp mixed
        have role := (shared slot member).1
        simp only [Slot.role, Prod.mk.injEq] at role
        simp [role.1, role.2] at apart
  · next unmixed =>
      have roles : ∀ slot ∈ batch, slot.role = first.role := by
        intro slot member
        rw [List.any_eq_true] at unmixed
        by_contra apart
        refine unmixed ⟨slot, member, ?_⟩
        simp only [Slot.role, Prod.mk.injEq, not_and_or] at apart
        simpa using apart
      simp only [exceptBind_eq_ok_iff, requireKeys_eq_ok_iff]
      constructor
      · rintro ⟨own, held, ⟨⟩, checked, outcome⟩
        cases outcome
        refine ⟨held, fun slot member => ⟨roles slot member, ?_⟩⟩
        exact requireSameKeys_eq_ok_iff.mp
          (forM_eq_ok_iff.mp checked slot member)
      · rintro ⟨held, shared⟩
        refine ⟨keys, held, (), ?_, rfl⟩
        exact forM_eq_ok_iff.mpr fun slot member =>
          requireSameKeys_eq_ok_iff.mpr (shared slot member).2

/-! ## Slots of a batch -/

/-- A batch is loaded when its slots share their join columns and the index of
their keys is fetched; each slot then takes what the index has for its key. -/
theorem returns_loadBatch_iff {first : Slot} {batch loaded : List Slot} :
    Returns (loadBatch schema executor context first batch)
        before loaded after ↔
      ∃ keys index between,
        sharedKeys first batch = .ok keys ∧
          Returns
            (fetchIndex schema executor context first.related keys
              (batch.map Slot.parentValue)) before index between ∧
          executor.note (resolvedEvent keys batch.length index.size)
            between = after ∧
          (batch.map fun slot => slot.assign (index.all slot.parentValue)) =
            loaded := by
  unfold loadBatch
  simp only [Returns.bind_iff, Returns.lift_iff, Returns.emit_iff,
    Returns.pure_iff]
  constructor
  · rintro ⟨keys, _, ⟨shared, rfl⟩, index, between, fetched, ⟨⟩, _, noted,
      kept, rfl⟩
    exact ⟨keys, index, between, shared, fetched, noted, kept⟩
  · rintro ⟨keys, index, between, shared, fetched, noted, kept⟩
    exact ⟨keys, before, ⟨shared, rfl⟩, index, between, fetched, (), after,
      noted, kept, rfl⟩

theorem returns_loadSlots_iff {onlyMissing : Bool} {path segment : String}
    {slots loaded : List Slot} :
    Returns
        (loadSlots schema executor context onlyMissing path segment slots)
        before loaded after ↔
      (slots.filter (isPending onlyMissing) = [] ∧
        slots = loaded ∧ before = after) ∨
      ∃ first others batch,
        slots.filter (isPending onlyMissing) = first :: others ∧
          Returns
            (loadBatch schema executor context first (first :: others))
            (executor.note
              (loadingEvent path segment (first :: others).length
                (slots.length - (first :: others).length)) before)
            batch after ∧
          mergeBatch onlyMissing slots batch = loaded := by
  unfold loadSlots
  cases pending : slots.filter (isPending onlyMissing) with
  | nil => simp
  | cons first others =>
      simp only [reduceCtorEq, false_and, false_or, Returns.bind_iff,
        Returns.emit_iff, Returns.tryCatch_throw_iff, Returns.pure_iff]
      constructor
      · rintro ⟨⟨⟩, _, rfl, batch, _, ran, merged, rfl⟩
        exact ⟨first, others, batch, rfl, ran, merged⟩
      · rintro ⟨_, _, batch, ⟨⟩, ran, merged⟩
        exact ⟨(), _, rfl, batch, after, ran, merged, rfl⟩

theorem filter_isPending_false (slots : List Slot) :
    slots.filter (isPending false) = slots := by
  simp [isPending]

theorem mergeBatch_false :
    ∀ {slots batch : List Slot}, batch.length = slots.length →
      mergeBatch false slots batch = batch
  | [], [], _ => rfl
  | slot :: slots, next :: batch, sameLength => by
      have later : batch.length = slots.length := by simpa using sameLength
      rw [mergeBatch, if_pos (by rfl), mergeBatch_false later]

/-- Without regard to what is loaded all slots form one batch, if there are
any. -/
theorem returns_loadSlots_false_iff {path segment : String}
    {slots loaded : List Slot} :
    Returns (loadSlots schema executor context false path segment slots)
        before loaded after ↔
      (slots = [] ∧ loaded = [] ∧ before = after) ∨
      ∃ first others,
        slots = first :: others ∧
          Returns (loadBatch schema executor context first slots)
            (executor.note
              (loadingEvent path segment slots.length 0) before)
            loaded after := by
  rw [returns_loadSlots_iff, filter_isPending_false]
  apply or_congr
  · constructor
    · rintro ⟨rfl, rfl, rfl⟩
      exact ⟨rfl, rfl, rfl⟩
    · rintro ⟨rfl, rfl, rfl⟩
      exact ⟨rfl, rfl, rfl⟩
  · have merged :
        ∀ {first : Slot} {batch : List Slot} {start : σ},
          Returns (loadBatch schema executor context first slots)
              start batch after →
            mergeBatch false slots batch = batch := by
      intro first batch start ran
      obtain ⟨keys, index, between, _, _, _, rfl⟩ :=
        returns_loadBatch_iff.mp ran
      exact mergeBatch_false (List.length_map _)
    constructor
    · rintro ⟨first, others, batch, rfl, ran, rfl⟩
      rw [merged ran]
      refine ⟨first, others, rfl, ?_⟩
      rw [Nat.sub_self] at ran
      exact ran
    · rintro ⟨first, others, rfl, ran⟩
      refine ⟨first, others, loaded, rfl, ?_, merged ran⟩
      rw [Nat.sub_self]
      exact ran

end RecordQuery
