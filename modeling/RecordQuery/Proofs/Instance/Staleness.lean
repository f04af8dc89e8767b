import RecordQuery.Proofs.Instance.Slots

/-!
# When a loaded slot goes stale

Giving a loaded slot its join columns and key anew keeps what it holds when
both are those that it had, the key up to its index key, and else drops it.
The columns and the key that an instance has for a relationship depend on its
model and its values alone, so that giving them a second time changes nothing.
-/

namespace RecordQuery

namespace Slot

/-- Whether join columns and a key are those that the slot was given before, if
it was given any. -/
def Matches (slot : Slot) (keys : RelationKeys) (value : Value) : Prop :=
  ∀ held, slot.keys? = some held →
    held = keys ∧ slot.parentValue.indexKey = value.indexKey

variable {slot : Slot} {keys : RelationKeys} {value : Value}

theorem matches_iff_of_keys? {held : RelationKeys}
    (given : slot.keys? = some held) :
    slot.Matches keys value ↔
      held = keys ∧ slot.parentValue.indexKey = value.indexKey := by
  constructor
  · intro same
    exact same held given
  · intro same other otherGiven
    rw [given] at otherGiven
    obtain rfl := Option.some.inj otherGiven
    exact same

theorem isStale_iff :
    slot.isStale keys value = true ↔
      slot.loaded = true ∧ ¬slot.Matches keys value := by
  unfold isStale
  cases given : slot.keys? with
  | none =>
      have always : slot.Matches keys value := by
        intro held absurdGiven
        rw [given] at absurdGiven
        cases absurdGiven
      simp [always]
  | some held =>
      rw [matches_iff_of_keys? given]
      simp [-not_and, not_and_or]

theorem initializeWith_of_not_stale
    (current : slot.loaded = true → slot.Matches keys value) :
    slot.initializeWith keys value =
      { slot with keys? := some keys, parentValue := value } := by
  rw [initializeWith, if_neg]
  intro stale
  obtain ⟨loaded, apart⟩ := isStale_iff.mp stale
  exact apart (current loaded)

theorem initializeWith_of_given (given : slot.keys? = some keys)
    (key : slot.parentValue = value) :
    slot.initializeWith keys value = slot := by
  have same : slot.Matches keys value := by
    rw [matches_iff_of_keys? given, key]
    exact ⟨rfl, rfl⟩
  rw [initializeWith_of_not_stale fun _ => same, ← given, ← key]
  cases slot
  rfl

theorem initializeWith_of_stale (loaded : slot.loaded = true)
    (apart : ¬slot.Matches keys value) :
    slot.initializeWith keys value =
      { slot with
        keys? := some keys
        parentValue := value
        loaded := false
        held := [] } := by
  rw [initializeWith, if_pos (isStale_iff.mpr ⟨loaded, apart⟩)]

/-- A slot that is given join columns and a key keeps its flag and what it
holds, unless it is loaded and they are new to it, when it is emptied. -/
theorem initializeWith_keeps_or_drops (slot : Slot) (keys : RelationKeys)
    (value : Value) :
    (slot.loaded = true → slot.Matches keys value) ∧
        slot.initializeWith keys value =
          { slot with keys? := some keys, parentValue := value } ∨
      (slot.loaded = true ∧ ¬slot.Matches keys value) ∧
        slot.initializeWith keys value =
          { slot with
            keys? := some keys
            parentValue := value
            loaded := false
            held := [] } := by
  by_cases current : slot.loaded = true → slot.Matches keys value
  · exact Or.inl ⟨current, initializeWith_of_not_stale current⟩
  · have stale := Classical.not_imp.mp current
    exact Or.inr ⟨stale, initializeWith_of_stale stale.1 stale.2⟩

/-- A slot is loaded after it is given join columns and a key when it was
before and these are not new to it. -/
theorem initializeWith_loaded_iff :
    (slot.initializeWith keys value).loaded = true ↔
      slot.loaded = true ∧ slot.Matches keys value := by
  rcases slot.initializeWith_keeps_or_drops keys value with
    ⟨current, kept⟩ | ⟨⟨_, apart⟩, dropped⟩
  · rw [kept]
    exact ⟨fun loaded => ⟨loaded, current loaded⟩, And.left⟩
  · rw [dropped]
    simp [apart]

/-- What a slot holds outlasts initialization as long as it is loaded. -/
theorem initializeWith_held_of_loaded
    (loaded : (slot.initializeWith keys value).loaded = true) :
    (slot.initializeWith keys value).held = slot.held := by
  have current := (initializeWith_loaded_iff.mp loaded).2
  rw [initializeWith_of_not_stale fun _ => current]

end Slot

namespace Instance

variable {schema : Schema} {self next : Instance} {name : String}

/-- The join columns of a relationship that the instance's model declares. -/
def joinKeys? (schema : Schema) (name : String) (self : Instance) :
    Option RelationKeys := do
  let relation ← (schema.model self.place).relation? name
  (relation.resolve schema (schema.model self.place)).toOption

/-- The key by which the instance is related. -/
def parentKey? (schema : Schema) (name : String) (self : Instance) :
    Option Value := do
  let keys ← self.joinKeys? schema name
  self.columnValue? schema keys.parentKey

/-- Whether a slot that was given join columns and a key was given those that
the instance has now, the key up to its index key. -/
def IsCurrent (schema : Schema) (name : String) (self : Instance)
    (slot : Slot) : Prop :=
  ∀ keys value,
    self.joinKeys? schema name = some keys →
      self.parentKey? schema name = some value → slot.Matches keys value

theorem joinKeys?_eq_some_iff {keys : RelationKeys} :
    self.joinKeys? schema name = some keys ↔
      ∃ relation,
        (schema.model self.place).relation? name = some relation ∧
          relation.resolve schema (schema.model self.place) = .ok keys := by
  simp only [joinKeys?, Option.bind_eq_bind, Option.bind_eq_some_iff]
  refine exists_congr fun relation => and_congr_right fun _ => ?_
  cases relation.resolve schema (schema.model self.place) with
  | error error => simp [Except.toOption]
  | ok own => simp [Except.toOption]

/-- Giving a named slot its join columns and key, said of what the instance has
for them. -/
theorem initializeNamed_iff :
    self.initializeNamed schema name = .ok next ↔
      ∃ keys value slot,
        self.joinKeys? schema name = some keys ∧
          self.parentKey? schema name = some value ∧
          self.slot? schema name = some slot ∧
          next =
            self.setSlot schema name (slot.initializeWith keys value) := by
  rw [initializeNamed_eq_ok_iff]
  constructor
  · rintro ⟨relation, keys, value, slot, declared, resolved, read, found,
      rfl⟩
    have own : self.joinKeys? schema name = some keys :=
      joinKeys?_eq_some_iff.mpr ⟨relation, declared, resolved⟩
    refine ⟨keys, value, slot, own, ?_, found, rfl⟩
    rw [parentKey?, own]
    exact read
  · rintro ⟨keys, value, slot, own, read, found, rfl⟩
    obtain ⟨relation, declared, resolved⟩ := joinKeys?_eq_some_iff.mp own
    rw [parentKey?, own] at read
    exact ⟨relation, keys, value, slot, declared, resolved, read, found,
      rfl⟩

@[simp]
theorem joinKeys?_setSlot (name other : String) (slot : Slot) :
    (self.setSlot schema other slot).joinKeys? schema name =
      self.joinKeys? schema name := by
  simp [joinKeys?]

@[simp]
theorem parentKey?_setSlot (name other : String) (slot : Slot) :
    (self.setSlot schema other slot).parentKey? schema name =
      self.parentKey? schema name := by
  simp [parentKey?]

/-- The slot of a relationship after it was given its join columns and key. -/
theorem eq_initializeWith_of_initializeNamed {slot : Slot}
    (done : self.initializeNamed schema name = .ok next)
    (found : next.slot? schema name = some slot) :
    ∃ keys value old,
      self.joinKeys? schema name = some keys ∧
        self.parentKey? schema name = some value ∧
        self.slot? schema name = some old ∧
        slot = old.initializeWith keys value := by
  obtain ⟨keys, value, old, own, read, oldFound, rfl⟩ :=
    initializeNamed_iff.mp done
  rw [slot?_setSlot_self _ oldFound] at found
  exact ⟨keys, value, old, own, read, oldFound,
    (Option.some.inj found).symm⟩

/-- Giving an instance what a slot of it has already changes nothing. -/
theorem initializeNamed_setSlot_of_given {keys : RelationKeys}
    {old slot : Slot}
    (own : self.joinKeys? schema name = some keys)
    (read : self.parentKey? schema name = some slot.parentValue)
    (found : self.slot? schema name = some old)
    (given : slot.keys? = some keys) :
    (self.setSlot schema name slot).initializeNamed schema name =
      .ok (self.setSlot schema name slot) := by
  refine initializeNamed_iff.mpr
    ⟨keys, slot.parentValue, slot, by simpa using own, by simpa using read,
      slot?_setSlot_self _ found, ?_⟩
  rw [Slot.initializeWith_of_given given rfl, setSlot_setSlot]

/-- A slot keeps its join columns and key when they are given a second time,
whatever it was filled with in between. -/
theorem initializeNamed_setSlot_of_initializeNamed {slot : Slot}
    (done : self.initializeNamed schema name = .ok next)
    (found : next.slot? schema name = some slot) (held : List Instance) :
    (next.setSlot schema name
        { slot with loaded := true, held }).initializeNamed schema name =
      .ok (next.setSlot schema name { slot with loaded := true, held }) := by
  obtain ⟨keys, value, old, own, read, oldFound, rfl⟩ :=
    initializeNamed_iff.mp done
  rw [slot?_setSlot_self _ oldFound] at found
  obtain rfl := Option.some.inj found
  rw [setSlot_setSlot]
  refine initializeNamed_setSlot_of_given own ?_ oldFound ?_
  · rw [read, Slot.initializeWith_parentValue]
  · exact Slot.initializeWith_keys? old keys value

end Instance

end RecordQuery
