import RecordQuery.Instance.Load
import RecordQuery.Proofs.Outcome

/-!
# Slots under their names

A relationship's name leads to one slot of an instance, and two names never
lead to the same one.  Putting a slot back, or giving it its join columns,
changes what its name shows and nothing else of the instance.
-/

namespace RecordQuery

namespace Slot

def IsBlank (slot : Slot) : Prop :=
  slot.loaded = false ∧ slot.held = []

variable (slot : Slot) (keys : RelationKeys) (value : Value)

@[simp]
theorem initializeWith_kind :
    (slot.initializeWith keys value).kind = slot.kind := by
  unfold initializeWith
  split <;> rfl

@[simp]
theorem initializeWith_related :
    (slot.initializeWith keys value).related = slot.related := by
  unfold initializeWith
  split <;> rfl

@[simp]
theorem initializeWith_keys? :
    (slot.initializeWith keys value).keys? = some keys := by
  unfold initializeWith
  split <;> rfl

@[simp]
theorem initializeWith_parentValue :
    (slot.initializeWith keys value).parentValue = value := by
  unfold initializeWith
  split <;> rfl

theorem mem_of_mem_keep {α : Type} {kind : RelationKind} {found : List α}
    {row : α} (member : row ∈ keep kind found) :
    row ∈ found := by
  cases kind with
  | hasMany => exact member
  | hasOne => exact List.mem_of_mem_take member
  | belongsTo => exact List.mem_of_mem_take member

theorem isBlank_initializeWith {slot : Slot} (blank : slot.IsBlank) :
    (slot.initializeWith keys value).IsBlank := by
  unfold initializeWith
  split
  · exact ⟨rfl, rfl⟩
  · exact blank

end Slot

/-- A relationship has its join columns when it has a pair of columns that the
two models declare. -/
theorem Relation.resolve_eq_ok_iff {schema : Schema} {relation : Relation}
    {parent : Model} {keys : RelationKeys} :
    relation.resolve schema parent = .ok keys ↔
      ∃ parentKey relatedKey,
        relation.columnPair parent (schema.model relation.related) =
            .ok (parentKey, relatedKey) ∧
          parent.hasColumn parentKey = true ∧
          (schema.model relation.related).hasColumn relatedKey = true ∧
          keys =
            ⟨relation.name, relation.kind, parent.table, parentKey,
              (schema.model relation.related).table, relatedKey⟩ := by
  unfold resolve
  rw [exceptBind_eq_ok_iff, Prod.exists]
  refine exists_congr fun parentKey => exists_congr fun relatedKey =>
    and_congr_right fun _ => ?_
  dsimp only
  cases parent.hasColumn parentKey with
  | false =>
      constructor
      · intro outcome
        cases outcome
      · rintro ⟨absurdColumn, _⟩
        cases absurdColumn
  | true =>
      cases (schema.model relation.related).hasColumn relatedKey with
      | false =>
          constructor
          · intro outcome
            cases outcome
          · rintro ⟨_, absurdColumn, _⟩
            cases absurdColumn
      | true =>
          constructor
          · intro outcome
            cases outcome
            exact ⟨rfl, rfl, rfl⟩
          · rintro ⟨_, _, rfl⟩
            rfl

namespace Instance

variable {schema : Schema}

@[simp]
theorem setSlot_place (self : Instance) (name : String) (slot : Slot) :
    (self.setSlot schema name slot).place = self.place := by
  unfold setSlot
  split <;> rfl

@[simp]
theorem setSlot_values (self : Instance) (name : String) (slot : Slot) :
    (self.setSlot schema name slot).values = self.values := by
  unfold setSlot
  split <;> rfl

@[simp]
theorem slotPlace?_setSlot
    (self : Instance) (name other : String) (slot : Slot) :
    (self.setSlot schema name slot).slotPlace? schema other =
      self.slotPlace? schema other := by
  simp [slotPlace?]

@[simp]
theorem columnValue?_setSlot
    (self : Instance) (name column : String) (slot : Slot) :
    (self.setSlot schema name slot).columnValue? schema column =
      self.columnValue? schema column := by
  simp [columnValue?, fieldPlace?]

theorem slotPlace?_eq_some_iff {self : Instance} {name : String}
    {place : Nat} :
    self.slotPlace? schema name = some place ↔
      (schema.model self.place).relations.findIdx?
          (fun relation => relation.name == name) = some place ∧
        ∃ relation,
          (schema.model self.place).relations[place]? = some relation ∧
            relation.hidden = false := by
  simp only [slotPlace?, Option.bind_eq_bind, Option.bind_eq_some_iff]
  constructor
  · rintro ⟨index, first, relation, read, shown⟩
    split at shown
    · cases shown
    · next visible =>
        obtain rfl := Option.some.inj shown
        exact ⟨first, relation, read, by simpa using visible⟩
  · rintro ⟨first, relation, read, visible⟩
    exact ⟨place, first, relation, read, by rw [visible]; rfl⟩

theorem name_of_slotPlace? {self : Instance} {name : String} {place : Nat}
    (found : self.slotPlace? schema name = some place) :
    ((schema.model self.place).relations[place]?).map Relation.name =
      some name := by
  obtain ⟨first, _⟩ := slotPlace?_eq_some_iff.mp found
  obtain ⟨inside, matched, _⟩ := List.findIdx?_eq_some_iff_getElem.mp first
  rw [List.getElem?_eq_getElem inside]
  simpa using matched

theorem slotPlace?_injective {self : Instance} {name other : String}
    {place : Nat}
    (found : self.slotPlace? schema name = some place)
    (otherFound : self.slotPlace? schema other = some place) :
    name = other := by
  have named := name_of_slotPlace? found
  rw [name_of_slotPlace? otherFound] at named
  exact (Option.some.inj named).symm

theorem slot?_eq_some_iff {self : Instance} {name : String} {slot : Slot} :
    self.slot? schema name = some slot ↔
      ∃ place,
        self.slotPlace? schema name = some place ∧
          self.slots[place]? = some slot := by
  rw [slot?, Option.bind_eq_bind, Option.bind_eq_some_iff]

theorem slot?_setSlot_self {self : Instance} {name : String}
    {old : Slot} (slot : Slot)
    (found : self.slot? schema name = some old) :
    (self.setSlot schema name slot).slot? schema name = some slot := by
  obtain ⟨place, placed, read⟩ := slot?_eq_some_iff.mp found
  obtain ⟨inside, _⟩ := List.getElem?_eq_some_iff.mp read
  rw [slot?, slotPlace?_setSlot, placed]
  simp [setSlot, placed, inside]

theorem slot?_setSlot_of_ne {self : Instance} {name other : String}
    (slot : Slot) (apart : other ≠ name) :
    (self.setSlot schema name slot).slot? schema other =
      self.slot? schema other := by
  simp only [slot?, slotPlace?_setSlot]
  cases otherPlaced : self.slotPlace? schema other with
  | none => rfl
  | some otherPlace =>
      unfold setSlot
      cases placed : self.slotPlace? schema name with
      | none => rfl
      | some place =>
          have distinct : place ≠ otherPlace := by
            rintro rfl
            exact apart (slotPlace?_injective otherPlaced placed)
          simp [List.getElem?_set_ne distinct]

theorem setSlot_setSlot (self : Instance) (name : String)
    (first second : Slot) :
    (self.setSlot schema name first).setSlot schema name second =
      self.setSlot schema name second := by
  rw [setSlot, slotPlace?_setSlot]
  unfold setSlot
  cases self.slotPlace? schema name with
  | none => rfl
  | some place => simp

theorem setSlot_of_slot? {self : Instance} {name : String} {slot : Slot}
    (found : self.slot? schema name = some slot) :
    self.setSlot schema name slot = self := by
  obtain ⟨place, placed, read⟩ := slot?_eq_some_iff.mp found
  obtain ⟨inside, rfl⟩ := List.getElem?_eq_some_iff.mp read
  rw [setSlot, placed]
  cases self
  simp

theorem mem_slots_of_slot? {self : Instance} {name : String} {slot : Slot}
    (found : self.slot? schema name = some slot) :
    slot ∈ self.slots := by
  obtain ⟨place, _, read⟩ := slot?_eq_some_iff.mp found
  exact List.mem_of_getElem? read

theorem eq_or_mem_of_mem_setSlot {self : Instance} {name : String}
    {slot other : Slot}
    (member : other ∈ (self.setSlot schema name slot).slots) :
    other = slot ∨ other ∈ self.slots := by
  unfold setSlot at member
  split at member
  · exact (List.mem_or_eq_of_mem_set member).symm
  · exact Or.inr member

/-! ## Initialization -/

theorem initializeSlot_eq_ok_iff {relation : Relation}
    {self next : Instance} :
    self.initializeSlot schema relation = .ok next ↔
      ∃ keys value slot,
        relation.resolve schema (schema.model self.place) = .ok keys ∧
          self.columnValue? schema keys.parentKey = some value ∧
          self.slot? schema relation.name = some slot ∧
          next =
            self.setSlot schema relation.name
              (slot.initializeWith keys value) := by
  unfold initializeSlot
  rw [exceptBind_eq_ok_iff]
  constructor
  · rintro ⟨keys, resolved, rest⟩
    split at rest
    · cases rest
    · next value read =>
        split at rest
        · cases rest
        · next slot held =>
            cases rest
            exact ⟨keys, value, slot, resolved, read, held, rfl⟩
  · rintro ⟨keys, value, slot, resolved, read, held, rfl⟩
    refine ⟨keys, resolved, ?_⟩
    rw [read, held]
    rfl

/-- What giving a named slot its join columns does to an instance: the columns
are those of the declared relationship, and the key is the instance's own. -/
theorem initializeNamed_eq_ok_iff {name : String} {self next : Instance} :
    self.initializeNamed schema name = .ok next ↔
      ∃ relation keys value slot,
        (schema.model self.place).relation? name = some relation ∧
          relation.resolve schema (schema.model self.place) = .ok keys ∧
          self.columnValue? schema keys.parentKey = some value ∧
          self.slot? schema name = some slot ∧
          next =
            self.setSlot schema name (slot.initializeWith keys value) := by
  rw [initializeNamed]
  cases declared : (schema.model self.place).relation? name with
  | none => simp
  | some relation =>
      have named : relation.name = name := by
        simpa using List.find?_some declared
      simp only [initializeSlot_eq_ok_iff, named]
      constructor
      · rintro ⟨keys, value, slot, found⟩
        exact ⟨relation, keys, value, slot, rfl, found⟩
      · rintro ⟨_, keys, value, slot, ⟨⟩, found⟩
        exact ⟨keys, value, slot, found⟩

/-! ## Instances as they are fetched -/

/-- Whether no slot of an instance is loaded or holds anything. -/
def IsFresh (self : Instance) : Prop :=
  ∀ slot ∈ self.slots, slot.IsBlank

theorem isFresh_make (place : Nat) (values : List Value) :
    (make schema place values).IsFresh := by
  intro slot member
  obtain ⟨relation, _, rfl⟩ := List.mem_map.mp member
  exact ⟨rfl, rfl⟩

theorem IsFresh.initializeSlot {relation : Relation}
    {self next : Instance} (fresh : self.IsFresh)
    (initialized : self.initializeSlot schema relation = .ok next) :
    next.IsFresh := by
  obtain ⟨keys, value, slot, _, _, found, rfl⟩ :=
    initializeSlot_eq_ok_iff.mp initialized
  intro other member
  rcases eq_or_mem_of_mem_setSlot member with rfl | kept
  · exact Slot.isBlank_initializeWith _ _
      (fresh slot (mem_slots_of_slot? found))
  · exact fresh other kept

end Instance

end RecordQuery
