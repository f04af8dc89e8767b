import RecordQuery.Proofs.Instance.Slots
import RecordQuery.Proofs.Pairs

/-!
# Instances as they are fetched

Fetching reads each row of the answer as one instance, in order.  Its values
are those of the row, and its slots are those of the model's relationships,
with join columns but not loaded.
-/

namespace RecordQuery

/-- What a slot is for: the kind of its relationship and the related model. -/
def Slot.role (slot : Slot) : RelationKind × Nat :=
  (slot.kind, slot.related)

def Relation.role (relation : Relation) : RelationKind × Nat :=
  (relation.kind, relation.related)

/-- The key by which a column matches a row of a model's table: that of the
value that the row is read as. -/
def Row.decodedKey (schema : Schema) (place : Nat) (column : String)
    (row : Row) : Option String :=
  match (schema.model place).field? column with
  | none => none
  | some field =>
      match row.read field.column field.type with
      | .ok scalar => scalar.toValue.indexKey
      | .error _ => none

namespace Instance

variable {schema : Schema}

/-- Whether an instance has one slot for each relationship of its model. -/
def HasOwnSlots (schema : Schema) (self : Instance) : Prop :=
  self.slots.map Slot.role =
    (schema.model self.place).relations.map Relation.role

/-- Whether two instances are read from the same row, whatever is loaded. -/
def SameRow (first second : Instance) : Prop :=
  first.place = second.place ∧ first.values = second.values

/-- Whether a row of the model at a place is read as an instance. -/
def Reads (schema : Schema) (place : Nat) (row : Row) (self : Instance) :
    Prop :=
  ∃ made, ofRow schema place row = .ok made ∧
    made.initializeAll schema = (self, none)

theorem SameRow.refl (self : Instance) : self.SameRow self :=
  ⟨rfl, rfl⟩

theorem SameRow.trans {first second third : Instance}
    (one : first.SameRow second) (other : second.SameRow third) :
    first.SameRow third :=
  ⟨one.1.trans other.1, one.2.trans other.2⟩

theorem sameRow_setSlot (self : Instance) (name : String) (slot : Slot) :
    self.SameRow (self.setSlot schema name slot) :=
  ⟨(setSlot_place self name slot).symm, (setSlot_values self name slot).symm⟩

theorem HasOwnSlots.role_eq {self : Instance} {name : String} {slot : Slot}
    {relation : Relation} (own : self.HasOwnSlots schema)
    (found : self.slot? schema name = some slot)
    (declared : (schema.model self.place).relation? name = some relation) :
    slot.role = relation.role := by
  obtain ⟨place, placed, slotAt⟩ := slot?_eq_some_iff.mp found
  obtain ⟨first, _⟩ := slotPlace?_eq_some_iff.mp placed
  rw [Model.relation?, List.find?_eq_bind_findIdx?_getElem?,
    first] at declared
  have relationAt :
      (schema.model self.place).relations[place]? = some relation :=
    declared
  have roles := congrArg (fun roles => roles[place]?) own
  simpa [slotAt, relationAt] using roles

theorem columnValue?_eq_some_iff {self : Instance} {column : String}
    {value : Value} :
    self.columnValue? schema column = some value ↔
      ∃ index field,
        (schema.model self.place).fields.findIdx?
            (fun field => field.column == column) = some index ∧
          (schema.model self.place).fields[index]? = some field ∧
          field.hidden = false ∧
          self.values[index]? = some value := by
  simp only [columnValue?, fieldPlace?, Option.bind_eq_bind,
    Option.bind_eq_some_iff]
  constructor
  · rintro ⟨index, first, field, fieldAt, shown⟩
    split at shown
    · cases shown
    · next visible =>
        exact ⟨index, field, first, fieldAt, by simpa using visible, shown⟩
  · rintro ⟨index, field, first, fieldAt, visible, valueAt⟩
    exact ⟨index, first, field, fieldAt, by rw [visible]; exact valueAt⟩

theorem SameRow.columnValue?_eq {first second : Instance}
    (same : first.SameRow second) (column : String) :
    first.columnValue? schema column = second.columnValue? schema column := by
  unfold columnValue? fieldPlace?
  rw [same.1, same.2]

theorem hasColumn_of_columnValue? {self : Instance} {column : String}
    {value : Value} (read : self.columnValue? schema column = some value) :
    (schema.model self.place).hasColumn column = true := by
  obtain ⟨index, field, first, fieldAt, _⟩ :=
    columnValue?_eq_some_iff.mp read
  rw [Model.hasColumn, Model.field?,
    List.find?_eq_bind_findIdx?_getElem?, first]
  exact Option.isSome_iff_exists.mpr ⟨field, fieldAt⟩

/-! ## What initialization keeps -/

theorem initializeEach_induction {kept : Instance → Prop}
    (step : ∀ {relation : Relation} {self next : Instance},
      kept self → self.initializeSlot schema relation = .ok next → kept next)
    (relations : List Relation) :
    ∀ {self : Instance},
      kept self → kept (self.initializeEach schema relations).1 := by
  induction relations with
  | nil =>
      intro self held
      exact held
  | cons relation rest inductionHypothesis =>
      intro self held
      rw [initializeEach]
      cases initialized : self.initializeSlot schema relation with
      | ok next => exact inductionHypothesis (step held initialized)
      | error error => exact held

theorem HasOwnSlots.setSlot {self : Instance} {name : String}
    {old slot : Slot} (own : self.HasOwnSlots schema)
    (found : self.slot? schema name = some old)
    (sameRole : slot.role = old.role) :
    (self.setSlot schema name slot).HasOwnSlots schema := by
  obtain ⟨place, placed, read⟩ := slot?_eq_some_iff.mp found
  obtain ⟨inside, rfl⟩ := List.getElem?_eq_some_iff.mp read
  have unchanged :
      (self.slots.set place slot).map Slot.role =
        self.slots.map Slot.role := by
    rw [List.map_set, sameRole, ← List.map_set, List.set_getElem_self]
  unfold HasOwnSlots Instance.setSlot
  rw [placed]
  exact unchanged.trans own

theorem HasOwnSlots.initializeSlot {relation : Relation}
    {self next : Instance} (own : self.HasOwnSlots schema)
    (initialized : self.initializeSlot schema relation = .ok next) :
    next.HasOwnSlots schema := by
  obtain ⟨keys, value, slot, _, _, found, rfl⟩ :=
    initializeSlot_eq_ok_iff.mp initialized
  exact own.setSlot found (by simp [Slot.role])

theorem sameRow_of_initializeSlot {relation : Relation}
    {self next : Instance}
    (initialized : self.initializeSlot schema relation = .ok next) :
    self.SameRow next := by
  obtain ⟨keys, value, slot, _, _, _, rfl⟩ :=
    initializeSlot_eq_ok_iff.mp initialized
  exact sameRow_setSlot self relation.name _

/-! ## What a row is read as -/

theorem ofRow_eq_ok_iff {place : Nat} {row : Row} {made : Instance} :
    ofRow schema place row = .ok made ↔
      ∃ values,
        List.Forall₂ (fun field value =>
          (row.read field.column field.type).map Scalar.toValue = .ok value)
          (schema.model place).fields values ∧
          made = make schema place values := by
  simp only [ofRow, exceptBind_eq_ok_iff, mapM_eq_ok_iff]
  constructor
  · rintro ⟨values, read, outcome⟩
    cases outcome
    exact ⟨values, read, rfl⟩
  · rintro ⟨values, read, rfl⟩
    exact ⟨values, read, rfl⟩

namespace Reads

variable {place : Nat} {row : Row} {self : Instance}

theorem unique {other : Instance}
    (reads : Reads schema place row self)
    (otherReads : Reads schema place row other) :
    self = other := by
  obtain ⟨made, read, initialized⟩ := reads
  obtain ⟨otherMade, otherRead, otherInitialized⟩ := otherReads
  rw [read] at otherRead
  obtain rfl := Except.ok.inj otherRead
  rw [initialized] at otherInitialized
  exact congrArg Prod.fst otherInitialized

/-- What holds of the instance that is made of the row and is kept by giving
slots their join columns holds of the instance that is read. -/
theorem induction (kept : Instance → Prop)
    (base : ∀ values : List Value,
      List.Forall₂ (fun field value =>
        (row.read field.column field.type).map Scalar.toValue = .ok value)
        (schema.model place).fields values →
      kept (make schema place values))
    (step : ∀ {relation : Relation} {self next : Instance},
      kept self → self.initializeSlot schema relation = .ok next → kept next)
    (reads : Reads schema place row self) :
    kept self := by
  obtain ⟨made, read, initialized⟩ := reads
  obtain ⟨values, decoded, rfl⟩ := ofRow_eq_ok_iff.mp read
  have held :=
    initializeEach_induction step
      (schema.model (make schema place values).place).relations
      (base values decoded)
  rw [← initializeAll, initialized] at held
  exact held

theorem isFresh (reads : Reads schema place row self) : self.IsFresh :=
  reads.induction IsFresh (fun values _ => isFresh_make place values)
    IsFresh.initializeSlot

theorem hasOwnSlots (reads : Reads schema place row self) :
    self.HasOwnSlots schema := by
  refine reads.induction (HasOwnSlots schema) ?_ HasOwnSlots.initializeSlot
  intro values _
  simp [HasOwnSlots, make, Function.comp_def, Slot.role, Slot.fresh,
    Relation.role]

/-- The instance is one of the model, and its values are those that the row
is read as. -/
theorem place_and_values (reads : Reads schema place row self) :
    self.place = place ∧
      List.Forall₂ (fun field value =>
        (row.read field.column field.type).map Scalar.toValue = .ok value)
        (schema.model place).fields self.values := by
  refine reads.induction
    (fun self => self.place = place ∧
      List.Forall₂ (fun field value =>
        (row.read field.column field.type).map Scalar.toValue = .ok value)
        (schema.model place).fields self.values)
    (fun values decoded => ⟨rfl, decoded⟩) ?_
  intro relation self next kept initialized
  obtain ⟨samePlace, sameValues⟩ := sameRow_of_initializeSlot initialized
  rw [← samePlace, ← sameValues]
  exact kept

/-- A column that can be read from the instance matches by the key of the
row. -/
theorem decodedKey_eq {column : String} {value : Value}
    (reads : Reads schema place row self)
    (read : self.columnValue? schema column = some value) :
    row.decodedKey schema place column = value.indexKey := by
  obtain ⟨samePlace, decoded⟩ := reads.place_and_values
  obtain ⟨index, field, first, fieldAt, _, valueAt⟩ :=
    columnValue?_eq_some_iff.mp read
  rw [samePlace] at first fieldAt
  have declared : (schema.model place).field? column = some field := by
    rw [Model.field?, List.find?_eq_bind_findIdx?_getElem?, first]
    exact fieldAt
  have same := related_of_getElem? decoded fieldAt valueAt
  rw [Row.decodedKey, declared]
  cases scanned : row.read field.column field.type with
  | error error =>
      rw [scanned] at same
      cases same
  | ok scalar =>
      rw [scanned] at same
      cases same
      simp only [scanned]

end Reads

end Instance

/-! ## The answer to a query -/

theorem initializeFetched_eq_ok_iff {schema : Schema}
    {made found : List Instance} :
    ModelQuery.initializeFetched schema made = .ok found ↔
      List.Forall₂ (fun row next =>
        row.initializeAll schema = (next, none)) made found := by
  rw [ModelQuery.initializeFetched, mapM_eq_ok_iff]
  constructor
  · refine List.Forall₂.imp ?_
    intro row next outcome
    split at outcome
    · next initialized =>
        cases outcome
        exact initialized
    · cases outcome
  · refine List.Forall₂.imp ?_
    intro row next initialized
    rw [initialized]

/-- A query is fetched when it compiles, its statement is answered, and every
row of the answer is read as an instance. -/
theorem ModelQuery.returns_fetch_iff {σ : Type} {schema : Schema}
    {executor : Executor σ} {typed : ModelQuery} {before after : σ}
    {found : List Instance} :
    Returns (typed.fetch schema executor) before found after ↔
      ∃ compiled rows,
        typed.query.toSql executor.dialect = .ok compiled ∧
          Returns
            (executor.query typed.query.context compiled.sql
              compiled.bindings) before rows after ∧
          List.Forall₂ (Instance.Reads schema typed.place) rows found := by
  unfold Instance.Reads
  simp only [fetch, fetchBare, Query.fetchRows, Returns.bind_iff,
    Returns.lift_iff, forall₂_exists_between_iff, mapM_eq_ok_iff,
    initializeFetched_eq_ok_iff]
  constructor
  · rintro ⟨made, _, ⟨rows, _, ⟨compiled, _, ⟨compiles, rfl⟩, answered⟩,
      read, rfl⟩, initialized, rfl⟩
    exact ⟨compiled, rows, compiles, answered, made, read, initialized⟩
  · rintro ⟨compiled, rows, compiles, answered, made, read, initialized⟩
    exact ⟨made, after, ⟨rows, after,
      ⟨compiled, before, ⟨compiles, rfl⟩, answered⟩, read, rfl⟩,
      initialized, rfl⟩

end RecordQuery
