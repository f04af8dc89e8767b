import RecordQuery.Instance
import RecordQuery.Proofs.Instance.Slots

/-!
# Instances seen through accessors

Initialization reaches into instances through accessors alone.  When these
change the slot that they show and nothing else, and show all that the model
declares, it succeeds exactly if every relationship has join columns.  Each slot
then has those of its own relationship and the instance's key.
-/

namespace RecordQuery

namespace Accessors

variable {Self : Type}

/-- Changing a slot reaches the slot that is shown under the name, and leaves
the rest of what is shown alone. -/
structure IsLawful (accessors : Accessors Self) : Prop where
  change_isSome (self : Self) (name : String) (change : Slot → Slot) :
    (accessors.changeSlot? self name change).isSome =
      (accessors.slot? self name).isSome
  slot?_change {self next : Self} {name : String} {change : Slot → Slot} :
    accessors.changeSlot? self name change = some next →
      accessors.slot? next name = (accessors.slot? self name).map change
  slot?_change_of_ne {self next : Self} {name other : String}
      {change : Slot → Slot} :
    accessors.changeSlot? self name change = some next →
      other ≠ name →
      accessors.slot? next other = accessors.slot? self other
  columnValue?_change {self next : Self} {name : String}
      {change : Slot → Slot} (column : String) :
    accessors.changeSlot? self name change = some next →
      accessors.columnValue? next column = accessors.columnValue? self column

/-- Whether an instance shows what its model declares: a value for each column,
and a slot for each relationship. -/
structure IsComplete (accessors : Accessors Self) (subject : Self) :
    Prop where
  columnValue?_isSome (column : String) :
    (accessors.columnValue? subject column).isSome =
      accessors.model.hasColumn column
  slot?_isSome (name : String) :
    (accessors.slot? subject name).isSome =
      (accessors.model.relation? name).isSome

variable {accessors : Accessors Self} {schema : Schema}

/-! ## One slot -/

theorem initializeSlot_eq_ok_iff {relation : Relation} {self next : Self} :
    accessors.initializeSlot schema relation self = .ok next ↔
      ∃ keys value,
        relation.resolve schema accessors.model = .ok keys ∧
          accessors.columnValue? self keys.parentKey = some value ∧
          accessors.changeSlot? self relation.name
            (·.initializeWith keys value) = some next := by
  unfold initializeSlot
  rw [exceptBind_eq_ok_iff]
  constructor
  · rintro ⟨keys, resolved, rest⟩
    split at rest
    · cases rest
    · next value read =>
        split at rest
        · cases rest
        · next changed =>
            cases rest
            exact ⟨keys, value, resolved, read, changed⟩
  · rintro ⟨keys, value, resolved, read, changed⟩
    refine ⟨keys, resolved, ?_⟩
    rw [read]
    dsimp only
    rw [changed]
    rfl

section Step

variable {relation : Relation} {self next : Self}

theorem columnValue?_initializeSlot (lawful : accessors.IsLawful)
    (initialized : accessors.initializeSlot schema relation self = .ok next)
    (column : String) :
    accessors.columnValue? next column =
      accessors.columnValue? self column := by
  obtain ⟨_, _, _, _, changed⟩ := initializeSlot_eq_ok_iff.mp initialized
  exact lawful.columnValue?_change column changed

theorem slot?_initializeSlot_of_ne (lawful : accessors.IsLawful)
    (initialized : accessors.initializeSlot schema relation self = .ok next)
    {name : String} (apart : name ≠ relation.name) :
    accessors.slot? next name = accessors.slot? self name := by
  obtain ⟨_, _, _, _, changed⟩ := initializeSlot_eq_ok_iff.mp initialized
  exact lawful.slot?_change_of_ne changed apart

theorem IsComplete.initializeSlot (complete : accessors.IsComplete self)
    (lawful : accessors.IsLawful)
    (initialized : accessors.initializeSlot schema relation self = .ok next) :
    accessors.IsComplete next where
  columnValue?_isSome column := by
    rw [columnValue?_initializeSlot lawful initialized]
    exact complete.columnValue?_isSome column
  slot?_isSome name := by
    rw [← complete.slot?_isSome]
    by_cases same : name = relation.name
    · obtain ⟨_, _, _, _, changed⟩ := initializeSlot_eq_ok_iff.mp initialized
      rw [same, lawful.slot?_change changed, Option.isSome_map]
    · rw [slot?_initializeSlot_of_ne lawful initialized same]

/-- A declared relationship has a slot, and a column of its model for its key;
only the join columns can be missing. -/
theorem IsComplete.exists_initializeSlot_iff
    (complete : accessors.IsComplete self) (lawful : accessors.IsLawful)
    (declared : relation ∈ accessors.model.relations) :
    (∃ next, accessors.initializeSlot schema relation self = .ok next) ↔
      ∃ keys, relation.resolve schema accessors.model = .ok keys := by
  constructor
  · rintro ⟨_, initialized⟩
    obtain ⟨keys, _, resolved, _⟩ := initializeSlot_eq_ok_iff.mp initialized
    exact ⟨keys, resolved⟩
  · rintro ⟨keys, resolved⟩
    obtain ⟨_, _, _, parentDeclared, _, rfl⟩ :=
      Relation.resolve_eq_ok_iff.mp resolved
    obtain ⟨value, read⟩ := Option.isSome_iff_exists.mp
      ((complete.columnValue?_isSome _).trans parentDeclared)
    have named : (accessors.model.relation? relation.name).isSome = true :=
      List.find?_isSome.mpr ⟨relation, declared, beq_self_eq_true _⟩
    have shown := (complete.slot?_isSome relation.name).trans named
    rw [← lawful.change_isSome self relation.name] at shown
    obtain ⟨next, changed⟩ := Option.isSome_iff_exists.mp shown
    exact ⟨next,
      initializeSlot_eq_ok_iff.mpr ⟨_, value, resolved, read, changed⟩⟩

end Step

/-! ## All slots -/

theorem initializeEach_eq_none_iff (lawful : accessors.IsLawful)
    {relations : List Relation} {self : Self}
    (complete : accessors.IsComplete self)
    (declared : ∀ relation ∈ relations, relation ∈ accessors.model.relations) :
    (accessors.initializeEach schema self relations).2 = none ↔
      ∀ relation ∈ relations,
        ∃ keys, relation.resolve schema accessors.model = .ok keys := by
  induction relations generalizing self with
  | nil => simp [initializeEach]
  | cons relation rest inductionHypothesis =>
      obtain ⟨headDeclared, tailDeclared⟩ := List.forall_mem_cons.mp declared
      rw [List.forall_mem_cons,
        ← complete.exists_initializeSlot_iff lawful headDeclared]
      unfold initializeEach
      cases initialized : accessors.initializeSlot schema relation self with
      | ok next =>
          have later := complete.initializeSlot lawful initialized
          simpa using inductionHypothesis later tailDeclared
      | error error => simp

theorem columnValue?_initializeEach (lawful : accessors.IsLawful)
    (relations : List Relation) (self : Self) (column : String) :
    accessors.columnValue? (accessors.initializeEach schema self relations).1
        column =
      accessors.columnValue? self column := by
  induction relations generalizing self with
  | nil => rfl
  | cons relation rest inductionHypothesis =>
      unfold initializeEach
      cases initialized : accessors.initializeSlot schema relation self with
      | ok next =>
          exact (inductionHypothesis next).trans
            (columnValue?_initializeSlot lawful initialized column)
      | error error => rfl

theorem slot?_initializeEach_of_notMem (lawful : accessors.IsLawful)
    {relations : List Relation} (self : Self) {name : String}
    (absent : name ∉ relations.map Relation.name) :
    accessors.slot? (accessors.initializeEach schema self relations).1 name =
      accessors.slot? self name := by
  induction relations generalizing self with
  | nil => rfl
  | cons relation rest inductionHypothesis =>
      rw [List.map_cons, List.mem_cons, not_or] at absent
      unfold initializeEach
      cases initialized : accessors.initializeSlot schema relation self with
      | ok next =>
          exact (inductionHypothesis next absent.2).trans
            (slot?_initializeSlot_of_ne lawful initialized absent.1)
      | error error => rfl

/-- After a complete run each slot has the join columns of its relationship and
the value of the instance's own column.  Were there two relationships of one
name, the slot would have those of the last. -/
theorem slot?_initializeEach (lawful : accessors.IsLawful)
    {relations : List Relation} {self : Self}
    (distinct : (relations.map Relation.name).Nodup)
    (succeeded : (accessors.initializeEach schema self relations).2 = none)
    {relation : Relation} (member : relation ∈ relations)
    {keys : RelationKeys}
    (resolved : relation.resolve schema accessors.model = .ok keys) :
    ∃ value,
      accessors.columnValue? self keys.parentKey = some value ∧
        accessors.slot? (accessors.initializeEach schema self relations).1
            relation.name =
          (accessors.slot? self relation.name).map
            (·.initializeWith keys value) := by
  induction relations generalizing self with
  | nil => cases member
  | cons first rest inductionHypothesis =>
      obtain ⟨firstApart, restDistinct⟩ := List.nodup_cons.mp distinct
      unfold initializeEach at succeeded ⊢
      cases initialized : accessors.initializeSlot schema first self with
      | error error =>
          rw [initialized] at succeeded
          cases succeeded
      | ok next =>
          rw [initialized] at succeeded
          dsimp only at succeeded ⊢
          rcases List.mem_cons.mp member with rfl | later
          · obtain ⟨_, value, sameResolved, read, changed⟩ :=
              initializeSlot_eq_ok_iff.mp initialized
            obtain rfl := Except.ok.inj (resolved.symm.trans sameResolved)
            refine ⟨value, read, ?_⟩
            -- No later relationship has this name, so the slot stays as it is.
            rw [slot?_initializeEach_of_notMem lawful next firstApart]
            exact lawful.slot?_change changed
          · obtain ⟨value, read, shown⟩ :=
              inductionHypothesis restDistinct succeeded later
            -- The key is read after the slots before it were changed.
            rw [columnValue?_initializeSlot lawful initialized] at read
            refine ⟨value, read, ?_⟩
            have apart : relation.name ≠ first.name := by
              intro same
              exact firstApart
                (same ▸ List.mem_map_of_mem (f := Relation.name) later)
            rw [shown, slot?_initializeSlot_of_ne lawful initialized apart]

theorem initializeAll_succeeds_iff (lawful : accessors.IsLawful)
    {self next : Self} {error? : Option Error}
    (complete : accessors.IsComplete self)
    (run : accessors.initializeAll schema self = (next, error?)) :
    error? = none ↔
      ∀ relation ∈ accessors.model.relations,
        ∃ keys, relation.resolve schema accessors.model = .ok keys := by
  have ended :
      (accessors.initializeEach schema self accessors.model.relations).2 =
        error? :=
    congrArg Prod.snd run
  rw [← ended]
  exact initializeEach_eq_none_iff lawful complete fun _ declared => declared

theorem shown_of_initializeAll (lawful : accessors.IsLawful)
    (distinct : (accessors.model.relations.map Relation.name).Nodup)
    {self next : Self}
    (run : accessors.initializeAll schema self = (next, none))
    {relation : Relation} (declared : relation ∈ accessors.model.relations)
    {keys : RelationKeys}
    (resolved : relation.resolve schema accessors.model = .ok keys) :
    ∃ value,
      accessors.columnValue? self keys.parentKey = some value ∧
        accessors.columnValue? next keys.parentKey = some value ∧
        accessors.slot? next relation.name =
          (accessors.slot? self relation.name).map
            (·.initializeWith keys value) := by
  have reached :
      (accessors.initializeEach schema self accessors.model.relations).1 =
        next :=
    congrArg Prod.fst run
  obtain ⟨value, read, shown⟩ :=
    slot?_initializeEach lawful distinct (congrArg Prod.snd run) declared
      resolved
  rw [← reached, columnValue?_initializeEach lawful]
  exact ⟨value, read, read, shown⟩

end Accessors

/-! ## Instances as they are fetched -/

namespace Instance

variable {schema : Schema} {place : Nat}

theorem accessors_isLawful : (accessors schema place).IsLawful where
  change_isSome _ _ _ := Option.isSome_map
  slot?_change {self next name change} changed := by
    obtain ⟨slot, shown, rfl⟩ := Option.map_eq_some_iff.mp changed
    have put := slot?_setSlot_self (change slot) shown
    exact put.trans (congrArg (Option.map change) shown.symm)
  slot?_change_of_ne changed apart := by
    obtain ⟨slot, _, rfl⟩ := Option.map_eq_some_iff.mp changed
    exact slot?_setSlot_of_ne _ apart
  columnValue?_change column changed := by
    obtain ⟨slot, _, rfl⟩ := Option.map_eq_some_iff.mp changed
    exact columnValue?_setSlot _ _ column _

theorem initializeSlot_accessors (relation : Relation) (self : Instance) :
    (accessors schema self.place).initializeSlot schema relation self =
      self.initializeSlot schema relation := by
  unfold Accessors.initializeSlot initializeSlot
  refine congrArg _ (funext fun keys => ?_)
  unfold accessors
  dsimp only
  cases self.columnValue? schema keys.parentKey with
  | none => rfl
  | some value => cases self.slot? schema relation.name <;> rfl

/-- Initialization is the same through accessors. -/
theorem initializeEach_accessors (relations : List Relation)
    {self : Instance} (placed : self.place = place) :
    (accessors schema place).initializeEach schema self relations =
      self.initializeEach schema relations := by
  subst placed
  induction relations generalizing self with
  | nil => rfl
  | cons relation rest inductionHypothesis =>
      unfold Accessors.initializeEach initializeEach
      rw [initializeSlot_accessors]
      cases initialized : self.initializeSlot schema relation with
      | error error => rfl
      | ok next =>
          obtain ⟨_, _, _, _, _, _, rfl⟩ :=
            initializeSlot_eq_ok_iff.mp initialized
          dsimp only
          rw [← inductionHypothesis, setSlot_place]

end Instance

end RecordQuery
