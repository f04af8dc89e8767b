import RecordQuery.Proofs.Instance.Staleness
import RecordQuery.Proofs.Loading.EagerPaths

/-!
# How long a slot stays loaded

A slot is initialized and loaded in batches any number of times.  Once a batch
has filled it, it is loaded exactly as long as it was given nothing but the
join columns and the key of that batch, and what it holds is what the batch
found.
-/

namespace RecordQuery

namespace Slot

variable {slot : Slot} {keys : RelationKeys}

/-- What a batch gave a slot: the join columns of the batch, the key that the
slot had then, and the instances that were found for it. -/
structure Filling where
  keys : RelationKeys
  parentValue : Value
  found : List Instance

/-- A slot that began empty or with instances of the caller and was then
initialized and loaded in batches, in any order.  A history keeps the last
filling by a batch, if there was one, and what the slot was given since then; a
batch that fails changes nothing. -/
inductive HasHistory :
    Slot → Option Filling → List (RelationKeys × Value) → Prop where
  | fresh (kind : RelationKind) (related : Nat) :
      HasHistory (fresh kind related) none []
  | single {kind : RelationKind} (related : Nat) (found? : Option Instance)
      (notMany : kind ≠ .hasMany) :
      HasHistory (ofOption kind related found?) none []
  | many (related : Nat) (found : List Instance) :
      HasHistory (ofList .hasMany related found) none []
  | initialized {slot : Slot} {filling? : Option Filling}
      {since : List (RelationKeys × Value)}
      (known : HasHistory slot filling? since)
      (keys : RelationKeys) (value : Value) :
      HasHistory (slot.initializeWith keys value) filling?
        (since ++ [(keys, value)])
  | refused {σ : Type} {schema : Schema} {executor : Executor σ}
      {context : Context} {before : σ} {first slot : Slot}
      {others : List Slot} {error : Error} {filling? : Option Filling}
      {since : List (RelationKeys × Value)}
      (known : HasHistory slot filling? since)
      (member : slot ∈ first :: others)
      (failed :
        Fails (loadBatch schema executor context first (first :: others))
          before error) :
      HasHistory slot filling? since
  | filled {σ : Type} {schema : Schema} {executor : Executor σ}
      {context : Context} {before after : σ} {first slot next : Slot}
      {others loaded : List Slot} {place : Nat} {keys : RelationKeys}
      {filling? : Option Filling} {since : List (RelationKeys × Value)}
      (known : HasHistory slot filling? since)
      (member : (first :: others)[place]? = some slot)
      (shared : sharedKeys first (first :: others) = .ok keys)
      (ran :
        Returns (loadBatch schema executor context first (first :: others))
          before loaded after)
      (assigned : loaded[place]? = some next) :
      HasHistory next (some ⟨keys, slot.parentValue, next.held⟩) []

/-- Whether join columns and a key are those of a filling. -/
def Filling.Agrees (filling : Filling) (given : RelationKeys × Value) :
    Prop :=
  filling.keys = given.1 ∧
    filling.parentValue.indexKey = given.2.indexKey

/-- What is known of a slot with a filling: it is loaded as long as all that it
was given agrees with the filling, and then has what the filling gave it. -/
structure Filling.Fits (filling : Filling)
    (since : List (RelationKeys × Value)) (slot : Slot) : Prop where
  loaded_iff : slot.loaded = true ↔ ∀ given ∈ since, filling.Agrees given
  keys : slot.loaded = true → slot.keys? = some filling.keys
  key : slot.loaded = true →
    filling.parentValue.indexKey = slot.parentValue.indexKey
  held : slot.loaded = true → slot.held = filling.found

theorem Filling.Fits.initializeWith {filling : Filling}
    {since : List (RelationKeys × Value)} (fits : filling.Fits since slot)
    (keys : RelationKeys) (value : Value) :
    filling.Fits (since ++ [(keys, value)])
      (slot.initializeWith keys value) := by
  have matches_iff :
      slot.loaded = true →
        (slot.Matches keys value ↔ filling.Agrees (keys, value)) := by
    intro loaded
    rw [matches_iff_of_keys? (fits.keys loaded), ← fits.key loaded]
    rfl
  have agrees :
      (slot.initializeWith keys value).loaded = true →
        filling.Agrees (keys, value) := by
    intro loaded
    obtain ⟨wasLoaded, same⟩ := initializeWith_loaded_iff.mp loaded
    exact (matches_iff wasLoaded).mp same
  constructor
  · rw [initializeWith_loaded_iff, List.forall_mem_append,
      List.forall_mem_singleton, ← fits.loaded_iff]
    exact and_congr_right matches_iff
  · intro loaded
    rw [initializeWith_keys?, (agrees loaded).1]
  · intro loaded
    rw [initializeWith_parentValue]
    exact (agrees loaded).2
  · intro loaded
    rw [initializeWith_held_of_loaded loaded]
    exact fits.held (initializeWith_loaded_iff.mp loaded).1

theorem keys?_of_sharedKeys {first : Slot} {batch : List Slot} {place : Nat}
    (shared : sharedKeys first batch = .ok keys)
    (member : batch[place]? = some slot) :
    slot.keys? = some keys := by
  obtain ⟨_, alike⟩ := sharedKeys_eq_ok_iff.mp shared
  exact (alike slot (List.mem_of_getElem? member)).2

/-- What a batch makes of the slot at a place: it is loaded, and keeps its join
columns and its key. -/
theorem exists_assign_of_loadBatch {σ : Type} {schema : Schema}
    {executor : Executor σ} {context : Context} {before after : σ}
    {first next : Slot} {batch loaded : List Slot} {place : Nat}
    (ran :
      Returns (loadBatch schema executor context first batch)
        before loaded after)
    (member : batch[place]? = some slot)
    (assigned : loaded[place]? = some next) :
    ∃ found, next = slot.assign found := by
  obtain ⟨_, index, _, _, _, _, rfl⟩ := returns_loadBatch_iff.mp ran
  rw [List.getElem?_map, member] at assigned
  exact ⟨index.all slot.parentValue, (Option.some.inj assigned).symm⟩

theorem HasHistory.isBlank_or_loaded {filling? : Option Filling}
    {since : List (RelationKeys × Value)}
    (history : slot.HasHistory filling? since) :
    slot.IsBlank ∨ slot.loaded = true := by
  induction history with
  | fresh kind related => exact Or.inl ⟨rfl, rfl⟩
  | single related found? notMany => exact Or.inr rfl
  | many related found => exact Or.inr rfl
  | @initialized slot _ _ _ keys value inductionHypothesis =>
      rcases inductionHypothesis with blank | loaded
      · exact Or.inl (isBlank_initializeWith keys value blank)
      · rcases slot.initializeWith_keeps_or_drops keys value with
          ⟨_, kept⟩ | ⟨_, dropped⟩
        · rw [kept]
          exact Or.inr loaded
        · rw [dropped]
          exact Or.inl ⟨rfl, rfl⟩
  | refused _ _ _ inductionHypothesis => exact inductionHypothesis
  | filled _ member _ ran assigned _ =>
      obtain ⟨found, rfl⟩ := exists_assign_of_loadBatch ran member assigned
      exact Or.inr rfl

theorem HasHistory.fits {filling? : Option Filling}
    {since : List (RelationKeys × Value)}
    (history : slot.HasHistory filling? since) :
    ∀ filling ∈ filling?, filling.Fits since slot := by
  induction history with
  | fresh kind related => simp
  | single related found? notMany => simp
  | many related found => simp
  | initialized _ keys value inductionHypothesis =>
      intro filling last
      exact (inductionHypothesis filling last).initializeWith keys value
  | refused _ _ _ inductionHypothesis => exact inductionHypothesis
  | filled _ member shared ran assigned _ =>
      intro filling last
      obtain rfl := Option.some.inj last
      obtain ⟨found, rfl⟩ := exists_assign_of_loadBatch ran member assigned
      constructor
      · simp [assign]
      · intro _
        have kept := keys?_of_sharedKeys shared member
        exact kept
      · intro _
        rfl
      · intro _
        rfl

/-- Whatever was done to a slot, it has a value exactly when it is loaded and
holds nothing when it is not.  Once a batch has filled it, it is loaded exactly
as long as all join columns and keys that it was given agree with that batch;
then it still has them and holds what the batch found. -/
theorem HasHistory.loaded_while_current {filling? : Option Filling}
    {since : List (RelationKeys × Value)}
    (history : slot.HasHistory filling? since) :
    (slot.value? = none ↔ slot.loaded = false) ∧
      (slot.loaded = false → slot.held = []) ∧
      ∀ filling, filling? = some filling →
        (slot.loaded = true ↔
          ∀ given ∈ since, filling.Agrees given) ∧
        (slot.loaded = true →
          slot.keys? = some filling.keys ∧
            slot.parentValue.indexKey = filling.parentValue.indexKey ∧
            slot.held = filling.found) := by
  refine ⟨?_, ?_, ?_⟩
  · cases loaded : slot.loaded <;> simp [value?, loaded]
  · intro unloaded
    rcases history.isBlank_or_loaded with blank | loaded
    · exact blank.2
    · rw [unloaded] at loaded
      cases loaded
  · intro filling last
    have fits := history.fits filling last
    exact ⟨fits.loaded_iff, fun loaded =>
      ⟨fits.keys loaded, (fits.key loaded).symm, fits.held loaded⟩⟩

end Slot

/-! ## The bar of a foo -/

def barKeys : RelationKeys :=
  ⟨"bar", .hasOne, "foos", "id", "bars", "foo_id"⟩

/-- The bar of the first foo, found by a batch for the slot alone. -/
def foundBar : Slot :=
  ⟨.hasOne, 1, some barKeys, .int 1, true, [barWith false []]⟩

set_option maxRecDepth 4000 in
theorem hasHistory_foundBar :
    foundBar.HasHistory
      (some ⟨barKeys, .int 1, [barWith false []]⟩) [] := by
  have bare :=
    (Slot.HasHistory.fresh .hasOne 1).initialized barKeys (.int 1)
  have answer :
      Returns
        (loadBatch pairSchema answersInTurn {}
          ((Slot.fresh .hasOne 1).initializeWith barKeys (.int 1))
          [(Slot.fresh .hasOne 1).initializeWith barKeys (.int 1)])
        [[⟨["id", "foo_id"], [.int 10, .int 1]⟩]] [foundBar] [] := by
    rfl
  have place : [foundBar][0]? = some foundBar := rfl
  exact bare.filled (by rfl) (by rfl) answer place

/-- The slot stays loaded when it is given its key as a text. -/
theorem loaded_while_current_foundBar :
    (foundBar.initializeWith barKeys (.text "1")).HasHistory
        (some ⟨barKeys, .int 1, [barWith false []]⟩)
        [(barKeys, .text "1")] ∧
      (let slot := foundBar.initializeWith barKeys (.text "1")
      let filling : Slot.Filling := ⟨barKeys, .int 1, [barWith false []]⟩
      (slot.value? = none ↔ slot.loaded = false) ∧
        (slot.loaded = false → slot.held = []) ∧
        ∀ last, some filling = some last →
          (slot.loaded = true ↔
            ∀ given ∈ [(barKeys, .text "1")], last.Agrees given) ∧
          (slot.loaded = true →
            slot.keys? = some last.keys ∧
              slot.parentValue.indexKey = last.parentValue.indexKey ∧
              slot.held = last.found)) := by
  have history :=
    hasHistory_foundBar.initialized barKeys (.text "1")
  exact ⟨history, Slot.HasHistory.loaded_while_current history⟩

end RecordQuery
