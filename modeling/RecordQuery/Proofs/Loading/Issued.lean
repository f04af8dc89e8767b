import Mathlib.Data.List.ReduceOption
import RecordQuery.Proofs.Loading.Missing
import RecordQuery.Proofs.Loading.Statements

/-!
# The statements that loading a path runs

Loading a path runs at most one statement for each segment, however many
instances there are.  A segment has one exactly when some instance that it is
loaded for has a key other than NULL.  These instances are the working set that
the earlier segments lead to, or, when only what is missing is loaded, those of
them whose slot is not loaded once it has its join columns.
-/

namespace RecordQuery

variable {σ : Type} {schema : Schema} {executor : Executor σ}
variable {context : Context} {before after : σ}

/-! ## The members of a working set that are loaded -/

/-- Whether a relationship is loaded after it was given its join columns and
key. -/
def Instance.staysLoaded (schema : Schema) (name : String)
    (self : Instance) : Bool :=
  match self.initializeNamed schema name with
  | .ok next => (next.slot? schema name).any Slot.loaded
  | .error _ => false

/-- The members of a working set that a segment is loaded for. -/
def membersToLoad (schema : Schema) (onlyMissing : Bool) (segment : String)
    (working : List Instance) : List Instance :=
  if onlyMissing then
    working.filter fun member => !member.staysLoaded schema segment
  else working

/-- Whether an instance is related to the rows of a model through a column of
theirs. -/
def Instance.RelatesBy (schema : Schema) (segment : String) (related : Nat)
    (column : String) (member : Instance) : Prop :=
  ∃ slot keys,
    member.slot? schema segment = some slot ∧ slot.related = related ∧
      member.joinKeys? schema segment = some keys ∧ keys.relatedKey = column

/-- What a segment runs for its working set: a statement when some member that
it is loaded for has a key other than NULL, which asks for these keys, each of
them once, and else nothing. -/
structure IssuedFor (schema : Schema) (dialect : Dialect) (context : Context)
    (onlyMissing : Bool) (segment : String) (working : List Instance)
    (statement? : Option Statement) : Prop where
  issued_iff : statement?.isSome = true ↔
    ∃ member ∈ membersToLoad schema onlyMissing segment working,
      ∃ key, member.parentKey? schema segment = some key ∧
        key.isNull = false
  asks : ∀ statement ∈ statement?,
    ∃ related column,
      (∀ member ∈ membersToLoad schema onlyMissing segment working,
        member.RelatesBy schema segment related column) ∧
      statement.AsksFor schema dialect context related column
        (firstOfEachKey
          ((membersToLoad schema onlyMissing segment working).filterMap
            (Instance.parentKey? schema segment)))

/-- Whether a slot is that of a member, given its join columns and key. -/
def Instance.Prepares (schema : Schema) (segment : String)
    (member : Instance) (slot : Slot) : Prop :=
  ∃ next, member.initializeNamed schema segment = .ok next ∧
    next.slot? schema segment = some slot

theorem Instance.Prepares.staysLoaded {segment : String} {member : Instance}
    {slot : Slot} (prepares : member.Prepares schema segment slot) :
    member.staysLoaded schema segment = slot.loaded := by
  obtain ⟨next, done, found⟩ := prepares
  rw [Instance.staysLoaded, done]
  simp [found]

theorem Instance.Prepares.parentKey? {segment : String} {member : Instance}
    {slot : Slot} (prepares : member.Prepares schema segment slot) :
    member.parentKey? schema segment = some slot.parentValue := by
  obtain ⟨next, done, found⟩ := prepares
  obtain ⟨keys, value, old, _, read, _, rfl⟩ :=
    Instance.eq_initializeWith_of_initializeNamed done found
  rw [read, Slot.initializeWith_parentValue]

theorem Instance.Prepares.relatesBy {segment : String} {member : Instance}
    {slot : Slot} {keys : RelationKeys}
    (prepares : member.Prepares schema segment slot)
    (given : slot.keys? = some keys) :
    member.RelatesBy schema segment slot.related keys.relatedKey := by
  obtain ⟨next, done, found⟩ := prepares
  obtain ⟨own, value, old, joined, _, oldFound, rfl⟩ :=
    Instance.eq_initializeWith_of_initializeNamed done found
  rw [Slot.initializeWith_keys?] at given
  obtain rfl := Option.some.inj given
  exact ⟨old, own, oldFound, (Slot.initializeWith_related old own value).symm,
    joined, rfl⟩

/-- The pending slots are those of the members that are to be loaded. -/
theorem forall₂_membersToLoad {onlyMissing : Bool} {segment : String}
    {working initialized : List Instance}
    (prepared :
      List.Forall₂ (fun row next =>
        row.initializeNamed schema segment = .ok next)
        working initialized) :
    List.Forall₂ (Instance.Prepares schema segment)
      (membersToLoad schema onlyMissing segment working)
      ((segmentSlots schema segment initialized).filter
        (isPending onlyMissing)) := by
  have slotted := forall₂_segmentSlots_iff.mpr
    ⟨exists_slot?_of_prepared prepared, rfl⟩
  have prepares :
      List.Forall₂ (Instance.Prepares schema segment) working
        (segmentSlots schema segment initialized) :=
    forall₂_exists_between_iff.mpr ⟨initialized, prepared, slotted⟩
  cases onlyMissing with
  | false =>
      rw [filter_isPending_false]
      exact prepares
  | true =>
      refine List.rel_filter ?_ prepares
      intro member slot own
      simp [isPending, own.staysLoaded]

/-- What loading the slots of a working set asks for. -/
theorem issuedFor_of_asked {onlyMissing : Bool} {segment : String}
    {working initialized : List Instance} {related : Nat} {column : String}
    {statement? : Option Statement}
    (prepared :
      List.Forall₂ (fun row next =>
        row.initializeNamed schema segment = .ok next)
        working initialized)
    (shared : ∀ slot ∈ (segmentSlots schema segment initialized).filter
        (isPending onlyMissing),
      slot.related = related ∧
        ∃ keys, slot.keys? = some keys ∧ keys.relatedKey = column)
    (asked :
      Asked schema executor.dialect context related column
        (((segmentSlots schema segment initialized).filter
          (isPending onlyMissing)).map Slot.parentValue) statement?) :
    IssuedFor schema executor.dialect context onlyMissing segment working
      statement? := by
  have members :
      List.Forall₂ (Instance.Prepares schema segment)
        (membersToLoad schema onlyMissing segment working) _ :=
    forall₂_membersToLoad prepared
  have sameKeys :=
    filterMap_eq_map_of_forall₂
      (List.Forall₂.imp (fun _ _ prepares => prepares.parentKey?) members)
  rw [← sameKeys] at asked
  have someKey :
      (∃ key ∈ (membersToLoad schema onlyMissing segment working).filterMap
          (Instance.parentKey? schema segment), key.isNull = false) ↔
        ∃ member ∈ membersToLoad schema onlyMissing segment working,
          ∃ key, member.parentKey? schema segment = some key ∧
            key.isNull = false := by
    simp only [List.mem_filterMap]
    constructor
    · rintro ⟨key, ⟨member, inside, read⟩, present⟩
      exact ⟨member, inside, key, read, present⟩
    · rintro ⟨member, inside, key, read, present⟩
      exact ⟨key, ⟨member, inside, read⟩, present⟩
  cases statement? with
  | none =>
      refine ⟨?_, fun statement absurdMember => by cases absurdMember⟩
      rw [← someKey]
      refine iff_of_false (by simp) ?_
      rintro ⟨key, member, present⟩
      rw [asked key member] at present
      cases present
  | some statement =>
      obtain ⟨present, asks⟩ := asked
      refine ⟨iff_of_true rfl (someKey.mp present), ?_⟩
      rintro _ ⟨⟩
      refine ⟨related, column, ?_, asks⟩
      intro member inside
      obtain ⟨slot, slotInside, prepares⟩ :=
        exists_right_of_forall₂ members inside
      obtain ⟨rfl, keys, given, rfl⟩ := shared slot slotInside
      exact prepares.relatesBy given

/-! ## The statements of a path -/

/-- What loading a path runs, one entry for each segment. -/
structure IssuedAlong (schema : Schema) (executor : Executor σ)
    (context : Context) (onlyMissing : Bool) (path : String)
    (segments : List String) (models : List Instance) (before : σ)
    (issued : List (Option Statement)) : Prop where
  length_eq : issued.length = segments.length
  /-- The entry of a segment is issued for what the models lead to once the
  segments before it are loaded. -/
  at_segment : ∀ earlier segment later,
    segments = earlier ++ segment :: later →
      ∃ statement? middle between,
        issued[earlier.length]? = some statement? ∧
          Completes (loadSegments schema executor context onlyMissing path
            earlier models) before middle between ∧
          IssuedFor schema executor.dialect context onlyMissing segment
            (reached schema earlier middle) statement?

theorem completes_of_nil {onlyMissing : Bool} {path : String}
    (segments : List String) :
    Completes (loadSegments schema executor context onlyMissing path segments
      []) before [] before := by
  cases segments with
  | nil => exact completes_nil_iff.mpr ⟨rfl, rfl⟩
  | cons segment rest =>
      exact completes_cons_iff.mpr (Or.inl ⟨rfl, rfl, rfl⟩)

theorem membersToLoad_nil (onlyMissing : Bool) (segment : String) :
    membersToLoad schema onlyMissing segment [] = [] := by
  cases onlyMissing <;> rfl

/-- Nothing is run where there are no instances. -/
theorem issuedAlong_of_nil {onlyMissing : Bool} {path : String}
    (segments : List String) :
    IssuedAlong schema executor context onlyMissing path segments [] before
      (List.replicate segments.length none) := by
  refine ⟨List.length_replicate, ?_⟩
  rintro earlier segment later rfl
  refine ⟨none, [], before, ?_, completes_of_nil earlier, ?_⟩
  · rw [List.getElem?_replicate, if_pos (by simp)]
  · rw [reached_nil]
    refine ⟨?_, fun statement absurdMember => by cases absurdMember⟩
    rw [membersToLoad_nil]
    simp

/-- One segment in front: its own statement comes first, and each later one is
for what the slots of the segment hold. -/
theorem IssuedAlong.cons {onlyMissing : Bool} {path segment : String}
    {rest : List String} {working initialized : List Instance}
    {loaded : List Slot} {between : σ} {issued : List (Option Statement)}
    {statement? : Option Statement} (seen : working ≠ [])
    (prepared :
      List.Forall₂ (fun row next =>
        row.initializeNamed schema segment = .ok next)
        working initialized)
    (slotsLoaded :
      Returns
        (loadSlots schema executor context onlyMissing path segment
          (segmentSlots schema segment initialized))
        before loaded between)
    (own :
      IssuedFor schema executor.dialect context onlyMissing segment working
        statement?)
    (along :
      IssuedAlong schema executor context onlyMissing path rest
        (loaded.flatMap Slot.held) between issued) :
    IssuedAlong schema executor context onlyMissing path (segment :: rest)
      working before (statement? :: issued) := by
  refine ⟨by rw [List.length_cons, List.length_cons, along.length_eq], ?_⟩
  intro earlier next later split
  rcases List.cons_eq_append_iff.mp split with
    ⟨rfl, first⟩ | ⟨others, rfl, tail⟩
  · obtain ⟨rfl, rfl⟩ := List.cons.inj first
    exact ⟨statement?, working, before, rfl,
      completes_nil_iff.mpr ⟨rfl, rfl⟩, own⟩
  · obtain ⟨laterStatement?, held, reachedAt, entry, completed, issuedAt⟩ :=
      along.at_segment others next later tail
    have sameSlots :=
      (forall₂_filledBy_of_loadSlots batch_finds_fresh
        slotsLoaded).length_eq.symm
    have sameHeld :=
      (loadedAs_findsOrKeeps_of_completes batch_finds_fresh others
        completed).length_eq.symm
    refine ⟨laterStatement?,
      putSlots schema segment initialized (refill loaded held), reachedAt,
      entry, ?_, ?_⟩
    · exact completes_cons_iff.mpr (Or.inr ⟨seen, initialized, loaded, held,
        between, prepared, slotsLoaded, completed, rfl⟩)
    · rw [reached_putSlots_refill prepared sameSlots sameHeld]
      exact issuedAt

/-- Loading a path can be repeated with a record, which shows what was run for
each segment. -/
theorem exists_issuedAlong_of_completes {onlyMissing : Bool} {path : String}
    (segments : List String) :
    ∀ {models result : List Instance} {before after : σ},
      Completes (loadSegments schema executor context onlyMissing path
        segments models) before result after →
      ∃ issued,
        IssuedAlong schema executor context onlyMissing path segments models
            before issued ∧
          ∀ log, Completes
            (loadSegments schema executor.recorded context onlyMissing path
              segments models)
            (before, log) result (after, log ++ issued.reduceOption) := by
  induction segments with
  | nil =>
      intro models result before after completed
      obtain ⟨rfl, rfl⟩ := completes_nil_iff.mp completed
      refine ⟨[], ⟨rfl, ?_⟩, fun log => completes_nil_iff.mpr ⟨rfl, ?_⟩⟩
      · intro earlier segment later split
        simp at split
      · simp
  | cons segment rest inductionHypothesis =>
      intro models result before after completed
      rcases completes_cons_iff.mp completed with
        ⟨rfl, rfl, rfl⟩ | ⟨seen, initialized, loaded, held, between, prepared,
          slotsLoaded, restCompleted, same⟩
      · refine ⟨_, issuedAlong_of_nil _, fun log => ?_⟩
        rw [List.reduceOption_replicate_none, List.append_nil]
        exact completes_of_nil _
      · obtain ⟨related, column, statement?, shared, asked, recorded⟩ :=
          returns_loadSlots_recorded slotsLoaded
        obtain ⟨issued, along, restRecorded⟩ :=
          inductionHypothesis restCompleted
        refine ⟨statement? :: issued,
          along.cons seen prepared slotsLoaded
            (issuedFor_of_asked prepared shared asked), fun log => ?_⟩
        have ended :
            log ++ (statement? :: issued).reduceOption =
              (log ++ statement?.toList) ++ issued.reduceOption := by
          cases statement? <;> simp
        rw [ended]
        exact completes_cons_iff.mpr (Or.inr ⟨seen, initialized, loaded, held,
          _, prepared, recorded log, restRecorded _, same⟩)

/-- Loading a path successfully runs at most one statement for each of its
segments.  Repeating it with a record gives the same instances and the same
state, and the record holds the statements that the segments are issued, in
their order. -/
theorem loadPath_issues {onlyMissing : Bool} {path : String}
    {models result : List Instance}
    (completed :
      Completes (loadPath schema executor context onlyMissing path models)
        before result after) :
    ∃ segments issued,
      pathSegments path = .ok segments ∧
        IssuedAlong schema executor context onlyMissing path segments models
          before issued ∧
        Completes
          (loadPath schema executor.recorded context onlyMissing path models)
          (before, []) result (after, issued.reduceOption) ∧
        issued.reduceOption.length ≤ segments.length := by
  obtain ⟨segments, read, ran⟩ := completes_loadPath_iff.mp completed
  obtain ⟨issued, along, recorded⟩ :=
    exists_issuedAlong_of_completes segments ran
  refine ⟨segments, issued, read, along,
    completes_loadPath_iff.mpr ⟨segments, read, recorded []⟩, ?_⟩
  rw [← along.length_eq]
  exact List.reduceOption_length_le issued

/-- The bar of the first foo is loaded, so that only that of the second one is
asked for; then the foos of both bars are asked for at once. -/
theorem loadPath_issues_someFoos :
    Completes
        (loadPath pairSchema answersInTurn {} true "bar.foo" someFoos)
        missingAnswers allFoos [] ∧
      ∃ issued,
        IssuedAlong pairSchema answersInTurn {} true "bar.foo"
            ["bar", "foo"] someFoos missingAnswers issued ∧
          Completes
            (loadPath pairSchema answersInTurn.recorded {} true "bar.foo"
              someFoos)
            (missingAnswers, []) allFoos ([], issued.reduceOption) ∧
          issued.reduceOption.map (fun statement =>
              (statement.sql, statement.bindings.map Value.indexKey)) =
            [("SELECT \"bars\".* FROM \"bars\" WHERE \"foo_id\" IN (?)",
                [some "3"]),
              ("SELECT \"foos\".* FROM \"foos\" WHERE \"id\" IN (?, ?)",
                [some "1", some "3"])] := by
  refine ⟨completes_someFoos, ?_⟩
  obtain ⟨segments, issued, read, along, recorded, -⟩ :=
    loadPath_issues completes_someFoos
  have parts : pathSegments "bar.foo" = .ok ["bar", "foo"] := rfl
  rw [parts, Except.ok.injEq] at read
  subst read
  have log : issued.reduceOption =
      ((loadPath pairSchema answersInTurn.recorded {} true "bar.foo"
        someFoos).run (missingAnswers, [])).2.2 :=
    congrArg (fun outcome => outcome.2.2) recorded.symm
  refine ⟨issued, along, recorded, ?_⟩
  rw [log]
  decide +kernel

end RecordQuery
