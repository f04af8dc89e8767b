import Mathlib.Data.List.Induction
import RecordQuery.Proofs.Loading.Reach

/-!
# How far the paths of a query are loaded

The paths of a query are loaded one after another on the same instances.  A
path whose first segment came before replaces what that segment holds, so that
of all paths with one first segment the last decides: a step of another one is
loaded when the last takes it too, and else only where it starts nowhere.
-/

namespace RecordQuery

variable {σ : Type} {schema : Schema} {executor : Executor σ}
variable {context : Context} {before after : σ}

/-! ## One path -/

theorem slot?_of_loadedAs {finds : Slot → List Instance → Prop}
    {segment : String} {path : List String} {owner result : Instance}
    (elsewhere : path.head? ≠ some segment)
    (loaded : LoadedAs schema finds path owner result) :
    result.slot? schema segment = owner.slot? schema segment := by
  cases path with
  | nil =>
      obtain rfl : owner = result := loaded
      rfl
  | cons first rest =>
      have apart : segment ≠ first := by
        rintro rfl
        exact elsewhere rfl
      obtain ⟨initialized, slot, found, held, done, _, _, _, rfl⟩ := loaded
      obtain ⟨_, _, _, _, _, _, _, _, rfl⟩ :=
        Instance.initializeNamed_eq_ok_iff.mp done
      rw [Instance.slot?_setSlot_of_ne _ apart,
        Instance.slot?_setSlot_of_ne _ apart]

/-- How far a path is loaded on instances whose first segment was last loaded
for another path. -/
theorem loadedAlong_iff_of_loadedUnder {first : String}
    {rest path : List String} {models : List Instance}
    (under : ∀ model ∈ models, LoadedUnder schema first rest model) :
    LoadedAlong schema (first :: path) models ↔
      ∀ earlier segment later,
        first :: path = earlier ++ segment :: later →
          earlier ++ [segment] <+: first :: rest ∨
            reached schema earlier models = [] := by
  unfold LoadedAlong
  refine forall_congr' fun earlier => forall_congr' fun segment =>
    forall_congr' fun later => imp_congr_right fun split => ?_
  cases earlier with
  | nil =>
      obtain ⟨rfl, _⟩ := List.cons.inj split
      refine iff_of_true ?_ (Or.inl ⟨rest, rfl⟩)
      intro model member
      exact (under model member).hasLoaded
  | cons head others =>
      obtain ⟨rfl, _⟩ := List.cons.inj split
      rw [reached, hasLoaded_reached_iff others (loadedOnly_of_mem_heldIn under),
        List.cons_append, List.cons_prefix_cons]
      simp

/-! ## Paths in order -/

theorem returns_loadPaths_nil_iff {working result : List Instance} :
    Returns (loadPaths schema executor context [] working)
        before result after ↔
      working = result ∧ before = after :=
  Returns.pure_iff

theorem returns_loadPaths_cons_iff {path : String} {rest : List String}
    {working result : List Instance} :
    Returns (loadPaths schema executor context (path :: rest) working)
        before result after ↔
      ∃ segments loaded between,
        pathSegments path = .ok segments ∧
          Completes (loadSegments schema executor context false path segments
            working) before loaded between ∧
          Returns (loadPaths schema executor context rest loaded)
            between result after := by
  rw [loadPaths, Returns.bind_iff]
  constructor
  · rintro ⟨⟨loaded, error?⟩, between, ran, later⟩
    cases error? with
    | some error => exact (Returns.throw_iff.mp later).elim
    | none =>
        obtain ⟨segments, read, completed⟩ :=
          completes_loadPath_iff.mp (Returns.liftState_iff.mp ran)
        exact ⟨segments, loaded, between, read, completed, later⟩
  · rintro ⟨segments, loaded, between, read, completed, later⟩
    exact ⟨(loaded, none), between,
      Returns.liftState_iff.mpr
        (completes_loadPath_iff.mpr ⟨segments, read, completed⟩), later⟩

theorem returns_loadPaths_append {later : List String} :
    ∀ {earlier : List String} {working result : List Instance}
        {before after : σ},
      Returns (loadPaths schema executor context (earlier ++ later) working)
          before result after →
        ∃ middle between,
          Returns (loadPaths schema executor context earlier working)
            before middle between ∧
          Returns (loadPaths schema executor context later middle)
            between result after
  | [], working, _, before, _, ran =>
      ⟨working, before, returns_loadPaths_nil_iff.mpr ⟨rfl, rfl⟩, ran⟩
  | path :: rest, _, _, _, _, ran => by
      obtain ⟨segments, loaded, between, read, completed, others⟩ :=
        returns_loadPaths_cons_iff.mp ran
      obtain ⟨middle, beyond, restRan, laterRan⟩ :=
        returns_loadPaths_append others
      exact ⟨middle, beyond,
        returns_loadPaths_cons_iff.mpr
          ⟨segments, loaded, between, read, completed, restRan⟩,
        laterRan⟩

theorem exists_pathSegments_of_returns {paths : List String} :
    ∀ {working result : List Instance} {before after : σ},
      Returns (loadPaths schema executor context paths working)
          before result after →
        ∀ path ∈ paths, ∃ segments, pathSegments path = .ok segments := by
  induction paths with
  | nil =>
      intro working result before after _ path member
      cases member
  | cons first rest inductionHypothesis =>
      intro working result before after ran path member
      obtain ⟨segments, loaded, between, read, _, others⟩ :=
        returns_loadPaths_cons_iff.mp ran
      rcases List.mem_cons.mp member with rfl | later
      · exact ⟨segments, read⟩
      · exact inductionHypothesis others path later

def pathHead? (path : String) : Option String :=
  match pathSegments path with
  | .ok segments => segments.head?
  | .error _ => none

theorem pathHead?_eq {path : String} {segments : List String}
    (read : pathSegments path = .ok segments) :
    pathHead? path = segments.head? := by
  rw [pathHead?, read]

theorem loadedUnder_of_returns {segment : String} {rest : List String}
    {paths : List String} :
    ∀ {working result : List Instance} {before after : σ},
      Returns (loadPaths schema executor context paths working)
          before result after →
        (∀ path ∈ paths, pathHead? path ≠ some segment) →
        (∀ model ∈ working, LoadedUnder schema segment rest model) →
        ∀ model ∈ result, LoadedUnder schema segment rest model := by
  induction paths with
  | nil =>
      intro working result before after ran _ under
      obtain ⟨rfl, _⟩ := returns_loadPaths_nil_iff.mp ran
      exact under
  | cons path others inductionHypothesis =>
      intro working result before after ran elsewhere under
      obtain ⟨segments, loaded, between, read, completed, othersRan⟩ :=
        returns_loadPaths_cons_iff.mp ran
      refine inductionHypothesis othersRan
        (fun other member =>
          elsewhere other (List.mem_cons_of_mem _ member)) ?_
      intro model member
      obtain ⟨earlier, earlierMember, modelLoaded⟩ :=
        exists_left_of_forall₂
          (loadedAs_of_completes batch_finds_fresh segments completed) member
      have away : segments.head? ≠ some segment := by
        rw [← pathHead?_eq read]
        exact elsewhere path List.mem_cons_self
      rw [LoadedUnder, slot?_of_loadedAs away modelLoaded]
      exact under earlier earlierMember

/-- Among the paths there is a last one that starts as a given one does. -/
theorem exists_last_pathHead? {path : String} {paths : List String}
    (member : path ∈ paths) :
    ∃ earlier last later,
      paths = earlier ++ last :: later ∧
        pathHead? last = pathHead? path ∧
        ∀ other ∈ later, pathHead? other ≠ pathHead? path := by
  induction paths using List.reverseRecOn with
  | nil => cases member
  | append_singleton others final inductionHypothesis =>
      by_cases same : pathHead? final = pathHead? path
      · exact ⟨others, final, [], rfl, same, fun _ none => by cases none⟩
      · rcases List.mem_append.mp member with before | here
        · obtain ⟨earlier, last, later, rfl, starts, apart⟩ :=
            inductionHypothesis before
          refine ⟨earlier, last, later ++ [final], by simp, starts, ?_⟩
          intro other otherMember
          rcases List.mem_append.mp otherMember with inside | end_
          · exact apart other inside
          · obtain rfl := List.mem_singleton.mp end_
            exact same
        · obtain rfl := List.mem_singleton.mp here
          exact (same rfl).elim

namespace ModelQuery

/-- After a query is fetched each of its paths is loaded as far as the last
path with the same first segment goes along with it: everything that the path
reaches is loaded exactly when each of its steps either is one of that last
path or starts nowhere. -/
theorem get_loadedAlong_iff {typed : ModelQuery} {models : List Instance}
    (fetched : Returns (typed.get schema executor) before models after) :
    ∀ path ∈ typed.eager, ∃ earlier last later segments lastSegments,
      typed.eager = earlier ++ last :: later ∧
        pathSegments path = .ok segments ∧
        pathSegments last = .ok lastSegments ∧
        lastSegments.head? = segments.head? ∧
        (∀ other ∈ later, pathHead? other ≠ segments.head?) ∧
        (LoadedAlong schema segments models ↔
          ∀ start segment rest, segments = start ++ segment :: rest →
            start ++ [segment] <+: lastSegments ∨
              reached schema start models = []) := by
  intro path member
  obtain ⟨bare, between, _, ran⟩ := Returns.bind_iff.mp fetched
  obtain ⟨segments, read⟩ := exists_pathSegments_of_returns ran path member
  obtain ⟨earlier, last, later, split, starts, apart⟩ :=
    exists_last_pathHead? member
  have lastMember : last ∈ typed.eager := by
    rw [split]
    exact List.mem_append_right _ List.mem_cons_self
  obtain ⟨lastSegments, lastRead⟩ :=
    exists_pathSegments_of_returns ran last lastMember
  rw [pathHead?_eq read] at starts apart
  rw [pathHead?_eq lastRead] at starts
  refine ⟨earlier, last, later, segments, lastSegments, split, read,
    lastRead, starts, apart, ?_⟩
  cases segments with
  | nil =>
      refine iff_of_true ?_ ?_
      · intro start segment rest impossible
        simp at impossible
      · intro start segment rest impossible
        simp at impossible
  | cons first rest =>
      obtain ⟨lastRest, rfl⟩ := List.head?_eq_some_iff.mp starts
      rw [split] at ran
      obtain ⟨middle, _, _, lastRan⟩ := returns_loadPaths_append ran
      obtain ⟨_, loaded, _, lastRead', completed, laterRan⟩ :=
        returns_loadPaths_cons_iff.mp lastRan
      rw [lastRead] at lastRead'
      obtain rfl := Except.ok.inj lastRead'
      refine loadedAlong_iff_of_loadedUnder
        (loadedUnder_of_returns laterRan apart ?_)
      intro model modelMember
      obtain ⟨_, _, modelLoaded⟩ :=
        exists_left_of_forall₂
          (loadedAs_of_completes batch_finds_fresh _ completed) modelMember
      exact loadedUnder_of_loadedAs (loadedOnly_of_loadedAs lastRest)
        modelLoaded

end ModelQuery

/-! ## A path that a later one takes back -/

def pairSchema : Schema where
  models :=
    [{ name := "Foo"
       table := "foos"
       fields :=
         [{ name := "id"
            column := "id"
            type := .integer ⟨true, 64⟩
            primary := true }]
       relations := [{ name := "bar", kind := .hasOne, related := 1 }] },
      { name := "Bar"
        table := "bars"
        fields :=
          [{ name := "id"
             column := "id"
             type := .integer ⟨true, 64⟩
             primary := true },
            { name := "foo_id"
              column := "foo_id"
              type := .integer ⟨true, 64⟩ }]
        relations :=
          [{ name := "foo", kind := .belongsTo, related := 0 }] }]

/-- Answers statements with the given rows, one list after another. -/
def answersInTurn : Executor (List (List Row)) where
  dialect := .sqlite
  query := fun _ _ _ => do
    match ← get with
    | [] => throw (.other "no answer left")
    | rows :: rest =>
        set rest
        pure rows
  execute := fun _ _ _ => pure 0
  note := fun _ answers => answers

/-- The first model with two paths, the second of which is a part of the
other. -/
def longThenShort : ModelQuery :=
  (ModelQuery.ofModel pairSchema 0).applyAll pairSchema
    [.load "bar.foo", .load "bar"]

/-- The rows for the query, for both segments of the first path, and for the
segment of the second. -/
def pairAnswers : List (List Row) :=
  let foo : Row := ⟨["id"], [.int 1]⟩
  let bar : Row := ⟨["id", "foo_id"], [.int 10, .int 1]⟩
  [[foo], [bar], [foo], [bar]]

def fooWith (loaded : Bool) (bars : List Instance) : Instance :=
  ⟨0, [.int 1],
    [⟨.hasOne, 1,
      some ⟨"bar", .hasOne, "foos", "id", "bars", "foo_id"⟩,
      .int 1, loaded, bars⟩]⟩

def barWith (loaded : Bool) (foos : List Instance) : Instance :=
  ⟨1, [.int 10, .int 1],
    [⟨.belongsTo, 0,
      some ⟨"foo", .belongsTo, "bars", "foo_id", "foos", "id"⟩,
      .int 1, loaded, foos⟩]⟩

set_option maxRecDepth 4000 in
/-- Loading the second path fetches the related instance anew, without what
the first path had loaded on it. -/
theorem returns_longThenShort :
    Returns (longThenShort.get pairSchema answersInTurn) pairAnswers
      [fooWith true [barWith false []]] [] := by
  refine Returns.bind_iff.mpr
    ⟨[fooWith false []], pairAnswers.drop 1, by rfl, ?_⟩
  refine returns_loadPaths_cons_iff.mpr
    ⟨["bar", "foo"], [fooWith true [barWith true [fooWith false []]]],
      pairAnswers.drop 3, rfl, by rfl, ?_⟩
  exact returns_loadPaths_cons_iff.mpr
    ⟨["bar"], [fooWith true [barWith false []]], [], rfl, by rfl,
      returns_loadPaths_nil_iff.mpr ⟨rfl, rfl⟩⟩

theorem get_loadedAlong_iff_longThenShort :
    Returns (longThenShort.get pairSchema answersInTurn) pairAnswers
        [fooWith true [barWith false []]] [] ∧
      ∀ path ∈ longThenShort.eager,
        ∃ earlier last later segments lastSegments,
          longThenShort.eager = earlier ++ last :: later ∧
            pathSegments path = .ok segments ∧
            pathSegments last = .ok lastSegments ∧
            lastSegments.head? = segments.head? ∧
            (∀ other ∈ later, pathHead? other ≠ segments.head?) ∧
            (LoadedAlong pairSchema segments
                [fooWith true [barWith false []]] ↔
              ∀ start segment rest, segments = start ++ segment :: rest →
                start ++ [segment] <+: lastSegments ∨
                  reached pairSchema start
                    [fooWith true [barWith false []]] = []) :=
  ⟨returns_longThenShort,
    ModelQuery.get_loadedAlong_iff returns_longThenShort⟩

/-- The first path is asked for and the query succeeds, but the second segment
of that path is not loaded. -/
theorem longThenShort_not_loadedAlong :
    Returns (longThenShort.get pairSchema answersInTurn) pairAnswers
        [fooWith true [barWith false []]] [] ∧
      "bar.foo" ∈ longThenShort.eager ∧
      pathSegments "bar.foo" = .ok ["bar", "foo"] ∧
      ¬LoadedAlong pairSchema ["bar", "foo"]
        [fooWith true [barWith false []]] := by
  refine ⟨returns_longThenShort, List.mem_cons_self, rfl, ?_⟩
  intro along
  obtain ⟨slot, found, loaded⟩ :=
    along ["bar"] "foo" [] rfl (barWith false []) List.mem_cons_self
  cases found
  cases loaded

end RecordQuery
