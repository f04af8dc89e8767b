import RecordQuery.Executor
import RecordQuery.Instance
import RecordQuery.Model.Query

/-!
# Fetching instances and loading relationships

Relationships are loaded along dotted paths. Each segment is loaded for the whole working set with at
most one query; the instances that it finds are the working set of the next segment. A failure stops
the loading and leaves the instances as they are by then.
-/

namespace RecordQuery

/-! ## Instances from the rows of a query -/

variable {σ : Type}

namespace ModelQuery

/-- The instances of a query, their slots not initialized. -/
def fetchBare (schema : Schema) (executor : Executor σ) (typed : ModelQuery) :
    Action σ (List Instance) := do
  let rows ← typed.query.fetchRows executor
  (rows.mapM (Instance.ofRow schema typed.place) : Except Error (List Instance))

/-- The instances with every slot initialized, unless one cannot be. -/
def initializeFetched (schema : Schema) (instances : List Instance) :
    Except Error (List Instance) :=
  instances.mapM fun row =>
    match row.initializeAll schema with
    | (next, none) => .ok next
    | (_, some error) => .error error

/-- The instances of a query, ready for loading. -/
def fetch (schema : Schema) (executor : Executor σ) (typed : ModelQuery) :
    Action σ (List Instance) := do
  let instances ← typed.fetchBare schema executor
  (initializeFetched schema instances : Except Error (List Instance))

def count (executor : Executor σ) (typed : ModelQuery) : Action σ Int := do
  match ← typed.query.countQuery.fetchScalar executor (.integer ⟨true, 64⟩) with
  | some (.integer _ value) => pure value
  | _ => pure 0

/-- The query for the instance of a primary key. -/
def byKey (schema : Schema) (key : Value) (typed : ModelQuery) : Except Error ModelQuery :=
  let model := schema.model typed.place
  match model.primaryKeyFor "find" with
  | .error (.compositeKey name _) =>
    .error (.unsupportedKey ("find() on " ++ name ++ " needs a single primary key"))
  | .error error => .error error
  | .ok column =>
    .ok { typed with
      query := typed.query.addPredicate .where_
        (.compare .and (model.table ++ "." ++ column) "=" key) }

end ModelQuery

/-! ## Loading paths -/

/-! ### Batches -/

/-- The values that have a key, each key once, in the order in which the keys first come. -/
def distinctKeys : (seen : List String) → List Value → List Value
  | _, [] => []
  | seen, value :: rest =>
    match value.indexKey with
    | none => distinctKeys seen rest
    | some key =>
      if seen.contains key then distinctKeys seen rest
      else value :: distinctKeys (key :: seen) rest

/-- The query for the instances that have one of the values in a column. -/
def loaderQuery (schema : Schema) (context : Context) (related : Nat) (column : String)
    (values : List Value) : ModelQuery :=
  let base := ModelQuery.ofModel schema related
  { base with
    query := { base.query with context }.addPredicate .where_ (.inList .and false column values) }

/-- The related instances of all given keys, found with one query, or with none if there is no key. -/
def fetchIndex (schema : Schema) (executor : Executor σ) (context : Context) (related : Nat)
    (keys : RelationKeys) (values : List Value) : Action σ (RelatedIndex Instance) := do
  match distinctKeys [] values with
  | [] => pure {}
  | distinct =>
    let found ← (loaderQuery schema context related keys.relatedKey distinct).fetch schema executor
    (RelatedIndex.build schema keys.relatedKey found : Except Error (RelatedIndex Instance))

/-- A slot must have the join columns of its batch. -/
def requireSameKeys (keys : RelationKeys) (slot : Slot) : Except Error Unit := do
  let own ← slot.requireKeys
  if own != keys then
    throw (.other ("relationship batch mixes relationships ('" ++ keys.relation ++
      "' and others)"))

/-- The join columns that all slots of a batch share; the first slot sets what the others must be. -/
def sharedKeys (first : Slot) (batch : List Slot) : Except Error RelationKeys := do
  if batch.any fun slot => slot.kind != first.kind || slot.related != first.related then
    throw (.other "relationship batch mixes container types")
  let keys ← first.requireKeys
  batch.forM (requireSameKeys keys)
  pure keys

/-- The event after the query of a batch. -/
def resolvedEvent (keys : RelationKeys) (batch rows : Nat) : Event :=
  { target := "relorm.load"
    level := .trace
    fields := [("relation", .text keys.relation), ("table", .text keys.relatedTable),
      ("batch", .count batch), ("rows", .count rows),
      ("message", .text "resolved relationship batch")] }

def loadBatch (schema : Schema) (executor : Executor σ) (context : Context) (first : Slot)
    (batch : List Slot) : Action σ (List Slot) := do
  let keys ← (sharedKeys first batch : Except Error RelationKeys)
  let index ← fetchIndex schema executor context first.related keys (batch.map Slot.parentValue)
  executor.emit (resolvedEvent keys batch.length index.size)
  pure (batch.map fun slot => slot.assign (index.all slot.parentValue))

/-! ### Segments -/

/-- Initializes the slot of a segment in each instance, in order, up to the first failure. -/
def initializeSegment (schema : Schema) (segment : String) :
    List Instance → List Instance × Option Error
  | [] => ([], none)
  | row :: rest =>
    match row.initializeNamed schema segment with
    | .error error => (row :: rest, some error)
    | .ok next =>
      let (later, error?) := initializeSegment schema segment rest
      (next :: later, error?)

/-- Whether a slot is to be loaded. -/
def isPending (onlyMissing : Bool) (slot : Slot) : Bool :=
  !(onlyMissing && slot.loaded)

/-- The slots in order with the pending ones replaced by those of the batch. -/
def mergeBatch (onlyMissing : Bool) : (slots batch : List Slot) → List Slot
  | [], _ => []
  | slot :: rest, batch =>
    if isPending onlyMissing slot then
      match batch with
      | [] => slot :: mergeBatch onlyMissing rest []
      | next :: later => next :: mergeBatch onlyMissing rest later
    else slot :: mergeBatch onlyMissing rest batch

/-- The event before the query of a batch. -/
def loadingEvent (path segment : String) (batch skipped : Nat) : Event :=
  { target := "relorm.load"
    level := .trace
    fields := [("path", .text path), ("relation", .text segment), ("batch", .count batch),
      ("skipped", .count skipped), ("message", .text "loading relationship")] }

/-- Loads the pending ones of the slots; a failure names the segment. -/
def loadSlots (schema : Schema) (executor : Executor σ) (context : Context) (onlyMissing : Bool)
    (path segment : String) (slots : List Slot) : Action σ (List Slot) := do
  let pending := slots.filter (isPending onlyMissing)
  match pending with
  | [] => pure slots
  | first :: _ =>
    executor.emit (loadingEvent path segment pending.length (slots.length - pending.length))
    let batch ←
      tryCatch (loadBatch schema executor context first pending) fun error =>
        throw (.load segment error)
    pure (mergeBatch onlyMissing slots batch)

/-- The slots of a segment in a working set whose instances all have it. -/
def segmentSlots (schema : Schema) (segment : String) (working : List Instance) : List Slot :=
  working.filterMap fun row => row.slot? schema segment

/-- The instances with the given slots for a segment, in order. -/
def putSlots (schema : Schema) (segment : String) (working : List Instance) (slots : List Slot) :
    List Instance :=
  List.zipWith (fun row slot => row.setSlot schema segment slot) working slots

/-- The slots with their held instances replaced, in order, by those of one list. -/
def refill : (slots : List Slot) → (held : List Instance) → List Slot
  | [], _ => []
  | slot :: rest, held =>
    let count := slot.held.length
    { slot with held := held.take count } :: refill rest (held.drop count)

/-- Loads segment after segment. The instances are given back whatever happens. -/
def loadSegments (schema : Schema) (executor : Executor σ) (context : Context)
    (onlyMissing : Bool) (path : String) :
    List String → List Instance → StateM σ (List Instance × Option Error)
  | [], working => pure (working, none)
  | segment :: rest, working => do
    if working.isEmpty then
      pure (working, none)
    else
      match initializeSegment schema segment working with
      | (initialized, some error) => pure (initialized, some error)
      | (initialized, none) =>
        let slots := segmentSlots schema segment initialized
        match ← (loadSlots schema executor context onlyMissing path segment slots).run with
        | .error error => pure (initialized, some error)
        | .ok loaded =>
          let (held, error?) ← loadSegments schema executor context onlyMissing path rest
            (loaded.flatMap Slot.held)
          pure (putSlots schema segment initialized (refill loaded held), error?)

/-! ### Paths -/

/-- The segments of a path, trimmed; none may be empty. -/
def pathSegments (path : String) : Except Error (List String) :=
  let segments := (Text.splitAt '.' path).map Text.trim
  if segments.any String.isEmpty then
    .error (.invalidCondition ("invalid relationship path '" ++ path ++ "'"))
  else .ok segments

/-- Loads a path on every instance; with `onlyMissing`, slots that are loaded stay as they are. -/
def loadPath (schema : Schema) (executor : Executor σ) (context : Context) (onlyMissing : Bool)
    (path : String) (working : List Instance) : StateM σ (List Instance × Option Error) :=
  match pathSegments path with
  | .error error => pure (working, some error)
  | .ok segments => loadSegments schema executor context onlyMissing path segments working

/-- Loads paths one after another, up to the first failure. -/
def loadPaths (schema : Schema) (executor : Executor σ) (context : Context) :
    List String → List Instance → Action σ (List Instance)
  | [], working => pure working
  | path :: rest, working => do
    match ← (loadPath schema executor context false path working : StateM σ _) with
    | (_, some error) => throw error
    | (loaded, none) => loadPaths schema executor context rest loaded

namespace ModelQuery

/-- The instances of a query with its eager paths loaded. -/
def get (schema : Schema) (executor : Executor σ) (typed : ModelQuery) :
    Action σ (List Instance) := do
  let instances ← typed.fetch schema executor
  loadPaths schema executor typed.query.context typed.eager instances

def first (schema : Schema) (executor : Executor σ) (typed : ModelQuery) :
    Action σ (Option Instance) := do
  let limited := { typed with query := { typed.query with limit? := some 1 } }
  return (← limited.get schema executor).head?

/-- The instance of a primary key. -/
def find (schema : Schema) (executor : Executor σ) (key : Value) (typed : ModelQuery) :
    Action σ (Option Instance) := do
  let keyed ← (typed.byKey schema key : Except Error ModelQuery)
  keyed.first schema executor

end ModelQuery

end RecordQuery
