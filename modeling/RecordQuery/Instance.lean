import RecordQuery.Model
import RecordQuery.Row
import RecordQuery.Value

/-!
# Instances of models

Each relationship of a model has a slot in its instances: at first it knows nothing, then it is given
its join columns and the key of the row that it belongs to, and then it is loaded with the related
instances, of which there may be none.
-/

namespace RecordQuery

/-!
## Rows grouped by join key

Values of different representation with one key share a group; a row whose key is NULL is dropped.
-/

/-- Groups of rows by key, in the order in which the keys first came, and the number of rows. -/
structure RelatedIndex (α : Type) where
  groups : List (String × List α) := []
  size : Nat := 0

namespace RelatedIndex

variable {α : Type}

/-- Appends a row to the group of a key, which is made if there is none. -/
def addTo (key : String) (row : α) : List (String × List α) → List (String × List α)
  | [] => [(key, [row])]
  | (held, rows) :: rest =>
    if held = key then (held, rows ++ [row]) :: rest
    else (held, rows) :: addTo key row rest

/-- The index with a row under a value, and whether the row was kept. -/
def insert (index : RelatedIndex α) (value : Value) (row : α) : RelatedIndex α × Bool :=
  match value.indexKey with
  | none => (index, false)
  | some key => (⟨addTo key row index.groups, index.size + 1⟩, true)

def withKey (index : RelatedIndex α) (key : String) : List α :=
  (index.groups.lookup key).getD []

/-- The rows that match a value, in the order of insertion. -/
def all (index : RelatedIndex α) (value : Value) : List α :=
  match value.indexKey with
  | none => []
  | some key => index.withKey key

def first? (index : RelatedIndex α) (value : Value) : Option α :=
  (index.all value).head?

def isEmpty (index : RelatedIndex α) : Bool :=
  index.size == 0

def keyCount (index : RelatedIndex α) : Nat :=
  index.groups.length

end RelatedIndex

/-! ## Slots and instances -/

mutual

/-- A row of a model's table: the values of the fields and the slots of the relationships, both in the
order of the model at `place`. -/
structure Instance where
  place : Nat
  values : List Value
  slots : List Slot

/-- The related instances of a row. At most one is held unless the kind is `hasMany`. -/
structure Slot where
  kind : RelationKind
  related : Nat
  keys? : Option RelationKeys
  parentValue : Value
  loaded : Bool
  held : List Instance

end

namespace Slot

/-- A slot that knows nothing yet. -/
def fresh (kind : RelationKind) (related : Nat) : Slot :=
  ⟨kind, related, none, .null, false, []⟩

/-- What a slot of a kind keeps of all that matches. -/
def keep {α : Type} (kind : RelationKind) (found : List α) : List α :=
  match kind with
  | .hasMany => found
  | .hasOne | .belongsTo => found.take 1

def ofOption (kind : RelationKind) (related : Nat) (found? : Option Instance) : Slot :=
  { fresh kind related with loaded := true, held := found?.toList }

def ofList (kind : RelationKind) (related : Nat) (found : List Instance) : Slot :=
  { fresh kind related with loaded := true, held := found }

def isInitialized (slot : Slot) : Bool :=
  slot.keys?.isSome

def value? (slot : Slot) : Option (List Instance) :=
  if slot.loaded then some slot.held else none

def mapHeld (slot : Slot) (change : List Instance → List Instance) : Slot :=
  { slot with held := change slot.held }

/-- Whether new join columns or a new key make the loaded instances those of another row. -/
def isStale (slot : Slot) (keys : RelationKeys) (parentValue : Value) : Bool :=
  match slot.keys? with
  | none => false
  | some held =>
    slot.loaded && (held != keys || slot.parentValue.indexKey != parentValue.indexKey)

/-- The slot with join columns and key. Loaded instances stay unless they are stale. -/
def initializeWith (slot : Slot) (keys : RelationKeys) (parentValue : Value) : Slot :=
  if slot.isStale keys parentValue then
    { slot with keys? := some keys, parentValue, loaded := false, held := [] }
  else { slot with keys? := some keys, parentValue }

/-- The slot loaded with the instances that match. -/
def assign (slot : Slot) (found : List Instance) : Slot :=
  { slot with loaded := true, held := keep slot.kind found }

/-- The join columns, which a slot must have been given before it is used. -/
def requireKeys (slot : Slot) : Except Error RelationKeys :=
  match slot.keys? with
  | some keys => .ok keys
  | none => .error (.unsupportedKey "relationship used before initialization")

/-- The related rows of the row that an outer query stands at. -/
def subquery (schema : Schema) (slot : Slot) : Except Error Query :=
  slot.requireKeys.map fun keys => keys.correlated (schema.model slot.related).scopes

def foreignKeys (slot : Slot) : List ForeignKey :=
  slot.keys?.toList.map RelationKeys.foreignKey

end Slot

namespace Instance

/-- An instance with the given values and fresh slots. -/
def make (schema : Schema) (place : Nat) (values : List Value) : Instance :=
  ⟨place, values,
    (schema.model place).relations.map fun relation => .fresh relation.kind relation.related⟩

/-- Reads each field of a row as its type. -/
def ofRow (schema : Schema) (place : Nat) (row : Row) : Except Error Instance := do
  let values ← (schema.model place).fields.mapM fun field =>
    (row.read field.column field.type).map Scalar.toValue
  pure (make schema place values)

/-- The place of the first field of a column. -/
def fieldPlace? (schema : Schema) (self : Instance) (column : String) : Option Nat :=
  (schema.model self.place).fields.findIdx? fun field => field.column == column

def columnValue? (schema : Schema) (self : Instance) (column : String) : Option Value := do
  let place ← fieldPlace? schema self column
  let field ← (schema.model self.place).fields[place]?
  if field.hidden then none else self.values[place]?

def setColumn (schema : Schema) (self : Instance) (column : String) (value : Value) : Instance :=
  match fieldPlace? schema self column with
  | some place => { self with values := self.values.set place value }
  | none => self

/-- The instance with another value in its first field. -/
def setFirst (self : Instance) (value : Value) : Instance :=
  { self with values := self.values.set 0 value }

def slotPlace? (schema : Schema) (self : Instance) (name : String) : Option Nat := do
  let relations := (schema.model self.place).relations
  let place ← relations.findIdx? fun relation => relation.name == name
  let relation ← relations[place]?
  if relation.hidden then none else some place

def slot? (schema : Schema) (self : Instance) (name : String) : Option Slot := do
  let place ← slotPlace? schema self name
  self.slots[place]?

def setSlot (schema : Schema) (self : Instance) (name : String) (slot : Slot) : Instance :=
  match slotPlace? schema self name with
  | some place => { self with slots := self.slots.set place slot }
  | none => self

/-! ### Initialization -/

/-- Gives the slot of a declared relationship its join columns and the row's key. -/
def initializeSlot (schema : Schema) (relation : Relation) (self : Instance) :
    Except Error Instance := do
  let model := schema.model self.place
  let keys ← relation.resolve schema model
  match self.columnValue? schema keys.parentKey with
  | none => throw (.missingField model.name keys.parentKey)
  | some value =>
    match self.slot? schema relation.name with
    | none => throw (.missingRelationship model.name relation.name)
    | some slot => pure (self.setSlot schema relation.name (slot.initializeWith keys value))

def initializeNamed (schema : Schema) (name : String) (self : Instance) : Except Error Instance :=
  let model := schema.model self.place
  match model.relation? name with
  | none => .error (.missingRelationship model.name name)
  | some relation => self.initializeSlot schema relation

/-- Initializes the slots of relationships in order and stops at the first failure; what came before
it stays done. -/
def initializeEach (schema : Schema) (self : Instance) : List Relation → Instance × Option Error
  | [] => (self, none)
  | relation :: rest =>
    match self.initializeSlot schema relation with
    | .ok next => next.initializeEach schema rest
    | .error error => (self, some error)

def initializeAll (schema : Schema) (self : Instance) : Instance × Option Error :=
  self.initializeEach schema (schema.model self.place).relations

/-- Initializes every slot of instances, in order, up to the first failure. -/
def initializeRows (schema : Schema) : List Instance → List Instance × Option Error
  | [] => ([], none)
  | row :: rest =>
    match row.initializeAll schema with
    | (next, some error) => (next :: rest, some error)
    | (next, none) =>
      let (later, error?) := initializeRows schema rest
      (next :: later, error?)

end Instance

/-- Groups instances by the value of a column. -/
def RelatedIndex.build (schema : Schema) (column : String) (instances : List Instance) :
    Except Error (RelatedIndex Instance) :=
  instances.foldlM
    (fun index row =>
      match row.columnValue? schema column with
      | none => .error (.missingField (schema.model row.place).name column)
      | some value => .ok (index.insert value row).1)
    {}

/-!
## Accessors

What relationships ask of the instances of a model, whatever these are: the value of a column, and the
slot of a relationship, to look at and to change. Slots are initialized through these alone.
-/

/-- Instances of a model, held as `Self`, and how they are looked into. What the model does not
declare is absent. -/
structure Accessors (Self : Type) where
  model : Model
  columnValue? (self : Self) (column : String) : Option Value
  slot? (self : Self) (name : String) : Option Slot
  changeSlot? (self : Self) (name : String) (change : Slot → Slot) : Option Self

namespace Accessors

variable {Self : Type} (accessors : Accessors Self) (schema : Schema)

/-- Gives the slot of a declared relationship its join columns and the instance's key. -/
def initializeSlot (relation : Relation) (self : Self) : Except Error Self := do
  let keys ← relation.resolve schema accessors.model
  match accessors.columnValue? self keys.parentKey with
  | none => throw (.missingField accessors.model.name keys.parentKey)
  | some value =>
    match accessors.changeSlot? self relation.name (·.initializeWith keys value) with
    | none => throw (.missingRelationship accessors.model.name relation.name)
    | some next => pure next

/-- Initializes the slots of relationships in order and stops at the first failure; what came before
it stays done. -/
def initializeEach (self : Self) : List Relation → Self × Option Error
  | [] => (self, none)
  | relation :: rest =>
    match accessors.initializeSlot schema relation self with
    | .ok next => initializeEach next rest
    | .error error => (self, some error)

def initializeAll (self : Self) : Self × Option Error :=
  accessors.initializeEach schema self accessors.model.relations

end Accessors

/-- Instances as they are fetched. -/
def Instance.accessors (schema : Schema) (place : Nat) : Accessors Instance where
  model := schema.model place
  columnValue? self column := self.columnValue? schema column
  slot? self name := self.slot? schema name
  changeSlot? self name change :=
    (self.slot? schema name).map fun slot => self.setSlot schema name (change slot)

end RecordQuery
