import RecordQuery.Declaration.Derivation
import RecordQuery.Instance

/-!
# Records of derived models

What is read from a row, what the accessors of a record find in it, and the metadata that describe it.
The four are derived apart, each by its own list of fields.
-/

namespace RecordQuery.Declaration

/-- What the names that a declaration writes stand for. A type has members, read from database values
or refused with a reason, and turned back into such values; metadata describe it by a scalar type.
Related models have their places in the schema, and functions return scopes. -/
structure Vocabulary where
  Member : String → Type
  decode (type : String) : Value → Except String (Member type)
  toValue (type : String) : Member type → Value
  scalarType : String → ScalarType
  place : String → Nat
  scopes : String → List Scope

/-- Words for scalar types. -/
def Vocabulary.ofScalars (scalarType : String → ScalarType) (place : String → Nat)
    (scopes : String → List Scope) : Vocabulary where
  Member _ := Scalar
  decode type value := ((scalarType type).decode value).mapError DecodeFault.message
  toValue _ := Scalar.toValue
  scalarType
  place
  scopes

/-- What a field holds: a member of its type, related rows, or what no accessor looks at. -/
inductive Content (words : Vocabulary) where
  | member (type : String) (held : words.Member type)
  | slot (held : Slot)
  | other

/-- A record, by what each of its fields holds. -/
structure Record (words : Vocabulary) where
  content : String → Content words

variable {words : Vocabulary}

namespace Content

def value? : Content words → Option Value
  | .member type held => some (words.toValue type held)
  | .slot _ | .other => none

def slot? : Content words → Option Slot
  | .slot held => some held
  | .member _ _ | .other => none

end Content

def Record.set (record : Record words) (field : String) (content : Content words) : Record words :=
  ⟨fun other => if other = field then content else record.content other⟩

namespace DerivedModel

/-! ## Rows -/

/-- What a field starts with that no column is read for. -/
def initialContent (model : DerivedModel) (field : String) : Content words :=
  match model.relations.find? fun entry => entry.field == field with
  | some entry => .slot (.fresh entry.kind (words.place entry.related))
  | none => .other

/-- What one field is filled with, under its name. -/
def readField (model : DerivedModel) (row : Row) :
    FieldRead → Except Error (String × Content words)
  | .column field type column =>
    match row.get? column with
    | none => .error (.ofDecode column .missingColumn)
    | some value =>
      match words.decode type value with
      | .ok member => .ok (field, .member type member)
      | .error reason => .error (.decode column reason)
  | .default field => .ok (field, model.initialContent field)

/-- The record that a row is read as. -/
def fromRow (model : DerivedModel) (row : Row) : Except Error (Record words) := do
  let contents ← model.reads.mapM (model.readField row)
  pure ⟨fun field => (contents.lookup field).getD .other⟩

/-! ## Accessors -/

def columnValue? (model : DerivedModel) (record : Record words) (column : String) :
    Option Value := do
  let field ← model.columnFields.lookup column
  (record.content field).value?

def slot? (model : DerivedModel) (record : Record words) (name : String) : Option Slot := do
  let field ← model.relationFields.lookup name
  (record.content field).slot?

def changeSlot? (model : DerivedModel) (record : Record words) (name : String)
    (change : Slot → Slot) : Option (Record words) := do
  let field ← model.relationFields.lookup name
  let slot ← (record.content field).slot?
  pure (record.set field (.slot (change slot)))

/-! ## Metadata -/

def describeColumn (words : Vocabulary) (entry : DerivedColumn) : Field where
  name := entry.field
  column := entry.column
  type := words.scalarType entry.type
  primary := entry.notes.primary
  autoIncrement := entry.notes.autoIncrement
  readonly := entry.notes.readonly
  unique := entry.notes.unique
  index := entry.notes.index
  typeTag? := entry.notes.typeTag?

def describeRelation (words : Vocabulary) (entry : DerivedRelation) : Relation where
  name := entry.field
  kind := entry.kind
  related := words.place entry.related
  localKey? := entry.notes.localKey?
  foreignKey? := entry.notes.foreignKey?
  ownerKey? := entry.notes.ownerKey?

/-- The model that the metadata describe. -/
def metadata (words : Vocabulary) (model : DerivedModel) : Model where
  name := model.name
  table := model.table
  fields := model.columns.map (describeColumn words)
  relations := model.relations.map (describeRelation words)
  scopes := model.scopes?.elim [] words.scopes

/-- Records of the model with what was derived for them. -/
def accessors (words : Vocabulary) (model : DerivedModel) : Accessors (Record words) where
  model := model.metadata words
  columnValue? := model.columnValue?
  slot? := model.slot?
  changeSlot? := model.changeSlot?

end DerivedModel

end RecordQuery.Declaration
