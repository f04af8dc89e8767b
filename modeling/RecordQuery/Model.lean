import RecordQuery.Dialect.ColumnType
import RecordQuery.Query
import RecordQuery.Query.Layout
import RecordQuery.Text.SnakeCase
import RecordQuery.Value.Scalar

/-!
# Models

A model is a table, its columns, and its relationships to other models of the same schema.
-/

namespace RecordQuery

/-- A field of a model and the column that holds it. A hidden field is described but cannot be read
from an instance. -/
structure Field where
  name : String
  column : String
  type : ScalarType
  primary : Bool := false
  autoIncrement : Bool := false
  readonly : Bool := false
  unique : Bool := false
  index : Bool := false
  typeTag? : Option String := none
  hidden : Bool := false

namespace Field

def flags (field : Field) : List String :=
  let named := [(field.primary, "primary"), (field.autoIncrement, "auto_increment"),
    (field.readonly, "readonly"), (field.unique, "unique"), (field.index, "index")]
  (named.filter Prod.fst).map Prod.snd

/-- The column type that the field states, if it states one. -/
def columnType (field : Field) : Except Error (Option ColumnType) :=
  match field.typeTag? with
  | none => .ok none
  | some tag => (ColumnType.parse tag).map some

end Field

/-- Which side holds the foreign key, and how many related rows there may be. -/
inductive RelationKind where
  | hasOne
  | hasMany
  | belongsTo
deriving DecidableEq, Repr

namespace RelationKind

def name : RelationKind → String
  | .hasOne => "HasOne"
  | .hasMany => "HasMany"
  | .belongsTo => "BelongsTo"

end RelationKind

/-- A declared relationship. `related` is the place of the other model in the schema; the keys replace
the derived ones. A hidden relationship is described but has no slot in an instance. -/
structure Relation where
  name : String
  kind : RelationKind
  related : Nat
  localKey? : Option String := none
  foreignKey? : Option String := none
  ownerKey? : Option String := none
  hidden : Bool := false

/-- What a relationship shows of itself when printed. -/
def Relation.debugText (relation : Relation) : String :=
  let key (key? : Option String) : String :=
    match key? with
    | none => "None"
    | some column => "Some(" ++ Text.debugText column ++ ")"
  "RelationMeta \x7b name: " ++ Text.debugText relation.name ++ ", kind: " ++ relation.kind.name ++
    ", local: " ++ key relation.localKey? ++ ", foreign: " ++ key relation.foreignKey? ++
    ", owner: " ++ key relation.ownerKey? ++ ", .. \x7d"

/-- A model and the global scopes of its queries. -/
structure Model where
  name : String := ""
  table : String := ""
  fields : List Field := []
  relations : List Relation := []
  scopes : List Scope := []

namespace Model

def columns (model : Model) : List String :=
  model.fields.map Field.column

def field? (model : Model) (column : String) : Option Field :=
  model.fields.find? fun field => field.column == column

def hasColumn (model : Model) (column : String) : Bool :=
  (model.field? column).isSome

def primaryKeys (model : Model) : List Field :=
  model.fields.filter Field.primary

/-- The column of the only primary key, for the relationship that asks for it. -/
def primaryKeyFor (model : Model) (relation : String) : Except Error String :=
  match model.primaryKeys with
  | [] =>
    .error (.unsupportedKey (model.name ++ " has no primary key; relationship '" ++ relation ++
      "' needs an explicit key"))
  | [field] => .ok field.column
  | _ :: _ :: _ => .error (.compositeKey model.name relation)

def relation? (model : Model) (name : String) : Option Relation :=
  model.relations.find? fun relation => relation.name == name

/-- The start of derived foreign key columns. -/
def keyStem (model : Model) : String :=
  Text.snakeCase model.name

end Model

/-- The models of an application; relationships refer to them by place. -/
structure Schema where
  models : List Model := []

/-- The model at a place; past the end, one without table and columns. -/
def Schema.model (schema : Schema) (place : Nat) : Model :=
  schema.models.getD place {}

/-!
## Join columns

Without explicit keys the referenced side is the single primary key of the model that owns it, and the
foreign key is the owner's name in snake case and that key.
-/

/-- The join columns of one relationship: one of the declaring model, one of the related model. -/
structure RelationKeys where
  relation : String
  kind : RelationKind
  parentTable : String
  parentKey : String
  relatedTable : String
  relatedKey : String
deriving DecidableEq

/-- A column that refers to a column of another table. -/
structure ForeignKey where
  table : String
  column : String
  referencesTable : String
  referencesColumn : String
deriving DecidableEq

namespace RelationKeys

/-- The foreign key: on the parent's table when it belongs to the related row, else on the related
table. -/
def foreignKey (keys : RelationKeys) : ForeignKey :=
  match keys.kind with
  | .belongsTo => ⟨keys.parentTable, keys.parentKey, keys.relatedTable, keys.relatedKey⟩
  | .hasOne | .hasMany => ⟨keys.relatedTable, keys.relatedKey, keys.parentTable, keys.parentKey⟩

/-- The related rows of the row that an outer query stands at. -/
def correlated (keys : RelationKeys) (scopes : List Scope) : Query :=
  ((Query.table keys.relatedTable).withGlobalScopes scopes).addPredicate .where_
    (.columns .and keys.relatedKey "=" (keys.parentTable ++ "." ++ keys.parentKey))

end RelationKeys

namespace Relation

/-- A column derived from a model's name and a key. -/
def derivedKey (owner : Model) (key : String) : String :=
  owner.keyStem ++ "_" ++ key

/-- A stated column, or else a derived one. -/
def keyOr (stated? : Option String) (derived : Except Error String) : Except Error String :=
  match stated? with
  | some column => .ok column
  | none => derived

/-- The columns on the declaring and on the related side. -/
def columnPair (relation : Relation) (parent related : Model) : Except Error (String × String) :=
  match relation.kind with
  | .belongsTo => do
    let relatedKey ← keyOr relation.ownerKey? (related.primaryKeyFor relation.name)
    let parentKey ← keyOr relation.foreignKey? (.ok (derivedKey related relatedKey))
    pure (parentKey, relatedKey)
  | .hasOne | .hasMany => do
    let parentKey ← keyOr relation.localKey? (parent.primaryKeyFor relation.name)
    let relatedKey ← keyOr relation.foreignKey? (.ok (derivedKey parent parentKey))
    pure (parentKey, relatedKey)

/-- The join columns of a relationship that `parent` declares; both models must have theirs. -/
def resolve (schema : Schema) (parent : Model) (relation : Relation) :
    Except Error RelationKeys := do
  let related := schema.model relation.related
  let (parentKey, relatedKey) ← relation.columnPair parent related
  if !parent.hasColumn parentKey then
    throw (.missingField parent.name parentKey)
  if !related.hasColumn relatedKey then
    throw (.missingField related.name relatedKey)
  pure ⟨relation.name, relation.kind, parent.table, parentKey, related.table, relatedKey⟩

/-- The related rows of the row that an outer query over `parent` stands at. -/
def subquery (schema : Schema) (parent : Model) (relation : Relation) : Except Error Query :=
  (relation.resolve schema parent).map fun keys =>
    keys.correlated (schema.model relation.related).scopes

def foreignKey (schema : Schema) (parent : Model) (relation : Relation) :
    Except Error ForeignKey :=
  (relation.resolve schema parent).map RelationKeys.foreignKey

end Relation

/-- The foreign keys that a model's own table holds. -/
def Model.foreignKeys (schema : Schema) (model : Model) : Except Error (List ForeignKey) :=
  (model.relations.filter fun relation => relation.kind == .belongsTo).mapM fun relation =>
    relation.foreignKey schema model

end RecordQuery
