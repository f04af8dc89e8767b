import RecordQuery.Declaration
import RecordQuery.Declaration.TypeText
import RecordQuery.Text.Plural

/-!
# What is derived from a declaration

How the fields of a declaration are read from a row and, for a model, its columns, its relationships and
its table. Before that the generic parameters of the declaration are read, as a parser of source text
reads them; what a declaration asks of them after its name is left out.
-/

namespace RecordQuery.Declaration

/-!
## Generic parameters

As they are declared, without defaults, and as they are applied, by name. Lifetimes come first whatever
their place.
-/

open Reading

/-- A generic parameter as it is declared, without a default, and as it is applied. -/
structure Parameter where
  isLifetime : Bool
  declared : List Token
  applied : List Token

/-- The generic parameters of a declaration, with the commas after them. -/
abbrev Parameters := List (Entry Parameter)

/-- A lifetime with its bounds. -/
def lifetimeParameter (notes : List Token) : Reading Parameter := do
  let applied ← takeIf isLifetime
  return ⟨true, notes ++ applied ++ (← bounds isLifetime lifetime), applied⟩

/-- A constant with its type, and perhaps a default. -/
def constantParameter (notes : List Token) : Reading Parameter := do
  let word ← take
  let applied ← nameWord
  let colon ← mark ":"
  let type ← readType
  let equals ← takeIf (·.isMark "=")
  if !equals.isEmpty then
    let _ ← if ← upcoming isName then take else value
  return ⟨false, notes ++ word ++ applied ++ colon ++ type.tokens, applied⟩

/-- A type with its bounds, and perhaps a default. -/
def typeParameter (notes : List Token) : Reading Parameter := do
  let applied ← if ← upcomingWord "_" then take else nameWord
  let depth := (← get).length + 1
  let asked ← bounds beginsBound (bound (typeReading depth))
  let equals ← takeIf (·.isMark "=")
  if !equals.isEmpty then
    let _ ← readType
  return ⟨false, notes ++ applied ++ asked, applied⟩

def parameter : Reading Parameter := do
  let notes ← attributeTokens
  if ← upcoming isLifetime then lifetimeParameter notes
  else if ← upcomingWord "const" then constantParameter notes
  else if (← upcomingWord "_") || (← upcoming isName) then typeParameter notes
  else expected "one of: lifetime, identifier, `const`"

/-- The generic parameters between angle brackets, if they come next. -/
def parameterList : Reading Parameters := do
  if ← upcomingMark "<" then
    let _ ← take
    let list ← commaList (upcomingMark ">") parameter
    let _ ← mark ">"
    return list
  else pure []

/-- The text of parameters between angle brackets, or nothing for no parameters. -/
def parameterText (tokens : Parameter → List Token) (list : Parameters) : String :=
  if list.isEmpty then ""
  else "<" ++ tokenText (leadersFirst Parameter.isLifetime tokens list) ++ ">"

/-! ## Derived models and rows -/

/-- How a field is filled from a row: by reading a column as a type, or with the type's default. -/
inductive FieldRead where
  | column (field type column : String)
  | default (field : String)

/-- A field that holds a column. -/
structure DerivedColumn where
  field : String
  type : String
  column : String
  notes : FieldNotes
deriving DecidableEq

/-- A field that holds related rows. -/
structure DerivedRelation where
  field : String
  kind : RelationKind
  related : String
  notes : FieldNotes
deriving DecidableEq

structure DerivedModel where
  name : String
  table : String
  columns : List DerivedColumn
  relations : List DerivedRelation
  skipped : List String
  scopes? : Option String
deriving DecidableEq

/-- A derived row type, with its parameters as declared and as applied. -/
structure DerivedRow where
  name : String
  parameters : String
  applied : String
  reads : List FieldRead

/-! ### Parts of a model -/

namespace DerivedModel

/-- Columns are read, relationships and skipped fields are filled with their defaults. -/
def reads (model : DerivedModel) : List FieldRead :=
  model.columns.map (fun entry => .column entry.field entry.type entry.column) ++
    (model.relations.map DerivedRelation.field ++ model.skipped).map .default

/-- The field that each column's value is taken from; of two with one column the first counts. -/
def columnFields (model : DerivedModel) : List (String × String) :=
  model.columns.map fun entry => (entry.column, entry.field)

/-- The field that holds each relationship. -/
def relationFields (model : DerivedModel) : List (String × String) :=
  model.relations.map fun entry => (entry.field, entry.field)

end DerivedModel

/-! ### Source text -/

/-- A field whose type and attributes have been read as tokens. -/
structure FieldSource where
  name : String
  type : TypeText
  attributes : List (List Token)

/-- A declaration whose parameters, fields and attributes have been read as tokens. -/
structure DeclarationSource where
  name : String
  shape : DeclarationShape
  parameters : Parameters
  attributes : List (List Token)
  fields : List FieldSource

/-- The tokens of a text that has to be readable. -/
def tokensOf (text : String) : Except Fault (List Token) :=
  match readTokens? text with
  | some tokens => .ok tokens
  | none => .error .unreadable

def checkName (word : String) : Except Fault Unit :=
  if Reading.reservedWords.contains word then .error (.reservedName word) else .ok ()

/-- Reads the source text of a field. A single underscore may be its name. -/
def FieldDeclaration.read (field : FieldDeclaration) : Except Fault FieldSource := do
  if field.name ≠ "_" then checkName field.name
  let type ← Reading.runAll readType (← tokensOf field.type)
  pure ⟨field.name, type, ← countedAttributes field.attributes⟩

/-- Reads the source text of a declaration. What follows the parameters is left alone, and so are
fields that have no names. -/
def read (declaration : Declaration) : Except Fault DeclarationSource := do
  checkName declaration.name
  let (parameters, _) ← parameterList.run (← tokensOf declaration.parameters)
  let named := if declaration.shape = .named then declaration.fields else []
  pure ⟨declaration.name, declaration.shape, parameters,
    ← countedAttributes declaration.attributes, ← named.mapM FieldDeclaration.read⟩

/-! ### Derivation -/

def namedFields (derived : String) (source : DeclarationSource) : Except Fault (List FieldSource) :=
  match source.shape with
  | .named => .ok source.fields
  | .positional | .bare => .error (.unnamedFields derived)
  | .enumeration | .union => .error (.notRecord derived)

/-- What a field of a model is. -/
inductive FieldRole where
  | skipped
  | column (entry : DerivedColumn)
  | relation (entry : DerivedRelation)

def fieldRole (field : FieldSource) : Except Fault FieldRole := do
  let notes ← fieldNotes field.attributes
  if notes.skipped then pure .skipped
  else
    match relationType? field.type with
    | some (kind, related) =>
      if notes.concernsColumn then throw .columnItemOnRelation
      else pure (.relation ⟨field.name, kind, related, notes⟩)
    | none =>
      if notes.concernsRelation then throw .keyItemOnColumn
      else
        let column := notes.column?.getD field.name
        pure (.column ⟨field.name, tokenText field.type.tokens, column, notes⟩)

/-- Adds a field to a model in its role. -/
def DerivedModel.add (model : DerivedModel) (field : FieldSource) : Except Fault DerivedModel := do
  match ← fieldRole field with
  | .skipped => pure { model with skipped := model.skipped ++ [field.name] }
  | .column entry => pure { model with columns := model.columns ++ [entry] }
  | .relation entry => pure { model with relations := model.relations ++ [entry] }

/-- The model of a declaration. Its table is named by the plural of its name in snake case unless an
attribute names one. -/
def deriveModel (declaration : Declaration) : Except Fault DerivedModel := do
  let source ← declaration.read
  if !source.parameters.isEmpty then throw .genericModel
  let notes ← modelNotes source.attributes
  let table := notes.table?.getD (Text.pluralSnake source.name)
  let fields ← namedFields "Model" source
  let empty : DerivedModel := ⟨source.name, table, [], [], [], notes.scopes?⟩
  let model ← fields.foldlM DerivedModel.add empty
  if model.columns.isEmpty then throw .noColumn else pure model

/-- How a field of a row type is read; only its column matters. -/
def fieldRead (field : FieldSource) : Except Fault FieldRead := do
  let notes ← fieldNotes field.attributes
  if notes.skipped then pure (.default field.name)
  else
    let column := notes.column?.getD field.name
    pure (.column field.name (tokenText field.type.tokens) column)

/-- The row type of a declaration. -/
def deriveRow (declaration : Declaration) : Except Fault DerivedRow := do
  let source ← declaration.read
  let fields ← namedFields "FromRow" source
  let reads ← fields.mapM fieldRead
  pure ⟨source.name, parameterText Parameter.declared source.parameters,
    parameterText Parameter.applied source.parameters, reads⟩

end RecordQuery.Declaration
