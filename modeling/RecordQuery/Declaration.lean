import RecordQuery.Declaration.Literal
import RecordQuery.Declaration.SourceText
import RecordQuery.Declaration.TypeText

/-!
# Declarations of record types

Models and row types are derived from declarations, by what their attributes say. Of attributes the
forms are those of a parser for source text: a path, and items with commas between them in
parentheses. Taken over from it are the order in which items are read and the wording of its faults.
-/

namespace RecordQuery

/-- What an attribute assigns to a key: a string, or other source text. -/
inductive Assigned where
  | text (value : String)
  | source (text : String)

/-- A key of an attribute, with or without an assignment. -/
structure AttributeItem where
  key : String
  assigned? : Option Assigned := none

/-- An attribute: a path and items between parentheses. -/
structure Attribute where
  path : String
  items : List AttributeItem

/-- A declared field. Its type is source text. -/
structure FieldDeclaration where
  name : String
  type : String
  attributes : List Attribute := []

/-- The form of a declaration. -/
inductive DeclarationShape where
  | named
  | positional
  | bare
  | enumeration
  | union
deriving DecidableEq

/-- A declaration. The generic parameters are source text. -/
structure Declaration where
  name : String
  shape : DeclarationShape := .named
  parameters : String := ""
  attributes : List Attribute := []
  fields : List FieldDeclaration := []

/-!
## Attributes

Only attributes named `orm` count. Their items are read in order up to the first fault, and of two
items with one key the later stays.
-/

namespace Declaration

open Reading

/-! ### Items -/

/-- The tokens of an item. -/
def itemTokens? (item : AttributeItem) : Option (List Token) := do
  let key ← readTokens? item.key
  match item.assigned? with
  | none => some key
  | some (.text value) => some (key ++ [Token.mark "=", quoted value])
  | some (.source text) => some (key ++ Token.mark "=" :: (← readTokens? text))

/-- The tokens between the parentheses of the attributes that count, a list for each. -/
def countedAttributes (attributes : List Attribute) : Except Fault (List (List Token)) := do
  let counted := attributes.filter fun entry => entry.path == "orm"
  match counted.mapM fun entry => entry.items.mapM itemTokens? with
  | some contents => pure (contents.map fun items => [Token.mark ","].intercalate items)
  | none => throw .unreadable

/-- The key of an item: a path of any words. Only a path of one word has a name. -/
def itemKey : Reading (Option String) := do
  let colons ← takeIf (·.isMark "::")
  let isAnyWord (token : Token) : Bool := token.kind == .word
  if ← atEnd then expected "nested attribute"
  if ← upcoming (·.kind == .literal) then throw .literalAsItem
  if !(← upcoming isAnyWord) then throw .markAsItem
  let word ← take
  let rec more : Nat → Reading Bool
    | 0 => pure false
    | limit + 1 => do
      if ← upcomingMark "::" then
        let _ ← take
        if !(← upcoming isAnyWord) then expected "ident"
        let _ ← take
        let _ ← more limit
        pure true
      else pure false
  let longer ← more (← get).length
  return if colons.isEmpty && !longer then some (tokenText word) else none

def itemString : Reading String := do
  let _ ← mark "="
  match ((← get).head?.filter (·.kind == .literal)).bind fun token => stringValue? token.letters with
  | some value =>
    let _ ← take
    return value
  | none => expected "string literal"

/-- Reads items with commas between them, adding what each says to the notes taken so far. -/
def readItems {Notes : Type} (read : Option String → Notes → Reading Notes) :
    (limit : Nat) → Notes → Reading Notes
  | 0, notes => pure notes
  | limit + 1, notes => do
    if ← atEnd then return notes
    let notes ← read (← itemKey) notes
    if ← atEnd then return notes
    let _ ← mark ","
    readItems read limit notes

/-- What attributes say, read in order. -/
def readNotes {Notes : Type} (read : Option String → Notes → Reading Notes) (start : Notes)
    (contents : List (List Token)) : Except Fault Notes :=
  contents.foldlM (fun notes content => runAll (readItems read content.length notes) content) start

/-! ### Declarations -/

/-- What the attributes of a declaration say. -/
structure ModelNotes where
  table? : Option String := none
  scopes? : Option String := none

/-- The path that a string holds. -/
def pathText (text : String) : Except Fault String :=
  match readTokens? text with
  | some tokens => do
    let read ← runAll (path (typeReading (tokens.length + 1))) tokens
    pure (tokenText read.tokens)
  | none => .error .unreadable

/-- Reads an item of a declaration. -/
def ModelNotes.read (key? : Option String) (notes : ModelNotes) : Reading ModelNotes := do
  match key? with
  | some "table" => return { notes with table? := some (← itemString) }
  | some "scopes" => return { notes with scopes? := some (← pathText (← itemString)) }
  | _ => throw .unknownItem

def modelNotes (contents : List (List Token)) : Except Fault ModelNotes :=
  readNotes ModelNotes.read {} contents

/-! ### Fields -/

/-- What the attributes of a field say. -/
structure FieldNotes where
  primary : Bool := false
  column? : Option String := none
  autoIncrement : Bool := false
  readonly : Bool := false
  unique : Bool := false
  index : Bool := false
  typeTag? : Option String := none
  skipped : Bool := false
  localKey? : Option String := none
  foreignKey? : Option String := none
  ownerKey? : Option String := none
deriving DecidableEq

namespace FieldNotes

/-- Whether something is said that only columns have. -/
def concernsColumn (notes : FieldNotes) : Bool :=
  notes.primary || notes.column?.isSome || notes.autoIncrement || notes.readonly || notes.unique ||
    notes.index || notes.typeTag?.isSome

def flags (notes : FieldNotes) : List String :=
  let named := [(notes.primary, "primary"), (notes.autoIncrement, "auto_increment"),
    (notes.readonly, "readonly"), (notes.unique, "unique"), (notes.index, "index")]
  (named.filter Prod.fst).map Prod.snd

/-- Whether something is said that only relationships have. -/
def concernsRelation (notes : FieldNotes) : Bool :=
  notes.localKey?.isSome || notes.foreignKey?.isSome || notes.ownerKey?.isSome

def read (key? : Option String) (notes : FieldNotes) : Reading FieldNotes := do
  match key? with
  | some "id" => return { notes with primary := true }
  | some "auto_increment" => return { notes with autoIncrement := true }
  | some "readonly" => return { notes with readonly := true }
  | some "unique" => return { notes with unique := true }
  | some "index" => return { notes with index := true }
  | some "skip" => return { notes with skipped := true }
  | some "column" => return { notes with column? := some (← itemString) }
  | some "type" => return { notes with typeTag? := some (← itemString) }
  | some "local" => return { notes with localKey? := some (← itemString) }
  | some "foreign" => return { notes with foreignKey? := some (← itemString) }
  | some "owner" => return { notes with ownerKey? := some (← itemString) }
  | _ => throw .unknownFieldItem

end FieldNotes

def fieldNotes (contents : List (List Token)) : Except Fault FieldNotes :=
  readNotes FieldNotes.read {} contents

end Declaration

end RecordQuery
