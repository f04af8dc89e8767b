import RecordQuery.Dialect
import RecordQuery.Error

/-!
# Column types and literals

Column types that stand for a type of each dialect, the tags that name them, and the texts of values
inside of statements.
-/

namespace RecordQuery

inductive ColumnType where
  | string
  | text
  | int8
  | int16
  | int32
  | int64
  | uint8
  | uint16
  | uint32
  | uint64
  | float32
  | float64
  | bool
  | date
  | datetime
  | blob
  | json
  | enum (variants : List String)
deriving DecidableEq, Repr

/-- A text in single quotes; where a backslash escapes, it is doubled too. -/
def Dialect.quoteText (dialect : Dialect) (text : String) : String :=
  match dialect with
  | .mysql =>
    quoteWith '\'' <| String.ofList <| text.toList.flatMap fun letter =>
      if letter = '\\' then ['\\', '\\'] else [letter]
  | _ => quoteWith '\'' text

namespace ColumnType

/-- The tag of a type. -/
def tag : ColumnType → String
  | .string => "string"
  | .text => "text"
  | .int8 => "int8"
  | .int16 => "int16"
  | .int32 => "int32"
  | .int64 => "int64"
  | .uint8 => "uint8"
  | .uint16 => "uint16"
  | .uint32 => "uint32"
  | .uint64 => "uint64"
  | .float32 => "float32"
  | .float64 => "float64"
  | .bool => "bool"
  | .date => "date"
  | .datetime => "datetime"
  | .blob => "blob"
  | .json => "json"
  | .enum _ => "enum"

/-- The text of a type: its tag, with the variants of an enumeration. -/
def display : ColumnType → String
  | .enum variants => "enum(" ++ String.intercalate "," variants ++ ")"
  | other => other.tag

/-- The type of a tag or of another name for it, in lower case. -/
def ofName? : String → Option ColumnType
  | "string" | "varchar" => some .string
  | "text" => some .text
  | "int8" => some .int8
  | "int16" => some .int16
  | "int32" | "int" => some .int32
  | "int64" => some .int64
  | "uint8" => some .uint8
  | "uint16" => some .uint16
  | "uint32" | "uint" => some .uint32
  | "uint64" => some .uint64
  | "float32" => some .float32
  | "float64" | "float" => some .float64
  | "bool" | "boolean" => some .bool
  | "date" => some .date
  | "datetime" | "timestamp" => some .datetime
  | "blob" | "bytes" => some .blob
  | "json" => some .json
  | _ => none

/-- The start of an enumeration's text. -/
def enumOpening : List Char := "enum(".toList

/-- Whether a text begins as an enumeration does, in any case. -/
def opensEnum (text : String) : Bool :=
  (Text.lowerAscii text).toList.take enumOpening.length == enumOpening

/-- The offsets in bytes between which an enumeration lists its variants, as its copy in lower case
has them: from the end of the opening to the parenthesis at the end. -/
def bodyBounds? (text : String) : Option (Nat × Nat) :=
  let rest := (Text.lowerAscii text).toList.drop enumOpening.length
  if opensEnum text ∧ rest.getLast? = some ')' then
    some (enumOpening.length,
      enumOpening.length + (String.ofList rest.dropLast).utf8ByteSize)
  else none

theorem exists_of_bodyBounds? {text : String} {start stop : Nat}
    (found : bodyBounds? text = some (start, stop)) :
    ∃ opening body closing : String, text = opening ++ body ++ closing ∧
      start = opening.utf8ByteSize ∧ stop = start + body.utf8ByteSize := by
  have lowered : (Text.lowerAscii text).toList = text.toList.map Char.toLower := by
    simp [Text.lowerAscii]
  simp only [bodyBounds?, opensEnum, lowered, ← List.map_take, ← List.map_drop,
    beq_iff_eq] at found
  split at found
  case isFalse => cases found
  case isTrue shaped =>
    obtain ⟨opens, closes⟩ := shaped
    injection found with bounds
    injection bounds with atStart atStop
    let opening := text.toList.take enumOpening.length
    let rest := text.toList.drop enumOpening.length
    have remains : rest ≠ [] := fun none => by simp [rest, none] at closes
    have opened : (String.ofList opening).utf8ByteSize = enumOpening.length := by
      rw [← Text.utf8ByteSize_map_toLower, opens]
      rfl
    refine ⟨.ofList opening, .ofList rest.dropLast, .ofList [rest.getLast remains], ?_, ?_, ?_⟩
    · rw [← String.ofList_append, ← String.ofList_append, List.append_assoc,
        List.dropLast_concat_getLast, List.take_append_drop, String.ofList_toList]
    · rw [← atStart, opened]
    · rw [← atStop, ← atStart, ← List.map_dropLast, Text.utf8ByteSize_map_toLower]

/-- Offsets found in a copy in lower case lie between characters of the text itself. -/
theorem isValid_of_bodyBounds? {text : String} {start stop : Nat}
    (found : bodyBounds? text = some (start, stop)) :
    start ≤ stop ∧ String.Pos.Raw.IsValid text ⟨start⟩ ∧ String.Pos.Raw.IsValid text ⟨stop⟩ := by
  obtain ⟨opening, body, closing, rfl, rfl, rfl⟩ := exists_of_bodyBounds? found
  refine ⟨Nat.le_add_right _ _, ?_, ?_⟩
  · exact String.Pos.Raw.isValid_iff_exists_append.mpr
      ⟨opening, body ++ closing, String.append_assoc, rfl⟩
  · exact String.Pos.Raw.isValid_iff_exists_append.mpr
      ⟨opening ++ body, closing, rfl, by simp [String.Pos.Raw.ext_iff]⟩

/-- The variants' part of an enumeration's text, in the text's own case. -/
def body? (text : String) : Option String :=
  match found : bodyBounds? text with
  | none => none
  | some (start, stop) =>
    have bounds := isValid_of_bodyBounds? found
    some (text.slice (text.pos ⟨start⟩ bounds.2.1) (text.pos ⟨stop⟩ bounds.2.2) bounds.1).copy

/-- The variants of an enumeration: trimmed, blank ones left out. -/
def variantsOf (body : List Char) : List String :=
  ((Text.pieces (· == ',') body).map fun piece => Text.trim (String.ofList piece)).filter
    fun variant => !variant.isEmpty

/-- The type that a text names in any case; the variants of an enumeration keep theirs. -/
def parse? (text : String) : Option ColumnType :=
  let text := Text.trim text
  if opensEnum text then (body? text).map fun body => .enum (variantsOf body.toList)
  else ofName? (Text.lowerAscii text)

/-- Reads a type; no dialect has a type for an unknown name. -/
def parse (text : String) : Except Error ColumnType :=
  match parse? text with
  | some type => .ok type
  | none => .error (.unsupportedType "any" (Text.trim text))

def sqliteName : ColumnType → String
  | .string | .text | .enum _ | .json => "TEXT"
  | .int8 | .int16 | .int32 | .int64 | .uint8 | .uint16 | .uint32 | .uint64 => "INTEGER"
  | .float32 | .float64 => "REAL"
  | .bool => "BOOLEAN"
  | .date => "DATE"
  | .datetime => "TIMESTAMP"
  | .blob => "BLOB"

def mysqlName : ColumnType → String
  | .string => "VARCHAR(255)"
  | .text => "TEXT"
  | .int8 => "TINYINT"
  | .int16 => "SMALLINT"
  | .int32 => "INT"
  | .int64 => "BIGINT"
  | .uint8 => "TINYINT UNSIGNED"
  | .uint16 => "SMALLINT UNSIGNED"
  | .uint32 => "INT UNSIGNED"
  | .uint64 => "BIGINT UNSIGNED"
  | .float32 => "FLOAT"
  | .float64 => "DOUBLE"
  | .bool => "BOOLEAN"
  | .date => "DATE"
  | .datetime => "DATETIME"
  | .blob => "BLOB"
  | .json => "JSON"
  | .enum variants =>
    "ENUM(" ++ String.intercalate "," (variants.map (Dialect.quoteText .mysql)) ++ ")"

/-- Enumerations are types of their own there, so a column has no name for one. -/
def postgresName? : ColumnType → Option String
  | .string => some "VARCHAR(255)"
  | .text => some "TEXT"
  | .int8 | .int16 | .uint8 => some "SMALLINT"
  | .int32 | .uint16 => some "INTEGER"
  | .int64 | .uint32 => some "BIGINT"
  | .uint64 => some "NUMERIC(20)"
  | .float32 => some "REAL"
  | .float64 => some "DOUBLE PRECISION"
  | .bool => some "BOOLEAN"
  | .date => some "DATE"
  | .datetime => some "TIMESTAMPTZ"
  | .blob => some "BYTEA"
  | .json => some "JSONB"
  | .enum _ => none

def sqlName (dialect : Dialect) (type : ColumnType) : Except Error String :=
  match dialect with
  | .sqlite => .ok type.sqliteName
  | .mysql => .ok type.mysqlName
  | .postgres =>
    match type.postgresName? with
    | some name => .ok name
    | none => .error (.unsupportedType dialect.name type.display)

end ColumnType

/-!
## Literals

Values written into SQL text, for the defaults of columns. Queries bind their values instead.
-/

namespace Dialect

/-- A finite number; there is no literal for the others. -/
def floatLiteral (dialect : Dialect) (number : Number.Double) : Except Error String :=
  if number.isFinite then .ok number.text
  else .error (.unsupportedType dialect.name ("non-finite float literal " ++ number.text))

/-- A literal with the type that it is cast to, where a cast is written. -/
def cast (dialect : Dialect) (literal type : String) : String :=
  match dialect with
  | .postgres => literal ++ "::" ++ type
  | _ => literal

/-- A byte string in hexadecimal. -/
def bytesLiteral (dialect : Dialect) (bytes : List UInt8) : String :=
  let digits := String.ofList (Text.Hex.ofBytes bytes)
  match dialect with
  | .postgres => "'\\x" ++ digits ++ "'::bytea"
  | _ => "X'" ++ digits ++ "'"

def boolLiteral (dialect : Dialect) (value : Bool) : String :=
  match dialect with
  | .postgres => if value then "TRUE" else "FALSE"
  | _ => if value then "1" else "0"

/-- The text of a value inside a statement. -/
def literal (dialect : Dialect) : Value → Except Error String
  | .null => .ok "NULL"
  | .bool value => .ok (dialect.boolLiteral value)
  | .int value => .ok (toString value.toInt)
  | .float value => dialect.floatLiteral value
  | .text value => .ok (dialect.quoteText value)
  | .bytes value => .ok (dialect.bytesLiteral value)
  | .uuid value => .ok (dialect.cast (dialect.quoteText value.text) "uuid")
  | .instant value => .ok (dialect.cast (quoteWith '\'' value.text) "timestamptz")
  | .json value => .ok (dialect.cast (dialect.quoteText value.text) "jsonb")

end Dialect

end RecordQuery
