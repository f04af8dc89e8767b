import RecordQuery.Json.Parser
import RecordQuery.Value

/-!
# The tagged form of values

The JSON form of a value: the bare tag for NULL, an object with the tag as its only member for every
other value.
-/

namespace RecordQuery.Value

open Number

/-- The tagged form. -/
def tagged : Value → Json
  | .null => .string "Null"
  | .bool value => .object [("Bool", .bool value)]
  | .int value => .object [("Int", .integer value.toInt)]
  | .float value => .object [("Float", .float value)]
  | .text value => .object [("Text", .string value)]
  | .bytes value => .object [("Bytes", .array (value.map fun byte => .integer byte.toNat))]
  | .uuid value => .object [("Uuid", .string value.text)]
  | .instant value => .object [("Timestamp", .string value.tagged)]
  | .json value => .object [("Json", value)]

/-- A byte of a list. -/
def taggedByte? : Json → Option UInt8
  | .integer value => if 0 ≤ value ∧ value < 256 then some (UInt8.ofNat value.toNat) else none
  | _ => none

/-- The value of a tag and its content. -/
def ofTag? : String → Json → Option Value
  | "Null", .null => some .null
  | "Bool", .bool value => some (.bool value)
  | "Int", .integer value =>
    if -(Nat.pow 2 63 : Int) ≤ value ∧ value < Nat.pow 2 63 then some (.int (Int64.ofInt value)) else none
  | "Float", .float value => some (.float value)
  | "Float", .integer value => some (.float (Double.ofInt value))
  | "Text", .string value => some (.text value)
  | "Bytes", .array items => (items.mapM taggedByte?).map .bytes
  | "Uuid", .string value => (Uuid.ofText? value).map .uuid
  | "Timestamp", .string value => (Instant.ofTagged? value).map .instant
  | "Json", value => some (.json value)
  | _, _ => none

/-- The value that a tagged text stands for. -/
def ofTagged? (text : String) : Option Value :=
  match Json.Source.ofText? text with
  | some (.string (some "Null")) => some .null
  | some (.object [(some tag, content)]) =>
    if content.depth + 1 ≤ Json.maxDepth then content.json?.bind (ofTag? tag) else none
  | _ => none

end RecordQuery.Value
