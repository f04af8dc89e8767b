import RecordQuery.Instant.Parser
import RecordQuery.Json
import RecordQuery.Number.Decimal
import RecordQuery.Text.Utf8
import RecordQuery.Uuid

/-!
# Values

The values that queries bind and rows hold, and the key under which a value is matched with others:
equal keys join, whatever representation each value came back in.
-/

namespace RecordQuery

open Number

inductive Value where
  | null
  | bool (value : Bool)
  | int (value : Int64)
  | float (value : Double)
  | text (value : String)
  | bytes (value : List UInt8)
  | uuid (value : Uuid)
  | instant (value : Instant)
  | json (value : Json)

namespace Value

def isNull : Value → Bool
  | .null => true
  | _ => false

def typeName : Value → String
  | .null => "NULL"
  | .bool _ => "BOOLEAN"
  | .int _ => "INTEGER"
  | .float _ => "FLOAT"
  | .text _ => "TEXT"
  | .bytes _ => "BLOB"
  | .uuid _ => "UUID"
  | .instant _ => "TIMESTAMP"
  | .json _ => "JSON"

/-- Integral numbers below the limit of 64-bit integers share the key of the integer. -/
def floatKey (number : Double) : String :=
  match number.toInt? with
  | some value => if value.natAbs < Nat.pow 2 63 then toString value else number.text
  | none => number.text

/-- The bytes that a text needs at least to be read as an instant. -/
def minInstantBytes : Nat := 10

/-- Whether a text starts with four digits and a hyphen and is long enough for a date. -/
def looksLikeDate (text : String) : Bool :=
  match text.toList with
  | a :: b :: c :: d :: '-' :: _ =>
    a.isDigit && b.isDigit && c.isDigit && d.isDigit && minInstantBytes ≤ text.utf8ByteSize
  | _ => false

/-- A text that names an instant is keyed by that instant, any other by itself. -/
def textKey (text : String) : String :=
  if looksLikeDate text then
    match Instant.ofText? text with
    | some moment => moment.text
    | none => text
  else text

/-- The key under which a value is matched; NULL has none. -/
def indexKey : Value → Option String
  | .null => none
  | .bool value => some (if value then "1" else "0")
  | .int value => some (toString value.toInt)
  | .float value => some (floatKey value)
  | .text value => some (textKey value)
  | .bytes value => some (Text.Utf8.lossy value)
  | .uuid value => some value.text
  | .instant value => some value.text
  | .json value => some value.text

end Value

end RecordQuery
