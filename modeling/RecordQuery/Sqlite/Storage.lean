import RecordQuery.Row
import RecordQuery.Sqlite.RealText

/-!
# Values as SQLite keeps them

There are five classes of storage; truth values are kept as integers, identifiers, instants and JSON
values as their texts.
-/

namespace RecordQuery.Sqlite

open Number

/-- A stored value. Text is kept as bytes, which need not be valid UTF-8. -/
inductive Stored where
  | null
  | integer (value : Int64)
  | real (value : Double)
  | text (bytes : List UInt8)
  | blob (bytes : List UInt8)

namespace Stored

/-- Text as it is bound. -/
def ofText (text : String) : Stored :=
  .text (Text.Utf8.encode text)

/-- A value as it is bound. -/
def ofValue : Value → Stored
  | .null => .null
  | .bool value => .integer (if value then 1 else 0)
  | .int value => .integer value
  | .float value => .real value
  | .text value => ofText value
  | .bytes value => .blob value
  | .uuid value => ofText value.text
  | .instant value => ofText value.text
  | .json value => ofText value.text

/-- A stored value as it is read back; what is not valid in text is replaced. -/
def toValue : Stored → Value
  | .null => .null
  | .integer value => .int value
  | .real value => .float value
  | .text bytes => .text (Text.Utf8.lossy bytes)
  | .blob bytes => .bytes bytes

/-- What is stored for a bound value: what is not a number becomes NULL. -/
def keep : Stored → Stored
  | .real value => if value.isNaN then .null else .real value
  | other => other

/-- A stored value cast to text. -/
def castText : Stored → Stored
  | .null => .null
  | .integer value => ofText (toString value.toInt)
  | .real value => ofText (realText value)
  | .text bytes => .text bytes
  | .blob bytes => .text bytes

end Stored

/-- The row of values that are selected as they were bound, in columns that are numbered from zero. -/
def echo (change : Stored → Stored) (values : List Value) : Row where
  columns := (List.range values.length).map fun place => "c" ++ toString place
  values := values.map fun value => (change (Stored.ofValue value).keep).toValue

end RecordQuery.Sqlite
