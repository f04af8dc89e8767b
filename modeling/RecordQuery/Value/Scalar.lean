import RecordQuery.Json.Parser
import RecordQuery.Value

/-!
# Typed values

Typed values and their passage into and out of database values. `Scalar.toValue` says how each typed
value is stored, `ScalarType.decode` which values a type accepts.
-/

namespace RecordQuery

open Number

/-- An integer type of eight, sixteen, thirty-two or sixty-four bits. -/
structure IntegerType where
  signed : Bool
  bits : Nat
deriving DecidableEq

namespace IntegerType

def name (type : IntegerType) : String :=
  (if type.signed then "i" else "u") ++ toString type.bits

def holds (type : IntegerType) (value : Int) : Bool :=
  if type.signed then -(Nat.pow 2 (type.bits - 1) : Int) ≤ value && value < Nat.pow 2 (type.bits - 1)
  else 0 ≤ value && value < Nat.pow 2 type.bits

end IntegerType

/-- A type that a column may be read as. -/
inductive ScalarType where
  | any
  | bool
  | integer (type : IntegerType)
  | single
  | double
  | text
  | bytes
  | uuid
  | instant
  | civil
  | json
  | optional (inner : ScalarType)
deriving DecidableEq

/-- A value of such a type. `civil` is an instant without a zone, taken as UTC. -/
inductive Scalar where
  | any (value : Value)
  | bool (value : Bool)
  | integer (type : IntegerType) (value : Int)
  | single (value : Single)
  | double (value : Double)
  | text (value : String)
  | bytes (value : List UInt8)
  | uuid (value : Uuid)
  | instant (value : Instant)
  | civil (value : Instant)
  | json (value : Json)
  | absent
  | present (inner : Scalar)

def maxInt64 : Int := (Nat.pow 2 63 : Int) - 1

/-- The database value of a typed value. Unsigned integers that are too large become text. -/
def Scalar.toValue : Scalar → Value
  | .any value => value
  | .bool value => .bool value
  | .integer _ value =>
    if value ≤ maxInt64 then .int (Int64.ofInt value) else .text (toString value)
  | .single value => .float value.widen
  | .double value => .float value
  | .text value => .text value
  | .bytes value => .bytes value
  | .uuid value => .uuid value
  | .instant value => .instant value
  | .civil value => .instant value
  | .json value => .json value
  | .absent => .null
  | .present inner => inner.toValue

/-- Why a value cannot be read as a type. -/
inductive DecodeFault where
  | mismatch (expected : String) (got : Value)
  | outOfRange (value : Int) (type : IntegerType)
  | invalidInstant (text : String)
  | malformed
  | missingColumn

def DecodeFault.message : DecodeFault → String
  | .mismatch expected got => "expected " ++ expected ++ ", got " ++ got.typeName
  | .outOfRange value type => toString value ++ " out of range for " ++ type.name
  | .invalidInstant text => "invalid timestamp '" ++ text ++ "'"
  | .malformed => "<library>"
  | .missingColumn => "column not found in result set"

namespace ScalarType

open DecodeFault

def decodeBool : Value → Except DecodeFault Bool
  | .bool value => .ok value
  | .int value => .ok (value != 0)
  | other => .error (mismatch "BOOLEAN" other)

/-- A 64-bit integer; truth values count as one and zero. -/
def decodeInt64 : Value → Except DecodeFault Int
  | .int value => .ok value.toInt
  | .bool value => .ok (if value then 1 else 0)
  | other => .error (mismatch "INTEGER" other)

def decodeInteger (type : IntegerType) (value : Value) : Except DecodeFault Int := do
  let number ← decodeInt64 value
  if type.holds number then pure number else throw (outOfRange number type)

def decodeDouble : Value → Except DecodeFault Double
  | .float value => .ok value
  | .int value => .ok (Double.ofInt value.toInt)
  | other => .error (mismatch "FLOAT" other)

def decodeText : Value → Except DecodeFault String
  | .text value => .ok value
  | .uuid value => .ok value.text
  | other => .error (mismatch "TEXT" other)

def decodeBytes : Value → Except DecodeFault (List UInt8)
  | .bytes value => .ok value
  | .text value => .ok (Text.Utf8.encode value)
  | other => .error (mismatch "BLOB" other)

def decodeUuid : Value → Except DecodeFault Uuid
  | .uuid value => .ok value
  | .text value => (Uuid.ofText? value).elim (.error malformed) .ok
  | .bytes value => (Uuid.ofBytes? value).elim (.error malformed) .ok
  | other => .error (mismatch "UUID" other)

def decodeInstant : Value → Except DecodeFault Instant
  | .instant value => .ok value
  | .text value => (Instant.ofText? value).elim (.error (invalidInstant value)) .ok
  | other => .error (mismatch "TIMESTAMP" other)

def decodeJson : Value → Except DecodeFault Json
  | .json value => .ok value
  | .text value => (Json.ofText? value).elim (.error malformed) .ok
  | other => .error (mismatch "JSON" other)

/-- The typed value that a database value is read as. -/
def decode : ScalarType → Value → Except DecodeFault Scalar
  | .any, value => .ok (.any value)
  | .bool, value => (decodeBool value).map .bool
  | .integer type, value => (decodeInteger type value).map (.integer type)
  | .single, value => (decodeDouble value).map fun number => .single number.narrow
  | .double, value => (decodeDouble value).map .double
  | .text, value => (decodeText value).map .text
  | .bytes, value => (decodeBytes value).map .bytes
  | .uuid, value => (decodeUuid value).map .uuid
  | .instant, value => (decodeInstant value).map .instant
  | .civil, value => (decodeInstant value).map .civil
  | .json, value => (decodeJson value).map .json
  | .optional _, .null => .ok .absent
  | .optional inner, value => (decode inner value).map .present

end ScalarType

end RecordQuery
