import RecordQuery.Json.Parser
import RecordQuery.Number.Binary
import RecordQuery.Value

/-!
# The binary format of PostgreSQL

Values as parameters and columns. A value whose type is not the parameter's is converted where it can
be, and otherwise written in the format of its own type.

Taken over from the usual library for this format is the form of each type: numbers with the most
significant byte first, times as microseconds and days since 2000, the version byte of `jsonb`, and
which sizes and texts it refuses. Types that no value passes through, arrays and decimals among them,
are left out, as are the texts of its faults.
-/

namespace RecordQuery

/-! ## Types of parameters and columns -/

namespace Postgres

/-- A type by what values pass through it; `other` is any type that values do not pass through. -/
inductive WireType where
  | bool
  | int2
  | int4
  | int8
  | oid
  | float4
  | float8
  | text
  | varchar
  | bpchar
  | name
  | unknown
  | bytea
  | uuid
  | timestamptz
  | timestamp
  | date
  | json
  | jsonb
  | other (label : String)
deriving DecidableEq

namespace WireType

/-- The type of a name in the catalog. -/
def ofName : String → WireType
  | "bool" => .bool
  | "int2" => .int2
  | "int4" => .int4
  | "int8" => .int8
  | "oid" => .oid
  | "float4" => .float4
  | "float8" => .float8
  | "text" => .text
  | "varchar" => .varchar
  | "bpchar" => .bpchar
  | "name" => .name
  | "unknown" => .unknown
  | "bytea" => .bytea
  | "uuid" => .uuid
  | "timestamptz" => .timestamptz
  | "timestamp" => .timestamp
  | "date" => .date
  | "json" => .json
  | "jsonb" => .jsonb
  | label => .other label

/-- Whether the type holds plain text. -/
def isText : WireType → Bool
  | .text | .varchar | .bpchar | .name | .unknown => true
  | _ => false

def isSupported : WireType → Bool
  | .other _ => false
  | _ => true

end WireType

end Postgres

/-! ## Times since 2000 -/

namespace Instant

/-- The seconds from 1970-01-01 to 2000-01-01. -/
def millennium : Int := 946684800

/-- The microseconds since 2000-01-01, the rest dropped toward it. -/
def microsSinceMillennium (instant : Instant) : Int :=
  Int.tdiv ((instant.seconds - millennium) * nanosPerSecond + instant.nanos) 1000

/-- The days from 2000-01-01 to the day of a moment. -/
def daysSinceMillennium (instant : Instant) : Int :=
  (instant.seconds - millennium) / secondsPerDay

/-- The moment, if its year is in range. -/
def inRange? (instant : Instant) : Option Instant :=
  if Date.minYear ≤ instant.date.year ∧ instant.date.year ≤ Date.maxYear then some instant else none

def ofMicrosSinceMillennium? (micros : Int) : Option Instant :=
  inRange? ⟨millennium + micros / 1000000, (micros % 1000000).toNat * 1000⟩

def ofDaysSinceMillennium? (days : Int) : Option Instant :=
  inRange? ⟨millennium + days * secondsPerDay, 0⟩

end Instant

namespace Postgres

open Number

/-! ## Encoding -/

/-- Why a value cannot be sent as a type. -/
inductive EncodeFault where
  | wrongType
  | noForm

/-- The bytes of an integer, which must be in the range of `size` bytes. -/
def sized (signed : Bool) (size : Nat) (value : Int) : Except EncodeFault (List UInt8) :=
  let (low, high) : Int × Int :=
    if signed then (-(Nat.pow 2 (8 * size - 1) : Int), (Nat.pow 2 (8 * size - 1) : Int))
    else (0, (Nat.pow 2 (8 * size) : Int))
  if low ≤ value ∧ value < high then .ok (BigEndian.ofInt size value) else .error .noForm

def boolBytes (value : Bool) : List UInt8 :=
  [if value then 1 else 0]

def doubleBytes (value : Double) : List UInt8 :=
  BigEndian.ofNat 8 value.bits.toNat

def singleBytes (value : Single) : List UInt8 :=
  BigEndian.ofNat 4 value.bits.toNat

/-- A JSON value; the format of `jsonb` starts with a version. -/
def jsonBytes (type : WireType) (value : Json) : List UInt8 :=
  let text := Text.Utf8.encode value.text
  if type = .jsonb then 1 :: text else text

def encodeInt (type : WireType) (value : Int64) : Except EncodeFault (List UInt8) :=
  let number := value.toInt
  if type.isText then .ok (Text.Utf8.encode (toString number))
  else
    match type with
    | .int2 => sized true 2 number
    | .int4 => sized true 4 number
    | .oid => sized false 4 number
    | .float8 => .ok (doubleBytes (.ofInt number))
    | .float4 => .ok (singleBytes (.ofInt number))
    | .bool => .ok (boolBytes (value != 0))
    | _ => .ok (BigEndian.ofInt 8 number)

def encodeText (type : WireType) (value : String) : Except EncodeFault (List UInt8) :=
  match type with
  | .uuid => (Uuid.ofText? value).elim (.error .noForm) fun uuid => .ok uuid.bytes
  | .json | .jsonb => (Json.ofText? value).elim (.error .noForm) fun json => .ok (jsonBytes type json)
  | _ => .ok (Text.Utf8.encode value)

def encodeInstant (type : WireType) (value : Instant) : Except EncodeFault (List UInt8) :=
  match type with
  | .date => sized true 4 value.daysSinceMillennium
  | _ => sized true 8 value.microsSinceMillennium

/-- The bytes of a value that is not NULL. -/
def encodePresent (type : WireType) : Value → Except EncodeFault (List UInt8)
  | .null => .ok []
  | .bool value => .ok (boolBytes value)
  | .int value => encodeInt type value
  | .float value =>
    .ok (if type = .float4 then singleBytes value.narrow else doubleBytes value)
  | .text value => encodeText type value
  | .bytes value => .ok value
  | .uuid value => .ok (if type.isText then Text.Utf8.encode value.text else value.bytes)
  | .instant value => encodeInstant type value
  | .json value => .ok (jsonBytes type value)

/-- The bytes of a parameter, or none for NULL. -/
def encode (type : WireType) (value : Value) : Except EncodeFault (Option (List UInt8)) :=
  if !type.isSupported then .error .wrongType
  else if value.isNull then .ok none
  else (encodePresent type value).map some

/-! ## Decoding -/

/-- Why the bytes of a column cannot be read. -/
inductive DecodeFault where
  | unsupported (type : String)
  | malformed

def size? : WireType → Option Nat
  | .bool => some 1
  | .int2 => some 2
  | .int4 | .oid | .float4 | .date => some 4
  | .int8 | .float8 | .timestamp | .timestamptz => some 8
  | .uuid => some 16
  | _ => none

/-- The value of a JSON text. -/
def readJson? (bytes : List UInt8) : Option Value :=
  ((Text.Utf8.strict? bytes).bind Json.ofText?).map .json

/-- The value of a column's bytes, their number being right. -/
def read? (type : WireType) (bytes : List UInt8) : Option Value :=
  match type with
  | .bool => some (.bool (bytes != [0]))
  | .int2 | .int4 | .int8 => some (.int (Int64.ofInt (BigEndian.toInt bytes)))
  | .oid => some (.int (Int64.ofNat (BigEndian.toNat bytes)))
  | .float4 => some (.float (Single.mk (UInt32.ofNat (BigEndian.toNat bytes))).widen)
  | .float8 => some (.float ⟨UInt64.ofNat (BigEndian.toNat bytes)⟩)
  | .text | .varchar | .bpchar | .name | .unknown => (Text.Utf8.strict? bytes).map .text
  | .bytea => some (.bytes bytes)
  | .uuid => (Uuid.ofBytes? bytes).map .uuid
  | .timestamp | .timestamptz =>
    (Instant.ofMicrosSinceMillennium? (BigEndian.toInt bytes)).map .instant
  | .date => (Instant.ofDaysSinceMillennium? (BigEndian.toInt bytes)).map .instant
  | .json => readJson? bytes
  | .jsonb =>
    match bytes with
    | 1 :: rest => readJson? rest
    | _ => none
  | .other _ => none

/-- The value of a column; no bytes are NULL whatever the type. -/
def decode (type : WireType) : Option (List UInt8) → Except DecodeFault Value
  | none => .ok .null
  | some bytes =>
    match type with
    | .other name => .error (.unsupported name)
    | type =>
      if (size? type).all (· == bytes.length) then
        (read? type bytes).elim (.error .malformed) .ok
      else .error .malformed

/-- The wording of a fault; one in the bytes themselves has none of its own. -/
def DecodeFault.message? : DecodeFault → Option String
  | .unsupported type => some ("unsupported column type " ++ type)
  | .malformed => none

end Postgres

end RecordQuery
