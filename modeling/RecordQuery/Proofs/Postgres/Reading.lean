import RecordQuery.Proofs.Instant.Letters
import RecordQuery.Proofs.Json.Reading
import RecordQuery.Proofs.Postgres.Numbers
import RecordQuery.Proofs.Value.TextKeys

/-!
# What bytes are read as

Under each type the bytes of a column show one key: that of a truth value, of a
number, of a text, or of what a text or a count of days or microseconds stands
for.  Types of a fixed size show the letters that their bytes are only where these
are the letter of the truth value.
-/

namespace RecordQuery.Postgres

open Number Text

/-- Whether bytes are read under a type as a value with the key. -/
def IsReadAs (type : WireType) (bytes : List UInt8) (key : String) : Prop :=
  ∃ value, decode type (some bytes) = .ok value ∧ value.indexKey = some key

/-- The keys that bytes have under the types. -/
inductive Shows : WireType → List UInt8 → String → Prop
  | truth (byte : UInt8) : Shows .bool [byte] (if byte = 0 then "0" else "1")
  | integer {type : WireType} {bytes : List UInt8}
      (signed : type ∈ [.int2, .int4, .int8])
      (size : size? type = some bytes.length) :
      Shows type bytes (toString (BigEndian.toInt bytes))
  | oid {bytes : List UInt8} (size : bytes.length = 4) :
      Shows .oid bytes (toString (BigEndian.toNat bytes : Int))
  | single (number : Single) :
      Shows .float4 (singleBytes number) (Value.floatKey number.widen)
  | double (number : Double) :
      Shows .float8 (doubleBytes number) (Value.floatKey number)
  | text {type : WireType} (isText : type.isText = true) (text : String) :
      Shows type (Utf8.encode text) (Value.textKey text)
  | bytes (bytes : List UInt8) : Shows .bytea bytes (Utf8.lossy bytes)
  | uuid (uuid : Uuid) : Shows .uuid uuid.bytes uuid.text
  | instant {type : WireType} {bytes : List UInt8} {moment : Instant}
      (counted : type ∈ [.date, .timestamp, .timestamptz])
      (size : size? type = some bytes.length)
      (read : read? type bytes = some (.instant moment)) :
      Shows type bytes moment.text
  | json {text : String} {json : Json}
      (read : Json.ofText? text = some json) :
      Shows .json (Utf8.encode text) json.text
  | jsonb {text : String} {json : Json}
      (read : Json.ofText? text = some json) :
      Shows .jsonb (1 :: Utf8.encode text) json.text

section Bytes

variable {type : WireType} {bytes : List UInt8} {key : String}

theorem decode_eq_ok_iff {value : Value} :
    decode type (some bytes) = .ok value ↔
      (size? type).all (· == bytes.length) = true ∧
        read? type bytes = some value := by
  by_cases other : ∃ name, type = .other name
  · obtain ⟨name, rfl⟩ := other
    refine iff_of_false nofun fun read => ?_
    cases read.2
  · have opened : decode type (some bytes) =
        if (size? type).all (· == bytes.length) then
          (read? type bytes).elim (.error .malformed) .ok
        else .error .malformed := by
      cases type with
      | other name => exact (other ⟨name, rfl⟩).elim
      | _ => rfl
    rw [opened]
    by_cases size : (size? type).all (· == bytes.length) = true
    · rw [if_pos size]
      cases read? type bytes with
      | none => simp
      | some read => simp [size]
    · rw [if_neg size]
      exact iff_of_false nofun fun read => size read.1

theorem length_of_all {size : Nat}
    (sized : (some size).all (· == bytes.length) = true) :
    bytes.length = size :=
  (beq_iff_eq.mp sized).symm

theorem size?_of_isText (isText : type.isText = true) : size? type = none := by
  cases type <;> first | rfl | exact absurd isText Bool.false_ne_true

theorem read?_of_isText (isText : type.isText = true) :
    read? type bytes = (Utf8.strict? bytes).map .text := by
  cases type <;> first | rfl | exact absurd isText Bool.false_ne_true

theorem size?_le {size : Nat} (sized : size? type = some size) :
    size ≤ 16 := by
  cases type <;> first
    | exact Option.some.inj sized ▸ (by decide)
    | exact nomatch sized

theorem readJson?_encode (text : String) :
    readJson? (Utf8.encode text) = (Json.ofText? text).map .json := by
  rw [readJson?, Utf8.strict?_eq_some_iff.mpr rfl, Option.bind_some]

theorem exists_of_readJson? {value : Value}
    (read : readJson? bytes = some value) :
    ∃ text json, bytes = Utf8.encode text ∧ Json.ofText? text = some json ∧
      value = .json json := by
  obtain ⟨json, found, rfl⟩ := Option.map_eq_some_iff.mp read
  obtain ⟨text, strict, parsed⟩ := Option.bind_eq_some_iff.mp found
  exact ⟨text, json, Utf8.strict?_eq_some_iff.mp strict, parsed, rfl⟩

/-! ### One kind of types at a time -/

theorem indexKey_truth (byte : UInt8) :
    (Value.bool ([byte] != [0])).indexKey =
      some (if byte = 0 then "0" else "1") := by
  by_cases zero : byte = 0 <;> simp [Value.indexKey, zero]

theorem indexKey_integer (few : bytes.length ≤ 8) :
    (Value.int (Int64.ofInt (BigEndian.toInt bytes))).indexKey =
      some (toString (BigEndian.toInt bytes)) := by
  obtain ⟨least, most⟩ := BigEndian.toInt_bounds few
  rw [Value.indexKey, Int64.toInt_ofInt_of_le least most]

theorem indexKey_oid (length : bytes.length = 4) :
    (Value.int (Int64.ofNat (BigEndian.toNat bytes))).indexKey =
      some (toString (BigEndian.toNat bytes : Int)) := by
  have below := BigEndian.toNat_lt bytes
  rw [length] at below
  rw [Value.indexKey, Int64.toInt_ofNat_of_lt (by omega)]

theorem length_le_of_signed (signed : type ∈ [.int2, .int4, .int8])
    (size : size? type = some bytes.length) : bytes.length ≤ 8 := by
  simp only [List.mem_cons, List.not_mem_nil, or_false] at signed
  rcases signed with rfl | rfl | rfl
  all_goals
    have length := Option.some.inj size
    omega

namespace Shows

theorem of_truth {byte : UInt8}
    (keyed : (Value.bool ([byte] != [0])).indexKey = some key) :
    Shows .bool [byte] key := by
  rw [indexKey_truth, Option.some.injEq] at keyed
  exact keyed ▸ truth byte

theorem of_integer (signed : type ∈ [.int2, .int4, .int8])
    (size : size? type = some bytes.length)
    (keyed : (Value.int (Int64.ofInt (BigEndian.toInt bytes))).indexKey =
      some key) : Shows type bytes key := by
  rw [indexKey_integer (length_le_of_signed signed size),
    Option.some.injEq] at keyed
  exact keyed ▸ integer signed size

theorem of_oid (length : bytes.length = 4)
    (keyed : (Value.int (Int64.ofNat (BigEndian.toNat bytes))).indexKey =
      some key) : Shows .oid bytes key := by
  rw [indexKey_oid length, Option.some.injEq] at keyed
  exact keyed ▸ oid length

theorem of_single (length : bytes.length = 4) :
    Shows .float4 bytes (Value.floatKey
      (Single.mk (UInt32.ofNat (BigEndian.toNat bytes))).widen) := by
  have shown := single ⟨UInt32.ofNat (BigEndian.toNat bytes)⟩
  rwa [singleBytes_ofNat_toNat length] at shown

theorem of_double (length : bytes.length = 8) :
    Shows .float8 bytes
      (Value.floatKey ⟨UInt64.ofNat (BigEndian.toNat bytes)⟩) := by
  have shown := double ⟨UInt64.ofNat (BigEndian.toNat bytes)⟩
  rwa [doubleBytes_ofNat_toNat length] at shown

theorem of_text {value : Value} (isText : type.isText = true)
    (found : (Utf8.strict? bytes).map .text = some value)
    (keyed : value.indexKey = some key) : Shows type bytes key := by
  obtain ⟨text, strict, rfl⟩ := Option.map_eq_some_iff.mp found
  rw [Utf8.strict?_eq_some_iff.mp strict, ← Option.some.inj keyed]
  exact .text isText text

theorem of_uuid {value : Value}
    (found : (Uuid.ofBytes? bytes).map .uuid = some value)
    (keyed : value.indexKey = some key) : Shows .uuid bytes key := by
  obtain ⟨uuid, made, rfl⟩ := Option.map_eq_some_iff.mp found
  cases keyed
  unfold Uuid.ofBytes? at made
  split at made
  · rename_i size
    cases made
    exact .uuid ⟨bytes, size⟩
  · cases made

theorem of_instant {value : Value} {moment? : Option Instant}
    (counted : type ∈ [.date, .timestamp, .timestamptz])
    (size : size? type = some bytes.length)
    (read : read? type bytes = some value)
    (found : moment?.map .instant = some value)
    (keyed : value.indexKey = some key) : Shows type bytes key := by
  obtain ⟨moment, -, rfl⟩ := Option.map_eq_some_iff.mp found
  rw [← Option.some.inj keyed]
  exact .instant counted size read

end Shows

theorem shows_of_isReadAs (read : IsReadAs type bytes key) :
    Shows type bytes key := by
  obtain ⟨value, decoded, keyed⟩ := read
  obtain ⟨sized, read⟩ := decode_eq_ok_iff.mp decoded
  have size {fixed : Nat} (width : size? type = some fixed) :
      bytes.length = fixed := by
    rw [width] at sized
    exact length_of_all sized
  cases type with
  | bool =>
      obtain ⟨byte, rfl⟩ := List.length_eq_one_iff.mp (size rfl)
      cases read
      exact .of_truth keyed
  | int2 =>
      cases read
      exact .of_integer (by decide) (by rw [size rfl]; rfl) keyed
  | int4 =>
      cases read
      exact .of_integer (by decide) (by rw [size rfl]; rfl) keyed
  | int8 =>
      cases read
      exact .of_integer (by decide) (by rw [size rfl]; rfl) keyed
  | oid =>
      cases read
      exact .of_oid (size rfl) keyed
  | float4 =>
      cases read
      cases keyed
      exact .of_single (size rfl)
  | float8 =>
      cases read
      cases keyed
      exact .of_double (size rfl)
  | text => exact .of_text rfl read keyed
  | varchar => exact .of_text rfl read keyed
  | bpchar => exact .of_text rfl read keyed
  | name => exact .of_text rfl read keyed
  | unknown => exact .of_text rfl read keyed
  | bytea =>
      cases read
      cases keyed
      exact .bytes bytes
  | uuid => exact .of_uuid read keyed
  | timestamptz =>
      exact .of_instant (by decide) (by rw [size rfl]; rfl) read read keyed
  | timestamp =>
      exact .of_instant (by decide) (by rw [size rfl]; rfl) read read keyed
  | date =>
      exact .of_instant (by decide) (by rw [size rfl]; rfl) read read keyed
  | json =>
      obtain ⟨text, json, rfl, parsed, rfl⟩ := exists_of_readJson? read
      cases keyed
      exact .json parsed
  | jsonb =>
      unfold read? at read
      dsimp only at read
      split at read
      · obtain ⟨text, json, rfl, parsed, rfl⟩ := exists_of_readJson? read
        cases keyed
        exact .jsonb parsed
      · cases read
  | other name => cases read

theorem isReadAs_of_read? {value : Value}
    (sized : (size? type).all (· == bytes.length) = true)
    (read : read? type bytes = some value)
    (keyed : value.indexKey = some key) : IsReadAs type bytes key :=
  ⟨value, decode_eq_ok_iff.mpr ⟨sized, read⟩, keyed⟩

/-- Bytes are read as a value with a key exactly when they show it. -/
theorem isReadAs_iff_shows : IsReadAs type bytes key ↔ Shows type bytes key := by
  refine ⟨shows_of_isReadAs, fun shown => ?_⟩
  cases shown with
  | truth byte => exact isReadAs_of_read? rfl rfl (indexKey_truth byte)
  | integer signed size =>
      have read : read? type bytes =
          some (.int (Int64.ofInt (BigEndian.toInt bytes))) := by
        simp only [List.mem_cons, List.not_mem_nil, or_false] at signed
        rcases signed with rfl | rfl | rfl <;> rfl
      exact isReadAs_of_read? (by simp [size]) read
        (indexKey_integer (length_le_of_signed signed size))
  | oid size =>
      exact isReadAs_of_read? (by simp [size?, size]) rfl (indexKey_oid size)
  | single number =>
      refine isReadAs_of_read? (by simp [size?, length_singleBytes]) rfl ?_
      rw [toNat_singleBytes, UInt32.ofNat_toNat]
      rfl
  | double number =>
      refine isReadAs_of_read? (by simp [size?, length_doubleBytes]) rfl ?_
      rw [toNat_doubleBytes, UInt64.ofNat_toNat]
      rfl
  | text isText text =>
      have strict := Utf8.strict?_eq_some_iff.mpr
        (rfl : Utf8.encode text = Utf8.encode text)
      have read : read? type (Utf8.encode text) = some (.text text) := by
        rw [read?_of_isText isText, strict, Option.map_some]
      exact isReadAs_of_read? (by rw [size?_of_isText isText]; rfl) read rfl
  | bytes => exact isReadAs_of_read? rfl rfl rfl
  | uuid uuid =>
      refine isReadAs_of_read? (by simp [size?, uuid.size_eq])
        (congrArg (Option.map Value.uuid) (Uuid.ofBytes?_bytes uuid)) rfl
  | instant counted size read =>
      exact isReadAs_of_read? (by simp [size]) read rfl
  | @json text json read =>
      have found : read? .json (Utf8.encode text) = some (.json json) := by
        rw [read?, readJson?_encode, read, Option.map_some]
      exact isReadAs_of_read? rfl found rfl
  | @jsonb text json read =>
      have found : read? .jsonb (1 :: Utf8.encode text) = some (.json json) :=
        (readJson?_encode text).trans (congrArg (Option.map Value.json) read)
      exact isReadAs_of_read? rfl found rfl

/-! ## Keys -/

/-- Under a type of a fixed size only the letter of the truth value shows
itself. -/
theorem eq_truth_of_shows_lossy (shown : Shows type bytes key)
    (fixed : (size? type).isSome = true) (lossy : key = Utf8.lossy bytes) :
    type = .bool ∧ bytes = Utf8.encode "1" := by
  have decimal {number : Int} (same : key = toString number) :
      bytes = Utf8.encode (toString number) :=
    Utf8.eq_encode_of_lossy (lossy.symm.trans same) fun letter member =>
      (toNat_of_isDecimal (isDecimal_toString number letter member)).2.trans
        (by decide)
  have float {number : Double} (same : key = Value.floatKey number) :
      bytes = Utf8.encode (Value.floatKey number) :=
    Utf8.eq_encode_of_lossy (lossy.symm.trans same)
      (Value.floatKey_isAscii number)
  have length := Utf8.length_lossy_le bytes
  rw [← lossy] at length
  cases shown with
  | truth byte =>
      refine ⟨rfl, ?_⟩
      by_cases zero : byte = 0
      · have encoded : [byte] = Utf8.encode "0" :=
          Utf8.eq_encode_of_lossy (lossy.symm.trans (if_pos zero)) (by simp)
        rw [zero] at encoded
        exact absurd encoded (by decide)
      · exact Utf8.eq_encode_of_lossy (lossy.symm.trans (if_neg zero))
          (by simp)
  | integer signed size =>
      exact (BigEndian.toInt_encode_ne _
        (congrArg BigEndian.toInt (decimal rfl)).symm).elim
  | oid size =>
      have larger :=
        (BigEndian.natAbs_lt_toNat_encode (BigEndian.toNat bytes : Int)).1
      rw [← decimal rfl] at larger
      exact (lt_irrefl _ larger).elim
  | single number =>
      exact (encode_floatKey_ne_singleBytes number (float rfl).symm).elim
  | double number =>
      exact (encode_floatKey_ne_doubleBytes number (float rfl).symm).elim
  | uuid uuid =>
      rw [Uuid.text, String.toList_ofList, Uuid.length_letters,
        uuid.size_eq] at length
      omega
  | @instant _ _ moment counted size read =>
      have longer := Instant.le_length_text moment
      have few := size?_le size
      omega
  | text isText text =>
      rw [size?_of_isText isText] at fixed
      cases fixed
  | bytes => cases fixed
  | json read => cases fixed
  | jsonb read => cases fixed

theorem shows_bytea_iff : Shows .bytea bytes key ↔ key = Utf8.lossy bytes := by
  constructor
  · intro shown
    cases shown with
    | bytes => rfl
    | text isText text => cases isText
    | integer signed size => cases size
    | instant counted size read => cases size
  · rintro rfl
    exact .bytes bytes

theorem shows_text_iff (isText : type.isText = true) :
    Shows type bytes key ↔
      ∃ text, bytes = Utf8.encode text ∧ key = Value.textKey text := by
  constructor
  · intro shown
    cases shown with
    | text isText text => exact ⟨text, rfl, rfl⟩
    | integer signed size =>
        rw [size?_of_isText isText] at size
        cases size
    | instant counted size read =>
        rw [size?_of_isText isText] at size
        cases size
    | _ => cases isText
  · rintro ⟨text, rfl, rfl⟩
    exact .text isText text

theorem shows_truth : Shows .bool (Utf8.encode "1") "1" :=
  Shows.truth 0x31

/-- Few bytes show themselves under the types of texts and of byte strings. -/
theorem lossy_eq_of_shows (shown : Shows type bytes key)
    (plain : type.isText = true ∨ type = .bytea)
    (short : bytes.length < Value.minInstantBytes) :
    Utf8.lossy bytes = key := by
  cases shown with
  | text isText text =>
      rw [Utf8.lossy_encode, Value.textKey_of_short short]
  | bytes => rfl
  | integer signed size =>
      rcases plain with isText | rfl
      · rw [size?_of_isText isText] at size
        cases size
      · cases size
  | instant counted size read =>
      rcases plain with isText | rfl
      · rw [size?_of_isText isText] at size
        cases size
      · cases size
  | _ => rcases plain with isText | same <;> contradiction

theorem length_of_shows {size : Nat} (shown : Shows type bytes key)
    (sized : size? type = some size) : bytes.length = size := by
  obtain ⟨value, decoded, -⟩ := isReadAs_iff_shows.mpr shown
  have all := (decode_eq_ok_iff.mp decoded).1
  rw [sized] at all
  exact length_of_all all

/-- What eight bytes show under the types of a fixed size. -/
theorem shows_eight (shown : Shows type bytes key)
    (fixed : (size? type).isSome = true) (eight : bytes.length = 8) :
    (type = .int8 ∧ key = toString (BigEndian.toInt bytes)) ∨
      (type = .float8 ∧ ∃ number, key = Value.floatKey number) ∨
        (type ∈ [.timestamp, .timestamptz] ∧
          ∃ moment : Instant, key = moment.text) := by
  cases shown with
  | truth byte => cases eight
  | integer signed size =>
      simp only [List.mem_cons, List.not_mem_nil, or_false] at signed
      rcases signed with rfl | rfl | rfl
      · have length := Option.some.inj size
        omega
      · have length := Option.some.inj size
        omega
      · exact Or.inl ⟨rfl, rfl⟩
  | oid size => omega
  | single number =>
      rw [length_singleBytes] at eight
      cases eight
  | double number => exact Or.inr (Or.inl ⟨rfl, number, rfl⟩)
  | text isText text =>
      rw [size?_of_isText isText] at fixed
      cases fixed
  | uuid uuid =>
      rw [uuid.size_eq] at eight
      cases eight
  | @instant _ _ moment counted size read =>
      simp only [List.mem_cons, List.not_mem_nil, or_false] at counted
      rcases counted with rfl | rfl | rfl
      · have length := Option.some.inj size
        omega
      · exact Or.inr (Or.inr ⟨by decide, moment, rfl⟩)
      · exact Or.inr (Or.inr ⟨by decide, moment, rfl⟩)
  | bytes => cases fixed
  | json read => cases fixed
  | jsonb read => cases fixed

/-- What is shown under the types of JSON is the text of a value that the bytes
are a text of. -/
theorem exists_json_of_shows (shown : Shows type bytes key)
    (json : type = .json ∨ type = .jsonb) :
    ∃ text json, Json.ofText? text = some json ∧ key = json.text ∧
      (type = .json ∧ bytes = Utf8.encode text ∨
        type = .jsonb ∧ bytes = 1 :: Utf8.encode text) := by
  cases shown with
  | json read => exact ⟨_, _, read, rfl, Or.inl ⟨rfl, rfl⟩⟩
  | jsonb read => exact ⟨_, _, read, rfl, Or.inr ⟨rfl, rfl⟩⟩
  | integer signed size => rcases json with rfl | rfl <;> cases size
  | instant counted size read => rcases json with rfl | rfl <;> cases size
  | text isText text => rcases json with rfl | rfl <;> cases isText
  | _ => rcases json with same | same <;> cases same

theorem exists_letters_of_shows (shown : Shows type bytes key)
    (json : type = .json ∨ type = .jsonb) :
    ∃ value : Json, value.letters = key.toList := by
  obtain ⟨_, value, -, rfl, -⟩ := exists_json_of_shows shown json
  exact ⟨value, value.toList_text.symm⟩

theorem exists_kindOf?_of_shows (shown : Shows type bytes key)
    (json : type = .json ∨ type = .jsonb) {first : Char} {rest : List Char}
    (led : key.toList = first :: rest) :
    ∃ kind, Json.kindOf? first = some kind := by
  obtain ⟨value, letters⟩ := exists_letters_of_shows shown json
  obtain ⟨letter, after, kind, shape, known⟩ := value.exists_kindOf?_letters
  rw [letters, led, List.cons.injEq] at shape
  rw [← shape.1] at known
  exact ⟨kind, known⟩

/-- Bytes that show a number under the types of JSON begin with a low one. -/
theorem exists_first_of_shows (shown : Shows type bytes key)
    (json : type = .json ∨ type = .jsonb) {first : Char} {rest : List Char}
    (led : key.toList = first :: rest)
    (number : Json.kindOf? first = some .number) :
    ∃ byte more, bytes = byte :: more ∧ byte.toNat < 0x3a ∧
      (9 ≤ byte.toNat ∨ byte = 1 ∧ more ≠ []) := by
  obtain ⟨text, json, read, rfl, written⟩ := exists_json_of_shows shown json
  rw [Json.toList_text] at led
  obtain ⟨letter, letters, shape, least, most⟩ :=
    Json.exists_first_of_ofText? (Json.kind_of_first led number) read
  have encoded := Utf8.encode_eq_cons shape (by omega)
  have byte : (UInt8.ofNat letter.toNat).toNat = letter.toNat := by
    rw [UInt8.toNat_ofNat']
    omega
  rcases written with ⟨-, rfl⟩ | ⟨-, rfl⟩
  · exact ⟨_, _, encoded, by omega, Or.inl (by omega)⟩
  · refine ⟨1, _, rfl, by decide, Or.inr ⟨rfl, ?_⟩⟩
    rw [encoded]
    exact List.cons_ne_nil _ _

end Bytes

end RecordQuery.Postgres
