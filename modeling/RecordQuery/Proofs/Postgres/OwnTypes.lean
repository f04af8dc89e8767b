import RecordQuery.Proofs.Json.RoundTrip
import RecordQuery.Proofs.Postgres.Reading
import RecordQuery.Proofs.Value.Keys

/-!
# Values sent as their own types

A value that is sent as a type of its own stands for itself there, and a text
that is sent as an identifier or as JSON for what it names.  It is sent exactly
when the type has what it stands for, and is read back as that unless the type
keeps less of it: microseconds or days of an instant, and of JSON what a text
can be read as.
-/

namespace RecordQuery.Postgres

open Number Text

/-! ## What values stand for -/

/-- Whether a value is of a type, or a text that may name a value of it. -/
def IsOwn (type : WireType) : Value → Prop
  | .null => type.isSupported = true
  | .bool _ => type = .bool
  | .int _ => type ∈ [.int2, .int4, .oid, .int8]
  | .float _ => type = .float8
  | .text _ => type.isText = true ∨ type ∈ [.uuid, .json, .jsonb]
  | .bytes _ => type = .bytea
  | .uuid _ => type = .uuid
  | .instant _ => type ∈ [.timestamp, .timestamptz, .date]
  | .json _ => type ∈ [.json, .jsonb]

/-- Whether an integer is in the range of an integer type. -/
def WireType.holds (type : WireType) (number : Int) : Bool :=
  match type with
  | .int2 => -2 ^ 15 ≤ number && number < 2 ^ 15
  | .int4 => -2 ^ 31 ≤ number && number < 2 ^ 31
  | .oid => 0 ≤ number && number < 2 ^ 32
  | _ => true

/-- The value of a type that a value stands for, if the type has it. -/
def meaning? (type : WireType) : Value → Option Value
  | .int value => if type.holds value.toInt then some (.int value) else none
  | .text value =>
    match type with
    | .uuid => (Uuid.ofText? value).map .uuid
    | .json | .jsonb => (Json.ofText? value).map .json
    | _ => some (.text value)
  | value => some value

/-- Whether a type keeps all of a value. -/
def IsKept (type : WireType) : Value → Prop
  | .instant value =>
    if type = .date then value.seconds % 86400 = 0 ∧ value.nanos = 0
    else value.nanos < 1000000000 ∧ value.nanos % 1000 = 0
  | .json value => value.depth ≤ Json.maxDepth ∧ value.IsLegible
  | _ => True

/-- Whether a value is sent exactly when the type has what it stands for, and
then read back as that exactly when the type keeps all of it. -/
def Conveys (type : WireType) (value : Value) : Prop :=
  match meaning? type value with
  | none => encode type value = .error .noForm
  | some meaning =>
    ∃ sent, encode type value = .ok sent ∧
      (decode type sent = .ok meaning ↔ IsKept type meaning)

variable {type : WireType}

theorem conveys_of_encode {value meaning : Value} {bytes : List UInt8}
    (means : meaning? type value = some meaning)
    (encoded : encode type value = .ok (some bytes))
    (decoded : decode type (some bytes) = .ok meaning ↔ IsKept type meaning) :
    Conveys type value := by
  rw [Conveys, means]
  exact ⟨some bytes, encoded, decoded⟩

theorem conveys_of_noForm {value : Value} (means : meaning? type value = none)
    (encoded : encode type value = .error .noForm) : Conveys type value := by
  rw [Conveys, means]
  exact encoded

/-! ## Integers -/

theorem decode_iff_of_sized {bytes : List UInt8} {value : Value}
    (sized : (size? type).all (· == bytes.length) = true) :
    decode type (some bytes) = .ok value ↔ read? type bytes = some value := by
  rw [decode_eq_ok_iff, and_iff_right sized]

/-- The bytes of an integer between the bounds of a size. -/
theorem map_sized (signed : Bool) {size : Nat} {low high : Int}
    (bounds :
      (if signed then
          (-(Nat.pow 2 (8 * size - 1) : Int), (Nat.pow 2 (8 * size - 1) : Int))
        else (0, (Nat.pow 2 (8 * size) : Int))) = (low, high))
    {number : Int} {within : Bool}
    (within_iff : within = true ↔ low ≤ number ∧ number < high) :
    (sized signed size number).map some =
      if within = true then .ok (some (BigEndian.ofInt size number))
      else .error .noForm := by
  unfold sized
  rw [bounds]
  dsimp only
  by_cases holds : within = true
  · rw [if_pos holds, if_pos (within_iff.mp holds)]
    rfl
  · rw [if_neg holds, if_neg fun range => holds (within_iff.mpr range)]
    rfl

/-- An integer conveys itself if it is sent in its bytes exactly where the type
holds it. -/
theorem conveys_of_sized {value : Int64} {size : Nat}
    (encoded : encode type (.int value) =
      if type.holds value.toInt = true then
        .ok (some (BigEndian.ofInt size value.toInt))
      else .error .noForm)
    (sized : size? type = some size)
    (read : type.holds value.toInt = true →
      read? type (BigEndian.ofInt size value.toInt) = some (.int value)) :
    Conveys type (.int value) := by
  by_cases holds : type.holds value.toInt = true
  · rw [if_pos holds] at encoded
    refine conveys_of_encode (if_pos holds) encoded (iff_of_true ?_ trivial)
    refine (decode_iff_of_sized ?_).mpr (read holds)
    rw [sized, BigEndian.length_ofInt]
    exact beq_self_eq_true size
  · rw [if_neg holds] at encoded
    exact conveys_of_noForm (if_neg holds) encoded

/-- An integer of a type that reads two's complement is read back from its
bytes. -/
theorem conveys_of_signed {value : Int64} {size : Nat}
    (encoded : encode type (.int value) =
      if type.holds value.toInt = true then
        .ok (some (BigEndian.ofInt size value.toInt))
      else .error .noForm)
    (sized : size? type = some size)
    (reads : ∀ bytes,
      read? type bytes = some (.int (Int64.ofInt (BigEndian.toInt bytes))))
    (bounds : type.holds value.toInt = true →
      -((256 ^ size : Nat) : Int) ≤ 2 * value.toInt ∧
        2 * value.toInt < ((256 ^ size : Nat) : Int)) :
    Conveys type (.int value) := by
  refine conveys_of_sized encoded sized fun holds => ?_
  rw [reads, BigEndian.toInt_ofInt (bounds holds).1 (bounds holds).2,
    Int64.ofInt_toInt]

theorem conveys_int (value : Int64)
    (own : type ∈ [.int2, .int4, .oid, .int8]) :
    Conveys type (.int value) := by
  have least := value.le_toInt
  have most := value.toInt_lt
  simp only [List.mem_cons, List.not_mem_nil, or_false] at own
  rcases own with rfl | rfl | rfl | rfl
  · have within : WireType.int2.holds value.toInt = true ↔
        -2 ^ 15 ≤ value.toInt ∧ value.toInt < 2 ^ 15 := by
      simp [WireType.holds]
    refine conveys_of_signed (map_sized true rfl within) rfl (fun _ => rfl)
      fun holds => ?_
    have range := within.mp holds
    omega
  · have within : WireType.int4.holds value.toInt = true ↔
        -2 ^ 31 ≤ value.toInt ∧ value.toInt < 2 ^ 31 := by
      simp [WireType.holds]
    refine conveys_of_signed (map_sized true rfl within) rfl (fun _ => rfl)
      fun holds => ?_
    have range := within.mp holds
    omega
  · have within : WireType.oid.holds value.toInt = true ↔
        0 ≤ value.toInt ∧ value.toInt < 2 ^ 32 := by
      simp [WireType.holds]
    refine conveys_of_sized (map_sized false rfl within) rfl fun holds => ?_
    have range := within.mp holds
    rw [read?, BigEndian.toNat_ofInt range.1 (by omega)]
    refine congrArg (fun number => some (Value.int number)) ?_
    rw [← Int64.toInt_inj, Int64.toInt_ofNat_of_lt (by omega)]
    omega
  · exact @conveys_of_signed _ value 8 rfl rfl (fun _ => rfl) (by omega)

/-! ## Instants -/

/-- The days of an instant's year are well within 32 bits, and its microseconds
within 64. -/
theorem days_bounds {moment : Instant}
    (representable : moment.IsRepresentable) :
    -97000000 ≤ moment.seconds / 86400 ∧ moment.seconds / 86400 ≤ 96000000 := by
  have valid := Date.isValid_ofDays (moment.seconds / 86400)
  have days := Date.toDays_ofDays (moment.seconds / 86400)
  have least : (-262143 : Int) ≤ (Date.ofDays (moment.seconds / 86400)).year :=
    representable.year_ge
  have most : (Date.ofDays (moment.seconds / 86400)).year ≤ 262142 :=
    representable.year_le
  generalize Date.ofDays (moment.seconds / 86400) = date at *
  by_cases negative : date.year < 0
  · have lower := Date.toDays_ge_of_year_neg valid negative
    have upper := Date.toDays_le_of_year_neg valid negative
    omega
  · have lower := Date.toDays_ge_of_year_nonneg valid (by omega)
    have upper := Date.toDays_le_of_year_nonneg valid (by omega)
    omega

theorem inRange?_of_isRepresentable {moment : Instant}
    (representable : moment.IsRepresentable) :
    Instant.inRange? moment = some moment :=
  if_pos ⟨representable.year_ge, representable.year_le⟩

theorem eq_of_inRange? {moment found : Instant}
    (ranged : Instant.inRange? moment = some found) : found = moment := by
  unfold Instant.inRange? at ranged
  split at ranged
  · cases ranged
    rfl
  · cases ranged

/-- A date is read back exactly at midnight. -/
theorem ofDays_daysSinceMillennium_iff {moment : Instant}
    (representable : moment.IsRepresentable) :
    Instant.ofDaysSinceMillennium? moment.daysSinceMillennium = some moment ↔
      moment.seconds % 86400 = 0 ∧ moment.nanos = 0 := by
  obtain ⟨seconds, nanos⟩ := moment
  simp only [Instant.ofDaysSinceMillennium?, Instant.daysSinceMillennium,
    Instant.millennium, Instant.secondsPerDay]
  constructor
  · intro read
    have same := eq_of_inRange? read
    rw [Instant.mk.injEq] at same
    omega
  · rintro ⟨midnight, rfl⟩
    have whole :
        946684800 + (seconds - 946684800) / 86400 * 86400 = seconds := by
      omega
    rw [whole]
    exact inRange?_of_isRepresentable representable

/-- Microseconds are read back exactly for whole ones within the second. -/
theorem ofMicros_microsSinceMillennium_iff {moment : Instant}
    (representable : moment.IsRepresentable) :
    Instant.ofMicrosSinceMillennium? moment.microsSinceMillennium =
        some moment ↔
      moment.nanos < 1000000000 ∧ moment.nanos % 1000 = 0 := by
  obtain ⟨seconds, nanos⟩ := moment
  simp only [Instant.ofMicrosSinceMillennium?, Instant.microsSinceMillennium,
    Instant.millennium, Instant.nanosPerSecond]
  constructor
  · intro read
    have same := eq_of_inRange? read
    rw [Instant.mk.injEq] at same
    omega
  · rintro ⟨settled, whole⟩
    have micros : Int.tdiv
        ((seconds - 946684800) * (1000000000 : Nat) + nanos) 1000 =
          (seconds - 946684800) * 1000000 + nanos / 1000 := by
      refine Int.tdiv_eq_of_eq_mul_left (by decide) ?_
      omega
    have secondsBack :
        946684800 + ((seconds - 946684800) * 1000000 + nanos / 1000) /
          1000000 = seconds := by
      omega
    have nanosBack :
        (((seconds - 946684800) * 1000000 + nanos / 1000) %
          1000000).toNat * 1000 = nanos := by
      omega
    rw [micros, secondsBack, nanosBack]
    exact inRange?_of_isRepresentable representable

theorem map_instant_eq_iff {moment? : Option Instant} {moment : Instant} :
    moment?.map Value.instant = some (.instant moment) ↔
      moment? = some moment := by
  cases moment? <;> simp

theorem daysSinceMillennium_bounds {moment : Instant}
    (representable : moment.IsRepresentable) :
    -2 ^ 31 ≤ moment.daysSinceMillennium ∧
      moment.daysSinceMillennium < 2 ^ 31 := by
  have days := days_bounds representable
  simp only [Instant.daysSinceMillennium, Instant.millennium,
    Instant.secondsPerDay]
  omega

theorem microsSinceMillennium_bounds {moment : Instant}
    (representable : moment.IsRepresentable) :
    -2 ^ 63 ≤ moment.microsSinceMillennium ∧
      moment.microsSinceMillennium < 2 ^ 63 := by
  have days := days_bounds representable
  have nanos : moment.nanos < 2000000000 := representable.nanos_lt
  simp only [Instant.microsSinceMillennium, Instant.millennium,
    Instant.nanosPerSecond]
  have unit : Int.sign 1000 = 1 := rfl
  rw [Int.tdiv_eq_ediv, unit]
  split <;> omega

theorem conveys_instant {value : Instant}
    (representable : value.IsRepresentable)
    (own : type ∈ [.timestamp, .timestamptz, .date]) :
    Conveys type (.instant value) := by
  have days := daysSinceMillennium_bounds representable
  have micros := microsSinceMillennium_bounds representable
  have written : encode .timestamp (.instant value) =
      .ok (some (BigEndian.ofInt 8 value.microsSinceMillennium)) :=
    congrArg (Except.map some) (if_pos micros)
  have back := BigEndian.toInt_ofInt_eight micros.1 micros.2
  simp only [List.mem_cons, List.not_mem_nil, or_false] at own
  rcases own with rfl | rfl | rfl
  · refine conveys_of_encode rfl written ?_
    rw [decode_iff_of_sized rfl, read?, back, map_instant_eq_iff,
      ofMicros_microsSinceMillennium_iff representable, IsKept,
      if_neg (by decide)]
  · refine conveys_of_encode rfl written ?_
    rw [decode_iff_of_sized rfl, read?, back, map_instant_eq_iff,
      ofMicros_microsSinceMillennium_iff representable, IsKept,
      if_neg (by decide)]
  · have encoded : encode .date (.instant value) =
        .ok (some (BigEndian.ofInt 4 value.daysSinceMillennium)) :=
      congrArg (Except.map some) (if_pos days)
    refine conveys_of_encode rfl encoded ?_
    rw [decode_iff_of_sized rfl, read?,
      BigEndian.toInt_ofInt (by omega) (by omega), map_instant_eq_iff,
      ofDays_daysSinceMillennium_iff representable, IsKept, if_pos rfl]

/-! ## JSON -/

section JsonTypes

variable (own : type ∈ [.json, .jsonb])

include own

theorem encode_json (value : Json) :
    encode type (.json value) = .ok (some (jsonBytes type value)) := by
  simp only [List.mem_cons, List.not_mem_nil, or_false] at own
  rcases own with rfl | rfl <;> rfl

theorem encode_jsonText (text : String) :
    encode type (.text text) =
      ((Json.ofText? text).elim (Except.error EncodeFault.noForm) fun json =>
        Except.ok (jsonBytes type json)).map some := by
  simp only [List.mem_cons, List.not_mem_nil, or_false] at own
  rcases own with rfl | rfl <;> rfl

/-- The bytes of a value are read as its text is. -/
theorem decode_jsonBytes (value : Json) :
    decode type (some (jsonBytes type value)) =
      (Json.ofText? value.text).elim (.error .malformed) fun json =>
        .ok (.json json) := by
  have decoded : decode type (some (jsonBytes type value)) =
      (readJson? (Utf8.encode value.text)).elim (.error .malformed) .ok := by
    simp only [List.mem_cons, List.not_mem_nil, or_false] at own
    rcases own with rfl | rfl <;> rfl
  rw [decoded, readJson?_encode, Option.elim_map]
  rfl

theorem decode_jsonBytes_iff {value : Json} (normal : value.IsNormal) :
    decode type (some (jsonBytes type value)) = .ok (.json value) ↔
      IsKept type (.json value) := by
  rw [decode_jsonBytes own, IsKept, ← Json.ofText?_text_iff normal]
  cases Json.ofText? value.text <;> simp

theorem conveys_json {value : Json} (normal : value.IsNormal) :
    Conveys type (.json value) :=
  conveys_of_encode rfl (encode_json own value)
    (decode_jsonBytes_iff own normal)

theorem conveys_jsonText (text : String) : Conveys type (.text text) := by
  have means : meaning? type (.text text) =
      (Json.ofText? text).map .json := by
    simp only [List.mem_cons, List.not_mem_nil, or_false] at own
    rcases own with rfl | rfl <;> rfl
  have encoded := encode_jsonText own text
  cases read : Json.ofText? text with
  | none =>
      rw [read] at means encoded
      exact conveys_of_noForm means encoded
  | some json =>
      rw [read] at means encoded
      exact conveys_of_encode means encoded
        (decode_jsonBytes_iff own (Json.isNormal_of_ofText? read).1)

end JsonTypes

/-! ## Numbers, identifiers and texts -/

theorem decode_doubleBytes (number : Double) :
    decode .float8 (some (doubleBytes number)) = .ok (.float number) := by
  rw [decode_iff_of_sized (by simp [size?, length_doubleBytes]), read?,
    toNat_doubleBytes, UInt64.ofNat_toNat]

theorem decode_uuidBytes (uuid : Uuid) :
    decode .uuid (some uuid.bytes) = .ok (.uuid uuid) := by
  rw [decode_iff_of_sized (by simp [size?, uuid.size_eq]), read?,
    Uuid.ofBytes?_bytes, Option.map_some]

theorem conveys_plainText (text : String) (isText : type.isText = true) :
    Conveys type (.text text) := by
  have means : meaning? type (.text text) = some (.text text) := by
    cases type <;> first | rfl | cases isText
  have encoded :
      encode type (.text text) = .ok (some (Utf8.encode text)) := by
    cases type <;> first | rfl | cases isText
  refine conveys_of_encode means encoded (iff_of_true ?_ trivial)
  rw [decode_iff_of_sized (by rw [size?_of_isText isText]; rfl),
    read?_of_isText isText, Utf8.strict?_eq_some_iff.mpr rfl,
    Option.map_some]

theorem conveys_uuidText (text : String) : Conveys .uuid (.text text) := by
  have means : meaning? .uuid (.text text) =
      (Uuid.ofText? text).map .uuid := rfl
  have encoded : encode .uuid (.text text) =
      (encodeText .uuid text).map some := rfl
  rw [encodeText] at encoded
  cases read : Uuid.ofText? text with
  | none =>
      rw [read] at means encoded
      exact conveys_of_noForm means encoded
  | some uuid =>
      rw [read] at means encoded
      exact conveys_of_encode means encoded
        (iff_of_true (decode_uuidBytes uuid) trivial)

/-! ## All values -/

theorem conveys_of_isOwn {value : Value} (own : IsOwn type value)
    (wellFormed : value.IsWellFormed)
    (normal : ∀ json, value = .json json → json.IsNormal) :
    Conveys type value := by
  cases value with
  | null =>
      have encoded : encode type .null = .ok none := by
        have supported : type.isSupported = true := own
        simp [encode, supported, Value.isNull]
      exact ⟨none, encoded, iff_of_true rfl trivial⟩
  | bool value =>
      cases own
      refine conveys_of_encode rfl rfl (iff_of_true ?_ trivial)
      cases value <;> rfl
  | int value => exact conveys_int value own
  | float value =>
      cases own
      exact conveys_of_encode rfl rfl
        (iff_of_true (decode_doubleBytes value) trivial)
  | text text =>
      rcases own with isText | source
      · exact conveys_plainText text isText
      · rcases List.mem_cons.mp source with rfl | json
        · exact conveys_uuidText text
        · exact conveys_jsonText json text
  | bytes value =>
      cases own
      exact conveys_of_encode rfl rfl (iff_of_true rfl trivial)
  | uuid value =>
      cases own
      exact conveys_of_encode rfl rfl
        (iff_of_true (decode_uuidBytes value) trivial)
  | instant value => exact conveys_instant wellFormed own
  | json value => exact conveys_json own (normal value rfl)

/-- A value of its own type is refused exactly when the type lacks what it
stands for, and otherwise read back as that exactly when the type keeps all of
it. -/
theorem decode_encode_iff_isKept {value : Value} (own : IsOwn type value)
    (wellFormed : value.IsWellFormed)
    (normal : ∀ json, value = .json json → json.IsNormal) :
    (encode type value = .error .noForm ↔ meaning? type value = none) ∧
    ∀ meaning, meaning? type value = some meaning →
      ∃ sent, encode type value = .ok sent ∧
        (decode type sent = .ok meaning ↔ IsKept type meaning) := by
  have conveys := conveys_of_isOwn own wellFormed normal
  unfold Conveys at conveys
  cases means : meaning? type value with
  | none =>
      rw [means] at conveys
      exact ⟨iff_of_true conveys rfl, nofun⟩
  | some meaning =>
      rw [means] at conveys
      obtain ⟨sent, encoded, decoded⟩ := conveys
      refine ⟨iff_of_false ?_ nofun, ?_⟩
      · rw [encoded]
        exact nofun
      · rintro _ ⟨⟩
        exact ⟨sent, encoded, decoded⟩

theorem decode_encode_iff_isKept_of_members :
    IsOwn .jsonb
        (.json (.array [.integer (-5), .object [("a", .null)]])) ∧
      ∃ sent,
        encode .jsonb
            (.json (.array [.integer (-5), .object [("a", .null)]])) =
          .ok sent ∧
        decode .jsonb sent =
          .ok (.json (.array [.integer (-5), .object [("a", .null)]])) := by
  have own : IsOwn .jsonb
      (.json (.array [.integer (-5), .object [("a", .null)]])) := by
    simp [IsOwn]
  have finite :
      (Json.array [.integer (-5), .object [("a", .null)]]).AllFinite :=
    .array (List.forall_mem_cons.mpr ⟨.integer (-5),
      List.forall_mem_singleton.mpr
        (.object (List.forall_mem_singleton.mpr .null))⟩)
  have normal :
      (Json.array [.integer (-5), .object [("a", .null)]]).IsNormal :=
    .array (List.forall_mem_cons.mpr ⟨.integer (by decide) (by decide),
      List.forall_mem_singleton.mpr
        (.object (List.pairwise_singleton _ _)
          (List.forall_mem_singleton.mpr .null))⟩)
  have legible :
      (Json.array [.integer (-5), .object [("a", .null)]]).IsLegible :=
    .array (List.forall_mem_cons.mpr ⟨.integer (-5),
      List.forall_mem_singleton.mpr
        (.object (List.forall_mem_singleton.mpr .null))⟩)
  obtain ⟨-, reads⟩ := decode_encode_iff_isKept own finite
    (by rintro json ⟨⟩; exact normal)
  obtain ⟨sent, encoded, decoded⟩ := reads _ rfl
  exact ⟨own, sent, encoded, decoded.mpr ⟨by decide, legible⟩⟩

/-- Neither arrays 128 deep nor the number that a text stands for need be read
back. -/
theorem decode_encode_ne_of_nested_of_numeral :
    (Json.nested 128).IsNormal ∧
    (∃ sent,
      encode .json (.json (.nested 128)) = .ok sent ∧
        decode .json sent = .error .malformed) ∧
    ∃ sent,
      Json.ofText? "5e32" = some (.float Json.aboveFiveE32) ∧
        encode .json (.text "5e32") = .ok sent ∧
        decode .json sent = .ok (.json (.float Json.belowFiveE32)) ∧
        Json.belowFiveE32 ≠ Json.aboveFiveE32 := by
  have own : WireType.json ∈ [WireType.json, .jsonb] := List.mem_cons_self
  refine ⟨Json.isNormal_nested 128, ⟨_, encode_json own _, ?_⟩,
    some (jsonBytes .json (.float Json.aboveFiveE32)),
    Json.ofText?_five_e32, ?_, ?_, by decide⟩
  · rw [decode_jsonBytes own, Json.ofText?_text_nested (by decide)]
    rfl
  · rw [encode_jsonText own, Json.ofText?_five_e32]
    rfl
  · rw [decode_jsonBytes own, Json.ofText?_text_aboveFiveE32]
    rfl

end RecordQuery.Postgres
