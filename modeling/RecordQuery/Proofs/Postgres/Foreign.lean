import RecordQuery.Proofs.Postgres.Reading

/-!
# Values sent as other types

A value that is sent as a type which it is not converted to is written in the
format of its own type.  Where the sizes agree its bytes are read as a value of
the other type, and hardly ever as one with its key.
-/

namespace RecordQuery.Postgres

open Number Text

/-- Whether a value is neither of a type nor converted to it. -/
def IsForeign (type : WireType) : Value → Prop
  | .null => False
  | .bool _ => type ≠ .bool
  | .int _ =>
    type ∈ [.bytea, .uuid, .date, .timestamp, .timestamptz, .json, .jsonb]
  | .float _ => type ∉ [.float4, .float8]
  | .text _ => type.isText = false ∧ type ∉ [.uuid, .json, .jsonb]
  | .bytes _ => type ≠ .bytea
  | .uuid _ => type.isText = false ∧ type ≠ .uuid
  | .instant _ => type ∉ [.date, .timestamp, .timestamptz]
  | .json _ => type ∉ [.json, .jsonb]

/-- Whether what is sent for a value, if anything is, is read back as a value
with its key. -/
def ReadsBack (type : WireType) (value : Value) : Prop :=
  ∀ bytes, encode type value = .ok bytes →
    ∃ read, decode type bytes = .ok read ∧ read.indexKey = value.indexKey

/-- The bytes of a value in the format of its own type. -/
def ownBytes : Value → Except EncodeFault (List UInt8)
  | .null => .ok []
  | .bool value => .ok (boolBytes value)
  | .int value => .ok (BigEndian.ofInt 8 value.toInt)
  | .float value => .ok (doubleBytes value)
  | .text value => .ok (Utf8.encode value)
  | .bytes value => .ok value
  | .uuid value => .ok value.bytes
  | .instant value => sized true 8 value.microsSinceMillennium
  | .json value => .ok (Utf8.encode value.text)

section Foreign

variable {type : WireType} {value : Value}

/-- Values are sent as foreign types in the format of their own. -/
theorem encode_of_isForeign (supported : type.isSupported = true)
    (foreign : IsForeign type value) :
    encode type value = (ownBytes value).map some := by
  have opened (present : value.isNull = false) :
      encode type value = (encodePresent type value).map some := by
    simp [encode, supported, present]
  cases value with
  | null => exact foreign.elim
  | bool value => exact opened rfl
  | int value =>
      rw [opened rfl]
      simp only [IsForeign, List.mem_cons, List.not_mem_nil, or_false]
        at foreign
      rcases foreign with rfl | rfl | rfl | rfl | rfl | rfl | rfl <;> rfl
  | float value =>
      have notSingle : type ≠ .float4 := fun same => foreign (by simp [same])
      rw [opened rfl, encodePresent, if_neg notSingle]
      rfl
  | text value =>
      rw [opened rfl]
      cases type <;> first
        | rfl
        | exact (foreign.2 (by decide)).elim
  | bytes value => exact opened rfl
  | uuid value =>
      rw [opened rfl, encodePresent, foreign.1]
      rfl
  | instant value =>
      rw [opened rfl]
      cases type <;> first
        | rfl
        | exact (foreign (by decide)).elim
  | json value =>
      have textual : type ≠ .jsonb := fun same => foreign (by simp [same])
      rw [opened rfl, encodePresent, jsonBytes, if_neg textual]
      rfl

theorem readsBack_iff_shows (supported : type.isSupported = true)
    (foreign : IsForeign type value) {bytes : List UInt8} {key : String}
    (own : ownBytes value = .ok bytes) (keyed : value.indexKey = some key) :
    ReadsBack type value ↔ Shows type bytes key := by
  have encoded : encode type value = .ok (some bytes) := by
    rw [encode_of_isForeign supported foreign, own]
    rfl
  rw [← isReadAs_iff_shows]
  constructor
  · intro readsBack
    obtain ⟨read, decoded, same⟩ := readsBack _ encoded
    exact ⟨read, decoded, same.trans keyed⟩
  · rintro ⟨read, decoded, same⟩ sent other
    rw [encoded, Except.ok.injEq] at other
    rw [← other]
    exact ⟨read, decoded, same.trans keyed.symm⟩

/-- A type is one of a fixed size, of texts and byte strings, or of JSON. -/
theorem kinds_of_shows {bytes : List UInt8} {key : String}
    (shown : Shows type bytes key) :
    (size? type).isSome = true ∨ (type.isText = true ∨ type = .bytea) ∨
      (type = .json ∨ type = .jsonb) := by
  cases type with
  | other name =>
      cases shown with
      | text isText => cases isText
      | integer signed => simp at signed
      | instant counted => simp at counted
  | _ => simp [size?, WireType.isText]

/-! ## Numbers and instants -/

theorem not_shows_bool (truth : Bool)
    (foreign : IsForeign type (.bool truth)) :
    ¬Shows type (boolBytes truth) (if truth then "1" else "0") := by
  intro shown
  rcases kinds_of_shows shown with fixed | plain | json
  · obtain ⟨size, sized⟩ := Option.isSome_iff_exists.mp fixed
    have one : 1 = size := length_of_shows shown sized
    subst one
    exact foreign (by cases type <;> first | rfl | cases sized)
  · have lossy := lossy_eq_of_shows shown plain (by cases truth <;> decide)
    have ascii : ∀ letter ∈ (if truth then "1" else "0").toList,
        letter.toNat < 0x80 := by
      cases truth <;> simp
    have encoded := Utf8.eq_encode_of_lossy lossy ascii
    cases truth <;> exact absurd encoded (by decide)
  · cases truth with
    | false =>
        obtain ⟨byte, more, bytes, -, low⟩ :=
          exists_first_of_shows shown json (rfl : "0".toList = ['0']) rfl
        cases bytes
        exact absurd low (by decide)
    | true =>
        obtain ⟨byte, more, bytes, -, low⟩ :=
          exists_first_of_shows shown json (rfl : "1".toList = ['1']) rfl
        cases bytes
        exact absurd low (by decide)

theorem colon_not_mem_toString (number : Int) :
    ':' ∉ (toString number).toList := by
  intro member
  rcases isDecimal_toString number ':' member with digit | minus
  · cases digit
  · cases minus

theorem colon_not_mem_floatKey (number : Double) :
    ':' ∉ (Value.floatKey number).toList := by
  intro member
  rcases Value.mem_floatKey member with digit | mark
  · cases digit
  · exact absurd mark (by decide)

theorem not_shows_int (number : Int64)
    (foreign : IsForeign type (.int number)) :
    ¬Shows type (BigEndian.ofInt 8 number.toInt)
      (toString number.toInt) := by
  intro shown
  have eight := BigEndian.length_ofInt 8 number.toInt
  have back : BigEndian.toInt (BigEndian.ofInt 8 number.toInt) =
      number.toInt :=
    BigEndian.toInt_ofInt_eight number.le_toInt number.toInt_lt
  have ascii : ∀ letter ∈ (toString number.toInt).toList,
      letter.toNat < 0x80 :=
    fun letter member =>
      (toNat_of_isDecimal (isDecimal_toString _ letter member)).2.trans
        (by decide)
  rcases kinds_of_shows shown with fixed | plain | json
  · rcases shows_eight shown fixed eight with
      ⟨rfl, -⟩ | ⟨rfl, -⟩ | ⟨-, moment, same⟩
    · exact absurd foreign (by simp [IsForeign])
    · exact absurd foreign (by simp [IsForeign])
    · have colon := Instant.colon_mem_text moment
      rw [← same] at colon
      exact colon_not_mem_toString _ colon
  · have lossy := lossy_eq_of_shows shown plain (by rw [eight]; decide)
    have encoded := Utf8.eq_encode_of_lossy lossy ascii
    rw [encoded] at back
    exact BigEndian.toInt_encode_ne _ back
  · obtain ⟨first, rest, led⟩ :=
      List.exists_cons_of_ne_nil (toString_ne_nil number.toInt)
    have decimal := isDecimal_toString number.toInt first
      (led ▸ List.mem_cons_self)
    obtain ⟨byte, more, bytes, most, least⟩ :=
      exists_first_of_shows shown json led (Json.kindOf?_of_isDecimal decimal)
    have positive : 1 ≤ byte.toNat := by
      rcases least with least | ⟨rfl, -⟩
      · omega
      · decide
    obtain ⟨lower, upper⟩ := BigEndian.toNat_cons_bounds byte more
    rw [bytes, List.length_cons, Nat.succ.injEq] at eight
    rw [eight] at lower upper
    have unsigned : 2 * BigEndian.toNat (byte :: more) <
        256 ^ (byte :: more).length := by
      rw [List.length_cons, eight]
      omega
    rw [bytes, BigEndian.toInt_of_lt unsigned] at back
    obtain ⟨text, value, read, same, written⟩ :=
      exists_json_of_shows shown json
    have letters : value.letters = (toString number.toInt).toList := by
      rw [same, Json.toList_text]
    rw [Json.eq_integer_of_letters letters] at read
    have small := Json.natAbs_lt_of_ofText? read
    have short : text.toList.length ≤ 8 := by
      have fewer := Utf8.length_lossy_le (Utf8.encode text)
      rw [Utf8.lossy_encode] at fewer
      have size := BigEndian.length_ofInt 8 number.toInt
      rcases written with ⟨-, written⟩ | ⟨-, written⟩
      · rw [← written, size] at fewer
        exact fewer
      · rw [written, List.length_cons] at size
        omega
    have power : 10 ^ text.toList.length ≤ 10 ^ 8 :=
      Nat.pow_le_pow_right (by decide) short
    omega

theorem not_shows_float (number : Double)
    (foreign : IsForeign type (.float number))
    (notZero : ¬(type = .int8 ∧ number.bits = 0)) :
    ¬Shows type (doubleBytes number) (Value.floatKey number) := by
  intro shown
  have eight := length_doubleBytes number
  rcases kinds_of_shows shown with fixed | plain | json
  · rcases shows_eight shown fixed eight with
      ⟨rfl, same⟩ | ⟨rfl, -⟩ | ⟨-, moment, same⟩
    · exact notZero ⟨rfl, (floatKey_eq_toInt_iff number).mp same⟩
    · exact absurd foreign (by simp [IsForeign])
    · have colon := Instant.colon_mem_text moment
      rw [← same] at colon
      exact colon_not_mem_floatKey _ colon
  · have lossy := lossy_eq_of_shows shown plain (by rw [eight]; decide)
    exact encode_floatKey_ne_doubleBytes number
      (Utf8.eq_encode_of_lossy lossy (Value.floatKey_isAscii number)).symm
  · obtain ⟨first, rest, led, begins⟩ := Value.exists_floatKey_eq_cons number
    rcases begins with decimal | ⟨word, -⟩
    · obtain ⟨byte, more, bytes, most, least⟩ :=
        exists_first_of_shows shown json led
          (Json.kindOf?_of_isDecimal decimal)
      have positive : 0 < byte.toNat := by
        rcases least with least | ⟨rfl, -⟩
        · omega
        · decide
      obtain ⟨behind, -, zeros⟩ :=
        exists_zeros_of_doubleBytes bytes positive most
      obtain ⟨value, letters⟩ := exists_letters_of_shows shown json
      rw [zeros] at letters
      exact Json.letters_ne_zeros value ('0' :: '0' :: behind) letters
    · obtain ⟨kind, known⟩ := exists_kindOf?_of_shows shown json led
      have unknown : ∀ first ∈ ['N', 'i'], Json.kindOf? first = none := by
        simp [Json.kindOf?]
      rw [unknown first word] at known
      cases known

theorem not_shows_instant (moment : Instant) {bytes : List UInt8}
    (eight : bytes.length = 8)
    (foreign : IsForeign type (.instant moment)) :
    ¬Shows type bytes moment.text := by
  intro shown
  have colon := Instant.colon_mem_text moment
  have longer := Instant.le_length_text moment
  rcases kinds_of_shows shown with fixed | plain | json
  · rcases shows_eight shown fixed eight with
      ⟨-, same⟩ | ⟨-, number, same⟩ | ⟨counted, -, -⟩
    · rw [same] at colon
      exact colon_not_mem_toString _ colon
    · rw [same] at colon
      exact colon_not_mem_floatKey _ colon
    · exact foreign (List.mem_cons_of_mem _ counted)
  · have lossy := lossy_eq_of_shows shown plain (by rw [eight]; decide)
    have fewer := Utf8.length_lossy_le bytes
    rw [lossy] at fewer
    omega
  · obtain ⟨first, rest, led, begins⟩ := Instant.exists_text_eq_cons moment
    rcases begins with decimal | rfl
    · obtain ⟨value, letters⟩ := exists_letters_of_shows shown json
      obtain ⟨numeral, isNumber⟩ :=
        Json.exists_isNumber_of_first (letters.trans led)
          (Json.kindOf?_of_isDecimal decimal)
      rw [← letters] at colon
      rcases isNumber.mem_letters colon with digit | mark
      · cases digit
      · exact absurd mark (by decide)
    · obtain ⟨kind, known⟩ := exists_kindOf?_of_shows shown json led
      cases known

theorem not_shows_uuid (uuid : Uuid) (foreign : IsForeign type (.uuid uuid)) :
    ¬Shows type uuid.bytes uuid.text := by
  intro shown
  have length := Uuid.length_letters uuid
  rcases kinds_of_shows shown with fixed | plain | json
  · obtain ⟨size, sized⟩ := Option.isSome_iff_exists.mp fixed
    have sixteen := length_of_shows shown sized
    rw [uuid.size_eq] at sixteen
    subst sixteen
    exact foreign.2 (by cases type <;> first | rfl | cases sized)
  · have fewer := Utf8.length_lossy_le uuid.bytes
    rcases plain with isText | rfl
    · exact Bool.false_ne_true (foreign.1.symm.trans isText)
    · rw [← shows_bytea_iff.mp shown, Uuid.text, String.toList_ofList, length,
        uuid.size_eq] at fewer
      omega
  · obtain ⟨value, letters⟩ := exists_letters_of_shows shown json
    rw [Uuid.text, String.toList_ofList] at letters
    rcases Json.exists_isNumber_or_mem value with
      ⟨numeral, isNumber⟩ | ⟨letter, mark, member⟩
    · have few := isNumber.count_minus_le
      rw [letters, Uuid.count_minus_letters] at few
      omega
    · rw [letters] at member
      rcases Uuid.mem_letters member with ⟨number, small, rfl⟩ | rfl
      · have apart : ∀ number < 16,
            Hex.digit number ∉ Json.wordMarks := by
          decide
        exact apart number small mark
      · exact absurd mark (by decide)

/-! ## Letters -/

theorem encode_injective {left right : String}
    (same : Utf8.encode left = Utf8.encode right) : left = right := by
  rw [← Utf8.lossy_encode left, same, Utf8.lossy_encode]

theorem shows_ofText_iff (text : String)
    (foreign : IsForeign type (.text text)) :
    Shows type (Utf8.encode text) (Value.textKey text) ↔
      type = .bool ∧ text = "1" ∨
        type = .bytea ∧ Value.textKey text = text := by
  constructor
  · intro shown
    rcases kinds_of_shows shown with fixed | (isText | rfl) | json
    · obtain ⟨size, sized⟩ := Option.isSome_iff_exists.mp fixed
      have length := length_of_shows shown sized
      have notUuid : type ≠ .uuid := fun same => foreign.2 (by simp [same])
      have short : (Utf8.encode text).length < Value.minInstantBytes := by
        rw [length]
        cases type <;> first
          | exact Option.some.inj sized ▸ (by decide)
          | exact (notUuid rfl).elim
          | cases sized
      rw [Value.textKey_of_short short] at shown
      obtain ⟨same, one⟩ :=
        eq_truth_of_shows_lossy shown fixed (Utf8.lossy_encode text).symm
      exact Or.inl ⟨same, encode_injective one⟩
    · exact (Bool.false_ne_true (foreign.1.symm.trans isText)).elim
    · have same := shows_bytea_iff.mp shown
      rw [Utf8.lossy_encode] at same
      exact Or.inr ⟨rfl, same⟩
    · rcases json with rfl | rfl <;> exact absurd foreign.2 (by decide)
  · rintro (⟨rfl, rfl⟩ | ⟨rfl, own⟩)
    · have own : Value.textKey "1" = "1" := by decide
      rw [own]
      exact shows_truth
    · rw [shows_bytea_iff, Utf8.lossy_encode, own]

/-- Whether a text is the one of the JSON value that is read from it. -/
def IsCompact (text : String) : Prop :=
  ∃ json, Json.ofText? text = some json ∧ json.text = text

/-- The version of the binary form of JSON begins no text. -/
theorem not_shows_jsonb (text : String) :
    ¬Shows .jsonb (1 :: Utf8.encode text)
      (Utf8.lossy (1 :: Utf8.encode text)) := by
  intro shown
  have shape : (String.ofList ('\x01' :: text.toList)).toList =
      '\x01' :: text.toList :=
    String.toList_ofList
  have versioned : 1 :: Utf8.encode text =
      Utf8.encode (String.ofList ('\x01' :: text.toList)) :=
    (Utf8.encode_eq_cons shape (by decide)).symm
  have led : (Utf8.lossy (1 :: Utf8.encode text)).toList =
      '\x01' :: text.toList := by
    rw [versioned, Utf8.lossy_encode, shape]
  obtain ⟨kind, known⟩ := exists_kindOf?_of_shows shown (Or.inr rfl) led
  cases known

theorem shows_lossy_iff (bytes : List UInt8)
    (foreign : IsForeign type (.bytes bytes)) :
    Shows type bytes (Utf8.lossy bytes) ↔
      type = .bool ∧ bytes = Utf8.encode "1" ∨
        ∃ text, bytes = Utf8.encode text ∧
          (type.isText = true ∧ Value.textKey text = text ∨
            type = .json ∧ IsCompact text) := by
  constructor
  · intro shown
    rcases kinds_of_shows shown with fixed | (isText | same) | json
    · exact Or.inl (eq_truth_of_shows_lossy shown fixed rfl)
    · obtain ⟨text, rfl, key⟩ := (shows_text_iff isText).mp shown
      rw [Utf8.lossy_encode] at key
      exact Or.inr ⟨text, rfl, Or.inl ⟨isText, key.symm⟩⟩
    · exact (foreign same).elim
    · obtain ⟨text, value, read, same, ⟨rfl, rfl⟩ | ⟨rfl, rfl⟩⟩ :=
        exists_json_of_shows shown json
      · rw [Utf8.lossy_encode] at same
        exact Or.inr ⟨text, rfl, Or.inr ⟨rfl, value, read, same.symm⟩⟩
      · exact (not_shows_jsonb text shown).elim
  · rintro (⟨rfl, rfl⟩ | ⟨text, rfl, ⟨isText, own⟩ | ⟨rfl, json, read, own⟩⟩)
    · rw [Utf8.lossy_encode]
      exact shows_truth
    · rw [Utf8.lossy_encode]
      exact (shows_text_iff isText).mpr ⟨text, rfl, own.symm⟩
    · rw [Utf8.lossy_encode, ← own]
      rw [← own] at read
      exact .json read

theorem shows_ofJson_iff (json : Json)
    (foreign : IsForeign type (.json json)) :
    Shows type (Utf8.encode json.text) json.text ↔
      type = .bool ∧ json.text = "1" ∨ type = .bytea ∨
        type.isText = true := by
  constructor
  · intro shown
    rcases kinds_of_shows shown with fixed | (isText | same) | same
    · obtain ⟨same, one⟩ :=
        eq_truth_of_shows_lossy shown fixed (Utf8.lossy_encode _).symm
      exact Or.inl ⟨same, encode_injective one⟩
    · exact Or.inr (Or.inr isText)
    · exact Or.inr (Or.inl same)
    · exact (foreign (by simpa using same)).elim
  · rintro (⟨rfl, one⟩ | rfl | isText)
    · rw [one]
      exact shows_truth
    · rw [shows_bytea_iff, Utf8.lossy_encode]
    · exact (shows_text_iff isText).mpr
        ⟨json.text, rfl, (Value.textKey_json json).symm⟩

/-! ## All values -/

/-- Whether a value, sent as a foreign type, has bytes of that type with its key
or is not sent at all. -/
def Coincides (type : WireType) : Value → Prop
  | .float number => type = .int8 ∧ number.bits = 0
  | .text text =>
    type = .bool ∧ text = "1" ∨ type = .bytea ∧ Value.textKey text = text
  | .bytes bytes =>
    type = .bool ∧ bytes = Utf8.encode "1" ∨
      ∃ text, bytes = Utf8.encode text ∧
        (type.isText = true ∧ Value.textKey text = text ∨
          type = .json ∧ IsCompact text)
  | .instant moment =>
    ¬(-2 ^ 63 ≤ moment.microsSinceMillennium ∧
      moment.microsSinceMillennium < 2 ^ 63)
  | .json json =>
    type = .bool ∧ json.text = "1" ∨ type = .bytea ∨ type.isText = true
  | _ => False

theorem shows_double_iff (number : Double)
    (foreign : IsForeign type (.float number)) :
    Shows type (doubleBytes number) (Value.floatKey number) ↔
      type = .int8 ∧ number.bits = 0 := by
  constructor
  · exact fun shown => by_contra fun notZero =>
      not_shows_float number foreign notZero shown
  · rintro ⟨rfl, zero⟩
    rw [(floatKey_eq_toInt_iff number).mpr zero]
    exact .integer (by decide) (by rw [length_doubleBytes]; rfl)

theorem readsBack_instant_iff (supported : type.isSupported = true)
    (moment : Instant) (foreign : IsForeign type (.instant moment)) :
    ReadsBack type (.instant moment) ↔ Coincides type (.instant moment) := by
  by_cases within : -2 ^ 63 ≤ moment.microsSinceMillennium ∧
      moment.microsSinceMillennium < 2 ^ 63
  · have own : ownBytes (.instant moment) =
        .ok (BigEndian.ofInt 8 moment.microsSinceMillennium) :=
      if_pos within
    rw [readsBack_iff_shows supported foreign own rfl]
    exact iff_of_false
      (not_shows_instant moment (BigEndian.length_ofInt 8 _) foreign)
      (not_not_intro within)
  · have own : ownBytes (.instant moment) = .error .noForm := if_neg within
    refine iff_of_true (fun bytes sent => ?_) within
    rw [encode_of_isForeign supported foreign, own] at sent
    cases sent

/-- What is sent for a value as a foreign type is read back as a value with its
key exactly when it is one of a few whose bytes have that key by chance, or when
nothing is sent. -/
theorem readsBack_iff_coincides (supported : type.isSupported = true)
    (foreign : IsForeign type value) :
    ReadsBack type value ↔ Coincides type value := by
  cases value with
  | null => exact foreign.elim
  | bool truth =>
      rw [readsBack_iff_shows supported foreign rfl rfl]
      exact iff_of_false (not_shows_bool truth foreign) id
  | int number =>
      rw [readsBack_iff_shows supported foreign rfl rfl]
      exact iff_of_false (not_shows_int number foreign) id
  | float number =>
      rw [readsBack_iff_shows supported foreign rfl rfl]
      exact shows_double_iff number foreign
  | text text =>
      rw [readsBack_iff_shows supported foreign rfl rfl]
      exact shows_ofText_iff text foreign
  | bytes bytes =>
      rw [readsBack_iff_shows supported foreign rfl rfl]
      exact shows_lossy_iff bytes foreign
  | uuid uuid =>
      rw [readsBack_iff_shows supported foreign rfl rfl]
      exact iff_of_false (not_shows_uuid uuid foreign) id
  | instant moment => exact readsBack_instant_iff supported moment foreign
  | json json =>
      rw [readsBack_iff_shows supported foreign rfl rfl]
      exact shows_ofJson_iff json foreign

end Foreign

/-- The text of a JSON array that is sent as a byte string is read back with its
key, and so is zero as an integer. -/
theorem readsBack_iff_coincides_arrayText_and_zero :
    ReadsBack .bytea (.json (.array [.null])) ∧
      ReadsBack .int8 (.float ⟨0⟩) := by
  have arrayForeign : IsForeign .bytea (.json (.array [.null])) :=
    (by decide : WireType.bytea ∉ [.json, .jsonb])
  have zeroForeign : IsForeign .int8 (.float ⟨0⟩) :=
    (by decide : WireType.int8 ∉ [.float4, .float8])
  exact ⟨(readsBack_iff_coincides rfl arrayForeign).mpr (Or.inr (Or.inl rfl)),
    (readsBack_iff_coincides rfl zeroForeign).mpr ⟨rfl, rfl⟩⟩

/-- The integer five is sent as a moment, five microseconds into the year 2000. -/
theorem five_read_as_instant :
    IsForeign .timestamp (.int 5) ∧
      encode .timestamp (.int 5) = .ok (some [0, 0, 0, 0, 0, 0, 0, 5]) ∧
      decode .timestamp (some [0, 0, 0, 0, 0, 0, 0, 5]) =
        .ok (.instant ⟨946684800, 5000⟩) ∧
      ¬ReadsBack .timestamp (.int 5) := by
  have foreign : IsForeign .timestamp (.int 5) :=
    (by decide : WireType.timestamp ∈
      [.bytea, .uuid, .date, .timestamp, .timestamptz, .json, .jsonb])
  have sent : encode .timestamp (.int 5) =
      .ok (some [0, 0, 0, 0, 0, 0, 0, 5]) :=
    rfl
  have received : decode .timestamp (some [0, 0, 0, 0, 0, 0, 0, 5]) =
      .ok (.instant ⟨946684800, 5000⟩) := by
    have moment : Instant.ofMicrosSinceMillennium?
        (BigEndian.toInt [0, 0, 0, 0, 0, 0, 0, 5]) =
        some ⟨946684800, 5000⟩ := by
      decide +kernel
    exact decode_eq_ok_iff.mpr
      ⟨rfl, congrArg (Option.map Value.instant) moment⟩
  refine ⟨foreign, sent, received, fun readsBack => ?_⟩
  obtain ⟨read, decoded, same⟩ := readsBack _ sent
  rw [received, Except.ok.injEq] at decoded
  rw [← decoded] at same
  exact absurd same (by decide +kernel)

end RecordQuery.Postgres
