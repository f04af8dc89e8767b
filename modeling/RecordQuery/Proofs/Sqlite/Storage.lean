import RecordQuery.Proofs.Value.Scalar
import RecordQuery.Proofs.Value.TextKeys
import RecordQuery.Sqlite.Storage

/-!
# Values read back from SQLite

What is bound and read back has the key that it had, though truth values,
identifiers, instants and JSON values come back as integers and texts: the text
of an identifier or of a JSON value is never taken for an instant, and that of an
instant names the same one.  Typed values are read back as they were, unless they
are floating-point numbers, JSON values or unsigned integers of 64 bits, or hold a
leap second that is not the last of its minute.
-/

namespace RecordQuery

open Number Text

namespace Value

/-- Whether a value is the floating-point number that is not a number. -/
def IsNaN : Value → Prop
  | .float value => value.isNaN = true
  | _ => False

end Value

namespace Sqlite

open Value

@[simp]
theorem toValue_keep_ofText (text : String) :
    (Stored.ofText text).keep.toValue = .text text :=
  congrArg Value.text (Utf8.lossy_encode text)

/-- A value that is bound and read back has the key that it had exactly when it
is not the one that is kept as NULL. -/
theorem indexKey_read_back_iff {value : Value}
    (wellFormed : value.IsWellFormed) :
    (Stored.ofValue value).keep.toValue.indexKey = value.indexKey ↔
      ¬value.IsNaN := by
  cases value with
  | null => exact iff_of_true rfl id
  | bool value => cases value <;> exact iff_of_true rfl id
  | int value => exact iff_of_true rfl id
  | float value =>
      cases isNaN : value.isNaN with
      | true =>
          refine iff_of_false ?_ (not_not_intro isNaN)
          rw [Stored.ofValue, Stored.keep, if_pos isNaN]
          exact nofun
      | false =>
          refine iff_of_true ?_ fun notANumber => ?_
          · rw [Stored.ofValue, Stored.keep, if_neg (by simp [isNaN])]
            rfl
          · exact Bool.false_ne_true (isNaN.symm.trans notANumber)
  | text value =>
      refine iff_of_true ?_ id
      rw [Stored.ofValue, toValue_keep_ofText]
  | bytes value => exact iff_of_true rfl id
  | uuid value =>
      refine iff_of_true ?_ id
      rw [Stored.ofValue, toValue_keep_ofText]
      exact congrArg some (textKey_uuid value)
  | instant value =>
      refine iff_of_true ?_ id
      rw [Stored.ofValue, toValue_keep_ofText]
      exact congrArg some (textKey_instant wellFormed)
  | json value =>
      refine iff_of_true ?_ id
      rw [Stored.ofValue, toValue_keep_ofText]
      exact congrArg some (textKey_json value)

/-- A truth value and a leap second of the year 10000 come back as an integer
and a text with their keys. -/
theorem indexKey_read_back_iff_truth_and_leapSecond :
    (Stored.ofValue (.bool true)).keep.toValue.indexKey =
        (Value.bool true).indexKey ∧
      (Stored.ofValue
          (.instant ⟨253402300859, 1500000000⟩)).keep.toValue.indexKey =
        (Value.instant ⟨253402300859, 1500000000⟩).indexKey := by
  have truth : (Value.bool true).IsWellFormed := trivial
  have leapSecond :
      (Value.instant ⟨253402300859, 1500000000⟩).IsWellFormed :=
    ⟨by decide, by decide, by decide⟩
  exact ⟨(indexKey_read_back_iff truth).mpr id,
    (indexKey_read_back_iff leapSecond).mpr id⟩

end Sqlite

/-! ## Typed values -/

namespace Scalar

/-- Whether the moment in a typed value, if there is one, is an instant. -/
def IsRepresentable : Scalar → Prop
  | .instant value => value.IsRepresentable
  | .civil value => value.IsRepresentable
  | .present inner => inner.IsRepresentable
  | _ => True

/-- Whether a leap second in a typed value is the last of its minute. -/
def IsOnClock : Scalar → Prop
  | .instant value => value.IsOnClock
  | .civil value => value.IsOnClock
  | .present inner => inner.IsOnClock
  | _ => True

/-- The typed value with its moment settled. -/
def settled : Scalar → Scalar
  | .instant value => .instant value.settled
  | .civil value => .civil value.settled
  | .present inner => .present inner.settled
  | value => value

theorem settled_eq_self_iff (value : Scalar) :
    value.settled = value ↔ value.IsOnClock := by
  induction value with
  | instant value =>
      rw [settled, instant.injEq]
      exact Instant.settled_eq_self_iff
  | civil value =>
      rw [settled, civil.injEq]
      exact Instant.settled_eq_self_iff
  | present inner inductionHypothesis =>
      rw [settled, present.injEq]
      exact inductionHypothesis
  | _ => exact iff_of_true rfl trivial

end Scalar

namespace ScalarType

/-- The types whose values have one form in the database. -/
def IsKept : ScalarType → Prop
  | .bool | .text | .bytes | .uuid | .instant | .civil => True
  | .integer type => type.signed = true ∨ type.bits < 64
  | _ => False

/-- Those types and their optional ones. -/
def IsStorable : ScalarType → Prop
  | .optional inner => inner.IsKept
  | type => type.IsKept

open Sqlite

variable {type : ScalarType} {value : Scalar}

/-- The text of a moment is decoded as the moment settled. -/
theorem decodeInstant_text {moment : Instant}
    (representable : moment.IsRepresentable) :
    decodeInstant (.text moment.text) = .ok moment.settled := by
  rw [decodeInstant, Instant.ofText?_text_settled representable]
  rfl

theorem decode_stored_of_isKept (held : type.Holds value) (kept : type.IsKept)
    (representable : value.IsRepresentable) :
    (Stored.ofValue value.toValue).keep.toValue.isNull = false ∧
      type.decode (Stored.ofValue value.toValue).keep.toValue =
        .ok value.settled := by
  cases held with
  | bool value => cases value <;> exact ⟨rfl, rfl⟩
  | integer size within =>
      have most := IntegerType.le_maxInt64_of_holds size within kept
      rw [Scalar.toValue_integer most]
      exact ⟨rfl, decode_integer size within most⟩
  | text value =>
      rw [Scalar.toValue, Stored.ofValue, toValue_keep_ofText]
      exact ⟨rfl, rfl⟩
  | bytes value => exact ⟨rfl, rfl⟩
  | uuid value =>
      rw [Scalar.toValue, Stored.ofValue, toValue_keep_ofText]
      simp [decode, decodeUuid, Uuid.ofText?_text, Value.isNull, Except.map,
        Scalar.settled]
  | instant value =>
      rw [Scalar.toValue, Stored.ofValue, toValue_keep_ofText, decode,
        decodeInstant_text representable]
      exact ⟨rfl, rfl⟩
  | civil value =>
      rw [Scalar.toValue, Stored.ofValue, toValue_keep_ofText, decode,
        decodeInstant_text representable]
      exact ⟨rfl, rfl⟩
  | _ => exact kept.elim

/-- A typed value that is stored comes back with its moment settled. -/
theorem decode_stored_eq_settled (held : type.Holds value)
    (storable : type.IsStorable) (representable : value.IsRepresentable) :
    type.decode (Stored.ofValue value.toValue).keep.toValue =
      .ok value.settled := by
  by_cases kept : type.IsKept
  · exact (decode_stored_of_isKept held kept representable).2
  · cases held with
    | absent inner => rfl
    | present held =>
        obtain ⟨present, read⟩ :=
          decode_stored_of_isKept held storable representable
        rw [Scalar.toValue, decode_optional present, read]
        rfl
    | _ => exact (kept storable).elim

/-- A typed value that is stored and read back is the one that it was exactly
when its leap second, if it has one, is the last of its minute.  Otherwise its
nanoseconds are counted into the next second. -/
theorem decode_stored (held : type.Holds value) (storable : type.IsStorable)
    (representable : value.IsRepresentable) :
    (type.decode (Stored.ofValue value.toValue).keep.toValue = .ok value ↔
        value.IsOnClock) ∧
      type.decode (Stored.ofValue value.toValue).keep.toValue =
        .ok value.settled := by
  have read := decode_stored_eq_settled held storable representable
  refine ⟨?_, read⟩
  rw [read, Except.ok.injEq, Scalar.settled_eq_self_iff]

/-- The largest unsigned integer of 32 bits and a present leap second before the
common era, the last of its minute, are read back; a leap second that follows
the fourth second of a minute is not. -/
theorem decode_stored_largest_and_leapSeconds :
    (ScalarType.integer ⟨false, 32⟩).decode
        (Stored.ofValue
          (Scalar.integer ⟨false, 32⟩ 4294967295).toValue).keep.toValue =
        .ok (.integer ⟨false, 32⟩ 4294967295) ∧
      (ScalarType.optional .civil).decode
          (Stored.ofValue (Scalar.present
            (.civil ⟨-62198755201, 1999999999⟩)).toValue).keep.toValue =
        .ok (.present (.civil ⟨-62198755201, 1999999999⟩)) ∧
      ScalarType.instant.decode
          (Stored.ofValue
            (Scalar.instant ⟨86164, 1333333333⟩).toValue).keep.toValue =
        .ok (.instant ⟨86165, 333333333⟩) := by
  have common : Instant.IsRepresentable ⟨-62198755201, 1999999999⟩ :=
    ⟨by decide, by decide, by decide⟩
  have strange : Instant.IsRepresentable ⟨86164, 1333333333⟩ :=
    ⟨by decide, by decide, by decide⟩
  have lastOfMinute : Instant.IsOnClock ⟨-62198755201, 1999999999⟩ :=
    fun _ => by decide
  exact ⟨(decode_stored (.integer (by decide) (by decide))
      (Or.inr (by decide)) trivial).1.mpr trivial,
    (decode_stored (.present (.civil _)) trivial common).1.mpr lastOfMinute,
    (decode_stored (.instant _) trivial strange).2⟩

/-- In a zone that is not off by whole minutes a leap second may follow any
second of a minute.  It is stored as a text that names the next second, and so
is not read back. -/
theorem decode_stored_ne_of_leapSecond_within_minute :
    (Scalar.instant ⟨86164, 1333333333⟩).IsRepresentable ∧
      ScalarType.instant.Holds (.instant ⟨86164, 1333333333⟩) ∧
      ScalarType.instant.IsStorable ∧
      (Scalar.instant ⟨86164, 1333333333⟩).toValue =
        .instant ⟨86164, 1333333333⟩ ∧
      Stored.ofValue (.instant ⟨86164, 1333333333⟩) =
        .ofText "1970-01-01 23:56:05.333333333" ∧
      ScalarType.instant.decode (.text "1970-01-01 23:56:05.333333333") =
        .ok (.instant ⟨86165, 333333333⟩) ∧
      ScalarType.instant.decode
          (Stored.ofValue
            (Scalar.instant ⟨86164, 1333333333⟩).toValue).keep.toValue ≠
        .ok (.instant ⟨86164, 1333333333⟩) := by
  have strange : Instant.IsRepresentable ⟨86164, 1333333333⟩ :=
    ⟨by decide, by decide, by decide⟩
  have shown : Instant.text ⟨86164, 1333333333⟩ =
      "1970-01-01 23:56:05.333333333" := by decide +kernel
  have named := decodeInstant_text strange
  rw [shown] at named
  have read :=
    decode_stored_eq_settled (.instant ⟨86164, 1333333333⟩) trivial strange
  refine ⟨strange, .instant _, trivial, rfl, ?_, ?_, ?_⟩
  · rw [Stored.ofValue, shown]
  · rw [decode, named]
    rfl
  · rw [read]
    intro same
    cases same

end ScalarType

end RecordQuery
