import RecordQuery.Proofs.Number.Rounding
import RecordQuery.Value.Scalar

/-!
# Typed values behind database values

A typed value is read back from the database value that it is stored as, unless
it is an unsigned integer that is stored as text, which no integer type reads,
or a present value that is stored as NULL, which is read as absent.
-/

namespace RecordQuery

open Number

/-- The values of a type.  Integer types have at most 64 bits. -/
inductive ScalarType.Holds : ScalarType → Scalar → Prop
  | any (value : Value) : Holds .any (.any value)
  | bool (value : Bool) : Holds .bool (.bool value)
  | integer {type : IntegerType} {value : Int} (size : type.bits ≤ 64)
      (within : type.holds value = true) :
      Holds (.integer type) (.integer type value)
  | single (value : Single) : Holds .single (.single value)
  | double (value : Double) : Holds .double (.double value)
  | text (value : String) : Holds .text (.text value)
  | bytes (value : List UInt8) : Holds .bytes (.bytes value)
  | uuid (value : Uuid) : Holds .uuid (.uuid value)
  | instant (value : Instant) : Holds .instant (.instant value)
  | civil (value : Instant) : Holds .civil (.civil value)
  | json (value : Json) : Holds .json (.json value)
  | absent (inner : ScalarType) : Holds (.optional inner) .absent
  | present {inner : ScalarType} {value : Scalar} (held : Holds inner value) :
      Holds (.optional inner) (.present value)

namespace Scalar

/-- Whether two typed values are the same; all that are not a number count as
one. -/
def Same : Scalar → Scalar → Prop
  | .single left, .single right =>
    left = right ∨ left.isNaN = true ∧ right.isNaN = true
  | .present left, .present right => Same left right
  | left, right => left = right

/-- Whether a typed value is stored in a form of its type: an integer as an
integer, a present value as one. -/
def IsStoredInKind : Scalar → Prop
  | .integer _ value => value ≤ maxInt64
  | .present inner => inner.toValue.isNull = false ∧ inner.IsStoredInKind
  | _ => True

end Scalar

/-! ## Integers -/

namespace IntegerType

variable {type : IntegerType} {value : Int}

theorem two_pow_le {bits : Nat} (fewer : bits ≤ 63) :
    ((Nat.pow 2 bits : Nat) : Int) ≤ 2 ^ 63 := by
  exact_mod_cast Nat.pow_le_pow_right (by decide : 0 < 2) fewer

theorem minInt64_le_of_holds (size : type.bits ≤ 64)
    (within : type.holds value = true) : -2 ^ 63 ≤ value := by
  unfold holds at within
  split at within
  · have least := two_pow_le (by omega : type.bits - 1 ≤ 63)
    rw [Bool.and_eq_true, decide_eq_true_eq] at within
    exact (Int.neg_le_neg least).trans within.1
  · rw [Bool.and_eq_true, decide_eq_true_eq] at within
    exact Int.le_trans (by decide) within.1

/-- Only unsigned integers of 64 bits exceed the signed ones. -/
theorem le_maxInt64_of_holds (size : type.bits ≤ 64)
    (within : type.holds value = true)
    (narrow : type.signed = true ∨ type.bits < 64) : value ≤ maxInt64 := by
  have limit : maxInt64 = 2 ^ 63 - 1 := by decide
  unfold holds at within
  split at within
  · have most := two_pow_le (by omega : type.bits - 1 ≤ 63)
    rw [Bool.and_eq_true, decide_eq_true_eq, decide_eq_true_eq] at within
    omega
  · rename_i unsigned
    have most := two_pow_le (by
      rcases narrow with signed | few
      · exact (unsigned signed).elim
      · omega : type.bits ≤ 63)
    rw [Bool.and_eq_true, decide_eq_true_eq, decide_eq_true_eq] at within
    omega

theorem toInt_ofInt (least : -2 ^ 63 ≤ value) (most : value ≤ maxInt64) :
    (Int64.ofInt value).toInt = value := by
  have limit : maxInt64 = 2 ^ 63 - 1 := by decide
  exact Int64.toInt_ofInt_of_le least (by omega)

end IntegerType

namespace Scalar

theorem toValue_integer {type : IntegerType} {value : Int}
    (most : value ≤ maxInt64) :
    (integer type value).toValue = .int (Int64.ofInt value) :=
  if_pos most

theorem Same.refl (value : Scalar) : value.Same value := by
  induction value with
  | single value => exact Or.inl rfl
  | present inner inductionHypothesis => exact inductionHypothesis
  | _ => rfl

end Scalar

namespace ScalarType

open Scalar

theorem decode_integer {type : IntegerType} {value : Int}
    (size : type.bits ≤ 64) (within : type.holds value = true)
    (most : value ≤ maxInt64) :
    (ScalarType.integer type).decode (.int (Int64.ofInt value)) =
      .ok (.integer type value) := by
  have stored :=
    IntegerType.toInt_ofInt (IntegerType.minInt64_le_of_holds size within) most
  have read : decodeInteger type (.int (Int64.ofInt value)) = .ok value := by
    simp only [decodeInteger, decodeInt64, stored]
    exact if_pos within
  rw [decode, read]
  rfl

theorem decode_optional {inner : ScalarType} {value : Value}
    (present : value.isNull = false) :
    (ScalarType.optional inner).decode value =
      (inner.decode value).map .present := by
  cases value with
  | null => cases present
  | _ => rfl

/-! ## Reading back -/

/-- A typed value is read back from what it is stored as exactly when it is
stored in a form of its type. -/
theorem decode_toValue_iff {type : ScalarType} {value : Scalar}
    (held : type.Holds value) :
    (∃ read, type.decode value.toValue = .ok read ∧ read.Same value) ↔
      value.IsStoredInKind := by
  induction held with
  | integer size within =>
      rename_i type value
      by_cases most : value ≤ maxInt64
      · rw [toValue_integer most, decode_integer size within most]
        exact iff_of_true ⟨_, rfl, Same.refl _⟩ most
      · have written : (Scalar.integer type value).toValue =
            .text (toString value) := if_neg most
        rw [written]
        exact iff_of_false (fun ⟨_, read, _⟩ => nomatch read) most
  | single value =>
      refine iff_of_true ⟨_, rfl, ?_⟩ trivial
      cases isNaN : value.isNaN with
      | false => exact Or.inl (Single.narrow_widen isNaN)
      | true => exact Or.inr ⟨Single.isNaN_narrow_widen isNaN, isNaN⟩
  | present held inductionHypothesis =>
      rename_i inner value
      cases isNull : value.toValue.isNull with
      | true =>
          have null : value.toValue = .null := by
            cases shape : value.toValue with
            | null => rfl
            | _ => simp [shape, Value.isNull] at isNull
          refine iff_of_false ?_ fun stored => ?_
          · rintro ⟨read, decoded, same⟩
            rw [toValue, null] at decoded
            cases decoded
            have equal : Scalar.absent = .present value := same
            cases equal
          · rw [IsStoredInKind, isNull] at stored
            exact Bool.false_ne_true stored.1.symm
      | false =>
          rw [toValue, decode_optional isNull, IsStoredInKind, isNull,
            ← inductionHypothesis]
          constructor
          · rintro ⟨read, decoded, same⟩
            cases found : inner.decode value.toValue with
            | error fault =>
                rw [found] at decoded
                cases decoded
            | ok back =>
                rw [found] at decoded
                cases decoded
                exact ⟨rfl, back, rfl, same⟩
          · rintro ⟨-, back, found, same⟩
            rw [found]
            exact ⟨.present back, rfl, same⟩
  | _ => exact iff_of_true ⟨_, rfl, rfl⟩ trivial

/-- The largest unsigned integer that is stored as an integer is read back, and
so is a present single that is not a number, as one of those. -/
theorem decode_toValue_iff_largest_and_notANumber :
    (∃ read,
      (ScalarType.integer ⟨false, 64⟩).decode
          (Scalar.integer ⟨false, 64⟩ maxInt64).toValue = .ok read ∧
        read.Same (.integer ⟨false, 64⟩ maxInt64)) ∧
      ∃ read,
        (ScalarType.optional .single).decode
            (Scalar.present (.single ⟨0x7fc00001⟩)).toValue = .ok read ∧
          read.Same (.present (.single ⟨0x7fc00001⟩)) :=
  ⟨(decode_toValue_iff (.integer (by decide) (by decide))).mpr
      (by decide : maxInt64 ≤ maxInt64),
    (decode_toValue_iff (.present (.single ⟨0x7fc00001⟩))).mpr
      ⟨rfl, trivial⟩⟩

/-- An unsigned integer above the signed ones is stored as text, which its own
type does not read. -/
theorem aboveInt64_not_read_back :
    (ScalarType.integer ⟨false, 64⟩).Holds
        (.integer ⟨false, 64⟩ 9223372036854775808) ∧
      (ScalarType.integer ⟨false, 64⟩).decode
          (Scalar.integer ⟨false, 64⟩ 9223372036854775808).toValue =
        .error (.mismatch "INTEGER" (.text "9223372036854775808")) :=
  ⟨.integer (by decide) (by decide), rfl⟩

end ScalarType

end RecordQuery
