import Mathlib.Tactic.IntervalCases
import RecordQuery.Postgres.Binary
import RecordQuery.Proofs.Number.BigEndian
import RecordQuery.Proofs.Value.FloatKey

/-!
# Numbers and the letters of their keys

The bytes of a floating-point number are never the letters of its key: bytes that
begin like a text are those of a small number, whose key has more letters than the
number has bytes.  Of the bytes of doubles only those of zero are the integer that
is its key.
-/

namespace RecordQuery.Postgres

open Number Text

/-! ## Bytes -/

theorem length_doubleBytes (number : Double) :
    (doubleBytes number).length = 8 :=
  BigEndian.length_ofNat 8 _

theorem length_singleBytes (number : Single) :
    (singleBytes number).length = 4 :=
  BigEndian.length_ofNat 4 _

theorem toNat_doubleBytes (number : Double) :
    BigEndian.toNat (doubleBytes number) = number.bits.toNat :=
  BigEndian.toNat_ofNat_of_lt number.bits.toNat_lt

theorem toNat_singleBytes (number : Single) :
    BigEndian.toNat (singleBytes number) = number.bits.toNat :=
  BigEndian.toNat_ofNat_of_lt number.bits.toNat_lt

theorem doubleBytes_ofNat_toNat {bytes : List UInt8}
    (length : bytes.length = 8) :
    doubleBytes ⟨UInt64.ofNat (BigEndian.toNat bytes)⟩ = bytes := by
  have below : BigEndian.toNat bytes < 2 ^ 64 :=
    (BigEndian.toNat_lt bytes).trans_eq (by rw [length]; rfl)
  rw [doubleBytes, UInt64.toNat_ofNat', Nat.mod_eq_of_lt below]
  exact BigEndian.ofNat_toNat length

theorem singleBytes_ofNat_toNat {bytes : List UInt8}
    (length : bytes.length = 4) :
    singleBytes ⟨UInt32.ofNat (BigEndian.toNat bytes)⟩ = bytes := by
  have below : BigEndian.toNat bytes < 2 ^ 32 :=
    (BigEndian.toNat_lt bytes).trans_eq (by rw [length]; rfl)
  rw [singleBytes, UInt32.toNat_ofNat', Nat.mod_eq_of_lt below]
  exact BigEndian.ofNat_toNat length

/-! ## Small numbers -/

section Small

variable {first : UInt8} {rest : List UInt8}

/-- A double that begins with the byte of a blank, a sign or a digit is small. -/
theorem exists_zeros_of_doubleBytes {number : Double}
    (bytes : doubleBytes number = first :: rest) (least : 0 < first.toNat)
    (most : first.toNat < 0x3a) :
    ∃ more, more ≠ [] ∧ (Value.floatKey number).toList =
      '0' :: '.' :: (List.replicate 7 '0' ++ more) := by
  have length := length_doubleBytes number
  have bits := toNat_doubleBytes number
  obtain ⟨lower, upper⟩ := BigEndian.toNat_cons_bounds first rest
  rw [bytes, List.length_cons, Nat.succ.injEq] at length
  rw [bytes] at bits
  rw [length, bits] at lower upper
  have below : number.bits.toNat < 2 ^ 63 - 2 ^ 52 := by omega
  obtain ⟨significand, exponent, read⟩ : ∃ significand exponent,
      number.reading = .finite false significand exponent :=
    Format.exists_read_of_lt_infinity below
  obtain ⟨double, pattern⟩ := Double.bits_of_reading read
  rw [if_neg Bool.false_ne_true] at pattern
  have lt := double.lt
  have ge := double.exponent_ge
  have normal := double.normal
  have few : exponent ≤ -147 := by omega
  have positive : 0 < significand := by omega
  refine Value.exists_zeros_of_small read positive ?_
  have unit : (2 : ℚ) ^ exponent ≤ 2 ^ (-147 : Int) :=
    zpow_le_zpow_right₀ (by norm_num) few
  have significandLt : (significand : ℚ) < 2 ^ 53 := by exact_mod_cast lt
  calc 2 * ((significand : ℚ) * 2 ^ exponent)
      ≤ 2 * (2 ^ 53 * 2 ^ (-147 : Int)) := by gcongr
    _ ≤ 10 ^ (-(7 : Nat) : Int) := by norm_num

/-- So is a single that does. -/
theorem exists_zeros_of_singleBytes {number : Single}
    (bytes : singleBytes number = first :: rest) (least : 0 < first.toNat)
    (most : first.toNat < 0x3a) :
    ∃ more, more ≠ [] ∧ (Value.floatKey number.widen).toList =
      '0' :: '.' :: (List.replicate 3 '0' ++ more) := by
  have length := length_singleBytes number
  have bits := toNat_singleBytes number
  obtain ⟨lower, upper⟩ := BigEndian.toNat_cons_bounds first rest
  rw [bytes, List.length_cons, Nat.succ.injEq] at length
  rw [bytes] at bits
  rw [length, bits] at lower upper
  have below : number.bits.toNat < 2 ^ 31 - 2 ^ 23 := by omega
  obtain ⟨significand, exponent, read⟩ : ∃ significand exponent,
      number.reading = .finite false significand exponent :=
    Format.exists_read_of_lt_infinity below
  obtain ⟨finite, pattern⟩ := Single.reading_eq_finite read
  have leastUnit : Format.single.leastUnit = -149 := by decide
  have lt : significand < 2 ^ 24 := finite.lt
  have ge := finite.exponent_ge
  have normal : exponent = -149 ∨ 2 ^ 23 ≤ significand :=
    leastUnit ▸ finite.normal
  have magnitude :
      number.bits.toNat = (exponent + 149).toNat * 2 ^ 23 + significand := by
    rw [pattern, Format.signOf, if_neg Bool.false_ne_true, Nat.zero_add,
      Format.magnitudeOf, leastUnit, Int.sub_neg]
    rfl
  rw [leastUnit] at ge
  have few : exponent ≤ -35 := by omega
  have positive : 0 < significand := by omega
  obtain ⟨wider, place, -, value, readWider⟩ :=
    Single.exists_reading_widen read
  have unit : (2 : ℚ) ^ exponent ≤ 2 ^ (-35 : Int) :=
    zpow_le_zpow_right₀ (by norm_num) few
  have significandLt : (significand : ℚ) < 2 ^ 24 := by exact_mod_cast lt
  have widerPos : 0 < wider := by
    rcases Nat.eq_zero_or_pos wider with rfl | more
    · rw [Nat.cast_zero, zero_mul] at value
      have above : (0 : ℚ) < significand * 2 ^ exponent :=
        mul_pos (Nat.cast_pos.mpr positive) (zpow_pos (by norm_num) exponent)
      exact (above.ne' value).elim
    · exact more
  refine Value.exists_zeros_of_small readWider widerPos ?_
  rw [← value]
  calc 2 * ((significand : ℚ) * 2 ^ exponent)
      ≤ 2 * (2 ^ 24 * 2 ^ (-35 : Int)) := by gcongr
    _ ≤ 10 ^ (-(3 : Nat) : Int) := by norm_num

end Small

/-! ## Letters for bytes -/

/-- A key that begins like the bytes of a small number is longer than they
are. -/
theorem encode_floatKey_ne {number : Double} {bytes : List UInt8}
    {zeros : Nat} (least : 4 ≤ bytes.length)
    (most : bytes.length ≤ zeros + 2)
    (small : ∀ first rest, bytes = first :: rest → 0 < first.toNat →
      first.toNat < 0x3a → ∃ more, more ≠ [] ∧
        (Value.floatKey number).toList =
          '0' :: '.' :: (List.replicate zeros '0' ++ more)) :
    Utf8.encode (Value.floatKey number) ≠ bytes := by
  intro same
  obtain ⟨first, rest, shape, led⟩ := Value.exists_floatKey_eq_cons number
  have encoded := Utf8.encode_eq_map (Value.floatKey_isAscii number)
  rw [same, shape, List.map_cons] at encoded
  have length : bytes.length = rest.length + 1 := by
    rw [encoded, List.length_cons, List.length_map]
  obtain ⟨lower, upper⟩ :=
    toNat_of_isDecimal (led.resolve_right fun short => by omega)
  have byte : (UInt8.ofNat first.toNat).toNat = first.toNat := by
    rw [UInt8.toNat_ofNat']
    omega
  obtain ⟨more, nonempty, zeroed⟩ :=
    small _ _ encoded (by omega) (by omega)
  rw [shape] at zeroed
  have longer := congrArg List.length zeroed
  have some := List.length_pos_of_ne_nil nonempty
  simp only [List.length_cons, List.length_append, List.length_replicate]
    at longer
  omega

theorem encode_floatKey_ne_doubleBytes (number : Double) :
    Utf8.encode (Value.floatKey number) ≠ doubleBytes number :=
  encode_floatKey_ne (by simp [length_doubleBytes])
    (by simp [length_doubleBytes])
    fun _ _ => exists_zeros_of_doubleBytes

theorem encode_floatKey_ne_singleBytes (number : Single) :
    Utf8.encode (Value.floatKey number.widen) ≠ singleBytes number :=
  encode_floatKey_ne (by simp [length_singleBytes])
    (by simp [length_singleBytes])
    fun _ _ => exists_zeros_of_singleBytes

/-! ## Integers for bytes -/

section Integers

variable {number : Double} {significand : Nat} {exponent : Int}
  {negative : Bool} {value : Int}

theorem exists_reading_of_floatKey
    (same : Value.floatKey number = toString value) :
    ∃ negative significand exponent,
      number.reading = .finite negative significand exponent := by
  cases read : number.reading with
  | finite negative significand exponent =>
      exact ⟨negative, significand, exponent, rfl⟩
  | notANumber =>
      have key : Value.floatKey number = "NaN" := by
        simp [Value.floatKey, Double.toInt?, Double.text, read]
      have inside : 'N' ∈ (toString value).toList := by
        rw [← same, key]
        decide
      rcases isDecimal_toString value 'N' inside with digit | minus
      · cases digit
      · cases minus
  | infinite negative =>
      have key :
          Value.floatKey number = if negative then "-inf" else "inf" := by
        simp [Value.floatKey, Double.toInt?, Double.text, read]
      have inside : 'i' ∈ (toString value).toList := by
        rw [← same, key]
        cases negative <;> decide
      rcases isDecimal_toString value 'i' inside with digit | minus
      · cases digit
      · cases minus

/-- An integer that a number is keyed by is the number, or is near to one that is
too large or no integer. -/
theorem natAbs_of_floatKey
    (read : number.reading = .finite negative significand exponent)
    (same : Value.floatKey number = toString value) :
    (value.natAbs : ℚ) = significand * 2 ^ exponent ∨
      (0 ≤ exponent → (2 : ℚ) ^ 63 ≤ significand * 2 ^ exponent) ∧
        ((significand : ℚ) - 1 / 2) * 2 ^ exponent ≤ value.natAbs ∧
          (value.natAbs : ℚ) ≤ ((significand : ℚ) + 1 / 2) * 2 ^ exponent := by
  have magnitude {whole : Int} (found : number.toInt? = some whole) :
      (whole.natAbs : ℚ) = significand * 2 ^ exponent := by
    have positive : (0 : ℚ) ≤ significand * 2 ^ exponent := by positivity
    rw [Nat.cast_natAbs, Int.cast_abs, Double.cast_toInt? read found, abs_mul,
      abs_of_nonneg positive]
    cases negative <;> simp
  rcases Value.floatKey_cases number with ⟨whole, found, -, key⟩ | ⟨large, key⟩
  · rw [same] at key
    rw [toString_injective key]
    exact Or.inl (magnitude found)
  · refine Or.inr ⟨fun whole => ?_, (Double.bounds_of_text read
      (key.symm.trans same)).2⟩
    obtain ⟨integer, found⟩ := Double.exists_toInt? read whole
    rw [← magnitude found]
    exact_mod_cast large integer found

/-- The magnitude of the integer that the bytes of a finite double make. -/
theorem natAbs_toInt_doubleBytes
    (read : number.reading = .finite negative significand exponent) :
    (BigEndian.toInt (doubleBytes number)).natAbs =
      if negative then
        2 ^ 63 - ((exponent + 1074).toNat * 2 ^ 52 + significand)
      else (exponent + 1074).toNat * 2 ^ 52 + significand := by
  obtain ⟨double, pattern⟩ := Double.bits_of_reading read
  have lt := double.lt
  have most := double.exponent_le
  have width : 256 ^ 8 = 2 ^ 64 := by decide
  simp only [BigEndian.toInt, length_doubleBytes, toNat_doubleBytes, Nat.pow_eq,
    width, pattern]
  cases negative with
  | true =>
      rw [if_pos rfl, if_pos rfl, if_pos (by omega)]
      omega
  | false =>
      rw [if_neg Bool.false_ne_true, if_neg Bool.false_ne_true,
        if_neg (by omega)]
      omega

/-- Below one the bits make a larger integer than the number, but for zero. -/
theorem eq_zero_of_fractional (double : IsDouble significand exponent)
    (fractional : exponent < 0) {magnitude : Nat}
    (bits : magnitude =
      if negative then
        2 ^ 63 - ((exponent + 1074).toNat * 2 ^ 52 + significand)
      else (exponent + 1074).toNat * 2 ^ 52 + significand)
    (upper : (magnitude : ℚ) ≤ ((significand : ℚ) + 1 / 2) * 2 ^ exponent) :
    negative = false ∧ (exponent + 1074).toNat * 2 ^ 52 + significand = 0 := by
  have half : (2 : ℚ) ^ exponent ≤ 1 / 2 := by
    have step : (2 : ℚ) ^ exponent ≤ 2 ^ (-1 : Int) :=
      zpow_le_zpow_right₀ (by norm_num) (by omega)
    norm_num at step ⊢
    exact step
  have quarter : 4 * magnitude ≤ 2 * significand + 1 := by
    have scaled : (magnitude : ℚ) ≤ ((significand : ℚ) + 1 / 2) * (1 / 2) :=
      upper.trans (mul_le_mul_of_nonneg_left half (by positivity))
    have cast : (4 * magnitude : ℚ) ≤ 2 * significand + 1 := by linarith
    exact_mod_cast cast
  have lt := double.lt
  have normal := double.normal
  cases negative with
  | true =>
      rw [if_pos rfl] at bits
      omega
  | false =>
      rw [if_neg Bool.false_ne_true] at bits
      refine ⟨rfl, ?_⟩
      omega

/-- From one on no bits make the number, nor one near to it that is too large. -/
theorem not_integral {places magnitude : Nat}
    (double : IsDouble significand (places : Int))
    (bits : magnitude =
      if negative then 2 ^ 63 - ((places + 1074) * 2 ^ 52 + significand)
      else (places + 1074) * 2 ^ 52 + significand) :
    magnitude ≠ significand * 2 ^ places ∧
      ¬(2 ^ 63 ≤ significand * 2 ^ places ∧
        2 * (significand * 2 ^ places) ≤ 2 * magnitude + 2 ^ places) := by
  have lt := double.lt
  have most := double.exponent_le
  have normal : 2 ^ 52 ≤ significand :=
    double.normal.resolve_left (by omega)
  have below : magnitude < 2 ^ 63 - 2 ^ 51 := by
    cases negative with
    | true =>
        rw [if_pos rfl] at bits
        omega
    | false =>
        rw [if_neg Bool.false_ne_true] at bits
        omega
  have unit : 2 ^ 52 * 2 ^ places ≤ significand * 2 ^ places :=
    Nat.mul_le_mul_right _ normal
  constructor
  · intro same
    have few : places < 11 := by
      by_contra many
      have power : 2 ^ 11 ≤ 2 ^ places :=
        Nat.pow_le_pow_right (by decide) (Nat.not_lt.mp many)
      omega
    cases negative with
    | true =>
        rw [if_pos rfl] at bits
        interval_cases places <;> omega
    | false =>
        rw [if_neg Bool.false_ne_true] at bits
        interval_cases places <;> omega
  · rintro ⟨large, near⟩
    omega

theorem floatKey_eq_toInt_iff (number : Double) :
    Value.floatKey number = toString (BigEndian.toInt (doubleBytes number)) ↔
      number.bits = 0 := by
  constructor
  · intro same
    obtain ⟨negative, significand, exponent, read⟩ :=
      exists_reading_of_floatKey same
    obtain ⟨double, pattern⟩ := Double.bits_of_reading read
    have bits := natAbs_toInt_doubleBytes read
    have near := natAbs_of_floatKey read same
    generalize (BigEndian.toInt (doubleBytes number)).natAbs = magnitude
      at bits near
    have unit : (0 : ℚ) < 2 ^ exponent := zpow_pos (by norm_num) exponent
    rcases Int.lt_or_le exponent 0 with fractional | whole
    · have upper : (magnitude : ℚ) ≤
          ((significand : ℚ) + 1 / 2) * 2 ^ exponent := by
        rcases near with exact | ⟨-, -, upper⟩
        · rw [exact]
          linarith
        · exact upper
      obtain ⟨rfl, zero⟩ := eq_zero_of_fractional double fractional bits upper
      rw [if_neg Bool.false_ne_true, zero] at pattern
      exact UInt64.toNat_inj.mp pattern
    · obtain ⟨places, rfl⟩ := Int.eq_ofNat_of_zero_le whole
      obtain ⟨notExact, notNear⟩ := not_integral double bits
      rw [zpow_natCast] at near
      rcases near with exact | ⟨large, lower, -⟩
      · exact (notExact (by exact_mod_cast exact)).elim
      · refine (notNear ⟨by exact_mod_cast large whole, ?_⟩).elim
        have cast : (2 * (significand * 2 ^ places) : ℚ) ≤
            2 * magnitude + 2 ^ places := by
          linarith
        exact_mod_cast cast
  · intro zero
    obtain ⟨bits⟩ := number
    subst zero
    decide +kernel

end Integers

end RecordQuery.Postgres
