import RecordQuery.Number.Binary
import RecordQuery.Proofs.Text.Digits
import RecordQuery.Proofs.Text.Utf8

/-!
# Big-endian integers

The bytes of an integer are read back as that integer.  Where letters stand for
bytes they are high ones: an integer whose bytes are the letters of a decimal
number is larger than any decimal number with so many letters.
-/

namespace RecordQuery.Number.BigEndian

/-! ## Reading bytes -/

theorem foldl_bytes (bytes : List UInt8) (start : Nat) :
    bytes.foldl (fun total byte => total * 256 + byte.toNat) start =
      start * 256 ^ bytes.length + toNat bytes := by
  unfold toNat
  induction bytes generalizing start with
  | nil => simp
  | cons byte bytes inductionHypothesis =>
      rw [List.foldl_cons, List.foldl_cons, inductionHypothesis,
        inductionHypothesis (0 * 256 + byte.toNat), List.length_cons,
        Nat.pow_succ]
      ring

theorem toNat_cons (byte : UInt8) (bytes : List UInt8) :
    toNat (byte :: bytes) =
      byte.toNat * 256 ^ bytes.length + toNat bytes := by
  rw [toNat, List.foldl_cons, foldl_bytes, Nat.zero_mul, Nat.zero_add]

theorem toNat_lt (bytes : List UInt8) : toNat bytes < 256 ^ bytes.length := by
  induction bytes with
  | nil => exact Nat.one_pos
  | cons byte bytes inductionHypothesis =>
      have below := byte.toNat_lt
      rw [toNat_cons, List.length_cons, Nat.pow_succ]
      calc byte.toNat * 256 ^ bytes.length + toNat bytes
          < (byte.toNat + 1) * 256 ^ bytes.length := by
            rw [Nat.succ_mul]
            omega
        _ ≤ 256 ^ bytes.length * 256 := by
            rw [Nat.mul_comm]
            exact Nat.mul_le_mul_left _ (by omega)

/-- The first byte bounds the number on both sides. -/
theorem toNat_cons_bounds (byte : UInt8) (bytes : List UInt8) :
    byte.toNat * 256 ^ bytes.length ≤ toNat (byte :: bytes) ∧
      toNat (byte :: bytes) < (byte.toNat + 1) * 256 ^ bytes.length := by
  have below := toNat_lt bytes
  rw [toNat_cons, Nat.succ_mul]
  omega

/-- As many bytes are known by their number. -/
theorem toNat_injective {left : List UInt8} :
    ∀ {right : List UInt8}, left.length = right.length →
      toNat left = toNat right → left = right := by
  induction left with
  | nil =>
      intro right length _
      exact (List.length_eq_zero_iff.mp length.symm).symm
  | cons byte left inductionHypothesis =>
      intro right length same
      cases right with
      | nil => cases length
      | cons other right =>
          rw [List.length_cons, List.length_cons, Nat.succ.injEq] at length
          have leftBelow := toNat_lt left
          have rightBelow := toNat_lt right
          rw [toNat_cons, toNat_cons, length] at same
          rw [length] at leftBelow
          have unit : 0 < 256 ^ right.length := Nat.pow_pos (by decide)
          have firsts := congrArg (· / 256 ^ right.length) same
          have rests := congrArg (· % 256 ^ right.length) same
          simp only [Nat.mul_add_mod_self_right, Nat.mod_eq_of_lt leftBelow,
            Nat.mod_eq_of_lt rightBelow] at rests
          simp only [Nat.add_comm (_ * _), Nat.add_mul_div_right _ _ unit,
            Nat.div_eq_of_lt leftBelow, Nat.div_eq_of_lt rightBelow,
            Nat.zero_add] at firsts
          rw [UInt8.toNat_inj.mp firsts, inductionHypothesis length rests]

theorem length_ofNat (size number : Nat) :
    (ofNat size number).length = size := by
  induction size with
  | zero => rfl
  | succ size inductionHypothesis =>
      rw [ofNat, List.length_cons, inductionHypothesis]

/-- The bytes of a number are read as its last ones. -/
theorem toNat_ofNat (size number : Nat) :
    toNat (ofNat size number) = number % 256 ^ size := by
  induction size with
  | zero => simp [ofNat, toNat, Nat.mod_one]
  | succ size inductionHypothesis =>
      have parts : number / 256 ^ size % 256 * 256 ^ size +
          number % 256 ^ size = number % 256 ^ (size + 1) := by
        rw [Nat.pow_succ, Nat.mod_mul, Nat.mul_comm (256 ^ size)]
        omega
      rw [ofNat, toNat_cons, length_ofNat, inductionHypothesis, Nat.pow_eq,
        UInt8.toNat_ofNat', parts]

theorem toNat_ofNat_of_lt {size number : Nat} (fits : number < 256 ^ size) :
    toNat (ofNat size number) = number := by
  rw [toNat_ofNat, Nat.mod_eq_of_lt fits]

/-- Bytes are those of their number, of which there are as many. -/
theorem ofNat_toNat {size : Nat} {bytes : List UInt8}
    (length : bytes.length = size) : ofNat size (toNat bytes) = bytes := by
  have below := toNat_lt bytes
  rw [length] at below
  exact toNat_injective ((length_ofNat size _).trans length.symm)
    (toNat_ofNat_of_lt below)

theorem length_ofInt (size : Nat) (number : Int) :
    (ofInt size number).length = size :=
  length_ofNat size _

/-- Integers are read back from as many bytes as they fit in. -/
theorem toInt_ofInt {size : Nat} {number : Int}
    (least : -((256 ^ size : Nat) : Int) ≤ 2 * number)
    (most : 2 * number < ((256 ^ size : Nat) : Int)) :
    toInt (ofInt size number) = number := by
  rw [toInt, length_ofInt, ofInt, toNat_ofNat, Nat.pow_eq]
  generalize 256 ^ size = bound at *
  by_cases negative : number < 0
  · have wrapped : number % (bound : Int) = number + bound := by
      rw [← Int.add_emod_right, Int.emod_eq_of_lt (by omega) (by omega)]
    rw [wrapped, Nat.mod_eq_of_lt (by omega)]
    split <;> omega
  · rw [Int.emod_eq_of_lt (by omega) (by omega), Nat.mod_eq_of_lt (by omega)]
    split <;> omega

theorem toNat_ofInt {size : Nat} {number : Int} (least : 0 ≤ number)
    (most : number < ((256 ^ size : Nat) : Int)) :
    toNat (ofInt size number) = number.toNat := by
  rw [ofInt, Nat.pow_eq, Int.emod_eq_of_lt least most]
  exact toNat_ofNat_of_lt (by omega)

theorem toInt_ofInt_eight {number : Int} (least : -2 ^ 63 ≤ number)
    (most : number < 2 ^ 63) : toInt (ofInt 8 number) = number :=
  toInt_ofInt (by omega) (by omega)

/-- Eight bytes or fewer make an integer of 64 bits. -/
theorem toInt_bounds {bytes : List UInt8} (few : bytes.length ≤ 8) :
    -2 ^ 63 ≤ toInt bytes ∧ toInt bytes < 2 ^ 63 := by
  have below := toNat_lt bytes
  have width : 256 ^ bytes.length ≤ 256 ^ 8 :=
    Nat.pow_le_pow_right (by decide) few
  simp only [toInt, Nat.pow_eq]
  generalize 256 ^ bytes.length = bound at *
  split <;> omega

/-! ## Letters as bytes -/

open Text

/-- The bytes of the text of an integer make a larger number than its own, and
one without a sign. -/
theorem natAbs_lt_toNat_encode (number : Int) :
    number.natAbs < toNat (Utf8.encode (toString number)) ∧
      2 * toNat (Utf8.encode (toString number)) <
        256 ^ (Utf8.encode (toString number)).length := by
  have decimal := isDecimal_toString number
  have below := natAbs_lt_toString number
  obtain ⟨first, rest, shape⟩ :=
    List.exists_cons_of_ne_nil (toString_ne_nil number)
  have bytes := Utf8.encode_eq_map fun letter member =>
    (toNat_of_isDecimal (decimal letter member)).2.trans (by decide)
  rw [shape] at decimal below bytes
  obtain ⟨least, most⟩ := toNat_of_isDecimal (decimal first List.mem_cons_self)
  have head : (UInt8.ofNat first.toNat).toNat = first.toNat := by
    rw [UInt8.toNat_ofNat']
    omega
  have powers : 10 ^ rest.length ≤ 256 ^ rest.length :=
    Nat.pow_le_pow_left (by decide) _
  have lower := toNat_lt
    (rest.map fun letter => UInt8.ofNat letter.toNat)
  rw [List.length_map] at lower
  rw [bytes, List.map_cons, toNat_cons, head, List.length_cons,
    List.length_map]
  rw [List.length_cons, Nat.pow_succ] at below
  constructor
  · have scaled :
        10 ^ rest.length * 10 ≤ first.toNat * 256 ^ rest.length := by
      rw [Nat.mul_comm]
      exact Nat.mul_le_mul (by omega) powers
    omega
  · have scaled : first.toNat * 256 ^ rest.length ≤ 127 * 256 ^ rest.length :=
      Nat.mul_le_mul_right _ (by omega)
    rw [Nat.pow_succ]
    omega

theorem toInt_of_lt {bytes : List UInt8}
    (unsigned : 2 * toNat bytes < 256 ^ bytes.length) :
    toInt bytes = toNat bytes := by
  simp only [toInt, Nat.pow_eq]
  exact if_neg (Nat.not_le.mpr unsigned)

/-- No integer has the letters of its text for bytes. -/
theorem toInt_encode_ne (number : Int) :
    toInt (Utf8.encode (toString number)) ≠ number := by
  obtain ⟨larger, unsigned⟩ := natAbs_lt_toNat_encode number
  rw [toInt_of_lt unsigned]
  omega

end RecordQuery.Number.BigEndian
