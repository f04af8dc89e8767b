import RecordQuery.Uuid

/-!
# Identifiers in text

Bytes are read back from their hexadecimal digits, and an identifier from its
five groups of them.  Hyphens stand between the groups alone.
-/

namespace RecordQuery

/-! ## Hexadecimal digits -/

namespace Text.Hex

theorem value?_digit : ∀ number < 16, value? (digit number) = some number := by
  decide

theorem toBytes?_ofByte_append (byte : UInt8) (rest : List Char) :
    toBytes? (ofByte byte ++ rest) = (toBytes? rest).map (byte :: ·) := by
  have below := byte.toNat_lt
  have high := value?_digit (byte.toNat / 16) (by omega)
  have low := value?_digit (byte.toNat % 16) (by omega)
  have whole : byte.toNat / 16 * 16 + byte.toNat % 16 = byte.toNat := by omega
  rw [ofByte, List.cons_append, List.cons_append, List.nil_append, toBytes?,
    high, low]
  cases toBytes? rest with
  | none => rfl
  | some bytes =>
      simp only [Option.bind_eq_bind, Option.bind_some, whole,
        UInt8.ofNat_toNat]
      rfl

/-- Bytes are read back from their digits. -/
theorem toBytes?_ofBytes (bytes : List UInt8) :
    toBytes? (ofBytes bytes) = some bytes := by
  induction bytes with
  | nil => rfl
  | cons byte bytes inductionHypothesis =>
      rw [ofBytes, List.flatMap_cons, toBytes?_ofByte_append]
      rw [ofBytes] at inductionHypothesis
      rw [inductionHypothesis, Option.map_some]

theorem length_ofBytes (bytes : List UInt8) :
    (ofBytes bytes).length = 2 * bytes.length := by
  induction bytes with
  | nil => rfl
  | cons byte bytes inductionHypothesis =>
      rw [ofBytes] at inductionHypothesis
      rw [ofBytes, List.flatMap_cons, List.length_append, inductionHypothesis,
        List.length_cons, ofByte]
      simp only [List.length_cons, List.length_nil]
      omega

theorem digit_ne_minus : ∀ number < 16, digit number ≠ '-' := by
  decide

theorem exists_digit_of_mem {bytes : List UInt8} {letter : Char}
    (member : letter ∈ ofBytes bytes) :
    ∃ number < 16, letter = digit number := by
  obtain ⟨byte, -, held⟩ := List.mem_flatMap.mp member
  have below := byte.toNat_lt
  rw [ofByte, List.mem_cons, List.mem_singleton] at held
  rcases held with high | low
  · exact ⟨_, by omega, high⟩
  · exact ⟨_, by omega, low⟩

theorem minus_not_mem_ofBytes (bytes : List UInt8) : '-' ∉ ofBytes bytes := by
  intro member
  obtain ⟨number, small, same⟩ := exists_digit_of_mem member
  exact digit_ne_minus number small same.symm

end Text.Hex

namespace Uuid

open Text

/-! ## Groups -/

theorem ofBytes?_bytes (uuid : Uuid) : ofBytes? uuid.bytes = some uuid :=
  dif_pos uuid.size_eq

theorem ofGroups?_groups {first second third fourth fifth : List Char}
    (firstSize : first.length = 8) (secondSize : second.length = 4)
    (thirdSize : third.length = 4) (fourthSize : fourth.length = 4)
    (fifthSize : fifth.length = 12) :
    ofGroups?
        (first ++ '-' :: second ++ '-' :: third ++ '-' :: fourth ++
          '-' :: fifth) =
      (Hex.toBytes? (first ++ second ++ third ++ fourth ++ fifth)).bind
        ofBytes? := by
  simp (disch := omega) [ofGroups?, List.drop_append, List.take_append,
    List.drop_eq_nil_of_le, List.take_of_length_le, firstSize, secondSize,
    thirdSize, fourthSize, fifthSize]

/-- Digits are their groups put together. -/
theorem groups_append {digits : List Char} (size : digits.length = 32) :
    (digits.drop 0).take 8 ++ (digits.drop 8).take 4 ++
        (digits.drop 12).take 4 ++ (digits.drop 16).take 4 ++
          (digits.drop 20).take 12 = digits := by
  have last : (digits.drop 20).take 12 = digits.drop 20 :=
    List.take_of_length_le (by simp [size])
  rw [last]
  have fourth := List.take_append_drop 4 (digits.drop 16)
  have third := List.take_append_drop 4 (digits.drop 12)
  have second := List.take_append_drop 4 (digits.drop 8)
  have first := List.take_append_drop 8 (digits.drop 0)
  simp only [List.drop_drop] at fourth third second first
  rw [List.append_assoc, fourth, List.append_assoc, third, List.append_assoc,
    second, first]
  rfl

theorem ofGroups?_letters (uuid : Uuid) :
    ofGroups? uuid.letters = some uuid := by
  have size : (Hex.ofBytes uuid.bytes).length = 32 := by
    rw [Hex.length_ofBytes, uuid.size_eq]
  have read := Hex.toBytes?_ofBytes uuid.bytes
  unfold letters
  generalize Hex.ofBytes uuid.bytes = digits at *
  simp only
  rw [ofGroups?_groups (by simp [size]) (by simp [size]) (by simp [size])
    (by simp [size]) (by simp [size]), groups_append size, read,
    Option.bind_some, ofBytes?_bytes]

theorem length_letters (uuid : Uuid) : uuid.letters.length = 36 := by
  have size : (Hex.ofBytes uuid.bytes).length = 32 := by
    rw [Hex.length_ofBytes, uuid.size_eq]
  simp [letters, size]

/-- An identifier is read back from its text. -/
theorem ofText?_text (uuid : Uuid) : ofText? uuid.text = some uuid := by
  have size := length_letters uuid
  rw [ofText?, text, String.toList_ofList]
  simp only [size]
  exact ofGroups?_letters uuid

/-! ## Hyphens -/

/-- The text is five groups without a hyphen in them. -/
theorem exists_groups (uuid : Uuid) :
    ∃ first second third fourth fifth : List Char,
      uuid.letters =
          first ++ '-' :: second ++ '-' :: third ++ '-' :: fourth ++
            '-' :: fifth ∧
        first.length = 8 ∧
        ∀ group ∈ [first, second, third, fourth, fifth], '-' ∉ group := by
  have size : (Hex.ofBytes uuid.bytes).length = 32 := by
    rw [Hex.length_ofBytes, uuid.size_eq]
  have digits := Hex.minus_not_mem_ofBytes uuid.bytes
  have inside (start size : Nat) :
      '-' ∉ ((Hex.ofBytes uuid.bytes).drop start).take size :=
    fun member => digits (List.mem_of_mem_drop (List.mem_of_mem_take member))
  refine ⟨_, _, _, _, _, rfl, by simp [size], ?_⟩
  simp only [List.forall_mem_cons, List.not_mem_nil, false_implies,
    implies_true, and_true]
  exact ⟨inside 0 8, inside 8 4, inside 12 4, inside 16 4, inside 20 12⟩

theorem mem_letters {uuid : Uuid} {letter : Char}
    (member : letter ∈ uuid.letters) :
    (∃ number < 16, letter = Hex.digit number) ∨ letter = '-' := by
  have inside {start size : Nat}
      (held : letter ∈ ((Hex.ofBytes uuid.bytes).drop start).take size) :
      ∃ number < 16, letter = Hex.digit number :=
    Hex.exists_digit_of_mem
      (List.mem_of_mem_drop (List.mem_of_mem_take held))
  simp only [letters, List.mem_append, List.mem_cons] at member
  rcases member with (((first | rfl | second) | rfl | third) | rfl | fourth) |
    rfl | fifth
  · exact Or.inl (inside first)
  · exact Or.inr rfl
  · exact Or.inl (inside second)
  · exact Or.inr rfl
  · exact Or.inl (inside third)
  · exact Or.inr rfl
  · exact Or.inl (inside fourth)
  · exact Or.inr rfl
  · exact Or.inl (inside fifth)

theorem count_minus_letters (uuid : Uuid) : uuid.letters.count '-' = 4 := by
  obtain ⟨first, second, third, fourth, fifth, shape, -, whole⟩ :=
    exists_groups uuid
  have none {group : List Char}
      (member : group ∈ [first, second, third, fourth, fifth]) :
      group.count '-' = 0 :=
    List.count_eq_zero.mpr (whole group member)
  rw [shape]
  simp [List.count_append, none]

end Uuid

end RecordQuery
