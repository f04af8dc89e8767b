import Mathlib.Tactic.SplitIfs
import RecordQuery.Text.Utf8

/-!
# What reading bytes as UTF-8 keeps

The encoding of a character is read as that character, and only its encoding
is.  Bytes are thus read without a broken part exactly when they encode a text,
and that text gives them back.  What replaces a broken part is a character as
well, so that a reading in which it occurs tells neither whether there was one
nor which bytes stood there.
-/

namespace RecordQuery.Text.Utf8

open String (utf8EncodeChar)

/-! ## One character -/

/-- One character's share of the bytes: its code point and what is left. -/
def Reads (bytes : List UInt8) (code : Nat) (rest : List UInt8) : Prop :=
  ∃ byte tail lead, bytes = byte :: tail ∧ lead? byte.toNat = some lead ∧
    trail lead.low lead.high lead.share lead.trailing tail = (some code, rest)

theorem trail_cons {low high byte : Nat} (share count : Nat)
    (tail : List UInt8) (small : byte < 256) (lower : low ≤ byte)
    (upper : byte ≤ high) :
    trail low high share (count + 1) (UInt8.ofNat byte :: tail) =
      trail 0x80 0xbf (share * 64 + (byte - 0x80)) count tail := by
  have read : (UInt8.ofNat byte).toNat = byte := by
    rw [UInt8.toNat_ofNat']
    omega
  rw [trail, read, if_pos ⟨lower, upper⟩]

theorem valid_toNat (letter : Char) :
    letter.toNat < 0xd800 ∨ 0xdfff < letter.toNat ∧ letter.toNat < 0x110000 :=
  letter.valid

theorem lead?_one {byte : Nat} (upper : byte < 0x80) :
    lead? byte = some ⟨byte, 0, 0x80, 0xbf⟩ := by
  rw [lead?, if_pos upper]

theorem lead?_two {byte : Nat} (lower : 0xc2 ≤ byte) (upper : byte < 0xe0) :
    lead? byte = some ⟨byte - 0xc0, 1, 0x80, 0xbf⟩ := by
  rw [lead?, if_neg (by omega), if_neg (by omega), if_pos upper]

theorem lead?_three {byte : Nat} (lower : 0xe0 < byte) (upper : byte < 0xf0)
    (notSurrogate : byte ≠ 0xed) :
    lead? byte = some ⟨byte - 0xe0, 2, 0x80, 0xbf⟩ := by
  rw [lead?, if_neg (by omega), if_neg (by omega), if_neg (by omega),
    if_neg (by omega), if_neg notSurrogate, if_pos upper]

theorem lead?_four {byte : Nat} (lower : 0xf0 < byte) (upper : byte < 0xf4) :
    lead? byte = some ⟨byte - 0xf0, 3, 0x80, 0xbf⟩ := by
  rw [lead?, if_neg (by omega), if_neg (by omega), if_neg (by omega),
    if_neg (by omega), if_neg (by omega), if_neg (by omega),
    if_neg (by omega), if_pos upper]

section Sequences

variable {first second third fourth share low high code : Nat}
variable {rest : List UInt8}

theorem reads_one (small : first < 256)
    (led : lead? first = some ⟨code, 0, low, high⟩) :
    Reads (UInt8.ofNat first :: rest) code rest := by
  have read : (UInt8.ofNat first).toNat = first := by
    rw [UInt8.toNat_ofNat']
    omega
  exact ⟨_, _, _, rfl, by rw [read]; exact led, rfl⟩

theorem reads_two (small : first < 256)
    (led : lead? first = some ⟨share, 1, low, high⟩)
    (lower : low ≤ second) (upper : second ≤ high) (bound : high < 256)
    (value : share * 64 + (second - 0x80) = code) :
    Reads (UInt8.ofNat first :: UInt8.ofNat second :: rest) code rest := by
  have read : (UInt8.ofNat first).toNat = first := by
    rw [UInt8.toNat_ofNat']
    omega
  refine ⟨_, _, _, rfl, by rw [read]; exact led, ?_⟩
  rw [trail_cons share 0 rest (by omega) lower upper, trail, value]

theorem reads_three (small : first < 256)
    (led : lead? first = some ⟨share, 2, low, high⟩)
    (lower : low ≤ second) (upper : second ≤ high) (bound : high < 256)
    (thirdLower : 0x80 ≤ third) (thirdUpper : third ≤ 0xbf)
    (value : (share * 64 + (second - 0x80)) * 64 + (third - 0x80) = code) :
    Reads
      (UInt8.ofNat first :: UInt8.ofNat second :: UInt8.ofNat third :: rest)
      code rest := by
  have read : (UInt8.ofNat first).toNat = first := by
    rw [UInt8.toNat_ofNat']
    omega
  refine ⟨_, _, _, rfl, by rw [read]; exact led, ?_⟩
  rw [trail_cons share 1 _ (by omega) lower upper,
    trail_cons _ 0 rest (by omega) thirdLower thirdUpper, trail, value]

theorem reads_four (small : first < 256)
    (led : lead? first = some ⟨share, 3, low, high⟩)
    (lower : low ≤ second) (upper : second ≤ high) (bound : high < 256)
    (thirdLower : 0x80 ≤ third) (thirdUpper : third ≤ 0xbf)
    (fourthLower : 0x80 ≤ fourth) (fourthUpper : fourth ≤ 0xbf)
    (value :
      ((share * 64 + (second - 0x80)) * 64 + (third - 0x80)) * 64 +
        (fourth - 0x80) = code) :
    Reads
      (UInt8.ofNat first :: UInt8.ofNat second :: UInt8.ofNat third ::
        UInt8.ofNat fourth :: rest)
      code rest := by
  have read : (UInt8.ofNat first).toNat = first := by
    rw [UInt8.toNat_ofNat']
    omega
  refine ⟨_, _, _, rfl, by rw [read]; exact led, ?_⟩
  rw [trail_cons share 2 _ (by omega) lower upper,
    trail_cons _ 1 _ (by omega) thirdLower thirdUpper,
    trail_cons _ 0 rest (by omega) fourthLower fourthUpper, trail, value]

end Sequences

/-- The encoding of a character is read as that character. -/
theorem reads_encodeChar (letter : Char) (rest : List UInt8) :
    Reads (utf8EncodeChar letter ++ rest) letter.toNat rest := by
  have valid := valid_toNat letter
  have value : letter.val.toNat = letter.toNat := rfl
  unfold utf8EncodeChar
  simp only [value]
  generalize letter.toNat = code at valid
  split_ifs with one two three
  · exact reads_one (by omega) (lead?_one (by omega))
  · exact reads_two (by omega) (lead?_two (by omega) (by omega))
      (by omega) (by omega) (by omega) (by omega)
  · -- the first byte alone does not bar short forms and surrogates
    by_cases lowest : code < 0x1000
    · have led : code / 4096 % 0x10 + 0xe0 = 0xe0 := by omega
      rw [led]
      exact reads_three (by omega) rfl (by omega) (by omega) (by omega)
        (by omega) (by omega) (by omega)
    · by_cases surrogate : code / 4096 = 0xd
      · have led : code / 4096 % 0x10 + 0xe0 = 0xed := by omega
        rw [led]
        exact reads_three (by omega) rfl (by omega) (by omega) (by omega)
          (by omega) (by omega) (by omega)
      · exact reads_three (by omega)
          (lead?_three (by omega) (by omega) (by omega)) (by omega) (by omega)
          (by omega) (by omega) (by omega) (by omega)
  · by_cases lowest : code < 0x40000
    · have led : code / 262144 % 0x08 + 0xf0 = 0xf0 := by omega
      rw [led]
      exact reads_four (by omega) rfl (by omega) (by omega) (by omega)
        (by omega) (by omega) (by omega) (by omega) (by omega)
    · by_cases highest : 0x100000 ≤ code
      · have led : code / 262144 % 0x08 + 0xf0 = 0xf4 := by omega
        rw [led]
        exact reads_four (by omega) rfl (by omega) (by omega) (by omega)
          (by omega) (by omega) (by omega) (by omega) (by omega)
      · exact reads_four (by omega) (lead?_four (by omega) (by omega))
          (by omega) (by omega) (by omega) (by omega) (by omega) (by omega)
          (by omega) (by omega)

/-! ## Only encodings are read -/

theorem exists_of_trail_succ {low high share count code : Nat}
    {bytes rest : List UInt8}
    (trailed : trail low high share (count + 1) bytes = (some code, rest)) :
    ∃ byte tail, bytes = UInt8.ofNat byte :: tail ∧ low ≤ byte ∧
      byte ≤ high ∧
      trail 0x80 0xbf (share * 64 + (byte - 0x80)) count tail =
        (some code, rest) := by
  cases bytes with
  | nil => cases trailed
  | cons byte tail =>
      by_cases within : low ≤ byte.toNat ∧ byte.toNat ≤ high
      · rw [trail, if_pos within] at trailed
        exact ⟨byte.toNat, tail, by rw [UInt8.ofNat_toNat], within.1,
          within.2, trailed⟩
      · rw [trail, if_neg within] at trailed
        cases trailed

def IsCode (code : Nat) : Prop :=
  code < 0xd800 ∨ 0xdfff < code ∧ code < 0x110000

theorem toNat_ofNat_of_isCode {code : Nat} (valid : IsCode code) :
    (Char.ofNat code).toNat = code := by
  have isChar : code.isValidChar := valid
  rw [Char.ofNat, dif_pos isChar]
  rfl

/-- The encoding of a code point, by the number of its bytes. -/
theorem encodeChar_ofNat {code : Nat} (valid : IsCode code) :
    utf8EncodeChar (Char.ofNat code) =
      if code ≤ 0x7f then [UInt8.ofNat code]
      else if code ≤ 0x7ff then
        [UInt8.ofNat (code / 64 % 0x20 + 0xc0),
          UInt8.ofNat (code % 0x40 + 0x80)]
      else if code ≤ 0xffff then
        [UInt8.ofNat (code / 4096 % 0x10 + 0xe0),
          UInt8.ofNat (code / 64 % 0x40 + 0x80),
          UInt8.ofNat (code % 0x40 + 0x80)]
      else
        [UInt8.ofNat (code / 262144 % 0x08 + 0xf0),
          UInt8.ofNat (code / 4096 % 0x40 + 0x80),
          UInt8.ofNat (code / 64 % 0x40 + 0x80),
          UInt8.ofNat (code % 0x40 + 0x80)] := by
  have read := toNat_ofNat_of_isCode valid
  have value : (Char.ofNat code).val.toNat = code := read
  unfold utf8EncodeChar
  simp only [value]

section Encodings

variable {first second third fourth share code : Nat}

theorem encodeChar_two (led : first = share + 0xc0)
    (lower : 0x80 ≤ second) (upper : second ≤ 0xbf)
    (value : code = share * 64 + (second - 0x80))
    (least : 0x80 ≤ code) (most : code ≤ 0x7ff) :
    utf8EncodeChar (Char.ofNat code) =
      [UInt8.ofNat first, UInt8.ofNat second] := by
  have valid : IsCode code := by
    unfold IsCode
    omega
  rw [encodeChar_ofNat valid, if_neg (by omega), if_pos most]
  have one : code / 64 % 0x20 + 0xc0 = first := by omega
  have two : code % 0x40 + 0x80 = second := by omega
  rw [one, two]

theorem encodeChar_three (valid : IsCode code) (led : first = share + 0xe0)
    (lower : 0x80 ≤ second) (upper : second ≤ 0xbf)
    (thirdLower : 0x80 ≤ third) (thirdUpper : third ≤ 0xbf)
    (value : code = (share * 64 + (second - 0x80)) * 64 + (third - 0x80))
    (least : 0x800 ≤ code) (most : code ≤ 0xffff) :
    utf8EncodeChar (Char.ofNat code) =
      [UInt8.ofNat first, UInt8.ofNat second, UInt8.ofNat third] := by
  rw [encodeChar_ofNat valid, if_neg (by omega), if_neg (by omega),
    if_pos most]
  have one : code / 4096 % 0x10 + 0xe0 = first := by omega
  have two : code / 64 % 0x40 + 0x80 = second := by omega
  have three : code % 0x40 + 0x80 = third := by omega
  rw [one, two, three]

theorem encodeChar_four (led : first = share + 0xf0)
    (lower : 0x80 ≤ second) (upper : second ≤ 0xbf)
    (thirdLower : 0x80 ≤ third) (thirdUpper : third ≤ 0xbf)
    (fourthLower : 0x80 ≤ fourth) (fourthUpper : fourth ≤ 0xbf)
    (value :
      code = ((share * 64 + (second - 0x80)) * 64 + (third - 0x80)) * 64 +
        (fourth - 0x80))
    (least : 0x10000 ≤ code) (most : code < 0x110000) :
    utf8EncodeChar (Char.ofNat code) =
      [UInt8.ofNat first, UInt8.ofNat second, UInt8.ofNat third,
        UInt8.ofNat fourth] := by
  have valid : IsCode code := by
    unfold IsCode
    omega
  rw [encodeChar_ofNat valid, if_neg (by omega), if_neg (by omega),
    if_neg (by omega)]
  have one : code / 262144 % 0x08 + 0xf0 = first := by omega
  have two : code / 4096 % 0x40 + 0x80 = second := by omega
  have three : code / 64 % 0x40 + 0x80 = third := by omega
  have four : code % 0x40 + 0x80 = fourth := by omega
  rw [one, two, three, four]

end Encodings

/-- What a leading byte announces lies in one of these rows. -/
theorem lead?_cases {byte : Nat} {lead : Lead} (led : lead? byte = some lead) :
    (byte < 0x80 ∧ lead = ⟨byte, 0, 0x80, 0xbf⟩) ∨
    (0xc2 ≤ byte ∧ byte < 0xe0 ∧ lead = ⟨byte - 0xc0, 1, 0x80, 0xbf⟩) ∨
    (0xe0 ≤ byte ∧ byte < 0xf0 ∧ ∃ low high,
      lead = ⟨byte - 0xe0, 2, low, high⟩ ∧ 0x80 ≤ low ∧ high ≤ 0xbf ∧
        (byte = 0xe0 → low = 0xa0) ∧ (byte = 0xed → high = 0x9f)) ∨
    (0xf0 ≤ byte ∧ byte ≤ 0xf4 ∧ ∃ low high,
      lead = ⟨byte - 0xf0, 3, low, high⟩ ∧ 0x80 ≤ low ∧ high ≤ 0xbf ∧
        (byte = 0xf0 → low = 0x90) ∧ (byte = 0xf4 → high = 0x8f)) := by
  unfold lead? at led
  split_ifs at led with one overlong two lowest surrogate three short four last
  all_goals obtain rfl := Option.some.inj led
  · exact Or.inl ⟨one, rfl⟩
  · exact Or.inr (Or.inl ⟨by omega, two, rfl⟩)
  · subst lowest
    exact Or.inr (Or.inr (Or.inl
      ⟨by omega, by omega, _, _, rfl, by omega, by omega, by omega, by omega⟩))
  · subst surrogate
    exact Or.inr (Or.inr (Or.inl
      ⟨by omega, by omega, _, _, rfl, by omega, by omega, by omega, by omega⟩))
  · exact Or.inr (Or.inr (Or.inl
      ⟨by omega, three, _, _, rfl, by omega, by omega, by omega, by omega⟩))
  · subst short
    exact Or.inr (Or.inr (Or.inr
      ⟨by omega, by omega, _, _, rfl, by omega, by omega, by omega, by omega⟩))
  · exact Or.inr (Or.inr (Or.inr
      ⟨by omega, by omega, _, _, rfl, by omega, by omega, by omega, by omega⟩))
  · subst last
    exact Or.inr (Or.inr (Or.inr
      ⟨by omega, by omega, _, _, rfl, by omega, by omega, by omega, by omega⟩))

theorem trail_zero {low high share code : Nat} {bytes rest : List UInt8}
    (trailed : trail low high share 0 bytes = (some code, rest)) :
    code = share ∧ rest = bytes := by
  rw [trail, Prod.mk.injEq, Option.some.injEq] at trailed
  exact ⟨trailed.1.symm, trailed.2.symm⟩

/-- What is read as a character is its encoding. -/
theorem eq_of_reads {bytes rest : List UInt8} {code : Nat}
    (read : Reads bytes code rest) :
    IsCode code ∧ bytes = utf8EncodeChar (Char.ofNat code) ++ rest := by
  obtain ⟨byte, tail, lead, rfl, led, trailed⟩ := read
  have written : UInt8.ofNat byte.toNat = byte := UInt8.ofNat_toNat
  rw [← written]
  generalize byte.toNat = first at led
  rcases lead?_cases led with ⟨one, rfl⟩ | ⟨lower, upper, rfl⟩ |
    ⟨lower, upper, low, high, rfl, least, most, lowest, surrogate⟩ |
    ⟨lower, upper, low, high, rfl, least, most, lowest, highest⟩
  all_goals dsimp only at trailed
  · obtain ⟨rfl, rfl⟩ := trail_zero trailed
    have valid : IsCode code := by
      unfold IsCode
      omega
    refine ⟨valid, ?_⟩
    rw [encodeChar_ofNat valid, if_pos (by omega)]
    rfl
  · obtain ⟨second, _, rfl, secondLower, secondUpper, last⟩ :=
      exists_of_trail_succ trailed
    obtain ⟨value, rfl⟩ := trail_zero last
    have led : first = (first - 0xc0) + 0xc0 := by omega
    have encoded :=
      encodeChar_two led secondLower secondUpper value (by omega) (by omega)
    refine ⟨by unfold IsCode; omega, ?_⟩
    rw [encoded]
    rfl
  · obtain ⟨second, _, rfl, secondLower, secondUpper, later⟩ :=
      exists_of_trail_succ trailed
    obtain ⟨third, _, rfl, thirdLower, thirdUpper, last⟩ :=
      exists_of_trail_succ later
    obtain ⟨value, rfl⟩ := trail_zero last
    have valid : IsCode code := by
      unfold IsCode
      omega
    have led : first = (first - 0xe0) + 0xe0 := by omega
    have encoded :=
      encodeChar_three valid led (by omega) (by omega) thirdLower thirdUpper
        value (by omega) (by omega)
    refine ⟨valid, ?_⟩
    rw [encoded]
    rfl
  · obtain ⟨second, _, rfl, secondLower, secondUpper, later⟩ :=
      exists_of_trail_succ trailed
    obtain ⟨third, _, rfl, thirdLower, thirdUpper, later⟩ :=
      exists_of_trail_succ later
    obtain ⟨fourth, _, rfl, fourthLower, fourthUpper, last⟩ :=
      exists_of_trail_succ later
    obtain ⟨value, rfl⟩ := trail_zero last
    have led : first = (first - 0xf0) + 0xf0 := by omega
    have encoded :=
      encodeChar_four led (by omega) (by omega) thirdLower thirdUpper
        fourthLower fourthUpper value (by omega) (by omega)
    refine ⟨by unfold IsCode; omega, ?_⟩
    rw [encoded]
    rfl

/-! ## Whole texts -/

theorem scan_of_reads {bytes rest : List UInt8} {code : Nat}
    (read : Reads bytes code rest) :
    scan bytes = some (Char.ofNat code) :: scan rest := by
  obtain ⟨byte, tail, lead, rfl, led, trailed⟩ := read
  rw [scan]
  simp only [led, trailed, Option.map_some]

theorem reads_of_scan {bytes : List UInt8} {letter : Char}
    {later : List (Option Char)} (scanned : scan bytes = some letter :: later) :
    ∃ code rest, Reads bytes code rest ∧ letter = Char.ofNat code ∧
      later = scan rest := by
  cases bytes with
  | nil =>
      rw [scan] at scanned
      cases scanned
  | cons byte tail =>
      rw [scan] at scanned
      cases led : lead? byte.toNat with
      | none => simp [led] at scanned
      | some lead =>
          rcases trailed :
              trail lead.low lead.high lead.share lead.trailing tail with
            ⟨code?, rest⟩
          cases code? with
          | none => simp [led, trailed] at scanned
          | some code =>
              simp only [led, trailed, Option.map_some, List.cons.injEq,
                Option.some.injEq] at scanned
              exact ⟨code, rest, ⟨byte, tail, lead, rfl, led, trailed⟩,
                scanned.1.symm, scanned.2.symm⟩

theorem scan_encodeChar_append (letter : Char) (rest : List UInt8) :
    scan (utf8EncodeChar letter ++ rest) = some letter :: scan rest := by
  rw [scan_of_reads (reads_encodeChar letter rest), Char.ofNat_toNat]

/-- Bytes are read as letters without a broken part exactly when they are the
encoding of those letters. -/
theorem scan_eq_map_some_iff (letters : List Char) :
    ∀ bytes : List UInt8,
      scan bytes = letters.map some ↔
        bytes = letters.flatMap utf8EncodeChar := by
  induction letters with
  | nil =>
      intro bytes
      constructor
      · intro scanned
        cases bytes with
        | nil => rfl
        | cons byte tail =>
            rw [scan] at scanned
            split at scanned <;> cases scanned
      · rintro rfl
        rw [List.flatMap_nil, scan]
        rfl
  | cons letter letters inductionHypothesis =>
      intro bytes
      constructor
      · intro scanned
        obtain ⟨code, rest, read, rfl, later⟩ := reads_of_scan scanned
        have encoded := (eq_of_reads read).2
        rw [encoded, (inductionHypothesis rest).mp later.symm]
        rfl
      · rintro rfl
        rw [List.flatMap_cons, scan_encodeChar_append,
          (inductionHypothesis _).mpr rfl]
        rfl

theorem scan_letters_append (letters : List Char) (rest : List UInt8) :
    scan (letters.flatMap utf8EncodeChar ++ rest) =
      letters.map some ++ scan rest := by
  induction letters with
  | nil => rfl
  | cons letter letters inductionHypothesis =>
      rw [List.flatMap_cons, List.append_assoc, scan_encodeChar_append,
        inductionHypothesis]
      rfl

theorem scan_encode (text : String) :
    scan (encode text) = text.toList.map some :=
  (scan_eq_map_some_iff text.toList _).mpr rfl

@[simp]
theorem lossy_encode (text : String) : lossy (encode text) = text := by
  have kept :
      text.toList.map ((fun letter? => letter?.getD '\ufffd') ∘ some) =
        text.toList :=
    List.map_id text.toList
  rw [lossy, scan_encode, List.map_map, kept, String.ofList_toList]

theorem length_encode (text : String) :
    (encode text).length = text.utf8ByteSize := by
  rw [← String.ofList_toList (s := text), String.utf8ByteSize,
    String.toByteArray_ofList, List.utf8Encode, List.size_toByteArray, encode,
    String.toList_ofList]

theorem encodeChar_ascii {letter : Char} (ascii : letter.toNat < 0x80) :
    utf8EncodeChar letter = [UInt8.ofNat letter.toNat] := by
  have byNumber := encodeChar_ofNat
    (Or.inl (by omega) : IsCode letter.toNat)
  rwa [if_pos (by omega), Char.ofNat_toNat] at byNumber

theorem encode_eq_cons {text : String} {first : Char} {rest : List Char}
    (shape : text.toList = first :: rest) (ascii : first.toNat < 0x80) :
    encode text =
      UInt8.ofNat first.toNat :: rest.flatMap utf8EncodeChar := by
  rw [encode, shape, List.flatMap_cons, encodeChar_ascii ascii]
  rfl

/-- Each ASCII letter is one byte. -/
theorem encode_eq_map {text : String}
    (ascii : ∀ letter ∈ text.toList, letter.toNat < 0x80) :
    encode text = text.toList.map fun letter => UInt8.ofNat letter.toNat := by
  unfold encode
  generalize text.toList = letters at ascii
  induction letters with
  | nil => rfl
  | cons letter letters inductionHypothesis =>
      rw [List.flatMap_cons,
        encodeChar_ascii (ascii letter List.mem_cons_self),
        inductionHypothesis fun other member =>
          ascii other (List.mem_cons_of_mem _ member)]
      rfl

/-- A reading has at most one character for each byte. -/
theorem length_scan_le (bytes : List UInt8) :
    (scan bytes).length ≤ bytes.length := by
  induction bytes using scan.induct with
  | case1 =>
      rw [scan]
      exact Nat.le_refl _
  | case2 byte rest unled inductionHypothesis =>
      rw [scan]
      simpa [unled] using inductionHypothesis
  | case3 byte rest lead led inductionHypothesis =>
      have left := trail_length_le lead.low lead.high lead.share lead.trailing
        rest
      rw [scan]
      simp only [led, List.length_cons]
      omega

theorem length_lossy_le (bytes : List UInt8) :
    (lossy bytes).toList.length ≤ bytes.length := by
  rw [lossy, String.toList_ofList, List.length_map]
  exact length_scan_le bytes

/-- Bytes are read strictly exactly when they encode the text. -/
theorem strict?_eq_some_iff {bytes : List UInt8} {text : String} :
    strict? bytes = some text ↔ bytes = encode text := by
  have collected :
      ∀ (entries : List (Option Char)) (letters : List Char),
        entries.mapM id = some letters ↔ entries = letters.map some := by
    intro entries
    induction entries with
    | nil =>
        intro letters
        cases letters <;> simp
    | cons entry entries inductionHypothesis =>
        intro letters
        cases entry with
        | none => cases letters <;> simp
        | some letter =>
            cases letters with
            | nil => simp [List.mapM_cons, Option.bind_eq_some_iff]
            | cons first letters =>
                simp only [List.mapM_cons, List.map_cons, List.cons.injEq,
                  ← inductionHypothesis, id_eq, Option.bind_eq_bind,
                  Option.bind_eq_some_iff, Option.pure_def,
                  Option.some.injEq]
                constructor
                · rintro ⟨_, rfl, _, read, rfl, rfl⟩
                  exact ⟨rfl, read⟩
                · rintro ⟨rfl, read⟩
                  exact ⟨_, rfl, _, read, rfl, rfl⟩
  have written :
      strict? bytes = some text ↔ (scan bytes).mapM id = some text.toList := by
    rw [strict?, Option.map_eq_some_iff]
    constructor
    · rintro ⟨letters, read, rfl⟩
      rw [read, String.toList_ofList]
    · intro read
      exact ⟨_, read, String.ofList_toList⟩
  rw [written, collected, scan_eq_map_some_iff]
  rfl

/-! ## Bytes that no others are mistaken for -/

/-- The character that stands for a broken part. -/
def replacement : Char := '\ufffd'

/-- Whether bytes encode a text, one without replacement characters. -/
def IsIntact (bytes : List UInt8) : Prop :=
  ∃ text : String, bytes = encode text ∧ replacement ∉ text.toList

theorem scan_eq_map_some_of_getD {entries : List (Option Char)}
    {letters : List Char} (whole : replacement ∉ letters)
    (read : entries.map (fun entry => entry.getD replacement) = letters) :
    entries = letters.map some := by
  subst read
  rw [List.map_map]
  have same : ∀ entry ∈ entries, entry = some (entry.getD replacement) := by
    intro entry member
    cases entry with
    | some letter => rfl
    | none => exact (whole (List.mem_map.mpr ⟨none, member, rfl⟩)).elim
  exact (List.map_id entries).symm.trans (List.map_congr_left same)

/-- Of the bytes that are shown as one text, those that encode it are the only
ones exactly when no character of the text may stand for a broken part. -/
theorem lossy_inj_iff (bytes : List UInt8) :
    (∀ other, lossy other = lossy bytes → other = bytes) ↔
      IsIntact bytes := by
  constructor
  · intro alone
    have encoded : encode (lossy bytes) = bytes :=
      alone _ (lossy_encode (lossy bytes))
    refine ⟨lossy bytes, encoded.symm, fun member => ?_⟩
    obtain ⟨before, after, divided⟩ := List.append_of_mem member
    -- a byte that begins nothing, in the place of the replacement character
    let broken : List UInt8 :=
      before.flatMap utf8EncodeChar ++
        0xff :: after.flatMap utf8EncodeChar
    have brokenScan :
        scan broken = before.map some ++ none :: after.map some := by
      have unread :
          scan (0xff :: after.flatMap utf8EncodeChar) =
            none :: after.map some := by
        rw [scan]
        exact congrArg (none :: ·) ((scan_eq_map_some_iff after _).mpr rfl)
      rw [scan_letters_append, unread]
    have shown : lossy broken = lossy bytes := by
      have letters :
          (scan broken).map (fun entry => entry.getD replacement) =
            (lossy bytes).toList := by
        rw [brokenScan, divided, List.map_append, List.map_cons,
          List.map_map, List.map_map]
        have keptBefore :
            before.map ((fun entry => entry.getD replacement) ∘ some) =
              before :=
          List.map_id before
        have keptAfter :
            after.map ((fun entry => entry.getD replacement) ∘ some) = after :=
          List.map_id after
        rw [keptBefore, keptAfter]
        rfl
      rw [lossy, ← String.ofList_toList (s := lossy bytes), ← letters]
      rfl
    have same := alone broken shown
    have wholeScan : scan broken = (lossy bytes).toList.map some := by
      rw [same, ← scan_encode, encoded]
    have missing : none ∈ (lossy bytes).toList.map some := by
      rw [← wholeScan, brokenScan]
      exact List.mem_append_right _ List.mem_cons_self
    simp at missing
  · rintro ⟨text, rfl, whole⟩ other shown
    rw [lossy_encode] at shown
    have letters :
        (scan other).map (fun entry => entry.getD replacement) =
          text.toList := by
      rw [← shown, lossy, String.toList_ofList]
      rfl
    exact (scan_eq_map_some_iff text.toList other).mp
      (scan_eq_map_some_of_getD whole letters)

/-- Bytes that are shown as a text of ASCII letters are its encoding. -/
theorem eq_encode_of_lossy {bytes : List UInt8} {text : String}
    (shown : lossy bytes = text)
    (ascii : ∀ letter ∈ text.toList, letter.toNat < 0x80) :
    bytes = encode text := by
  have whole : replacement ∉ text.toList :=
    fun member => absurd (ascii replacement member) (by decide)
  exact (lossy_inj_iff (encode text)).mpr ⟨text, rfl, whole⟩ bytes
    (shown.trans (lossy_encode text).symm)

end RecordQuery.Text.Utf8
