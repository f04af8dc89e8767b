import RecordQuery.Proofs.Instant.Consumption
import RecordQuery.Proofs.Value.TextKeys
import RecordQuery.Value.Scalar

/-!
# Spellings of instants

A text that is read as an instant has the key of the instant if it begins with a
year of four digits and a hyphen, unless it is a date alone with a short month
or day.  The other spellings that are read, with white space or a sign first or
with fewer digits, are keyed by themselves.
-/

namespace RecordQuery

open Text

namespace Value

/-- Whether a text begins with a year of four digits and a hyphen. -/
def OpensWithYear (text : String) : Prop :=
  ∃ year rest, text.toList = year ++ '-' :: rest ∧ year.length = 4 ∧
    ∀ digit ∈ year, digit.isDigit = true

/-- Whether a text is a date alone whose month and day together take fewer than
the four bytes that two digits each take. -/
def IsShortDate (text : String) : Prop :=
  ∃ year month day, text = year ++ "-" ++ month ++ "-" ++ day ∧
    year.length = 4 ∧ month.utf8ByteSize + day.utf8ByteSize < 4

/-- Whether a spelling of the moment is keyed like the moment. -/
def IsKeyedSpelling (moment : Instant) (text : String) : Prop :=
  text = moment.text ∨ OpensWithYear text ∧ ¬IsShortDate text

theorem length_le_utf8ByteSize (text : String) :
    text.toList.length ≤ text.utf8ByteSize := by
  have letters := Utf8.length_lossy_le (Utf8.encode text)
  rwa [Utf8.lossy_encode, Utf8.length_encode] at letters

theorem utf8ByteSize_of_digits {text : String}
    (all : ∀ digit ∈ text.toList, digit.isDigit = true) :
    text.utf8ByteSize = text.toList.length := by
  have ascii : ∀ letter ∈ text.toList, letter.toNat < 0x80 := by
    intro letter member
    have bounds := toNat_of_isDigit (all letter member)
    omega
  rw [← Utf8.length_encode, Utf8.encode_eq_map ascii, List.length_map]

theorem looksLikeDate_iff {text : String} :
    looksLikeDate text = true ↔
      OpensWithYear text ∧ minInstantBytes ≤ text.utf8ByteSize := by
  constructor
  · intro dated
    refine ⟨exists_of_looksLikeDate dated, ?_⟩
    unfold looksLikeDate at dated
    split at dated
    · simp only [Bool.and_eq_true, decide_eq_true_eq] at dated
      exact dated.2
    · cases dated
  · rintro ⟨⟨year, rest, shape, four, all⟩, enough⟩
    match year, four with
    | [a, b, c, d], _ =>
      simp only [List.cons_append, List.nil_append] at shape
      simp only [List.forall_mem_cons, List.not_mem_nil, false_imp_iff,
        implies_true, and_true] at all
      simp only [looksLikeDate, shape, all, enough, Bool.and_self,
        decide_true]

/-- Four digits and two hyphens take a byte each. -/
theorem utf8ByteSize_date {year : String} (month day : String)
    (four : year.toList.length = 4)
    (all : ∀ digit ∈ year.toList, digit.isDigit = true) :
    (year ++ "-" ++ month ++ "-" ++ day).utf8ByteSize =
      6 + (month.utf8ByteSize + day.utf8ByteSize) := by
  have size := utf8ByteSize_of_digits all
  rw [four] at size
  have hyphen : ("-" : String).utf8ByteSize = 1 := by decide
  simp only [String.utf8ByteSize_append, size, hyphen]
  omega

/-- A spelling that begins with a year is too short only as a short date: those
with a time of day have ten letters at least. -/
theorem isShortDate_iff {text : String} {moment : Instant}
    (read : Instant.ofText? text = some moment) (opens : OpensWithYear text) :
    IsShortDate text ↔ text.utf8ByteSize < minInstantBytes := by
  obtain ⟨digits, rest, shape, width, all⟩ := opens
  constructor
  · rintro ⟨year, month, day, rfl, four, short⟩
    have same : year.toList = digits := by
      simp only [String.toList_append, List.append_assoc] at shape
      exact (List.append_inj shape (four.trans width.symm)).1
    rw [utf8ByteSize_date month day four (same ▸ all), minInstantBytes]
    omega
  · intro short
    have few := Nat.lt_of_le_of_lt (length_le_utf8ByteSize text) short
    have dateAlone := Instant.midnight_of_short read few
    rw [shape] at dateAlone
    obtain ⟨month, day, rfl⟩ :=
      Instant.Reader.exists_of_midnight width all dateAlone
    have whole :
        text = String.ofList digits ++ "-" ++ String.ofList month ++ "-" ++
          String.ofList day := by
      apply String.toList_injective
      simp [shape]
    have four : (String.ofList digits).toList.length = 4 := by
      rw [String.toList_ofList, width]
    rw [whole, utf8ByteSize_date _ _ four (by simpa using all),
      minInstantBytes] at short
    exact ⟨_, _, _, whole, four, by omega⟩

theorem textKey_eq_iff {text : String} {moment : Instant}
    (read : Instant.ofText? text = some moment) :
    textKey text = moment.text ↔ IsKeyedSpelling moment text := by
  unfold IsKeyedSpelling
  by_cases dated : looksLikeDate text = true
  · obtain ⟨opens, enough⟩ := looksLikeDate_iff.mp dated
    rw [textKey, if_pos dated, read]
    refine iff_of_true rfl (Or.inr ⟨opens, fun short => ?_⟩)
    exact absurd ((isShortDate_iff read opens).mp short)
      (Nat.not_lt.mpr enough)
  · rw [textKey, if_neg dated]
    refine (or_iff_left ?_).symm
    rintro ⟨opens, long⟩
    refine dated (looksLikeDate_iff.mpr ⟨opens, ?_⟩)
    rw [isShortDate_iff read opens] at long
    exact Nat.not_lt.mp long

theorem decode_instant_eq_ok_iff {text : String} {moment : Instant} :
    ScalarType.decode .instant (.text text) = .ok (.instant moment) ↔
      Instant.ofText? text = some moment := by
  rw [ScalarType.decode, ScalarType.decodeInstant]
  cases Instant.ofText? text with
  | none => exact ⟨nofun, nofun⟩
  | some held =>
      exact ⟨fun same => by cases same; rfl, fun same => by cases same; rfl⟩

/-- A text that is decoded as an instant has the key of that instant exactly when
it is the text under which the instant is stored, or begins with a year of four
digits and a hyphen and is no short date.  An index then keeps a row that is
inserted with the text under the instant, and else finds no new row there. -/
theorem indexKey_of_decode_iff {text : String} {moment : Instant}
    (decoded :
      ScalarType.decode .instant (.text text) = .ok (.instant moment)) :
    ((Value.text text).indexKey = (Value.instant moment).indexKey ↔
        IsKeyedSpelling moment text) ∧
      ∀ {α : Type} (index : RelatedIndex α) (row : α),
        (IsKeyedSpelling moment text →
          (index.insert (.text text) row).1.all (.instant moment) =
            index.all (.instant moment) ++ [row]) ∧
        (¬IsKeyedSpelling moment text →
          (index.insert (.text text) row).1.all (.instant moment) =
            index.all (.instant moment)) := by
  have keys :
      (Value.text text).indexKey = some moment.text ↔
        IsKeyedSpelling moment text := by
    rw [← textKey_eq_iff (decode_instant_eq_ok_iff.mp decoded)]
    exact Option.some_inj
  refine ⟨keys, fun index row => ?_⟩
  have grouped := index.withKey_insert (.text text) row moment.text
  constructor
  · intro keyed
    rwa [if_pos (keys.mpr keyed)] at grouped
  · intro other
    rwa [if_neg (mt keys.mp other), List.append_nil] at grouped

/-- A time of day with an offset is grouped with the moment that it names. -/
theorem indexKey_of_decode_iff_offset :
    ScalarType.decode .instant (.text "2024-05-06T07:08:09.25+02:00") =
        .ok (.instant ⟨1714972089, 250000000⟩) ∧
      (Value.text "2024-05-06T07:08:09.25+02:00").indexKey =
        (Value.instant ⟨1714972089, 250000000⟩).indexKey ∧
      ((({} : RelatedIndex Nat).insert
          (.text "2024-05-06T07:08:09.25+02:00") 1).1.all
        (.instant ⟨1714972089, 250000000⟩)) = [1] := by
  have decoded :
      ScalarType.decode .instant (.text "2024-05-06T07:08:09.25+02:00") =
        .ok (.instant ⟨1714972089, 250000000⟩) :=
    decode_instant_eq_ok_iff.mpr (by decide +kernel)
  obtain ⟨keys, grouped⟩ := indexKey_of_decode_iff decoded
  have same :
      (Value.text "2024-05-06T07:08:09.25+02:00").indexKey =
        (Value.instant ⟨1714972089, 250000000⟩).indexKey := by
    decide +kernel
  exact ⟨decoded, same, (grouped {} 1).1 (keys.mp same)⟩

/-- Without zeros before month and day a date is read, but keyed by itself. -/
theorem unpadded_date_is_keyed_by_itself :
    ScalarType.decode .instant (.text "2024-5-6") =
        .ok (.instant ⟨1714953600, 0⟩) ∧
      (Value.text "2024-5-6").indexKey = some "2024-5-6" ∧
      (Value.instant ⟨1714953600, 0⟩).indexKey =
        some "2024-05-06 00:00:00" ∧
      (Value.text "2024-5-6").indexKey ≠
        (Value.instant ⟨1714953600, 0⟩).indexKey := by
  refine ⟨decode_instant_eq_ok_iff.mpr ?_, ?_, ?_, ?_⟩ <;> decide +kernel

end Value

end RecordQuery
