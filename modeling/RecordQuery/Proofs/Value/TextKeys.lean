import RecordQuery.Proofs.Json.Letters
import RecordQuery.Proofs.Value.Keys

/-!
# Texts that are their own keys

A text is keyed by the instant that it names, if it looks like a date.  The
texts of instants are their own keys, and those of identifiers and JSON values
never look like a date.
-/

namespace RecordQuery

open Text

/-- The text of a moment names it, its nanoseconds within the second. -/
theorem Instant.ofText?_text_settled {moment : Instant}
    (representable : moment.IsRepresentable) :
    ofText? moment.text = some moment.settled := by
  rw [← text_settled, ofText?_text (isValid_settled representable)]

namespace Value

theorem exists_of_looksLikeDate {text : String}
    (dated : looksLikeDate text = true) :
    ∃ digits rest, text.toList = digits ++ '-' :: rest ∧ digits.length = 4 ∧
      ∀ digit ∈ digits, digit.isDigit = true := by
  unfold looksLikeDate at dated
  split at dated
  · rename_i a b c d rest shape
    simp only [Bool.and_eq_true] at dated
    refine ⟨[a, b, c, d], rest, shape, rfl, ?_⟩
    simpa [and_assoc] using dated.1
  · cases dated

theorem textKey_of_undated {text : String}
    (undated : ∀ digits rest, text.toList = digits ++ '-' :: rest →
      digits.length = 4 → ∃ digit ∈ digits, digit.isDigit = false) :
    textKey text = text := by
  have unlike : looksLikeDate text = false := by
    rw [← Bool.not_eq_true]
    intro dated
    obtain ⟨digits, rest, shape, length, all⟩ := exists_of_looksLikeDate dated
    obtain ⟨digit, member, other⟩ := undated digits rest shape length
    rw [all digit member] at other
    cases other
  rw [textKey, unlike]
  rfl

/-- A text that is too short for a date is its own key. -/
theorem textKey_of_short {text : String}
    (short : (Utf8.encode text).length < minInstantBytes) :
    textKey text = text := by
  have unlike : looksLikeDate text = false := by
    unfold looksLikeDate
    rw [Utf8.length_encode] at short
    split
    · simp [Nat.not_le.mpr short]
    · rfl
  rw [textKey, unlike]
  rfl

/-- The text of a moment is its own key, whether or not it is read as one. -/
theorem textKey_instant {moment : Instant}
    (representable : moment.IsRepresentable) :
    textKey moment.text = moment.text := by
  unfold textKey
  rw [Instant.ofText?_text_settled representable]
  simp only [Instant.text_settled, ite_self]

/-- The fifth letter of an identifier is a digit. -/
theorem textKey_uuid (uuid : Uuid) : textKey uuid.text = uuid.text := by
  refine textKey_of_undated fun digits rest shape length => ?_
  obtain ⟨first, _, _, _, _, groups, size, whole⟩ := Uuid.exists_groups uuid
  rw [Uuid.text, String.toList_ofList] at shape
  have early : '-' ∈ (digits ++ '-' :: rest).take 8 := by
    rw [List.take_append, length]
    exact List.mem_append_right _ List.mem_cons_self
  rw [← shape, groups, List.append_assoc, List.append_assoc,
    List.append_assoc, List.take_left' size] at early
  exact (whole first List.mem_cons_self early).elim

theorem textKey_json (json : Json) : textKey json.text = json.text := by
  refine textKey_of_undated fun digits rest shape length => ?_
  rw [Json.toList_text] at shape
  by_contra all
  push Not at all
  refine Json.letters_ne_digits_minus json ?_
    (fun digit member => Bool.eq_true_of_not_eq_false (all digit member)) shape
  exact List.ne_nil_of_length_pos (by omega)

end Value

end RecordQuery
