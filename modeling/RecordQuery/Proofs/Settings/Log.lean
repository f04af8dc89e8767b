import Mathlib.Data.Nat.Find
import Mathlib.Order.Bounds.Basic
import RecordQuery.Event

/-!
# Statements cut for the log

A statement over the limit is cut at the last boundary between characters that
the limit allows.  The walk back from the limit takes the first boundary that it
meets, so no longer beginning fits, and the start of the text is a boundary, so
that there always is one.
-/

namespace RecordQuery

open String.Pos.Raw (IsValid)

namespace Text.Utf8

theorem lastBoundary_eq_findGreatest (text : String) (limit : Nat) :
    lastBoundary text limit =
      Nat.findGreatest (fun offset => IsValid text ⟨offset⟩) limit := by
  induction limit with
  | zero => rfl
  | succ limit inductionHypothesis =>
      rw [lastBoundary, Nat.findGreatest_succ, inductionHypothesis]

theorem isGreatest_lastBoundary (text : String) (limit : Nat) :
    IsGreatest {offset | IsValid text ⟨offset⟩ ∧ offset ≤ limit}
      (lastBoundary text limit) := by
  refine ⟨⟨isValid_lastBoundary text limit, ?_⟩, ?_⟩
  · rw [lastBoundary_eq_findGreatest]
    exact Nat.findGreatest_le limit
  · rintro offset ⟨boundary, fits⟩
    rw [lastBoundary_eq_findGreatest]
    exact Nat.le_findGreatest fits boundary

end Text.Utf8

namespace LogSettings

/-- Whether a part of a text is its longest beginning that ends at a boundary
between characters and takes at most so many bytes. -/
structure IsLongestBeginning (limit : Nat) (text part : String) : Prop where
  begins : ∃ rest, text = part ++ rest
  greatest :
    IsGreatest {offset | IsValid text ⟨offset⟩ ∧ offset ≤ limit}
      part.utf8ByteSize

variable {limit : Nat} {text part : String}

theorem isLongestBeginning_self (fits : text.utf8ByteSize ≤ limit) :
    IsLongestBeginning limit text text where
  begins := ⟨"", by simp⟩
  greatest := by
    refine ⟨⟨String.Pos.Raw.isValid_rawEndPos, fits⟩, ?_⟩
    rintro offset ⟨boundary, -⟩
    exact boundary.le_utf8ByteSize

/-- A text is cut in two at the last boundary. -/
theorem isLongestBeginning_of_splits {rest : String} {cut : text.Pos}
    (last : cut.offset.byteIdx = Text.Utf8.lastBoundary text limit)
    (splits : cut.Splits part rest) : IsLongestBeginning limit text part where
  begins := ⟨rest, splits.eq_append⟩
  greatest := by
    have size : part.utf8ByteSize = Text.Utf8.lastBoundary text limit := by
      rw [← last, splits.offset_eq_rawEndPos, String.byteIdx_rawEndPos]
    rw [size]
    exact Text.Utf8.isGreatest_lastBoundary text limit

theorem isLongestBeginning_beginning (limit : Nat) (text : String) :
    IsLongestBeginning limit text (beginning limit text) := by
  unfold beginning
  split
  case isTrue fits => exact isLongestBeginning_self fits
  case isFalse => exact isLongestBeginning_of_splits rfl (String.Pos.splits _)

/-- A beginning is known by its size. -/
theorem IsLongestBeginning.unique {other : String}
    (longest : IsLongestBeginning limit text part)
    (otherLongest : IsLongestBeginning limit text other) : part = other := by
  have sameSize := longest.greatest.unique otherLongest.greatest
  obtain ⟨rest, begins⟩ := longest.begins
  obtain ⟨otherRest, otherBegins⟩ := otherLongest.begins
  let cut := text.pos ⟨part.utf8ByteSize⟩ longest.greatest.1.1
  have splits : cut.Splits part rest := ⟨begins, rfl⟩
  have otherSplits : cut.Splits other otherRest :=
    ⟨otherBegins, String.Pos.Raw.ext sameSize⟩
  exact splits.eq_left otherSplits

theorem beginning_eq_iff :
    beginning limit text = part ↔ IsLongestBeginning limit text part := by
  constructor
  · rintro rfl
    exact isLongestBeginning_beginning limit text
  · exact (isLongestBeginning_beginning limit text).unique

theorem shorten_eq_iff {settings : LogSettings} {sql shown : String} :
    settings.shorten sql = shown ↔
      (∀ limit ∈ settings.maxBytes?, sql.utf8ByteSize ≤ limit) ∧ shown = sql ∨
        ∃ limit ∈ settings.maxBytes?, limit < sql.utf8ByteSize ∧
          ∃ part, IsLongestBeginning limit sql part ∧
            shown = part ++ "..." := by
  unfold shorten
  cases settings.maxBytes? with
  | none => simp [eq_comm]
  | some limit =>
      by_cases exceeds : limit < sql.utf8ByteSize
      · simp [exceeds, Nat.not_le.mpr exceeds, ← beginning_eq_iff, eq_comm]
      · simp [exceeds, Nat.not_lt.mp exceeds, eq_comm]

/-- The walk back from any limit ends at a boundary, and the beginning is the
longest that ends at one and fits.  A statement is shown as it is without a limit
or within it, and otherwise by that beginning and three dots. -/
theorem shorten_cuts_at_boundary :
    (∀ text limit, IsValid text ⟨Text.Utf8.lastBoundary text limit⟩) ∧
      (∀ limit text part,
        beginning limit text = part ↔ IsLongestBeginning limit text part) ∧
      ∀ (settings : LogSettings) (sql shown : String),
        settings.shorten sql = shown ↔
          (∀ limit ∈ settings.maxBytes?, sql.utf8ByteSize ≤ limit) ∧
              shown = sql ∨
            ∃ limit ∈ settings.maxBytes?, limit < sql.utf8ByteSize ∧
              ∃ part, IsLongestBeginning limit sql part ∧
                shown = part ++ "..." :=
  ⟨Text.Utf8.isValid_lastBoundary, fun _ _ _ => beginning_eq_iff,
    fun _ _ _ => shorten_eq_iff⟩

/-- The second letter takes two bytes, so a cut after two bytes keeps one. -/
example : beginning 2 "héllo" = "h" ∧ beginning 3 "héllo" = "hé" := by
  decide

end LogSettings

end RecordQuery
