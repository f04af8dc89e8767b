import Mathlib.Data.List.DropRight
import RecordQuery.Text.Basic

/-!
# Texts cut at separators and freed of white space

The pieces of a text have no separator in them, and texts without one are the
pieces of what they are joined to.  What is left of a text without the white
space around it begins and ends visibly, and a text that does so already is left
as it is.
-/

namespace RecordQuery.Text

/-! ## Pieces -/

section Pieces

variable {isSeparator : Char → Bool}

theorem pieces_ne_nil (letters : List Char) :
    pieces isSeparator letters ≠ [] := by
  cases letters with
  | nil => exact List.cons_ne_nil _ _
  | cons letter rest =>
      rw [pieces]
      split
      · exact List.cons_ne_nil _ _
      · split <;> exact List.cons_ne_nil _ _

theorem pieces_append {separator : Char}
    (separates : isSeparator separator = true) (rest before : List Char) :
    pieces isSeparator (before ++ separator :: rest) =
      pieces isSeparator before ++ pieces isSeparator rest := by
  induction before with
  | nil => simp [pieces, separates]
  | cons letter before inductionHypothesis =>
      rw [List.cons_append, pieces, pieces, inductionHypothesis]
      by_cases cut : isSeparator letter = true
      · rw [if_pos cut, if_pos cut, List.cons_append]
      · rw [if_neg cut, if_neg cut]
        cases divided : pieces isSeparator before with
        | nil => exact (pieces_ne_nil before divided).elim
        | cons first more => rfl

theorem pieces_of_none {letters : List Char}
    (none : ∀ letter ∈ letters, isSeparator letter = false) :
    pieces isSeparator letters = [letters] := by
  induction letters with
  | nil => rfl
  | cons letter rest inductionHypothesis =>
      obtain ⟨first, later⟩ := List.forall_mem_cons.mp none
      rw [pieces, first, inductionHypothesis later]
      rfl

/-- No separator is left in a piece. -/
theorem isSeparator_of_mem_pieces {letters : List Char} :
    ∀ piece ∈ pieces isSeparator letters, ∀ letter ∈ piece,
      isSeparator letter = false := by
  induction letters with
  | nil => simp [pieces]
  | cons first rest inductionHypothesis =>
      rw [pieces]
      by_cases cut : isSeparator first = true
      · rw [if_pos cut]
        simpa using inductionHypothesis
      · rw [if_neg cut]
        cases divided : pieces isSeparator rest with
        | nil => exact (pieces_ne_nil rest divided).elim
        | cons begun more =>
            rw [divided, List.forall_mem_cons] at inductionHypothesis
            have uncut : isSeparator first = false := by simpa using cut
            exact List.forall_mem_cons.mpr
              ⟨List.forall_mem_cons.mpr ⟨uncut, inductionHypothesis.1⟩,
                inductionHypothesis.2⟩

/-- Joined by a separator, texts without one are its pieces again. -/
theorem pieces_intercalate {separator : Char}
    (separates : isSeparator separator = true) {texts : List (List Char)}
    (some : texts ≠ [])
    (undivided : ∀ text ∈ texts, ∀ letter ∈ text, isSeparator letter = false) :
    pieces isSeparator ([separator].intercalate texts) = texts := by
  induction texts with
  | nil => exact (some rfl).elim
  | cons first rest inductionHypothesis =>
      obtain ⟨whole, later⟩ := List.forall_mem_cons.mp undivided
      cases rest with
      | nil => simpa using pieces_of_none whole
      | cons second more =>
          rw [List.intercalate_cons_cons, List.append_assoc,
            List.singleton_append, pieces_append separates,
            pieces_of_none whole,
            inductionHypothesis (List.cons_ne_nil second more) later,
            List.singleton_append]

end Pieces

/-! ## White space around a text -/

/-- Whether there is no white space at the ends of letters. -/
structure VisibleEnds (letters : List Char) : Prop where
  first : ∀ letter ∈ letters.head?, isBlank letter = false
  last : ∀ letter ∈ letters.getLast?, isBlank letter = false

theorem visibleEnds_of_forall {letters : List Char}
    (visible : ∀ letter ∈ letters, isBlank letter = false) :
    VisibleEnds letters where
  first letter head := visible letter (List.mem_of_mem_head? head)
  last letter last := visible letter (List.mem_of_mem_getLast? last)

theorem visibleEnds_between {first last : Char} (letters : List Char)
    (firstVisible : isBlank first = false)
    (lastVisible : isBlank last = false) :
    VisibleEnds (first :: (letters ++ [last])) where
  first := by simpa using firstVisible
  last := by
    rw [← List.cons_append, List.getLast?_concat]
    simpa using lastVisible

theorem trimStart_eq_self {letters : List Char}
    (first : ∀ letter ∈ letters.head?, isBlank letter = false) :
    trimStart letters = letters := by
  cases letters with
  | nil => rfl
  | cons letter rest =>
      rw [trimStart, List.dropWhile_cons, first letter rfl]
      rfl

/-- The letters are trimmed at the end as their mirror image is at the start. -/
theorem trimEnd_eq_reverse (letters : List Char) :
    trimEnd letters = (trimStart letters.reverse).reverse :=
  rfl

theorem trim_of_visibleEnds {text : String} (ends : VisibleEnds text.toList) :
    trim text = text := by
  have mirrored : trimStart text.toList.reverse = text.toList.reverse := by
    refine trimStart_eq_self ?_
    rw [List.head?_reverse]
    exact ends.last
  rw [trim, trimStart_eq_self ends.first, trimEnd_eq_reverse, mirrored,
    List.reverse_reverse, String.ofList_toList]

theorem head?_trimStart (letters : List Char) :
    ∀ letter ∈ (trimStart letters).head?, isBlank letter = false := by
  intro letter head
  have shown := List.head?_dropWhile_not isBlank letters
  rw [trimStart] at head
  rw [Option.mem_def.mp head] at shown
  exact shown

theorem trimEnd_isPrefixOf (letters : List Char) : trimEnd letters <+: letters :=
  List.rdropWhile_prefix isBlank letters

theorem visibleEnds_trim (text : String) : VisibleEnds (trim text).toList := by
  rw [trim, String.toList_ofList]
  constructor
  · intro letter head
    obtain ⟨rest, whole⟩ := trimEnd_isPrefixOf (trimStart text.toList)
    refine head?_trimStart text.toList letter ?_
    rw [← whole, List.head?_append, Option.mem_def.mp head]
    rfl
  · rw [trimEnd_eq_reverse, List.getLast?_reverse]
    exact head?_trimStart _

theorem mem_of_mem_trim {text : String} {letter : Char}
    (member : letter ∈ (trim text).toList) : letter ∈ text.toList := by
  rw [trim, String.toList_ofList] at member
  exact List.dropWhile_subset isBlank ((trimEnd_isPrefixOf _).subset member)

end RecordQuery.Text
