import Mathlib.Data.List.Forall2

/-!
# Lists related entry by entry

What is said of two lists by relating their entries in order: partners of an
entry, relations one after another, and lists made from two others.
-/

namespace RecordQuery

universe u v w

variable {α : Type u} {β : Type v} {γ : Type w}
variable {related : α → β → Prop} {left : List α} {right : List β}

theorem exists_left_of_forall₂
    (allRelated : List.Forall₂ related left right) {second : β}
    (member : second ∈ right) :
    ∃ first ∈ left, related first second := by
  induction allRelated with
  | nil => cases member
  | cons headRelated _ inductionHypothesis =>
      cases member with
      | head => exact ⟨_, List.mem_cons_self, headRelated⟩
      | tail _ later =>
          obtain ⟨first, firstMember, firstRelated⟩ :=
            inductionHypothesis later
          exact ⟨first, List.mem_cons_of_mem _ firstMember, firstRelated⟩

theorem exists_right_of_forall₂
    (allRelated : List.Forall₂ related left right) {first : α}
    (member : first ∈ left) :
    ∃ second ∈ right, related first second :=
  exists_left_of_forall₂ allRelated.flip member

theorem related_of_getElem?
    (allRelated : List.Forall₂ related left right) {place : Nat}
    {first : α} {second : β}
    (firstAt : left[place]? = some first)
    (secondAt : right[place]? = some second) :
    related first second := by
  obtain ⟨firstInside, rfl⟩ := List.getElem?_eq_some_iff.mp firstAt
  obtain ⟨secondInside, rfl⟩ := List.getElem?_eq_some_iff.mp secondAt
  exact allRelated.get firstInside secondInside

/-- Entries are related in two steps when there is a list between. -/
theorem forall₂_exists_between_iff {next : β → γ → Prop} {far : List γ} :
    List.Forall₂ (fun first third =>
        ∃ second, related first second ∧ next second third) left far ↔
      ∃ middle, List.Forall₂ related left middle ∧
        List.Forall₂ next middle far := by
  constructor
  · intro steps
    induction steps with
    | nil => exact ⟨[], .nil, .nil⟩
    | cons headSteps _ inductionHypothesis =>
        obtain ⟨second, one, other⟩ := headSteps
        obtain ⟨middle, firsts, thirds⟩ := inductionHypothesis
        exact ⟨second :: middle, .cons one firsts, .cons other thirds⟩
  · rintro ⟨middle, firsts, thirds⟩
    induction firsts generalizing far with
    | nil =>
        cases thirds
        exact .nil
    | cons one _ inductionHypothesis =>
        cases thirds with
        | cons other laterThirds =>
            exact .cons ⟨_, one, other⟩ (inductionHypothesis laterThirds)

/-- Each entry of the one list combined with its partner in the other. -/
theorem forall₂_zipWith_iff (combine : α → β → γ) {result : List γ} :
    List.Forall₂ (fun first third =>
        ∃ second, related first second ∧ third = combine first second)
      left result ↔
      ∃ middle, List.Forall₂ related left middle ∧
        result = List.zipWith combine left middle := by
  constructor
  · intro combined
    induction combined with
    | nil => exact ⟨[], .nil, rfl⟩
    | cons headCombined _ inductionHypothesis =>
        obtain ⟨second, headRelated, rfl⟩ := headCombined
        obtain ⟨middle, tailRelated, rfl⟩ := inductionHypothesis
        exact ⟨second :: middle, .cons headRelated tailRelated, rfl⟩
  · rintro ⟨middle, allRelated, rfl⟩
    induction allRelated with
    | nil => exact .nil
    | cons headRelated _ inductionHypothesis =>
        exact .cons ⟨_, headRelated, rfl⟩ inductionHypothesis

theorem exists_forall₂ (each : ∀ first ∈ left, ∃ second, related first second) :
    ∃ right, List.Forall₂ related left right := by
  induction left with
  | nil => exact ⟨[], .nil⟩
  | cons head tail inductionHypothesis =>
      obtain ⟨second, headRelated⟩ := each head List.mem_cons_self
      have later := fun first member =>
        each first (List.mem_cons_of_mem head member)
      obtain ⟨seconds, tailRelated⟩ := inductionHypothesis later
      exact ⟨second :: seconds, .cons headRelated tailRelated⟩

theorem forall₂_filter {keepLeft : α → Bool} {keepRight : β → Bool}
    (allRelated :
      List.Forall₂ (fun first second =>
        related first second ∧ keepLeft first = keepRight second)
        left right) :
    List.Forall₂ related (left.filter keepLeft)
      (right.filter keepRight) := by
  induction allRelated with
  | nil => exact .nil
  | cons head _ inductionHypothesis =>
      obtain ⟨headRelated, agree⟩ := head
      rw [List.filter_cons, List.filter_cons, agree]
      split
      · exact .cons headRelated inductionHypothesis
      · exact inductionHypothesis

theorem map_eq_map_of_forall₂ {first : α → γ} {second : β → γ}
    (each : List.Forall₂ (fun one other => first one = second other)
      left right) :
    left.map first = right.map second := by
  rw [← List.forall₂_eq_eq_eq, List.forall₂_map_left_iff,
    List.forall₂_map_right_iff]
  exact each

theorem filterMap_eq_map_of_forall₂ {read : α → Option γ} {value : β → γ}
    (each : List.Forall₂ (fun first second =>
      read first = some (value second)) left right) :
    left.filterMap read = right.map value := by
  induction each with
  | nil => rfl
  | cons head _ inductionHypothesis =>
      rw [List.filterMap_cons, head, inductionHypothesis, List.map_cons]

end RecordQuery
