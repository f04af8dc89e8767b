import Mathlib.Data.List.Forall2
import RecordQuery.Proofs.Fragment.Items

/-!
# Reading conditions by the precedence of AND and OR

A list of conditions is written flat.  A database reads it as alternatives
divided by OR, each made of parts that are joined by AND, and reads what stands
between parentheses the same way.  `Fragment.alternatives` is that reading; a
`Reading` says what is made of it.  The first use is the text itself: the items
of a fragment are those of its alternatives with OR between them.
-/

namespace RecordQuery

universe u v

/-- Whether compiling the fragment leaves no text. -/
def Fragment.isSilent (fragment : Fragment) : Bool :=
  fragment.items.all Item.isBlank

/-- What is made of conditions: of two parts joined by AND, of alternatives
between parentheses, and of a part that is written whole. -/
structure Reading (β : Type u) where
  both : β → β → β
  grouped : List β → β
  whole : Fragment → List β

/-- Alternatives side by side under AND, which binds tighter than OR: the last
on the left and the first on the right become one. -/
def fuse {β : Type u} (both : β → β → β) : List β → List β → List β
  | [], right => right
  | [last], [] => [last]
  | [last], first :: rest => both last first :: rest
  | head :: next :: tail, right => head :: fuse both (next :: tail) right

/-- The alternatives of a part that is written whole; a silent one is not
there at all. -/
def Reading.wholeParts {β : Type u} (reading : Reading β)
    (fragment : Fragment) : List β :=
  if fragment.isSilent then [] else reading.whole fragment

/-- The alternatives of a fragment, from left to right. -/
def Fragment.alternatives {β : Type u} (reading : Reading β) :
    Fragment → List β
  | .joined separator left right =>
      if separator = Link.and.keyword then
        fuse reading.both (left.alternatives reading)
          (right.alternatives reading)
      else if separator = Link.or.keyword then
        left.alternatives reading ++ right.alternatives reading
      else reading.wholeParts (.joined separator left right)
  | .group inner =>
      if inner.isSilent then []
      else [reading.grouped (inner.alternatives reading)]
  | fragment => reading.wholeParts fragment

theorem fuse_nil {β : Type u} (both : β → β → β) (left : List β) :
    fuse both left [] = left := by
  induction left with
  | nil => rfl
  | cons head tail inductionHypothesis =>
      cases tail with
      | nil => rfl
      | cons next rest => rw [fuse, inductionHypothesis]

theorem fuse_ne_nil {β : Type u} (both : β → β → β) (right : List β) :
    ∀ {left : List β}, left ≠ [] → fuse both left right ≠ []
  | [], seen => (seen rfl).elim
  | [_], _ => by cases right <;> simp [fuse]
  | _ :: _ :: _, _ => List.cons_ne_nil _ _

theorem Item.all_isBlank_joined
    (separator : String) (left right : List Item) :
    (Item.joined separator left right).all Item.isBlank =
      (left.all Item.isBlank && right.all Item.isBlank) := by
  unfold Item.joined
  by_cases rightBlank : right.all Item.isBlank = true
  · simp only [rightBlank, if_true, Bool.and_true]
  · rw [Bool.not_eq_true] at rightBlank
    by_cases leftBlank : left.all Item.isBlank = true
    · simp [rightBlank, leftBlank]
    · rw [Bool.not_eq_true] at leftBlank
      simp [rightBlank, leftBlank, List.all_append]

namespace Fragment

@[simp]
theorem isSilent_joined (separator : String) (left right : Fragment) :
    (joined separator left right).isSilent =
      (left.isSilent && right.isSilent) :=
  Item.all_isBlank_joined separator left.items right.items

@[simp]
theorem isSilent_group (inner : Fragment) :
    (group inner).isSilent = inner.isSilent := by
  show (Item.grouped inner.items).all Item.isBlank = _
  unfold Item.grouped
  split
  · rfl
  · next seen => simp [isSilent, seen, Item.isBlank]

theorem isSilent_text_of_ne {sql : String} (written : sql ≠ "") :
    (text sql).isSilent = false := by
  have letters : sql.toList ≠ [] := by simpa using written
  show (Item.ofRaw [] sql.toList).all Item.isBlank = false
  cases spelled : sql.toList with
  | nil => exact (letters spelled).elim
  | cons letter rest => simp [Item.ofRaw, Item.isBlank]

variable {β : Type u} (reading : Reading β)

theorem alternatives_of_isSilent {fragment : Fragment}
    (silent : fragment.isSilent = true) :
    fragment.alternatives reading = [] := by
  induction fragment with
  | joined separator left right leftHypothesis rightHypothesis =>
      have sides : left.isSilent = true ∧ right.isSilent = true := by
        simpa using silent
      unfold alternatives
      rw [leftHypothesis sides.1, rightHypothesis sides.2]
      simp [fuse, Reading.wholeParts, silent]
  | group inner _ =>
      have within : inner.isSilent = true := by simpa using silent
      simp [alternatives, within]
  | _ => simp [alternatives, Reading.wholeParts, silent]

end Fragment

/-! ## Two readings of one fragment -/

section Related

variable {β : Type u} {γ : Type v} {related : β → γ → Prop}

theorem forall₂_fuse
    {both : β → β → β} {both' : γ → γ → γ}
    (bothRelated : ∀ {first first' second second'},
      related first first' → related second second' →
        related (both first second) (both' first' second'))
    {right : List β} {right' : List γ}
    (rightRelated : List.Forall₂ related right right') :
    ∀ {left : List β} {left' : List γ},
      List.Forall₂ related left left' →
        List.Forall₂ related (fuse both left right) (fuse both' left' right')
  | [], [], .nil => by simpa [fuse] using rightRelated
  | [last], [last'], .cons lastRelated .nil => by
      cases rightRelated with
      | nil => exact .cons lastRelated .nil
      | cons firstRelated restRelated =>
          exact .cons (bothRelated lastRelated firstRelated) restRelated
  | head :: next :: tail, head' :: next' :: tail',
      .cons headRelated tailRelated =>
      .cons headRelated (forall₂_fuse bothRelated rightRelated tailRelated)

/-- Readings that are related in their three parts give related alternatives,
one by one. -/
theorem Fragment.forall₂_alternatives
    {reading : Reading β} {reading' : Reading γ}
    (bothRelated : ∀ {first first' second second'},
      related first first' → related second second' →
        related (reading.both first second) (reading'.both first' second'))
    (groupedRelated : ∀ {inner inner'},
      List.Forall₂ related inner inner' →
        related (reading.grouped inner) (reading'.grouped inner'))
    (wholeRelated : ∀ fragment : Fragment,
      List.Forall₂ related (reading.whole fragment)
        (reading'.whole fragment))
    (fragment : Fragment) :
    List.Forall₂ related (fragment.alternatives reading)
      (fragment.alternatives reading') := by
  have wholePartsRelated : ∀ part : Fragment,
      List.Forall₂ related (reading.wholeParts part)
        (reading'.wholeParts part) := by
    intro part
    unfold Reading.wholeParts
    split
    · exact .nil
    · exact wholeRelated part
  induction fragment with
  | joined separator left right leftHypothesis rightHypothesis =>
      unfold alternatives
      split
      · exact forall₂_fuse bothRelated rightHypothesis leftHypothesis
      · split
        · exact List.rel_append leftHypothesis rightHypothesis
        · exact wholePartsRelated _
  | group inner inductionHypothesis =>
      unfold alternatives
      split
      · exact .nil
      · exact .cons (groupedRelated inductionHypothesis) .nil
  | _ => exact wholePartsRelated _

end Related

/-! ## The text of alternatives -/

/-- The items of alternatives with OR between them. -/
def Item.alternation : List (List Item) → List Item
  | [] => []
  | [last] => last
  | head :: next :: tail =>
      head ++ .text Link.or.keyword :: alternation (next :: tail)

/-- Conditions as they are written. -/
def Reading.written : Reading (List Item) where
  both := fun left right => left ++ .text Link.and.keyword :: right
  grouped := fun inner => .text "(" :: Item.alternation inner ++ [.text ")"]
  whole := fun fragment => [fragment.items]

namespace Item

theorem alternation_cons
    {head : List Item} {rest : List (List Item)} (seen : rest ≠ []) :
    alternation (head :: rest) =
      head ++ .text Link.or.keyword :: alternation rest := by
  cases rest with
  | nil => exact (seen rfl).elim
  | cons next tail => rfl

theorem alternation_append
    {right : List (List Item)} (rightSeen : right ≠ []) :
    ∀ {left : List (List Item)}, left ≠ [] →
      alternation (left ++ right) =
        alternation left ++ .text Link.or.keyword :: alternation right
  | [], leftSeen => (leftSeen rfl).elim
  | [_], _ => alternation_cons rightSeen
  | head :: next :: tail, _ => by
      have inner :=
        alternation_append rightSeen
          (List.cons_ne_nil next tail)
      simp only [List.cons_append] at inner ⊢
      simp only [alternation, inner, List.append_assoc, List.cons_append]

theorem alternation_fuse
    {right : List (List Item)} (rightSeen : right ≠ []) :
    ∀ {left : List (List Item)}, left ≠ [] →
      alternation (fuse Reading.written.both left right) =
        alternation left ++ .text Link.and.keyword :: alternation right
  | [], leftSeen => (leftSeen rfl).elim
  | [last], _ => by
      cases right with
      | nil => exact (rightSeen rfl).elim
      | cons first rest =>
          cases rest with
          | nil => rfl
          | cons second rest =>
              simp [fuse, alternation, Reading.written, List.append_assoc]
  | head :: next :: tail, _ => by
      have inner :=
        alternation_fuse rightSeen
          (List.cons_ne_nil next tail)
      have seen :=
        fuse_ne_nil Reading.written.both right
          (List.cons_ne_nil next tail)
      rw [fuse, alternation_cons seen, inner,
        alternation_cons (List.cons_ne_nil next tail)]
      simp [List.append_assoc]

end Item

namespace Fragment

theorem alternatives_written_ne_nil {fragment : Fragment}
    (seen : fragment.isSilent = false) :
    fragment.alternatives Reading.written ≠ [] := by
  induction fragment with
  | joined separator left right leftHypothesis rightHypothesis =>
      unfold alternatives
      cases leftSilent : left.isSilent with
      | true =>
          have rightSeen : right.isSilent = false := by
            simpa [leftSilent] using seen
          have rest := rightHypothesis rightSeen
          rw [alternatives_of_isSilent _ leftSilent]
          split
          · exact rest
          · split
            · exact rest
            · simp [Reading.wholeParts, Reading.written, seen]
      | false =>
          have first := leftHypothesis leftSilent
          split
          · exact fuse_ne_nil _ _ first
          · split
            · simp [first]
            · simp [Reading.wholeParts, Reading.written, seen]
  | group inner _ =>
      have within : inner.isSilent = false := by simpa using seen
      simp [alternatives, within]
  | _ => simp [alternatives, Reading.wholeParts, Reading.written, seen]

theorem wholeParts_written {fragment : Fragment}
    (seen : fragment.isSilent = false) :
    Item.alternation (Reading.written.wholeParts fragment) =
      fragment.items := by
  rw [Reading.wholeParts, seen]
  rfl

/-- One argument for both links: `combine` stands for what the reading does
with the alternatives of the two sides. -/
private theorem joined_items_eq_alternation
    {separator : String} {left right : Fragment}
    {combine : List (List Item) → List (List Item) → List (List Item)}
    (combine_nil : ∀ first, combine first [] = first)
    (nil_combine : ∀ second, combine [] second = second)
    (combined : ∀ {first second}, first ≠ [] → second ≠ [] →
      Item.alternation (combine first second) =
        Item.alternation first ++
          .text separator :: Item.alternation second)
    (leftItems : left.isSilent = false →
      left.items = Item.alternation (left.alternatives Reading.written))
    (rightItems : right.isSilent = false →
      right.items = Item.alternation (right.alternatives Reading.written))
    (seen : (joined separator left right).isSilent = false) :
    (joined separator left right).items =
      Item.alternation
        (combine (left.alternatives Reading.written)
          (right.alternatives Reading.written)) := by
  have sides :
      (joined separator left right).items =
        if right.isSilent then left.items
        else if left.isSilent then right.items
        else left.items ++ .text separator :: right.items :=
    rfl
  rw [sides]
  cases rightSilent : right.isSilent with
  | true =>
      have leftSeen : left.isSilent = false := by
        simpa [rightSilent] using seen
      rw [alternatives_of_isSilent _ rightSilent, combine_nil]
      exact leftItems leftSeen
  | false =>
      cases leftSilent : left.isSilent with
      | true =>
          rw [alternatives_of_isSilent _ leftSilent, nil_combine]
          exact rightItems rightSilent
      | false =>
          rw [combined (alternatives_written_ne_nil leftSilent)
            (alternatives_written_ne_nil rightSilent),
            ← leftItems leftSilent, ← rightItems rightSilent]
          rfl

/-- The alternatives are nothing but the written text: with OR between them,
AND between their parts and parentheses where the fragment has them, they make
the items of the fragment. -/
theorem items_eq_alternation {fragment : Fragment}
    (seen : fragment.isSilent = false) :
    fragment.items =
      Item.alternation (fragment.alternatives Reading.written) := by
  induction fragment with
  | joined separator left right leftHypothesis rightHypothesis =>
      unfold alternatives
      split
      · next conjunction =>
          subst conjunction
          exact joined_items_eq_alternation (fuse_nil _) (fun _ => rfl)
            (fun leftSeen rightSeen =>
              Item.alternation_fuse rightSeen leftSeen)
            leftHypothesis rightHypothesis seen
      · split
        · next disjunction =>
            subst disjunction
            exact joined_items_eq_alternation List.append_nil
              List.nil_append
              (fun leftSeen rightSeen =>
                Item.alternation_append rightSeen leftSeen)
              leftHypothesis rightHypothesis seen
        · exact (wholeParts_written seen).symm
  | group inner inductionHypothesis =>
      have within : inner.isSilent = false := by simpa using seen
      have kept :
          (group inner).items =
            if inner.isSilent then inner.items
            else .text "(" :: inner.items ++ [.text ")"] :=
        rfl
      rw [kept, alternatives, within, inductionHypothesis within]
      rfl
  | _ => exact (wholeParts_written seen).symm

end Fragment

end RecordQuery
