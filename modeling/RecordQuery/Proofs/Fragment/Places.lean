import RecordQuery.Proofs.Fragment.Compilable
import RecordQuery.Proofs.Query.Alternatives

/-!
# A fragment at its place in another

A place is a fragment with one part left open.  Whatever has text there stands
between the same items, and the whole can be compiled exactly when the rest and
the part can.  Two parts at one place thus make the same statement only when
they come out the same themselves.
-/

namespace RecordQuery

/-- A fragment with one part left open. -/
inductive Place where
  | here
  | group (inner : Place)
  | left (separator : String) (inner : Place) (after : Fragment)
  | right (separator : String) (before : Fragment) (inner : Place)
  | led (keyword : String) (inner : Place)

namespace Place

def fill (part : Fragment) : Place → Fragment
  | .here => part
  | .group inner => .group (inner.fill part)
  | .left separator inner after => .joined separator (inner.fill part) after
  | .right separator before inner =>
      .joined separator before (inner.fill part)
  | .led keyword inner => .led keyword (inner.fill part)

/-- Whether nothing around the open part keeps the whole from being
compiled. -/
def IsCompilable : Place → Prop
  | .here => True
  | .group inner => inner.IsCompilable
  | .left _ inner after => inner.IsCompilable ∧ after.IsCompilable
  | .right _ before inner => before.IsCompilable ∧ inner.IsCompilable
  | .led _ inner => inner.IsCompilable

theorem isCompilable_fill_iff (place : Place) (part : Fragment) :
    (place.fill part).IsCompilable ↔
      place.IsCompilable ∧ part.IsCompilable := by
  induction place with
  | here => simp [fill, IsCompilable]
  | group inner inductionHypothesis =>
      simpa [fill, IsCompilable] using inductionHypothesis
  | left separator inner after inductionHypothesis =>
      simp only [fill, IsCompilable, Fragment.isCompilable_joined,
        inductionHypothesis]
      exact and_right_comm
  | right separator before inner inductionHypothesis =>
      simp only [fill, IsCompilable, Fragment.isCompilable_joined,
        inductionHypothesis, and_assoc]
  | led keyword inner inductionHypothesis =>
      simpa [fill, IsCompilable] using inductionHypothesis

end Place

/-! ## The items around a place -/

namespace Item

theorem joined_of_seen {separator : String} {left right : List Item}
    (leftSeen : left.all isBlank = false)
    (rightSeen : right.all isBlank = false) :
    joined separator left right = left ++ .text separator :: right := by
  simp [joined, leftSeen, rightSeen]

/-- What stands after visible items, whichever they are. -/
theorem exists_joined_left (separator : String) (right : List Item) :
    ∃ after : List Item, ∀ left : List Item, left.all isBlank = false →
      joined separator left right = left ++ after := by
  cases blank : right.all isBlank with
  | true => exact ⟨[], fun left _ => by simp [joined, blank]⟩
  | false =>
      exact ⟨.text separator :: right, fun left seen =>
        joined_of_seen seen blank⟩

/-- What stands before visible items, whichever they are. -/
theorem exists_joined_right (separator : String) (left : List Item) :
    ∃ before : List Item, ∀ right : List Item, right.all isBlank = false →
      joined separator left right = before ++ right := by
  cases blank : left.all isBlank with
  | true => exact ⟨[], fun right seen => by simp [joined, blank, seen]⟩
  | false =>
      exact ⟨left ++ [.text separator], fun right seen => by
        simp [joined_of_seen blank seen]⟩

end Item

theorem Fragment.isSilent_led (keyword : String) (body : Fragment) :
    (led keyword body).isSilent = body.isSilent := by
  show (Item.led keyword body.items).all Item.isBlank = _
  unfold Item.led
  split
  · rfl
  · next seen => simp [isSilent, seen, Item.isBlank]

namespace Place

theorem isSilent_fill {part : Fragment} (seen : part.isSilent = false)
    (place : Place) : (place.fill part).isSilent = false := by
  induction place with
  | here => exact seen
  | group inner inductionHypothesis =>
      simpa [fill] using inductionHypothesis
  | left separator inner after inductionHypothesis =>
      simp [fill, inductionHypothesis]
  | right separator before inner inductionHypothesis =>
      simp [fill, inductionHypothesis]
  | led keyword inner inductionHypothesis =>
      rw [fill, Fragment.isSilent_led, inductionHypothesis]

/-- A visible part stands between items that do not depend on it. -/
theorem exists_items_fill (place : Place) :
    ∃ before after : List Item, ∀ part : Fragment, part.isSilent = false →
      (place.fill part).items = before ++ part.items ++ after := by
  induction place with
  | here => exact ⟨[], [], fun part _ => by simp [fill]⟩
  | group inner inductionHypothesis =>
      obtain ⟨before, after, around⟩ := inductionHypothesis
      refine ⟨.text "(" :: before, after ++ [.text ")"], ?_⟩
      intro part seen
      have within : (inner.fill part).items.all Item.isBlank = false :=
        isSilent_fill seen inner
      show Item.grouped (inner.fill part).items = _
      rw [Item.grouped, within, around part seen]
      simp
  | left separator inner after inductionHypothesis =>
      obtain ⟨before, next, around⟩ := inductionHypothesis
      obtain ⟨last, appended⟩ :=
        Item.exists_joined_left separator after.items
      refine ⟨before, next ++ last, ?_⟩
      intro part seen
      show Item.joined separator (inner.fill part).items after.items = _
      rw [appended _ (isSilent_fill seen inner), around part seen]
      simp only [List.append_assoc]
  | right separator before inner inductionHypothesis =>
      obtain ⟨next, after, around⟩ := inductionHypothesis
      obtain ⟨first, appended⟩ :=
        Item.exists_joined_right separator before.items
      refine ⟨first ++ next, after, ?_⟩
      intro part seen
      show Item.joined separator before.items (inner.fill part).items = _
      rw [appended _ (isSilent_fill seen inner), around part seen]
      simp only [List.append_assoc]
  | led keyword inner inductionHypothesis =>
      obtain ⟨before, after, around⟩ := inductionHypothesis
      refine ⟨.text (keyword ++ " ") :: before, after, ?_⟩
      intro part seen
      have within : (inner.fill part).items.all Item.isBlank = false :=
        isSilent_fill seen inner
      show Item.led keyword (inner.fill part).items = _
      rw [Item.led, within, around part seen]
      simp

end Place

/-! ## Fragments that come out the same -/

namespace Fragment

/-- Whether two fragments come out the same: neither can be compiled, or both
have the same items. -/
def Alike (left right : Fragment) : Prop :=
  (left.IsCompilable ↔ right.IsCompilable) ∧
    (right.IsCompilable → left.items = right.items)

variable {first second third : Fragment}

namespace Alike

theorem refl (fragment : Fragment) : fragment.Alike fragment :=
  ⟨Iff.rfl, fun _ => rfl⟩

theorem symm (alike : first.Alike second) : second.Alike first :=
  ⟨alike.1.symm, fun compilable => (alike.2 (alike.1.mp compilable)).symm⟩

theorem trans (alike : first.Alike second) (later : second.Alike third) :
    first.Alike third :=
  ⟨alike.1.trans later.1, fun compilable =>
    (alike.2 (later.1.mpr compilable)).trans (later.2 compilable)⟩

end Alike

/-- Fragments are compared only where one of them can be compiled. -/
theorem alike_of_imp
    (alike : first.IsCompilable ∨ second.IsCompilable → first.Alike second) :
    first.Alike second := by
  by_cases compilable : first.IsCompilable ∨ second.IsCompilable
  · exact alike compilable
  · have neither := not_or.mp compilable
    exact ⟨iff_of_false neither.1 neither.2,
      fun compiled => absurd compiled neither.2⟩

/-- What can be compiled comes out as its items, in every dialect. -/
theorem toSql_eq_of_isCompilable {fragment : Fragment}
    (compilable : fragment.IsCompilable) (dialect : Dialect) :
    fragment.toSql dialect =
      .ok ⟨Item.print dialect 0 fragment.items, fragment.values⟩ := by
  obtain ⟨compiled, after, returned⟩ :=
    (returns_compile_iff dialect fragment 0).mpr compilable
  have printed := compile_isPrinted dialect fragment returned
  have outcome : fragment.toSql dialect = .ok compiled :=
    congrArg Prod.fst returned
  have parts :
      compiled =
        ⟨Item.print dialect 0 fragment.items, fragment.values⟩ := by
    rw [values, ← printed.sql, ← printed.bindings]
  rw [outcome, parts]

theorem Alike.toSql_eq {left right : Fragment} (alike : left.Alike right)
    (compilable : right.IsCompilable) (dialect : Dialect) :
    left.toSql dialect = right.toSql dialect := by
  rw [toSql_eq_of_isCompilable compilable,
    toSql_eq_of_isCompilable (alike.1.mpr compilable), values, values,
    alike.2 compilable]

end Fragment

/-- Visible parts at one place make fragments that come out the same exactly
when they come out the same themselves, or when the rest does not compile. -/
theorem Place.alike_fill_iff (place : Place) {left right : Fragment}
    (leftSeen : left.isSilent = false) (rightSeen : right.isSilent = false) :
    (place.fill left).Alike (place.fill right) ↔
      (place.IsCompilable → left.Alike right) := by
  by_cases compilable : place.IsCompilable
  · obtain ⟨before, after, around⟩ := place.exists_items_fill
    simp only [Fragment.Alike, isCompilable_fill_iff, compilable, true_and,
      true_imp_iff, around left leftSeen, around right rightSeen,
      List.append_assoc, List.append_cancel_left_eq,
      List.append_cancel_right_eq]
  · refine iff_of_true ?_ fun compilable' => absurd compilable' compilable
    have never :
        ∀ part : Fragment, ¬ (place.fill part).IsCompilable := by
      intro part
      rw [isCompilable_fill_iff]
      exact fun both => compilable both.1
    exact ⟨iff_of_false (never left) (never right),
      fun compiled => absurd compiled (never right)⟩

/-! ## Places in lists of parts -/

namespace Place

/-- The place with further parts after it, each behind its separator. -/
def follow (place : Place) (later : List (String × Fragment)) : Place :=
  later.foldl (fun place part => .left part.1 place part.2) place

theorem fill_follow (part : Fragment) (later : List (String × Fragment)) :
    ∀ place : Place,
      (place.follow later).fill part =
        later.foldl (fun done next => .joined next.1 done next.2)
          (place.fill part) := by
  induction later with
  | nil =>
      intro place
      rfl
  | cons next rest inductionHypothesis =>
      intro place
      exact inductionHypothesis (.left next.1 place next.2)

/-- The place of one part among others with a separator between them. -/
def among (separator : String) (before : List Fragment) (inner : Place)
    (after : List Fragment) : Place :=
  (Place.right separator (.join separator before) inner).follow
    (after.map fun part => (separator, part))

theorem fill_among (separator : String) (before after : List Fragment)
    (inner : Place) (part : Fragment) :
    (among separator before inner after).fill part =
      .join separator (before ++ inner.fill part :: after) := by
  have divided :
      Fragment.join separator (before ++ inner.fill part :: after) =
        after.foldl (.joined separator)
          (.joined separator (.join separator before)
            (inner.fill part)) := by
    rw [Fragment.join, List.foldl_append]
    rfl
  rw [among, fill_follow, List.foldl_map, divided]
  rfl

/-- The place of a predicate among conditions. -/
def ofPredicate (link : Link) (before after : Conditions) : Place :=
  (Place.right link.keyword before.fragment .here).follow
    (after.map fun predicate => (predicate.link.keyword, predicate.fragment))

theorem fill_ofPredicate (before after : Conditions)
    (predicate : Predicate) :
    (ofPredicate predicate.link before after).fill predicate.fragment =
      Conditions.fragment (before ++ predicate :: after) := by
  have divided :
      Conditions.fragment (before ++ predicate :: after) =
        after.foldl
          (fun done next => .joined next.link.keyword done next.fragment)
          (.joined predicate.link.keyword before.fragment
            predicate.fragment) := by
    rw [Conditions.fragment, List.foldl_append]
    rfl
  rw [ofPredicate, fill_follow, List.foldl_map, divided]
  rfl

end Place

end RecordQuery
