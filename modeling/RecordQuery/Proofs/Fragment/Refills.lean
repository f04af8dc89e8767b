import RecordQuery.Proofs.Fragment.Congruence
import RecordQuery.Proofs.Fragment.Dialects

/-!
# Fragments with other values in their places

Two fragments that are the same but for the values in them, which are related
place by place, are refused alike or come out with one text, and their bindings
are related in order.
-/

namespace RecordQuery

/-- The same item, or two values that are related. -/
inductive Item.Refills (related : Value → Value → Prop) : Item → Item → Prop
  | text (sql : String) : Item.Refills related (.text sql) (.text sql)
  | name (ident : Ident) : Item.Refills related (.name ident) (.name ident)
  | unlimited : Item.Refills related .unlimited .unlimited
  | bound {value value' : Value} (corresponding : related value value') :
      Item.Refills related (.bound value) (.bound value')

/-- The same fragment but for its values, which are related. -/
inductive Fragment.Refills (related : Value → Value → Prop) :
    Fragment → Fragment → Prop
  | name (path : String) : Fragment.Refills related (.name path) (.name path)
  | raw (sql : String) {bindings bindings' : List Value}
      (corresponding : List.Forall₂ related bindings bindings') :
      Fragment.Refills related (.raw sql bindings) (.raw sql bindings')
  | bound {value value' : Value} (corresponding : related value value') :
      Fragment.Refills related (.bound value) (.bound value')
  | group {inner inner' : Fragment}
      (refills : Fragment.Refills related inner inner') :
      Fragment.Refills related (.group inner) (.group inner')
  | joined (separator : String) {left left' right right' : Fragment}
      (leftRefills : Fragment.Refills related left left')
      (rightRefills : Fragment.Refills related right right') :
      Fragment.Refills related (.joined separator left right)
        (.joined separator left' right')
  | led (keyword : String) {body body' : Fragment}
      (refills : Fragment.Refills related body body') :
      Fragment.Refills related (.led keyword body) (.led keyword body')
  | unlimited : Fragment.Refills related .unlimited .unlimited
  | refused (cause : Error) :
      Fragment.Refills related (.refused cause) (.refused cause)

/-- The same failure, or the same text with bindings that are related in
order. -/
def SameButValues (related : Value → Value → Prop) :
    Except Error Compiled → Except Error Compiled → Prop
  | .error error, .error error' => error = error'
  | .ok left, .ok right =>
      left.sql = right.sql ∧
        List.Forall₂ related left.bindings right.bindings
  | .error _, .ok _ | .ok _, .error _ => False

variable {related : Value → Value → Prop}

/-! ## Items -/

namespace Item

variable {left left' right right' : List Item}

theorem all_isBlank_eq_of_refills
    (refills : List.Forall₂ (Item.Refills related) left left') :
    left.all isBlank = left'.all isBlank := by
  induction refills with
  | nil => rfl
  | cons head _ inductionHypothesis =>
      rw [List.all_cons, List.all_cons, inductionHypothesis]
      cases head <;> rfl

theorem print_eq_of_refills (dialect : Dialect)
    (refills : List.Forall₂ (Item.Refills related) left left') :
    ∀ count : Nat, print dialect count left = print dialect count left' := by
  induction refills with
  | nil =>
      intro count
      rfl
  | cons head _ inductionHypothesis =>
      intro count
      cases head <;> simp only [print, inductionHypothesis]

theorem values_of_refills
    (refills : List.Forall₂ (Item.Refills related) left left') :
    List.Forall₂ related (values left) (values left') := by
  induction refills with
  | nil => exact .nil
  | cons head _ inductionHypothesis =>
      cases head with
      | bound corresponding => exact .cons corresponding inductionHypothesis
      | text sql => exact inductionHypothesis
      | name ident => exact inductionHypothesis
      | unlimited => exact inductionHypothesis

theorem refills_joined (separator : String)
    (leftRefills : List.Forall₂ (Item.Refills related) left left')
    (rightRefills : List.Forall₂ (Item.Refills related) right right') :
    List.Forall₂ (Item.Refills related) (joined separator left right)
      (joined separator left' right') := by
  unfold joined
  rw [← all_isBlank_eq_of_refills leftRefills,
    ← all_isBlank_eq_of_refills rightRefills]
  split
  · exact leftRefills
  · split
    · exact rightRefills
    · exact List.rel_append leftRefills (.cons (.text separator) rightRefills)

theorem refills_grouped
    (refills : List.Forall₂ (Item.Refills related) left left') :
    List.Forall₂ (Item.Refills related) (grouped left) (grouped left') := by
  unfold grouped
  rw [← all_isBlank_eq_of_refills refills]
  split
  · exact refills
  · exact .cons (.text "(")
      (List.rel_append refills (.cons (.text ")") .nil))

theorem refills_led (keyword : String)
    (refills : List.Forall₂ (Item.Refills related) left left') :
    List.Forall₂ (Item.Refills related) (led keyword left)
      (led keyword left') := by
  unfold led
  rw [← all_isBlank_eq_of_refills refills]
  split
  · exact refills
  · exact .cons (.text (keyword ++ " ")) refills

/-- Raw letters take the values in the same places. -/
theorem refills_ofRaw (letters : List Char) :
    ∀ {bindings bindings' : List Value},
      List.Forall₂ related bindings bindings' →
        List.Forall₂ (Item.Refills related) (ofRaw bindings letters)
          (ofRaw bindings' letters) := by
  induction letters with
  | nil =>
      intro bindings bindings' corresponding
      cases corresponding <;> exact .nil
  | cons letter rest inductionHypothesis =>
      intro bindings bindings' corresponding
      cases corresponding with
      | nil => exact .cons (.text letter.toString) (inductionHypothesis .nil)
      | cons head tail =>
          unfold ofRaw
          split
          · exact .cons (.bound head) (inductionHypothesis tail)
          · exact .cons (.text letter.toString)
              (inductionHypothesis (.cons head tail))

end Item

/-! ## Fragments -/

namespace Fragment

namespace Refills

variable {left right : Fragment}

theorem fault?_eq (refills : Fragment.Refills related left right) :
    left.fault? = right.fault? := by
  induction refills with
  | raw sql corresponding =>
      simp only [fault?, shortage, corresponding.length_eq]
  | joined separator _ _ leftHypothesis rightHypothesis =>
      simp only [fault?, leftHypothesis, rightHypothesis]
  | group _ inductionHypothesis => exact inductionHypothesis
  | led keyword _ inductionHypothesis => exact inductionHypothesis
  | _ => rfl

theorem items (refills : Fragment.Refills related left right) :
    List.Forall₂ (Item.Refills related) left.items right.items := by
  induction refills with
  | name path =>
      unfold Fragment.items
      cases Ident.parse path with
      | ok ident => exact .cons (.name ident) .nil
      | error fault => exact .nil
  | raw sql corresponding => exact Item.refills_ofRaw sql.toList corresponding
  | bound corresponding => exact .cons (.bound corresponding) .nil
  | group _ inductionHypothesis =>
      exact Item.refills_grouped inductionHypothesis
  | joined separator _ _ leftHypothesis rightHypothesis =>
      exact Item.refills_joined separator leftHypothesis rightHypothesis
  | led keyword _ inductionHypothesis =>
      exact Item.refills_led keyword inductionHypothesis
  | unlimited => exact .cons .unlimited .nil
  | refused cause => exact .nil

/-- The values of a statement decide neither whether it is refused nor its
text. -/
theorem toSql (refills : Fragment.Refills related left right)
    (dialect : Dialect) :
    SameButValues related (left.toSql dialect) (right.toSql dialect) := by
  rw [toSql_eq, toSql_eq, ← refills.fault?_eq]
  cases left.fault? with
  | some error => rfl
  | none =>
      exact ⟨Item.print_eq_of_refills dialect refills.items 0,
        Item.values_of_refills refills.items⟩

theorem rawCongruence (raws : String → List Value → Prop) :
    Fragment.RawCongruence related (Fragment.Refills related) raws where
  name := .name
  text sql _ := .raw sql .nil
  bound := .bound
  group := .group
  joined separator _ := fun lefts rights => .joined separator lefts rights
  led keyword _ := fun bodies => .led keyword bodies
  unlimited := .unlimited
  refused := .refused
  raw sql := fun _ corresponding => .raw sql corresponding
  separated separator _ := fun lefts rights => .joined separator lefts rights

end Refills

end Fragment

end RecordQuery
