import Mathlib.Data.List.Forall2
import RecordQuery.Proofs.Fragment.Items
import RecordQuery.Proofs.Text.Digits

/-!
# Relations between fragments that building keeps

A congruence relates two fragments that are put together in the same way from
related parts, names and plain text.  Whatever a query is built from by its
steps is then related as soon as the caller's parts are.
-/

namespace RecordQuery

/-! ## Plain text -/

namespace Text

/-- Letters that quote, group or mark a value. -/
def marking : List Char :=
  ['\x27', '"', '\x60', '[', ']', '(', ')', '?', '$', '\\']

/-- Whether a text has no letter that quotes, groups or marks a value. -/
def isPlain (sql : String) : Bool :=
  sql.toList.all fun letter => !marking.contains letter

theorem isPlain_append (left right : String) :
    isPlain (left ++ right) = (isPlain left && isPlain right) := by
  simp [isPlain]

theorem not_marking_of_isDigit {letter : Char} (digit : letter.isDigit = true) :
    marking.contains letter = false := by
  rw [List.contains_eq_mem, decide_eq_false_iff_not]
  intro member
  have none : marking.any Char.isDigit = false := by rfl
  exact List.any_eq_false.mp none letter member digit

theorem isPlain_toString (number : Nat) : isPlain (toString number) = true := by
  rw [isPlain, List.all_eq_true]
  intro letter member
  have digit : letter.isDigit = true :=
    toDigits_isDigit number letter (by simpa using member)
  rw [not_marking_of_isDigit digit]
  rfl

end Text

/-- A relation between fragments that holds of names and plain text, of the same
calls on related values, and of what is put together in the same way from
related parts. -/
structure Fragment.Congruence (values : Value → Value → Prop)
    (same : Fragment → Fragment → Prop) : Prop where
  name (path : String) : same (.name path) (.name path)
  text (sql : String) (plain : Text.isPlain sql = true) :
    same (.text sql) (.text sql)
  bound {value value' : Value} (corresponding : values value value') :
    same (.bound value) (.bound value')
  group {inner inner' : Fragment} (inners : same inner inner') :
    same (.group inner) (.group inner')
  joined (separator : String) (plain : Text.isPlain separator = true)
    {left left' right right' : Fragment} (lefts : same left left')
    (rights : same right right') :
    same (.joined separator left right) (.joined separator left' right')
  led (keyword : String) (plain : Text.isPlain keyword = true)
    {body body' : Fragment} (bodies : same body body') :
    same (.led keyword body) (.led keyword body')
  unlimited : same .unlimited .unlimited
  refused (cause : Error) : same (.refused cause) (.refused cause)

/-- A congruence that also holds of the raw texts of a kind, whatever stands in
them. -/
structure Fragment.RawCongruence (values : Value → Value → Prop)
    (same : Fragment → Fragment → Prop) (raws : String → List Value → Prop) :
    Prop extends Fragment.Congruence values same where
  raw (sql : String) {bindings bindings' : List Value}
    (allowed : raws sql bindings)
    (corresponding : List.Forall₂ values bindings bindings') :
    same (.raw sql bindings) (.raw sql bindings')
  separated (separator : String) (allowed : raws separator [])
    {left left' right right' : Fragment} (lefts : same left left')
    (rights : same right right') :
    same (.joined separator left right) (.joined separator left' right')

theorem Fragment.RawCongruence.mono {values : Value → Value → Prop}
    {same : Fragment → Fragment → Prop}
    {raws fewer : String → List Value → Prop}
    (congruence : Fragment.RawCongruence values same raws)
    (among : ∀ sql bindings, fewer sql bindings → raws sql bindings) :
    Fragment.RawCongruence values same fewer :=
  { congruence with
    raw := fun sql bindings _ allowed corresponding =>
      congruence.raw sql (among sql bindings allowed) corresponding
    separated := fun separator allowed _ _ _ _ lefts rights =>
      congruence.separated separator (among separator [] allowed) lefts
        rights }

theorem Fragment.related_join {same : Fragment → Fragment → Prop}
    (separator : String)
    (joined : ∀ {left left' right right' : Fragment}, same left left' →
      same right right' →
        same (.joined separator left right) (.joined separator left' right'))
    (nothing : same .nothing .nothing) {parts parts' : List Fragment}
    (related : List.Forall₂ same parts parts') :
    same (.join separator parts) (.join separator parts') := by
  have started :
      ∀ {start start' : Fragment}, same start start' →
        same (parts.foldl (.joined separator) start)
          (parts'.foldl (.joined separator) start') := by
    induction related with
    | nil => exact id
    | cons head _ inductionHypothesis =>
        intro start start' started
        exact inductionHypothesis (joined started head)
  exact started nothing

namespace Fragment.Congruence

variable {values : Value → Value → Prop}
variable {same : Fragment → Fragment → Prop}
variable (congruence : Fragment.Congruence values same)

include congruence

theorem nothing : same .nothing .nothing :=
  congruence.text "" (by decide)

theorem tableFragment (reference : String) :
    same (tableFragment reference) (tableFragment reference) :=
  tableFragment_cases (motive := fun fragment => same fragment fragment)
    congruence.name
    (fun path label =>
      congruence.joined "" (by decide)
        (congruence.joined "" (by decide) (congruence.name path)
          (congruence.text " AS " (by decide)))
        (congruence.name label))
    reference

theorem join (separator : String) (plain : Text.isPlain separator = true)
    {parts parts' : List Fragment}
    (related : List.Forall₂ same parts parts') :
    same (.join separator parts) (.join separator parts') :=
  related_join separator (congruence.joined separator plain)
    congruence.nothing related

theorem names (paths : List String) :
    List.Forall₂ same (paths.map .name) (paths.map .name) := by
  rw [List.forall₂_map_left_iff, List.forall₂_map_right_iff,
    List.forall₂_same]
  exact fun path _ => congruence.name path

end Fragment.Congruence

end RecordQuery
