import RecordQuery.Proofs.Fragment.Compilable
import RecordQuery.Proofs.Query.Alternatives
import RecordQuery.Proofs.Query.Naming

/-!
# The letters of a fragment

Those that a fragment prints in a dialect after some placeholders, for each way
of laying fragments out.
-/

namespace RecordQuery

namespace Fragment

/-- The letters of a fragment after `count` placeholders. -/
def letters (dialect : Dialect) (count : Nat) (fragment : Fragment) :
    List Char :=
  (Item.print dialect count fragment.items).toList

variable (dialect : Dialect) (count : Nat)

@[simp]
theorem print_text (sql : String) :
    Item.print dialect count (text sql).items = sql := by
  have whole : fill dialect count 0 sql.toList = sql.toList := by
    induction sql.toList with
    | nil => rfl
    | cons letter rest inductionHypothesis =>
        rw [fill, inductionHypothesis]
  rw [text, items, Item.print_ofRaw, List.length_nil, whole,
    String.ofList_toList]

@[simp]
theorem isSilent_nothing : nothing.isSilent = true :=
  rfl

@[simp]
theorem print_nothing : Item.print dialect count nothing.items = "" :=
  print_text dialect count ""

@[simp]
theorem print_unlimited :
    Item.print dialect count unlimited.items = dialect.limitAll := by
  simp [items, Item.print]

@[simp]
theorem letters_text (sql : String) :
    (text sql).letters dialect count = sql.toList :=
  congrArg String.toList (print_text dialect count sql)

@[simp]
theorem letters_bound (value : Value) :
    (bound value).letters dialect count =
      (dialect.placeholder (count + 1)).toList := by
  simp [letters, items, Item.print]

/-- A path shows in every dialect. -/
theorem isSilent_name {path : String}
    (compilable : (name path).IsCompilable) :
    (name path).isSilent = false := by
  obtain ⟨ident, parsed⟩ := (isCompilable_name path).mp compilable
  have parts := Ident.parts_ne_nil_of_parse parsed
  simpa [isSilent, items, parsed, Item.isBlank] using parts

theorem print_name {path : String} {ident : Ident}
    (parsed : Ident.parse path = .ok ident) :
    Item.print dialect count (name path).items = ident.render dialect := by
  simp [items, parsed, Item.print]

theorem letters_name {path : String} {ident : Ident}
    (parsed : Ident.parse path = .ok ident) :
    (name path).letters dialect count = (ident.render dialect).toList :=
  congrArg String.toList (print_name dialect count parsed)

theorem print_eq_empty_iff (fragment : Fragment) :
    Item.print dialect count fragment.items = "" ↔
      fragment.isSilent = true :=
  Item.print_eq_empty_iff dialect fragment.items count

theorem letters_of_isSilent {fragment : Fragment}
    (silent : fragment.isSilent = true) :
    fragment.letters dialect count = [] := by
  simpa [letters] using
    (print_eq_empty_iff dialect count fragment).mpr silent

/-- What leaves no text binds no value. -/
theorem values_of_isSilent {fragment : Fragment}
    (silent : fragment.isSilent = true) : fragment.values = [] :=
  Item.values_eq_nil_of_blank silent

theorem letters_joined (separator : String) (left right : Fragment) :
    (joined separator left right).letters dialect count =
      if right.isSilent then left.letters dialect count
      else if left.isSilent then right.letters dialect count
      else
        left.letters dialect count ++
          (separator.toList ++
            right.letters dialect (count + left.values.length)) := by
  have shape :
      (joined separator left right).items =
        if right.isSilent then left.items
        else if left.isSilent then right.items
        else left.items ++ .text separator :: right.items :=
    rfl
  rw [letters, shape]
  split
  · rfl
  · split
    · rfl
    · simp [letters, Item.print_append, Item.print, values]

theorem letters_joined_of_seen {separator : String} {left right : Fragment}
    (leftSeen : left.isSilent = false) (rightSeen : right.isSilent = false) :
    (joined separator left right).letters dialect count =
      left.letters dialect count ++
        (separator.toList ++
          right.letters dialect (count + left.values.length)) := by
  simp [letters_joined, leftSeen, rightSeen]

theorem letters_group (inner : Fragment) :
    (group inner).letters dialect count =
      if inner.isSilent then inner.letters dialect count
      else '(' :: inner.letters dialect count ++ [')'] := by
  have shape :
      (group inner).items =
        if inner.isSilent then inner.items
        else .text "(" :: inner.items ++ [.text ")"] :=
    rfl
  rw [letters, shape]
  split
  · rfl
  · simp [letters, Item.print_append, Item.print]

theorem print_led (keyword : String) (body : Fragment) :
    Item.print dialect count (led keyword body).items =
      if body.isSilent then Item.print dialect count body.items
      else keyword ++ " " ++ Item.print dialect count body.items := by
  have shape :
      (led keyword body).items =
        if body.isSilent then body.items
        else .text (keyword ++ " ") :: body.items :=
    rfl
  rw [shape]
  split
  · rfl
  · rw [Item.print]

theorem letters_led (keyword : String) (body : Fragment) :
    (led keyword body).letters dialect count =
      if body.isSilent then body.letters dialect count
      else keyword.toList ++ ' ' :: body.letters dialect count := by
  rw [letters, print_led]
  split
  · rfl
  · simp [letters]

/-- What compiles shows its items and binds their values. -/
theorem toSql_of_isCompilable {fragment : Fragment}
    (compilable : fragment.IsCompilable) :
    fragment.toSql dialect =
      .ok ⟨Item.print dialect 0 fragment.items, fragment.values⟩ := by
  obtain ⟨compiled, outcome⟩ :=
    (exists_toSql_iff dialect fragment).mpr compilable
  have printed := compile_isPrinted dialect fragment (Prod.ext outcome rfl)
  rw [outcome, values, ← printed.sql, ← printed.bindings]

end Fragment

/-! ## Parts one after another -/

/-- Texts with a separator between those that are not empty. -/
def Text.spaced (separator : String) (texts : List String) : String :=
  separator.intercalate (texts.filter (· ≠ ""))

namespace Text

variable (separator : String)

theorem intercalate_ne_empty {texts : List String} (some : texts ≠ [])
    (seen : ∀ text ∈ texts, text ≠ "") :
    separator.intercalate texts ≠ "" := by
  obtain ⟨first, rest, rfl⟩ := List.exists_cons_of_ne_nil some
  have led : first ≠ "" := seen first List.mem_cons_self
  cases rest with
  | nil => rwa [String.intercalate_singleton]
  | cons second rest => simp [String.intercalate_cons_cons, led]

@[simp]
theorem spaced_nil : spaced separator [] = "" :=
  rfl

@[simp]
theorem spaced_empty_cons (texts : List String) :
    spaced separator ("" :: texts) = spaced separator texts := by
  simp [spaced]

@[simp]
theorem spaced_singleton (text : String) :
    spaced separator [text] = text := by
  by_cases empty : text = ""
  · simp [spaced, empty]
  · simp [spaced, empty]

theorem spaced_pair (first second : String) :
    spaced separator [first, second] =
      if second = "" then first
      else if first = "" then second
      else first ++ separator ++ second := by
  unfold spaced
  split_ifs with secondEmpty firstEmpty
  · by_cases firstEmpty : first = ""
    · simp [firstEmpty, secondEmpty]
    · simp [firstEmpty, secondEmpty]
  · simp [firstEmpty, secondEmpty]
  · simp [firstEmpty, secondEmpty, String.intercalate_cons_cons]

theorem spaced_append (left right : List String) :
    spaced separator (left ++ right) =
      spaced separator [spaced separator left, spaced separator right] := by
  unfold spaced
  rw [List.filter_append]
  have seen (texts : List String) :
      ∀ text ∈ texts.filter (· ≠ ""), text ≠ "" := by
    intro text member
    simpa using (List.mem_filter.mp member).2
  have leftSeen := seen left
  have rightSeen := seen right
  generalize left.filter (· ≠ "") = before at *
  generalize right.filter (· ≠ "") = after at *
  by_cases leftNone : before = []
  · by_cases rightNone : after = []
    · simp [leftNone, rightNone]
    · have shows := intercalate_ne_empty separator rightNone rightSeen
      simp [leftNone, shows]
  · have shows := intercalate_ne_empty separator leftNone leftSeen
    by_cases rightNone : after = []
    · simp [rightNone, shows]
    · have rightShows := intercalate_ne_empty separator rightNone rightSeen
      simp [shows, rightShows,
        String.intercalate_append_of_ne_nil leftNone rightNone,
        String.intercalate_cons_cons, String.append_assoc]

/-- Texts that are put together first are put together with the others. -/
@[simp]
theorem spaced_cons_spaced (left right : List String) :
    spaced separator (spaced separator left :: right) =
      spaced separator (left ++ right) := by
  rw [spaced_append separator left right, ← List.singleton_append,
    spaced_append separator [_] right, spaced_singleton]

end Text

namespace Fragment

/-- The texts of parts one after another, each with the placeholders behind
those of the parts before it. -/
def texts (dialect : Dialect) : Nat → List Fragment → List String
  | _, [] => []
  | count, part :: rest =>
      Item.print dialect count part.items ::
        texts dialect (count + part.values.length) rest

theorem texts_append (dialect : Dialect) (right : List Fragment) :
    ∀ (left : List Fragment) (count : Nat),
      texts dialect count (left ++ right) =
        texts dialect count left ++
          texts dialect (count + (left.flatMap values).length) right := by
  intro left
  induction left with
  | nil =>
      intro count
      rfl
  | cons part rest inductionHypothesis =>
      intro count
      rw [List.cons_append, texts, texts, inductionHypothesis,
        List.flatMap_cons, List.length_append, Nat.add_assoc]
      rfl

theorem print_joined (dialect : Dialect) (count : Nat) (separator : String)
    (left right : Fragment) :
    Item.print dialect count (joined separator left right).items =
      Text.spaced separator (texts dialect count [left, right]) := by
  have shape :
      (joined separator left right).items =
        if right.isSilent then left.items
        else if left.isSilent then right.items
        else left.items ++ .text separator :: right.items :=
    rfl
  simp only [texts, Text.spaced_pair, print_eq_empty_iff, shape]
  split_ifs with rightSilent leftSilent
  · rfl
  · rw [values_of_isSilent leftSilent]
    rfl
  · rw [Item.print_append, Item.print, String.append_assoc]
    rfl

theorem print_foldl_joined (dialect : Dialect) (separator : String)
    (parts : List Fragment) :
    ∀ (count : Nat) (start : Fragment),
      Item.print dialect count (parts.foldl (joined separator) start).items =
        Text.spaced separator (texts dialect count (start :: parts)) := by
  induction parts with
  | nil =>
      intro count start
      exact (Text.spaced_singleton separator _).symm
  | cons part rest inductionHypothesis =>
      intro count start
      rw [List.foldl_cons, inductionHypothesis, texts, texts, texts,
        print_joined, values_joined, List.length_append, ← Nat.add_assoc]
      exact Text.spaced_cons_spaced separator _ _

@[simp]
theorem isSilent_join (separator : String) (parts : List Fragment) :
    (join separator parts).isSilent = parts.all isSilent := by
  have started (start : Fragment) :
      (parts.foldl (joined separator) start).isSilent =
        (start.isSilent && parts.all isSilent) := by
    induction parts generalizing start with
    | nil => simp
    | cons part rest inductionHypothesis =>
        rw [List.foldl_cons, inductionHypothesis, isSilent_joined,
          List.all_cons, Bool.and_assoc]
  rw [join, started, isSilent_nothing, Bool.true_and]

/-- Parts that are joined show those of them that show, with the separator
between them. -/
theorem print_join (dialect : Dialect) (count : Nat) (separator : String)
    (parts : List Fragment) :
    Item.print dialect count (join separator parts).items =
      Text.spaced separator (texts dialect count parts) := by
  rw [join, print_foldl_joined]
  simp [texts]

end Fragment

end RecordQuery
