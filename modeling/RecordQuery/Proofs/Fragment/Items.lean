import RecordQuery.Proofs.Outcome
import RecordQuery.Query.Layout

/-!
# The items of a fragment

Every fragment has one list of items, read off it from left to right and the
same for every dialect: text, names, the limit that sets none, and bound
values.  Compiling the fragment, whatever the placeholders taken before, prints
that list with the values shown as the next placeholders, binds exactly those
values in that order, and moves the count of placeholders by their number.
-/

namespace RecordQuery

/-- A piece of a statement: text, a quoted path, the argument of LIMIT that
sets no limit, or a value that a placeholder stands for. -/
inductive Item where
  | text (sql : String)
  | name (ident : Ident)
  | unlimited
  | bound (value : Value)

namespace Item

def isBlank : Item → Bool
  | .text sql => sql.isEmpty
  | .name ident => ident.parts.isEmpty
  | .unlimited | .bound _ => false

def values : List Item → List Value
  | [] => []
  | .bound value :: rest => value :: values rest
  | .text _ :: rest | .name _ :: rest | .unlimited :: rest => values rest

/-- The text of items in a dialect: values are shown as the placeholders after
the first `count`. -/
def print (dialect : Dialect) : (count : Nat) → List Item → String
  | _, [] => ""
  | count, .text sql :: rest => sql ++ print dialect count rest
  | count, .name ident :: rest =>
      ident.render dialect ++ print dialect count rest
  | count, .unlimited :: rest => dialect.limitAll ++ print dialect count rest
  | count, .bound _ :: rest =>
      dialect.placeholder (count + 1) ++ print dialect (count + 1) rest

/-- Two lists of items with a separator between them, unless one of them
shows nothing and is left out. -/
def joined (separator : String) (left right : List Item) : List Item :=
  if right.all isBlank then left
  else if left.all isBlank then right
  else left ++ .text separator :: right

/-- Items between parentheses, unless they show nothing. -/
def grouped (inner : List Item) : List Item :=
  if inner.all isBlank then inner else .text "(" :: inner ++ [.text ")"]

/-- Items after a keyword, unless they show nothing. -/
def led (keyword : String) (body : List Item) : List Item :=
  if body.all isBlank then body else .text (keyword ++ " ") :: body

/-- The items of raw letters: the first question marks are the pending values,
all else is text. -/
def ofRaw : (pending : List Value) → List Char → List Item
  | _, [] => []
  | [], letter :: rest => .text letter.toString :: ofRaw [] rest
  | value :: later, letter :: rest =>
      if letter = '?' then .bound value :: ofRaw later rest
      else .text letter.toString :: ofRaw (value :: later) rest

end Item

/-- The items of a fragment, from left to right.  What cannot be compiled has
none. -/
def Fragment.items : Fragment → List Item
  | .name path =>
      match Ident.parse path with
      | .ok ident => [.name ident]
      | .error _ => []
  | .raw sql bindings => Item.ofRaw bindings sql.toList
  | .bound value => [.bound value]
  | .group inner => Item.grouped inner.items
  | .joined separator left right =>
      Item.joined separator left.items right.items
  | .led keyword body => Item.led keyword body.items
  | .unlimited => [.unlimited]
  | .refused _ => []

/-! ## What is seen of items -/

theorem Dialect.placeholder_ne_empty (dialect : Dialect) (number : Nat) :
    dialect.placeholder number ≠ "" := by
  cases dialect <;> simp [Dialect.placeholder]

theorem Dialect.limitAll_ne_empty (dialect : Dialect) :
    dialect.limitAll ≠ "" := by
  cases dialect <;> decide

theorem Ident.Part.render_ne_empty (dialect : Dialect) (part : Ident.Part) :
    part.render dialect ≠ "" := by
  cases part with
  | plain name => simp [Ident.Part.render, Dialect.quoteName, quoteWith]
  | quoted name => simp [Ident.Part.render, Dialect.quoteName, quoteWith]
  | star => simp [Ident.Part.render]

theorem Ident.render_eq_empty_iff (dialect : Dialect) (ident : Ident) :
    ident.render dialect = "" ↔ ident.parts = [] := by
  rcases ident with ⟨parts⟩
  cases parts with
  | nil => simp [Ident.render]
  | cons first rest =>
      have seen := Ident.Part.render_ne_empty dialect first
      cases rest with
      | nil => simpa [Ident.render] using seen
      | cons second rest =>
          simp [Ident.render, String.intercalate_cons_cons, seen]

namespace Item

@[simp]
theorem values_append (left right : List Item) :
    values (left ++ right) = values left ++ values right := by
  induction left with
  | nil => rfl
  | cons item rest inductionHypothesis =>
      cases item <;> simp [values, inductionHypothesis]

theorem print_append (dialect : Dialect) (left right : List Item) :
    ∀ count : Nat,
      print dialect count (left ++ right) =
        print dialect count left ++
          print dialect (count + (values left).length) right := by
  induction left with
  | nil =>
      intro count
      simp [print, values]
  | cons item rest inductionHypothesis =>
      intro count
      cases item with
      | bound value =>
          have shifted :
              count + 1 + (values rest).length =
                count + ((values rest).length + 1) := by
            omega
          simp [print, values, inductionHypothesis, shifted,
            String.append_assoc]
      | text sql =>
          simp [print, values, inductionHypothesis, String.append_assoc]
      | name ident =>
          simp [print, values, inductionHypothesis, String.append_assoc]
      | unlimited =>
          simp [print, values, inductionHypothesis, String.append_assoc]

/-- Items are printed as the empty text exactly when each of them is blank,
whatever the dialect and the count. -/
theorem print_eq_empty_iff (dialect : Dialect) (items : List Item) :
    ∀ count : Nat, print dialect count items = "" ↔ items.all isBlank = true := by
  induction items with
  | nil =>
      intro count
      simp [print]
  | cons item rest inductionHypothesis =>
      intro count
      cases item with
      | text sql => simp [print, isBlank, inductionHypothesis]
      | name ident =>
          simp [print, isBlank, inductionHypothesis,
            Ident.render_eq_empty_iff]
      | unlimited =>
          simp [print, isBlank, dialect.limitAll_ne_empty]
      | bound value =>
          simp [print, isBlank, dialect.placeholder_ne_empty]

/-- Blank items bind nothing, so that leaving them out loses no value. -/
theorem values_eq_nil_of_blank {items : List Item}
    (blank : items.all isBlank = true) :
    values items = [] := by
  induction items with
  | nil => rfl
  | cons item rest inductionHypothesis =>
      simp only [List.all_cons, Bool.and_eq_true] at blank
      obtain ⟨head, tail⟩ := blank
      cases item with
      | bound value => simp [isBlank] at head
      | text sql => exact inductionHypothesis tail
      | name ident => exact inductionHypothesis tail
      | unlimited => exact inductionHypothesis tail

@[simp]
theorem values_grouped (inner : List Item) :
    values (grouped inner) = values inner := by
  unfold grouped
  split <;> simp [values]

@[simp]
theorem values_led (keyword : String) (body : List Item) :
    values (led keyword body) = values body := by
  unfold led
  split <;> simp [values]

@[simp]
theorem values_joined (separator : String) (left right : List Item) :
    values (joined separator left right) = values left ++ values right := by
  unfold joined
  split
  · next blank => simp [values_eq_nil_of_blank blank]
  · split
    · next blank => simp [values_eq_nil_of_blank blank]
    · simp [values]

/-- The question marks of raw letters take all values when there are enough
of them. -/
theorem values_ofRaw :
    ∀ (letters : List Char) (bindings : List Value),
      bindings.length ≤ letters.count '?' →
        values (ofRaw bindings letters) = bindings
  | [], bindings, enough => by
      have none : bindings = [] := by simpa using enough
      simp [none, ofRaw, values]
  | letter :: rest, [], _ => by
      simp [ofRaw, values, values_ofRaw rest [] (by simp)]
  | letter :: rest, value :: later, enough => by
      by_cases mark : letter = '?'
      · have tailEnough : later.length ≤ rest.count '?' := by
          simpa [mark] using enough
        simp [ofRaw, mark, values, values_ofRaw rest later tailEnough]
      · have tailEnough : (value :: later).length ≤ rest.count '?' := by
          simpa [mark] using enough
        simp [ofRaw, mark, values,
          values_ofRaw rest (value :: later) tailEnough]

/-- Filling raw letters with placeholders prints their items. -/
theorem print_ofRaw (dialect : Dialect) :
    ∀ (letters : List Char) (bindings : List Value) (count : Nat),
      print dialect count (ofRaw bindings letters) =
        String.ofList
          (Fragment.fill dialect count bindings.length letters)
  | [], bindings, count => by
      simp [ofRaw, print, Fragment.fill]
  | letter :: rest, [], count => by
      have tail := print_ofRaw dialect rest [] count
      simp only [List.length_nil] at tail
      simp [ofRaw, print, Fragment.fill, tail, String.ofList_cons]
  | letter :: rest, value :: later, count => by
      by_cases mark : letter = '?'
      · simp [ofRaw, mark, print, Fragment.fill,
          print_ofRaw dialect rest later (count + 1)]
      · have tail := print_ofRaw dialect rest (value :: later) count
        simp only [List.length_cons] at tail
        simp [ofRaw, mark, print, Fragment.fill, tail, String.ofList_cons]

end Item

/-! ## The values of a fragment -/

/-- The values that a fragment binds, from left to right. -/
def Fragment.values (fragment : Fragment) : List Value :=
  Item.values fragment.items

namespace Fragment

@[simp]
theorem values_name (path : String) : (name path).values = [] := by
  rw [values, items]
  split <;> rfl

@[simp]
theorem values_text (sql : String) : (text sql).values = [] :=
  Item.values_ofRaw sql.toList [] (Nat.zero_le _)

@[simp]
theorem values_nothing : nothing.values = [] :=
  values_text ""

@[simp]
theorem values_bound (value : Value) : (bound value).values = [value] :=
  rfl

@[simp]
theorem values_group (inner : Fragment) :
    (group inner).values = inner.values :=
  Item.values_grouped inner.items

@[simp]
theorem values_led (keyword : String) (body : Fragment) :
    (led keyword body).values = body.values :=
  Item.values_led keyword body.items

@[simp]
theorem values_joined (separator : String) (left right : Fragment) :
    (joined separator left right).values = left.values ++ right.values :=
  Item.values_joined separator left.items right.items

theorem values_foldl_joined (separator : String) (parts : List Fragment) :
    ∀ start : Fragment,
      (parts.foldl (joined separator) start).values =
        start.values ++ parts.flatMap values := by
  induction parts with
  | nil => simp
  | cons part rest inductionHypothesis =>
      intro start
      rw [List.foldl_cons, inductionHypothesis, values_joined,
        List.flatMap_cons, List.append_assoc]

@[simp]
theorem values_join (separator : String) (parts : List Fragment) :
    (join separator parts).values = parts.flatMap values := by
  rw [join, values_foldl_joined, values_nothing, List.nil_append]

end Fragment

/-- A table is a path, or a path and a label. -/
theorem tableFragment_cases {motive : Fragment → Prop}
    (named : ∀ path, motive (.name path))
    (aliased : ∀ path label, motive
      (.joined "" (.joined "" (.name path) (.text " AS ")) (.name label)))
    (reference : String) : motive (tableFragment reference) := by
  unfold tableFragment
  split
  · split
    · exact aliased _ _
    · exact named _
  · exact aliased _ _
  · exact named _

@[simp]
theorem values_tableFragment (reference : String) :
    (tableFragment reference).values = [] :=
  tableFragment_cases (motive := fun fragment => fragment.values = [])
    (by simp) (by simp) reference

/-! ## Compiled text is printed items -/

/-- Compiled text is that of a list of items after `count` placeholders, and
`after` is the count behind them. -/
structure Compiled.IsPrinted (dialect : Dialect) (items : List Item)
    (count : Nat) (compiled : Compiled) (after : Nat) : Prop where
  sql : compiled.sql = Item.print dialect count items
  bindings : compiled.bindings = Item.values items
  count : after = count + (Item.values items).length

namespace Compiled.IsPrinted

variable {dialect : Dialect} {items leftItems rightItems : List Item}
variable {count between after : Nat} {compiled left right : Compiled}

theorem isEmpty_eq
    (printed : compiled.IsPrinted dialect items count after) :
    compiled.isEmpty = items.all Item.isBlank := by
  rw [Bool.eq_iff_iff, ← Item.print_eq_empty_iff dialect items count,
    ← printed.sql]
  exact String.isEmpty_iff

theorem grouped
    (printed : compiled.IsPrinted dialect items count after) :
    (if compiled.isEmpty then compiled
      else ⟨"(" ++ compiled.sql ++ ")", compiled.bindings⟩ :
        Compiled).IsPrinted dialect (Item.grouped items) count after := by
  rw [printed.isEmpty_eq]
  unfold Item.grouped
  split
  · exact printed
  · constructor
    · simp [printed.sql, Item.print, Item.print_append, String.append_assoc]
    · simp [printed.bindings, Item.values]
    · simp [printed.count, Item.values]

theorem led (keyword : String)
    (printed : compiled.IsPrinted dialect items count after) :
    (if compiled.isEmpty then compiled
      else ⟨keyword ++ " " ++ compiled.sql, compiled.bindings⟩ :
        Compiled).IsPrinted dialect (Item.led keyword items) count after := by
  rw [printed.isEmpty_eq]
  unfold Item.led
  split
  · exact printed
  · constructor
    · simp [printed.sql, Item.print, String.append_assoc]
    · simp [printed.bindings, Item.values]
    · simp [printed.count, Item.values]

/-- Appending keeps text and values together: the side that is dropped for
want of text has no values, and the placeholders of the right side go on where
those of the left side ended. -/
theorem push (separator : String)
    (leftPrinted : left.IsPrinted dialect leftItems count between)
    (rightPrinted : right.IsPrinted dialect rightItems between after) :
    (left.push separator right).IsPrinted dialect
      (Item.joined separator leftItems rightItems) count after := by
  have counted :
      after =
        count + (Item.values
          (Item.joined separator leftItems rightItems)).length := by
    rw [rightPrinted.count, leftPrinted.count, Item.values_joined,
      List.length_append]
    omega
  unfold Compiled.push Item.joined
  unfold Item.joined at counted
  rw [rightPrinted.isEmpty_eq, leftPrinted.isEmpty_eq]
  by_cases rightBlank : rightItems.all Item.isBlank = true
  · simp only [rightBlank, if_true] at counted ⊢
    exact ⟨leftPrinted.sql, leftPrinted.bindings, counted⟩
  · by_cases leftBlank : leftItems.all Item.isBlank = true
    · have unbound : Item.values leftItems = [] :=
        Item.values_eq_nil_of_blank leftBlank
      have unmoved : between = count := by
        simpa [unbound] using leftPrinted.count
      simp only [rightBlank, leftBlank, if_true] at counted ⊢
      refine ⟨?_, ?_, counted⟩
      · simpa [unmoved] using rightPrinted.sql
      · simp [leftPrinted.bindings, rightPrinted.bindings, unbound]
    · simp only [rightBlank, leftBlank] at counted ⊢
      refine ⟨?_, ?_, counted⟩
      · simp [leftPrinted.sql, rightPrinted.sql, leftPrinted.count,
          Item.print_append, Item.print, String.append_assoc]
      · simp [leftPrinted.bindings, rightPrinted.bindings, Item.values]

end Compiled.IsPrinted

theorem Compiler.returns_placeholder_iff
    {dialect : Dialect} {count after : Nat} {mark : String} :
    Returns (Compiler.placeholder dialect) count mark after ↔
      dialect.placeholder (count + 1) = mark ∧ count + 1 = after := by
  simp only [Compiler.placeholder, Returns.bind_iff, Returns.get_iff,
    Returns.set_iff, Returns.pure_iff]
  constructor
  · rintro ⟨_, _, ⟨rfl, rfl⟩, _, _, rfl, rfl, rfl⟩
    exact ⟨rfl, rfl⟩
  · rintro ⟨rfl, rfl⟩
    exact ⟨count, count, ⟨rfl, rfl⟩, ⟨⟩, count + 1, rfl, rfl, rfl⟩

namespace Fragment

theorem compileRaw_isPrinted
    {dialect : Dialect} {sql : String} {bindings : List Value}
    {count after : Nat} {compiled : Compiled}
    (returned :
      Returns (compileRaw dialect sql bindings) count compiled after) :
    compiled.IsPrinted dialect (Item.ofRaw bindings sql.toList)
      count after := by
  unfold compileRaw at returned
  obtain ⟨start, _, started, rest⟩ := Returns.bind_iff.mp returned
  obtain ⟨rfl, rfl⟩ := Returns.get_iff.mp started
  obtain ⟨_, moved, counted, last⟩ := Returns.bind_iff.mp rest
  have advanced := Returns.set_iff.mp counted
  split at last
  · next all =>
      obtain ⟨rfl, rfl⟩ := Returns.pure_iff.mp last
      have enough : bindings.length ≤ sql.toList.count '?' := by omega
      have placed := Item.values_ofRaw sql.toList bindings enough
      refine ⟨?_, placed.symm, ?_⟩
      · exact (Item.print_ofRaw dialect sql.toList bindings count).symm
      · rw [placed, ← advanced, all]
  · exact (Returns.throw_iff.mp last).elim

/-- Whatever a fragment is made of, one list of items read off it gives all
three results of compiling it: the text is the list printed with the values
shown as the placeholders after `count`, the bindings are the values of the
list, and the count moves by their number. -/
theorem compile_isPrinted
    (dialect : Dialect) (fragment : Fragment)
    {count after : Nat} {compiled : Compiled}
    (returned : Returns (fragment.compile dialect) count compiled after) :
    compiled.IsPrinted dialect fragment.items count after := by
  induction fragment generalizing count after compiled with
  | name path =>
      rw [compile] at returned
      unfold Ident.quote at returned
      unfold items
      cases read : Ident.parse path with
      | ok ident =>
          rw [read] at returned
          obtain ⟨rfl, rfl⟩ := Returns.pure_iff.mp returned
          exact ⟨by simp [Item.print], rfl, rfl⟩
      | error fault =>
          rw [read] at returned
          exact (Returns.throw_iff.mp returned).elim
  | raw sql bindings => exact compileRaw_isPrinted returned
  | bound value =>
      rw [compile] at returned
      obtain ⟨mark, _, marked, last⟩ := Returns.bind_iff.mp returned
      obtain ⟨rfl, rfl⟩ := Returns.pure_iff.mp last
      obtain ⟨rfl, rfl⟩ := Compiler.returns_placeholder_iff.mp marked
      exact ⟨by simp [items, Item.print], rfl, rfl⟩
  | group inner inductionHypothesis =>
      rw [compile] at returned
      obtain ⟨body, between, inside, last⟩ := Returns.bind_iff.mp returned
      obtain ⟨rfl, rfl⟩ := Returns.pure_iff.mp last
      exact (inductionHypothesis inside).grouped
  | joined separator left right leftHypothesis rightHypothesis =>
      rw [compile] at returned
      obtain ⟨done, between, leftRun, rest⟩ := Returns.bind_iff.mp returned
      obtain ⟨next, last, rightRun, pushed⟩ := Returns.bind_iff.mp rest
      obtain ⟨rfl, rfl⟩ := Returns.pure_iff.mp pushed
      exact (leftHypothesis leftRun).push separator (rightHypothesis rightRun)
  | led keyword body inductionHypothesis =>
      rw [compile] at returned
      obtain ⟨text, between, inside, last⟩ := Returns.bind_iff.mp returned
      obtain ⟨rfl, rfl⟩ := Returns.pure_iff.mp last
      exact (inductionHypothesis inside).led keyword
  | unlimited =>
      obtain ⟨rfl, rfl⟩ := Returns.pure_iff.mp returned
      exact ⟨by simp [items, Item.print], rfl, rfl⟩
  | refused cause => exact (Returns.throw_iff.mp returned).elim

/-- The text, the bindings and the count of placeholders of a compiled fragment
are three readings of one list of items. -/
theorem compile_prints_items
    (dialect : Dialect) (fragment : Fragment)
    (count after : Nat) (compiled : Compiled)
    (returned : Returns (fragment.compile dialect) count compiled after) :
    compiled.sql = Item.print dialect count fragment.items ∧
      compiled.bindings = Item.values fragment.items ∧
      after = count + compiled.bindings.length := by
  have printed := compile_isPrinted dialect fragment returned
  refine ⟨printed.sql, printed.bindings, ?_⟩
  rw [printed.bindings]
  exact printed.count

/-- Users of a derived table who have posts, under a global scope. -/
def usersWithPosts : Query :=
  let adults : Query :=
    (Query.table "users").addPredicate .where_
      (.raw .and "age > ? AND tags ? 'x'" [.int 18])
  let posts : Query :=
    (Query.table "posts").addPredicate .where_
      (.inList .and false "id" [.int 1, .text "b"])
  let tenant : Scope :=
    ⟨"tenant", [.filter .where_ (.compare .and "tenant" "=" (.int 7))]⟩
  ((Query.table "users").withGlobalScopes [tenant]).applyAll
    [.fromSource (.derived adults.fragment "u"),
      .filter .where_ (.existence .and false posts.fragment),
      .filter .where_ (.nested .or [])]

set_option maxRecDepth 4000 in
/-- The empty group leaves no trace, the second question mark stays, and the
placeholders run through the derived table, the sub-query and the scope. -/
theorem compile_prints_items_usersWithPosts :
    let compiled : Compiled :=
      ⟨"SELECT \"u\".* FROM (SELECT \"users\".* FROM \"users\" " ++
        "WHERE age > $4 AND tags ? 'x') AS \"u\" WHERE EXISTS " ++
        "(SELECT \"posts\".* FROM \"posts\" WHERE \"id\" IN ($5, $6)) " ++
        "AND \"tenant\" = $7",
        [.int 18, .int 1, .text "b", .int 7]⟩
    Returns (usersWithPosts.fragment.compile .postgres) 3 compiled 7 ∧
      compiled.sql =
        Item.print .postgres 3 usersWithPosts.fragment.items ∧
      compiled.bindings = Item.values usersWithPosts.fragment.items ∧
      7 = 3 + compiled.bindings.length := by
  intro compiled
  have returned :
      Returns (usersWithPosts.fragment.compile .postgres) 3 compiled 7 := by
    rfl
  exact ⟨returned,
    compile_prints_items .postgres usersWithPosts.fragment 3 7 compiled
      returned⟩

end Fragment

end RecordQuery
