import RecordQuery.Proofs.Fragment.Congruence

/-!
# What stands between quotes

SQL is read letter by letter.  A quote opens a string or a name that goes on to
the next quote of its kind; a doubled quote closes and opens again.  What a
statement is built from besides raw text, quoted names among it, closes every
quote that it opens.
-/

namespace RecordQuery

/-- Where a reader of SQL stands: outside of quotes, inside of quotes up to the
closing letter, or after a backslash in them.  Comments are not known to it: a
quote in one opens a string, and a question mark in one counts.  Nor are numbered
placeholders such as `?3`, whose question mark counts like any other. -/
inductive Quoting where
  | outside
  | inside (close : Char)
  | escaped (close : Char)
deriving DecidableEq

namespace Dialect

/-- The letter that closes what a letter opens: strings and names in SQLite and
MySQL, where SQLite also takes names in brackets. -/
def closing? (dialect : Dialect) (letter : Char) : Option Char :=
  if letter = '\x27' ∨ letter = '"' then some letter
  else
    match dialect with
    | .sqlite =>
        if letter = '\x60' then some letter
        else if letter = '[' then some ']'
        else none
    | .mysql => if letter = '\x60' then some letter else none
    | .postgres => none

/-- Whether a backslash takes the next letter as it is: in strings of MySQL. -/
def escapes (dialect : Dialect) (close : Char) : Bool :=
  dialect = .mysql ∧ close ≠ '\x60'

end Dialect

namespace Quoting

variable (dialect : Dialect)

def next : Quoting → Char → Quoting
  | .outside, letter =>
      match dialect.closing? letter with
      | some close => .inside close
      | none => .outside
  | .inside close, letter =>
      if letter = close then .outside
      else if letter = '\\' ∧ dialect.escapes close then .escaped close
      else .inside close
  | .escaped close, _ => .inside close

/-- Where the reader stands after letters. -/
def after (start : Quoting) (letters : List Char) : Quoting :=
  letters.foldl (next dialect) start

/-- The number of question marks outside of quotes. -/
def marks : Quoting → List Char → Nat
  | _, [] => 0
  | quoting, letter :: rest =>
      (if quoting = .outside ∧ letter = '?' then 1 else 0) +
        marks (next dialect quoting letter) rest

/-- Whether letters that start outside of quotes end there. -/
def Closes (letters : List Char) : Prop :=
  after dialect .outside letters = .outside

instance (letters : List Char) : Decidable (Closes dialect letters) :=
  inferInstanceAs (Decidable (_ = _))

@[simp]
theorem after_nil (start : Quoting) : after dialect start [] = start :=
  rfl

@[simp]
theorem after_cons (start : Quoting) (letter : Char) (rest : List Char) :
    after dialect start (letter :: rest) =
      after dialect (next dialect start letter) rest :=
  rfl

@[simp]
theorem after_append (start : Quoting) (left right : List Char) :
    after dialect start (left ++ right) =
      after dialect (after dialect start left) right :=
  List.foldl_append

theorem marks_append (left right : List Char) :
    ∀ start : Quoting,
      marks dialect start (left ++ right) =
        marks dialect start left +
          marks dialect (after dialect start left) right := by
  induction left with
  | nil =>
      intro start
      simp [marks]
  | cons letter rest inductionHypothesis =>
      intro start
      simp only [List.cons_append, marks, after_cons, inductionHypothesis]
      omega

variable {dialect}

theorem closes_append {left right : List Char} (lefts : Closes dialect left)
    (rights : Closes dialect right) : Closes dialect (left ++ right) := by
  rw [Closes, after_append, lefts]
  exact rights

theorem marks_append_of_closes {left : List Char}
    (closed : Closes dialect left) (right : List Char) :
    marks dialect .outside (left ++ right) =
      marks dialect .outside left + marks dialect .outside right := by
  rw [marks_append, closed]

/-! ## Plain text -/

theorem closing?_of_not_marking (dialect : Dialect) {letter : Char}
    (plain : Text.marking.contains letter = false) :
    dialect.closing? letter = none := by
  rw [List.contains_eq_mem, decide_eq_false_iff_not] at plain
  simp only [Text.marking, List.mem_cons, List.not_mem_nil, or_false,
    not_or] at plain
  obtain ⟨single, double, grave, bracket, -⟩ := plain
  cases dialect <;> simp [Dialect.closing?, single, double, grave, bracket]

theorem plain_letters {letters : List Char}
    (plain : ∀ letter ∈ letters, Text.marking.contains letter = false) :
    Closes dialect letters ∧ marks dialect .outside letters = 0 := by
  induction letters with
  | nil => exact ⟨rfl, rfl⟩
  | cons letter rest inductionHypothesis =>
      have head := plain letter (List.mem_cons_self ..)
      obtain ⟨closed, none⟩ := inductionHypothesis fun later member =>
        plain later (List.mem_cons_of_mem letter member)
      have noMark : letter ≠ '?' := by
        rintro rfl
        revert head
        decide
      have stays : next dialect .outside letter = .outside := by
        rw [next, closing?_of_not_marking dialect head]
      constructor
      · rw [Closes, after_cons, stays]
        exact closed
      · rw [marks, stays, none]
        simp [noMark]

theorem plain_text {sql : String} (plain : Text.isPlain sql = true) :
    Closes dialect sql.toList ∧ marks dialect .outside sql.toList = 0 := by
  refine plain_letters fun letter member => ?_
  simpa using List.all_eq_true.mp plain letter member

/-! ## Quoted names -/

/-- The letters of a quoted name, every quote doubled, are read up to the quote
that closes it. -/
theorem doubled_letters {quote : Char}
    (opens : dialect.closing? quote = some quote)
    (verbatim : dialect.escapes quote = false) (letters : List Char) :
    let doubled := letters.flatMap fun letter =>
      if letter = quote then [quote, quote] else [letter]
    after dialect (.inside quote) doubled = .inside quote ∧
      marks dialect (.inside quote) doubled = 0 := by
  have reopened : next dialect .outside quote = .inside quote := by
    rw [next, opens]
  have noMark : quote ≠ '?' := by
    rintro rfl
    cases dialect <;> cases opens
  induction letters with
  | nil => exact ⟨rfl, rfl⟩
  | cons letter rest inductionHypothesis =>
      obtain ⟨closed, none⟩ := inductionHypothesis
      by_cases doubled : letter = quote
      · have closes : next dialect (.inside quote) quote = .outside := by
          simp [next]
        simp only [List.flatMap_cons, if_pos doubled, List.cons_append,
          List.nil_append, after_cons, marks, closes, reopened]
        exact ⟨closed, by simp [none, noMark]⟩
      · have stays : next dialect (.inside quote) letter = .inside quote := by
          simp [next, doubled, verbatim]
        simp only [List.flatMap_cons, if_neg doubled, List.cons_append,
          List.nil_append, after_cons, marks, stays]
        exact ⟨closed, by simp [none]⟩

theorem closing?_nameQuote (dialect : Dialect) :
    dialect.closing? dialect.nameQuote = some dialect.nameQuote := by
  cases dialect <;> rfl

theorem escapes_nameQuote (dialect : Dialect) :
    dialect.escapes dialect.nameQuote = false := by
  cases dialect <;> decide

theorem quoted_name (name : String) :
    Closes dialect (dialect.quoteName name).toList ∧
      marks dialect .outside (dialect.quoteName name).toList = 0 := by
  have opens := closing?_nameQuote dialect
  have opened :
      next dialect .outside dialect.nameQuote = .inside dialect.nameQuote := by
    rw [next, opens]
  have noMark : dialect.nameQuote ≠ '?' := by
    cases dialect <;> decide
  obtain ⟨closed, none⟩ :=
    doubled_letters opens (escapes_nameQuote dialect) name.toList
  simp only [Dialect.quoteName, quoteWith, String.toList_ofList]
  constructor
  · rw [Closes, after_cons, opened, after_append, closed]
    simp [next]
  · rw [marks, opened, marks_append, closed, none]
    simp [marks, noMark]

theorem rendered_part (dialect : Dialect) (part : Ident.Part) :
    Closes dialect (part.render dialect).toList ∧
      marks dialect .outside (part.render dialect).toList = 0 := by
  cases part with
  | plain name => exact quoted_name name
  | quoted name => exact quoted_name name
  | star => exact plain_text (show Text.isPlain "*" = true by decide)

/-- A quoted path closes its quotes, and no question mark of its names is seen
outside of them. -/
theorem rendered_ident (ident : Ident) :
    Closes dialect (ident.render dialect).toList ∧
      marks dialect .outside (ident.render dialect).toList = 0 := by
  rcases ident with ⟨parts⟩
  unfold Ident.render
  induction parts with
  | nil => exact ⟨rfl, rfl⟩
  | cons part rest inductionHypothesis =>
      obtain ⟨partClosed, partMarks⟩ := rendered_part dialect part
      cases rest with
      | nil => simpa using ⟨partClosed, partMarks⟩
      | cons second rest =>
          obtain ⟨closed, none⟩ := inductionHypothesis
          have dot :
              Closes dialect ".".toList ∧
                marks dialect .outside ".".toList = 0 :=
            plain_text (by decide)
          obtain ⟨dotClosed, dotMarks⟩ := dot
          simp only [List.map_cons, String.intercalate_cons_cons,
            String.toList_append] at closed none ⊢
          have before := closes_append partClosed dotClosed
          refine ⟨closes_append before closed, ?_⟩
          rw [marks_append_of_closes before,
            marks_append_of_closes partClosed, partMarks, dotMarks, none]

end Quoting

end RecordQuery
