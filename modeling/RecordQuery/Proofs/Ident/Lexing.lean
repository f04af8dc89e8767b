import RecordQuery.Proofs.Grammar.Term
import RecordQuery.Proofs.Ident.Grammar

/-!
# Identifiers as a database reads them

A database reads a name in quotes up to the quote that closes it, where a
doubled quote stands for one.  What an identifier is rendered as is read in full
by the lexer of its dialect: its names with dots between them, and a star where
it has one.  Where a dialect's quotes are those that identifiers are written
with, parsing the rendered text finds the same parts, every name in quotes.
-/

namespace RecordQuery

/-- Whether a dialect reads a name between two of these letters, taking a
doubled one inside for one. -/
def Dialect.delimitsNames : Dialect → Char → Bool
  | .sqlite, letter => letter = '"' || letter = '\x60'
  | .mysql, letter => letter = '\x60'
  | .postgres, letter => letter = '"'

theorem Dialect.delimitsNames_nameQuote (dialect : Dialect) :
    dialect.delimitsNames dialect.nameQuote = true := by
  cases dialect <;> rfl

theorem Dialect.nameQuote_of_ne_mysql {dialect : Dialect}
    (other : dialect ≠ .mysql) : dialect.nameQuote = '"' := by
  cases dialect with
  | mysql => exact (other rfl).elim
  | sqlite => rfl
  | postgres => rfl

theorem mem_quoteWith_iff {quote letter : Char} {name : String} :
    letter ∈ (quoteWith quote name).toList ↔
      letter = quote ∨ letter ∈ name.toList := by
  simp only [quoteWith, String.toList_ofList, List.mem_cons, List.mem_append,
    List.mem_flatMap, List.not_mem_nil, or_false]
  constructor
  · rintro (opens | ⟨other, member, written⟩ | closes)
    · exact Or.inl opens
    · split at written
      · next doubled => simp_all
      · exact Or.inr (List.mem_singleton.mp written ▸ member)
    · exact Or.inl closes
  · rintro (opens | member)
    · exact Or.inl opens
    · refine Or.inr (Or.inl ⟨letter, member, ?_⟩)
      split
      · next doubled => simp [doubled]
      · exact List.mem_singleton_self letter

namespace Ident

/-! ## The lexer of a dialect -/

/-- What the text of an identifier is made of. -/
inductive Lexeme where
  | name (text : String)
  | dot
  | star
deriving DecidableEq

def Lexeme.ofMark? : Char → Option Lexeme
  | '.' => some .dot
  | '*' => some .star
  | _ => none

/-- Where the lexer stands: between lexemes, in a quoted name, or after a quote
that ends the name unless another follows.  Names are held backwards. -/
inductive LexerState where
  | between
  | inside (quote : Char) (name : List Char)
  | closing (quote : Char) (name : List Char)

/-- The lexemes of letters, all of which have to belong to one. -/
def lex (dialect : Dialect) : LexerState → List Char → Option (List Lexeme)
  | .between, [] => some []
  | .between, letter :: rest =>
      if dialect.delimitsNames letter then lex dialect (.inside letter []) rest
      else
        (Lexeme.ofMark? letter).bind fun mark =>
          (lex dialect .between rest).map (mark :: ·)
  | .inside _ _, [] => none
  | .inside quote name, letter :: rest =>
      if letter = quote then lex dialect (.closing quote name) rest
      else lex dialect (.inside quote (letter :: name)) rest
  | .closing _ name, [] => some [.name (String.ofList name.reverse)]
  | .closing quote name, letter :: rest =>
      if letter = quote then lex dialect (.inside quote (quote :: name)) rest
      else
        (Lexeme.ofMark? letter).bind fun mark =>
          (lex dialect .between rest).map fun later =>
            .name (String.ofList name.reverse) :: mark :: later

def Part.lexeme : Part → Lexeme
  | .plain name | .quoted name => .name name
  | .star => .star

/-! ## Rendered parts -/

section Lexer

variable {dialect : Dialect}

theorem lex_inside (quote : Char) (rest letters : List Char) :
    ∀ name : List Char,
      lex dialect (.inside quote name)
          ((letters.flatMap fun letter =>
            if letter = quote then [quote, quote] else [letter]) ++
              quote :: rest) =
        lex dialect (.closing quote (letters.reverse ++ name)) rest := by
  induction letters with
  | nil =>
      intro name
      simp [lex]
  | cons letter later inductionHypothesis =>
      intro name
      by_cases doubled : letter = quote
      · simp [doubled, lex, inductionHypothesis]
      · simp [doubled, lex, inductionHypothesis]

theorem lex_quoteName (name : String) (rest : List Char) :
    lex dialect .between ((dialect.quoteName name).toList ++ rest) =
      lex dialect (.closing dialect.nameQuote name.toList.reverse) rest := by
  have inside :
      lex dialect (.inside dialect.nameQuote []) _ = _ :=
    lex_inside dialect.nameQuote rest name.toList []
  simpa [Dialect.quoteName, quoteWith, lex,
    Dialect.delimitsNames_nameQuote] using inside

theorem toList_render_star (dialect : Dialect) :
    (Part.star.render dialect).toList = ['*'] :=
  show "*".toList = ['*'] from rfl

theorem lex_part (part : Part) :
    lex dialect .between (part.render dialect).toList =
      some [part.lexeme] := by
  have named (name : String) :
      lex dialect .between (dialect.quoteName name).toList =
        some [.name name] := by
    rw [← List.append_nil (dialect.quoteName name).toList, lex_quoteName, lex,
      List.reverse_reverse, String.ofList_toList]
  cases part with
  | plain name => exact named name
  | quoted name => exact named name
  | star =>
      rw [toList_render_star]
      cases dialect <;> rfl

theorem lex_part_dot (part : Part) (rest : List Char) :
    lex dialect .between ((part.render dialect).toList ++ '.' :: rest) =
      (lex dialect .between rest).map (part.lexeme :: .dot :: ·) := by
  have other : '.' ≠ dialect.nameQuote := by
    cases dialect <;> decide
  have named (name : String) :
      lex dialect .between ((dialect.quoteName name).toList ++ '.' :: rest) =
        (lex dialect .between rest).map (.name name :: .dot :: ·) := by
    rw [lex_quoteName, lex, if_neg other, List.reverse_reverse,
      String.ofList_toList]
    rfl
  cases part with
  | plain name => exact named name
  | quoted name => exact named name
  | star =>
      have starred :
          lex dialect .between ('*' :: '.' :: rest) =
            ((lex dialect .between rest).map (Lexeme.dot :: ·)).map
              (Lexeme.star :: ·) := by
        cases dialect <;> rfl
      rw [toList_render_star]
      exact starred.trans (Option.map_map ..)

theorem render_singleton (part : Part) :
    render dialect ⟨[part]⟩ = part.render dialect :=
  String.intercalate_singleton

theorem render_cons_cons (part next : Part) (later : List Part) :
    (render dialect ⟨part :: next :: later⟩).toList =
      (part.render dialect).toList ++
        '.' :: (render dialect ⟨next :: later⟩).toList := by
  simp [render, String.intercalate_cons_cons]

/-- Whatever its names hold, a rendered identifier is read as these names. -/
theorem lex_render (parts : List Part) :
    lex dialect .between (render dialect ⟨parts⟩).toList =
      some ((parts.map Part.lexeme).intersperse .dot) := by
  induction parts with
  | nil => rfl
  | cons part rest inductionHypothesis =>
      cases rest with
      | nil =>
          rw [render_singleton]
          exact lex_part part
      | cons next later =>
          rw [render_cons_cons, lex_part_dot, inductionHypothesis]
          rfl

end Lexer

/-! ## Reading what was rendered -/

section Rendered

open Grammar (bare)

theorem isWritable_bare {part : Part} (writable : part.IsWritable) :
    (bare part).IsWritable := by
  cases part with
  | plain name =>
      rintro rfl
      exact writable
  | quoted name => exact writable
  | star => trivial

theorem bare_ne_star {part : Part} (named : part ≠ .star) :
    bare part ≠ .star := by
  cases part with
  | plain name => exact Part.noConfusion
  | quoted name => exact named
  | star => exact named

theorem spelling_bare {dialect : Dialect} (same : dialect.nameQuote = '"')
    (part : Part) : (bare part).spelling = (part.render dialect).toList := by
  cases part with
  | star => exact (toList_render_star dialect).symm
  | _ =>
      rw [Part.render, Dialect.quoteName, same]
      rfl

theorem nul_notMem_render {dialect : Dialect} {part : Part}
    (nulFree : '\x00' ∉ part.spelling) :
    '\x00' ∉ (part.render dialect).toList := by
  have apart : '\x00' ≠ dialect.nameQuote := by
    cases dialect <;> decide
  have named {name : String} (free : '\x00' ∉ name.toList) :
      '\x00' ∉ (dialect.quoteName name).toList := fun member =>
    (mem_quoteWith_iff.mp member).elim apart free
  cases part with
  | plain name => exact named nulFree
  | quoted name =>
      exact named fun member => nulFree (mem_quoteWith_iff.mpr (Or.inr member))
  | star =>
      rw [toList_render_star]
      exact nulFree

/-- Where the quotes are those that identifiers are written with, the rendered
text spells the same parts, every name in quotes. -/
theorem IsPath.rendered {dialect : Dialect} (same : dialect.nameQuote = '"')
    {parts : List Part} {letters : List Char} (path : IsPath parts letters)
    (nulFree : '\x00' ∉ letters) :
    IsPath (parts.map bare) (render dialect ⟨parts⟩).toList ∧
      '\x00' ∉ (render dialect ⟨parts⟩).toList := by
  induction path with
  | @last part writable =>
      rw [render_singleton]
      refine ⟨?_, nul_notMem_render nulFree⟩
      rw [← spelling_bare same]
      exact .last (isWritable_bare writable)
  | @dot part parts letters writable named later inductionHypothesis =>
      rw [List.mem_append, List.mem_cons, not_or, not_or] at nulFree
      obtain ⟨partFree, _, laterFree⟩ := nulFree
      obtain ⟨path, free⟩ := inductionHypothesis laterFree
      cases parts with
      | nil => cases later
      | cons next rest =>
          rw [render_cons_cons]
          constructor
          · rw [← spelling_bare same]
            exact .dot (isWritable_bare writable) (bare_ne_star named) path
          · rw [List.mem_append, List.mem_cons, not_or, not_or]
            exact ⟨nul_notMem_render partFree, by decide, free⟩

theorem render_bare (dialect : Dialect) (parts : List Part) :
    render dialect ⟨parts.map bare⟩ = render dialect ⟨parts⟩ := by
  rw [render, render, List.map_map]
  congr 2
  funext part
  cases part <;> rfl

theorem star_notMem_dropLast {parts : List Part} {letters : List Char}
    (path : IsPath parts letters) : .star ∉ parts.dropLast := by
  induction path with
  | last writable => exact List.not_mem_nil
  | @dot part parts letters writable named later inductionHypothesis =>
      cases parts with
      | nil => cases later
      | cons next rest =>
          rw [List.dropLast_cons_cons, List.mem_cons, not_or]
          exact ⟨named.symm, inductionHypothesis⟩

theorem quote_of_parse {text : String} {ident : Ident}
    (parsed : parse text = .ok ident) (dialect : Dialect) :
    quote dialect text = .ok (ident.render dialect) := by
  rw [quote, parsed]

/-- Rendering an identifier that was parsed writes what the dialect's lexer
reads as its names with dots between them and a star in the last place at most.
In the quotes that identifiers are written with, parsing undoes rendering but
for the quotes, and rendering what was rendered changes nothing. -/
theorem render_inverts_parse {text : String} {ident : Ident}
    (parsed : parse text = .ok ident) :
    (∀ dialect : Dialect,
      quote dialect text = .ok (ident.render dialect) ∧
        lex dialect .between (ident.render dialect).toList =
          some ((ident.parts.map Part.lexeme).intersperse .dot)) ∧
    .star ∉ ident.parts.dropLast ∧
    ∀ dialect : Dialect, dialect ≠ .mysql →
      parse (ident.render dialect) = .ok ⟨ident.parts.map bare⟩ ∧
        quote dialect (ident.render dialect) =
          .ok (ident.render dialect) := by
  have spelled := (parse_eq_ok_iff text ident).mp parsed
  refine ⟨fun dialect => ⟨quote_of_parse parsed dialect,
    lex_render ident.parts⟩, star_notMem_dropLast spelled.path, ?_⟩
  intro dialect other
  have reread :
      parse (ident.render dialect) = .ok ⟨ident.parts.map bare⟩ := by
    have rendered := spelled.path.rendered
      (Dialect.nameQuote_of_ne_mysql other) spelled.nulFree
    exact (parse_eq_ok_iff _ _).mpr ⟨rendered.1, rendered.2⟩
  refine ⟨reread, ?_⟩
  rw [quote_of_parse reread, render_bare]

/-- Quotes of both kinds, a dot and a blank inside of names, and a star. -/
theorem render_inverts_parse_wildcard :
    let ident : Ident := ⟨[.plain "shop", .quoted "a.\"b \x60c", .star]⟩
    parse "shop.\"a.\"\"b \x60c\".*" = .ok ident ∧
      lex .mysql .between (ident.render .mysql).toList =
        some [.name "shop", .dot, .name "a.\"b \x60c", .dot, .star] ∧
      Dialect.postgres ≠ .mysql ∧
      parse (ident.render .postgres) =
        .ok ⟨[.quoted "shop", .quoted "a.\"b \x60c", .star]⟩ := by
  intro ident
  have parsed : parse "shop.\"a.\"\"b \x60c\".*" = .ok ident := rfl
  have inverted := render_inverts_parse parsed
  have other : Dialect.postgres ≠ .mysql := by decide
  exact ⟨parsed, (inverted.1 .mysql).2, other,
    (inverted.2.2 .postgres other).1⟩

end Rendered

end Ident

end RecordQuery
