import RecordQuery.Proofs.Grammar.Scanning
import RecordQuery.Proofs.Query.Naming

/-!
# The pieces that texts write

Texts with blanks or commas between them write the pieces of each, and
parentheses make one piece of what they enclose.  Names, placeholders, numbers
and words write the pieces that they are.
-/

namespace RecordQuery

namespace Grammar

/-- The scanner after letters that write whole pieces. -/
def Scanner.put (scanner : Scanner) (letters : List Char) (marks : Nat)
    (pieces : List Piece) : Scanner :=
  { scanner with
    level :=
      { scanner.level with
        pieces := pieces.reverse ++ scanner.level.pieces
        text := letters.reverse ++ scanner.level.text }
    marks := scanner.marks + marks }

namespace Passage

variable {passage : Passage}

/-! ## Whole pieces -/

/-- Letters that write whole pieces, when `marks` placeholders were seen before
and no word is begun. -/
def Writes (passage : Passage) (marks : Nat) (letters : List Char)
    (seen : Nat) (pieces : List Piece) : Prop :=
  ∀ scanner : Scanner, scanner.quoting = .outside →
    scanner.level.word = [] → scanner.marks = marks →
      let scanned := passage.scan scanner letters
      { scanned with level := passage.flush scanned.marks scanned.level } =
        scanner.put letters seen pieces

theorem writes_of_spelled {letters : List Char} {seen : Nat}
    (spelled : passage.Spelled .outside letters seen .outside)
    (written : letters ≠ []) (marks : Nat) :
    passage.Writes marks letters seen
      [passage.piece (marks + seen) letters] := by
  intro scanner standing fresh counted
  have begun : letters.reverse ≠ [] := by simpa using written
  simp only [spelled scanner standing, Scanner.spell, flush, fresh, counted,
    List.append_nil, List.isEmpty_iff, if_neg begun, List.reverse_reverse]
  simp [Scanner.put, standing, counted, fresh]

/-- What stands outside of quotes and ends a word does so whether the letters
before have ended it or not. -/
theorem stepOutside_flush (scanner : Scanner) {letter : Char}
    (divides : letter = ' ' ∨ letter = ',') :
    passage.stepOutside
        { scanner with level := passage.flush scanner.marks scanner.level }
        letter =
      passage.stepOutside scanner letter := by
  have twice : ∀ level : Level,
      passage.flush scanner.marks (passage.flush scanner.marks level) =
        passage.flush scanner.marks level := by
    intro level
    rw [flush_eq, flush_eq]
    rfl
  rcases divides with rfl | rfl
  · simp only [stepOutside, twice]
    rfl
  · simp only [stepOutside, twice]
    rfl

/-- Letters that end a word and write pieces of their own. -/
def Divides (passage : Passage) (letters : List Char)
    (pieces : List Piece) : Prop :=
  (∃ first rest, letters = first :: rest ∧ (first = ' ' ∨ first = ',')) ∧
    ∀ scanner : Scanner, scanner.quoting = .outside →
      scanner.level.word = [] →
        passage.scan scanner letters = scanner.put letters 0 pieces

theorem closing?_dividing (dialect : Dialect) {letter : Char}
    (divides : letter = ' ' ∨ letter = ',') :
    dialect.closing? letter = none := by
  rcases divides with rfl | rfl
  · cases dialect <;> decide
  · cases dialect <;> decide

theorem divides_blank (passage : Passage) :
    passage.Divides [' '] [] := by
  refine ⟨⟨' ', [], rfl, Or.inl rfl⟩, ?_⟩
  intro scanner standing fresh
  have unquoted := closing?_dividing passage.dialect (Or.inl (refl ' '))
  simp only [scan, List.foldl_cons, List.foldl_nil,
    step_outside standing unquoted, stepOutside, flush, fresh]
  simp [Scanner.put, fresh]

theorem divides_comma (passage : Passage) :
    passage.Divides [',', ' '] [.comma] := by
  refine ⟨⟨',', [' '], rfl, Or.inr rfl⟩, ?_⟩
  intro scanner standing fresh
  have unquoted := closing?_dividing passage.dialect (Or.inr (refl ','))
  have comma :
      passage.step scanner ',' = scanner.put [','] 0 [.comma] := by
    rw [step_outside standing unquoted]
    simp [stepOutside, flush, Scanner.put, fresh]
  rw [scan_cons, comma,
    (divides_blank passage).2 (scanner.put [','] 0 [.comma]) standing fresh]
  simp [Scanner.put]

/-- The first letter of a gap finds the same whether the word before it is ended
already or ends there. -/
theorem scan_divided {marks seen : Nat} {letters gap : List Char}
    {pieces gapPieces : List Piece}
    (written : passage.Writes marks letters seen pieces)
    (gaps : passage.Divides gap gapPieces) (scanner : Scanner)
    (standing : scanner.quoting = .outside)
    (fresh : scanner.level.word = []) (counted : scanner.marks = marks) :
    passage.scan scanner (letters ++ gap) =
      (scanner.put letters seen pieces).put gap 0 gapPieces := by
  obtain ⟨⟨first, rest, rfl, divides⟩, gapped⟩ := gaps
  have ended := written scanner standing fresh counted
  let put := scanner.put letters seen pieces
  have ends :
      passage.step (passage.scan scanner letters) first =
        passage.step put first := by
    have unquoted := closing?_dividing passage.dialect divides
    have stands : (passage.scan scanner letters).quoting = .outside :=
      (congrArg Scanner.quoting ended).trans standing
    rw [step_outside stands unquoted, ← stepOutside_flush _ divides, ended,
      step_outside (show put.quoting = .outside from standing) unquoted]
  rw [scan_append, scan_cons, ends, ← scan_cons]
  exact gapped put standing fresh

theorem writes_divided {marks leftSeen rightSeen : Nat}
    {left gap right : List Char} {leftPieces gapPieces rightPieces : List Piece}
    (lefts : passage.Writes marks left leftSeen leftPieces)
    (gaps : passage.Divides gap gapPieces)
    (rights :
      passage.Writes (marks + leftSeen) right rightSeen rightPieces) :
    passage.Writes marks (left ++ (gap ++ right)) (leftSeen + rightSeen)
      (leftPieces ++ (gapPieces ++ rightPieces)) := by
  intro scanner standing fresh counted
  have between := scan_divided lefts gaps scanner standing fresh counted
  have last := rights
    ((scanner.put left leftSeen leftPieces).put gap 0 gapPieces) standing fresh
    (by simp [Scanner.put, counted])
  rw [← List.append_assoc, scan_append, between]
  simp only [last]
  simp [Scanner.put, Nat.add_assoc]

theorem writes_blank {marks leftSeen rightSeen : Nat}
    {left right : List Char} {leftPieces rightPieces : List Piece}
    (lefts : passage.Writes marks left leftSeen leftPieces)
    (rights :
      passage.Writes (marks + leftSeen) right rightSeen rightPieces) :
    passage.Writes marks (left ++ ' ' :: right) (leftSeen + rightSeen)
      (leftPieces ++ rightPieces) :=
  writes_divided lefts (divides_blank passage) rights

theorem writes_comma {marks leftSeen rightSeen : Nat}
    {left right : List Char} {leftPieces rightPieces : List Piece}
    (lefts : passage.Writes marks left leftSeen leftPieces)
    (rights :
      passage.Writes (marks + leftSeen) right rightSeen rightPieces) :
    passage.Writes marks (left ++ ',' :: ' ' :: right)
      (leftSeen + rightSeen) (leftPieces ++ .comma :: rightPieces) :=
  writes_divided lefts (divides_comma passage) rights

/-- The values that placeholders after the first `marks` stand for. -/
def slice (passage : Passage) (marks seen : Nat) : List Value :=
  (passage.compiled.bindings.take (marks + seen)).drop marks

theorem writes_enclosed {marks seen : Nat} {letters : List Char}
    {pieces : List Piece}
    (written : passage.Writes marks letters seen pieces) :
    passage.Writes marks ('(' :: letters ++ [')']) seen
      [.enclosed ⟨String.ofList letters, passage.slice marks seen⟩ pieces
        (Piece.alternatives? pieces)] := by
  intro scanner standing fresh counted
  have ended :
      passage.flush scanner.marks scanner.level = scanner.level := by
    simp [flush, fresh]
  have opened := step_opening passage standing
  rw [ended] at opened
  have inside := written (passage.step scanner '(')
    (by rw [opened]; exact standing) (by rw [opened]) (by rw [opened, counted])
  let inner := passage.scan (passage.step scanner '(') letters
  have stands : inner.quoting = .outside :=
    (congrArg Scanner.quoting inside).trans
      (by simp [Scanner.put, opened, standing])
  have within : inner.outer = scanner.level :: scanner.outer :=
    (congrArg Scanner.outer inside).trans (by simp [Scanner.put, opened])
  have level :
      passage.flush inner.marks inner.level =
        { pieces := pieces.reverse
          text := letters.reverse
          start := marks } :=
    (congrArg Scanner.level inside).trans
      (by simp [Scanner.put, opened, counted])
  have seenMarks : inner.marks = marks + seen :=
    (congrArg Scanner.marks inside).trans
      (by simp [Scanner.put, opened, counted])
  have closed := step_closing passage stands within
  rw [List.cons_append, scan_cons, scan_append]
  show ({ passage.step inner ')' with
    level := passage.flush (passage.step inner ')').marks
      (passage.step inner ')').level } : Scanner) = _
  rw [closed, level]
  simp [Scanner.put, flush, fresh, enclose, slice, seenMarks, counted, stands,
    standing]

/-! ## Words and what they are -/

/-- A word that starts with neither of the letters that mark placeholders stands
for no value. -/
theorem value?_eq_none {marks : Nat} {word : List Char}
    (noDollar : word.head? ≠ some '$') (noQuestion : word.head? ≠ some '?') :
    passage.value? marks word = none := by
  have question : word ≠ ['?'] := by
    intro same
    rw [same] at noQuestion
    exact noQuestion rfl
  cases shape : passage.dialect with
  | postgres =>
      cases word with
      | nil => simp [value?, shape]
      | cons letter rest =>
          have noMark : letter ≠ '$' := by simpa using noDollar
          simp [value?, shape, noMark]
  | sqlite => simp [value?, shape, question]
  | mysql => simp [value?, shape, question]

theorem value?_of_path? {marks : Nat} {word : List Char}
    {path : List Ident.Part}
    (read : path? passage.dialect.nameQuote .start word = some path) :
    passage.value? marks word = none := by
  cases word with
  | nil => cases read
  | cons letter rest =>
      have quote : letter = passage.dialect.nameQuote := by
        by_contra other
        rw [path?, if_neg other] at read
        cases read
      have marksNone :
          passage.dialect.nameQuote ≠ '$' ∧
            passage.dialect.nameQuote ≠ '?' := by
        cases passage.dialect <;> decide
      apply value?_eq_none
      · simpa [quote] using marksNone.1
      · simpa [quote] using marksNone.2

theorem value?_of_plain {marks : Nat} {word : List Char}
    (plain : ∀ letter ∈ word, Text.marking.contains letter = false) :
    passage.value? marks word = none := by
  have unmarked (letter : Char) (marking : Text.marking.contains letter = true) :
      word.head? ≠ some letter := by
    intro first
    rw [plain letter (List.mem_of_mem_head? first)] at marking
    cases marking
  exact value?_eq_none (unmarked '$' (by decide)) (unmarked '?' (by decide))

theorem path?_of_plain {word : List Char}
    (plain : ∀ letter ∈ word, Text.marking.contains letter = false) :
    path? passage.dialect.nameQuote .start word = none := by
  cases word with
  | nil => rfl
  | cons letter rest =>
      have noQuote : letter ≠ passage.dialect.nameQuote := by
        intro same
        have head := plain letter (List.mem_cons_self ..)
        rw [same] at head
        revert head
        cases passage.dialect <;> decide
      simp [path?, noQuote]

theorem piece_of_plain {marks : Nat} {word : List Char}
    (plain : word.all isWordLetter = true) :
    passage.piece marks word =
      if word.all Char.isDigit then .operand (.number (String.ofList word))
      else .word (String.ofList word) := by
  have unmarked : ∀ letter ∈ word, Text.marking.contains letter = false :=
    fun letter member =>
      not_marking_of_isWordLetter (List.all_eq_true.mp plain letter member)
  simp only [piece, value?_of_plain unmarked, path?_of_plain unmarked]

/-- A word without special letters that is no number is a word. -/
theorem writes_word (passage : Passage) (marks : Nat) {word : List Char}
    (plain : word.all isWordLetter = true)
    (noNumber : word.all Char.isDigit = false) :
    passage.Writes marks word 0 [.word (String.ofList word)] := by
  have begun : word ≠ [] := by
    intro empty
    rw [empty] at noNumber
    cases noNumber
  have spelled : passage.Spelled .outside word 0 .outside :=
    spelled_letters plain
  have written := writes_of_spelled spelled begun marks
  rwa [piece_of_plain plain, noNumber] at written

theorem writes_number (passage : Passage) (marks : Nat) {digits : List Char}
    (begun : digits ≠ []) (numeric : digits.all Char.isDigit = true) :
    passage.Writes marks digits 0
      [.operand (.number (String.ofList digits))] := by
  have plain : digits.all isWordLetter = true :=
    List.all_eq_true.mpr fun letter member =>
      isWordLetter_of_isDigit (List.all_eq_true.mp numeric letter member)
  have spelled : passage.Spelled .outside digits 0 .outside :=
    spelled_letters plain
  have written := writes_of_spelled spelled begun marks
  rwa [piece_of_plain plain, numeric] at written

/-- A placeholder stands for the value that was bound for it. -/
theorem writes_placeholder {passage : Passage} {marks : Nat} {value : Value}
    (bound : passage.compiled.bindings[marks]? = some value) :
    passage.Writes marks
      (passage.dialect.placeholder (passage.count + marks + 1)).toList 1
      [.operand (.value value)] := by
  have spelled :=
    spelled_placeholder passage (passage.count + marks + 1)
  have begun :
      (passage.dialect.placeholder (passage.count + marks + 1)).toList ≠
        [] := by
    simpa using passage.dialect.placeholder_ne_empty _
  have written := writes_of_spelled spelled begun marks
  have found :
      passage.value? (marks + 1)
          (passage.dialect.placeholder
            (passage.count + marks + 1)).toList =
        some value := by
    have numeric :
        (Nat.toDigits 10 (passage.count + marks + 1)).all Char.isDigit =
          true :=
      List.all_eq_true.mpr (Text.toDigits_isDigit _)
    have place :
        passage.count + marks + 1 - passage.count - 1 = marks := by
      omega
    have later : passage.count < passage.count + marks + 1 := by
      omega
    cases shape : passage.dialect with
    | postgres =>
        simp [value?, shape, Dialect.placeholder, Text.digitsNumber?, numeric,
          Text.digitsValue_toDigits, later, place, bound]
    | sqlite => simp [value?, shape, Dialect.placeholder, bound]
    | mysql => simp [value?, shape, Dialect.placeholder, bound]
  rwa [piece, found] at written

/-! ## Queries -/

/-- The letters of a query: SELECT, and what else stays between the parentheses
around it. -/
def IsQuery (passage : Passage) (letters : List Char) (seen : Nat) : Prop :=
  letters = "SELECT".toList ∧ seen = 0 ∨
    ∃ later, letters = "SELECT".toList ++ ' ' :: later ∧
      passage.Contained later seen

theorem isQuery_blank {letters more : List Char} {seen moreSeen : Nat}
    (query : passage.IsQuery letters seen)
    (contained : passage.Contained more moreSeen) :
    passage.IsQuery (letters ++ ' ' :: more) (seen + moreSeen) := by
  apply Or.inr
  rcases query with ⟨rfl, rfl⟩ | ⟨later, rfl, within⟩
  · exact ⟨more, rfl, by rwa [Nat.zero_add]⟩
  · have blank : passage.Contained [' '] 0 := contained_plain (by decide)
    refine ⟨later ++ ' ' :: more, by simp, ?_⟩
    have joined := contained_append within (contained_append blank contained)
    rwa [Nat.zero_add] at joined

theorem writes_select (passage : Passage) (marks : Nat) :
    passage.Writes marks "SELECT".toList 0 [.word "SELECT"] :=
  writes_word passage marks (by decide) (by decide)

/-- A query between parentheses is one piece, which is read as a query. -/
theorem writes_query {marks seen : Nat} {letters : List Char}
    (query : passage.IsQuery letters seen) :
    ∃ inside : List Piece, Piece.areQuery inside = true ∧
      passage.Writes marks ('(' :: letters ++ [')']) seen
        [.enclosed ⟨String.ofList letters, passage.slice marks seen⟩ inside
          (Piece.alternatives? inside)] := by
  rcases query with ⟨rfl, rfl⟩ | ⟨later, rfl, within⟩
  · exact ⟨_, rfl, writes_enclosed (writes_select passage marks)⟩
  · -- The rest stays inside; which pieces it makes does not matter.
    obtain ⟨pieces, last, scanned⟩ := within [] marks
    have contained : ∀ scanner : Scanner, scanner.quoting = .outside →
        scanner.level.word = [] → scanner.marks = marks →
          passage.scan scanner ("SELECT".toList ++ ' ' :: later) =
            scanner.hold (pieces ++ [.word "SELECT"]) last
              ("SELECT".toList ++ ' ' :: later) seen := by
      intro scanner standing fresh counted
      have begun := scan_divided (writes_select passage marks)
        (divides_blank passage) scanner standing fresh counted
      have split :
          "SELECT".toList ++ ' ' :: later =
            ("SELECT".toList ++ [' ']) ++ later := by
        simp
      have rest := scanned
        ((scanner.put "SELECT".toList 0 [.word "SELECT"]).put [' '] 0 [])
        standing fresh counted
      rw [split, scan_append, begun, rest]
      simp [Scanner.hold, Scanner.put]
    let level : Level :=
      { pieces :=
          passage.ended (marks + seen) last ++
            (pieces ++ [.word "SELECT"])
        text := ("SELECT".toList ++ ' ' :: later).reverse
        start := marks }
    refine ⟨level.pieces.reverse, by simp [level, Piece.areQuery], ?_⟩
    intro scanner standing fresh counted
    simp only [scan_enclosed contained scanner standing counted, fresh]
    simp [Scanner.hold, Scanner.put, flush, enclose, slice, ended, level, fresh]

/-! ## Columns -/

theorem path?_inside (quote : Char) (letters rest : List Char) :
    ∀ name : List Char,
      path? quote (.inside name)
          ((letters.flatMap fun letter =>
            if letter = quote then [quote, quote] else [letter]) ++
              quote :: rest) =
        path? quote (.closing (letters.reverse ++ name)) rest := by
  induction letters with
  | nil =>
      intro name
      simp [path?]
  | cons letter later inductionHypothesis =>
      intro name
      by_cases doubled : letter = quote
      · simp [doubled, path?, inductionHypothesis]
      · simp [doubled, path?, inductionHypothesis]

theorem path?_quoteName (dialect : Dialect) (name : String)
    (rest : List Char) :
    path? dialect.nameQuote .start ((dialect.quoteName name).toList ++ rest) =
      path? dialect.nameQuote (.closing name.toList.reverse) rest := by
  have inside := path?_inside dialect.nameQuote name.toList rest []
  simpa [Dialect.quoteName, quoteWith, path?] using inside

/-- A path without a star is read back, whatever its names hold. -/
theorem path?_render (dialect : Dialect) {parts : List Ident.Part}
    (begun : parts ≠ []) (starless : .star ∉ parts) :
    path? dialect.nameQuote .start (Ident.render dialect ⟨parts⟩).toList =
      some (parts.map bare) := by
  have named : ∀ part ∈ parts, ∃ name : String,
      part.render dialect = dialect.quoteName name ∧
        bare part = .quoted name := by
    intro part member
    cases part with
    | plain name => exact ⟨name, rfl, rfl⟩
    | quoted name => exact ⟨name, rfl, rfl⟩
    | star => exact (starless member).elim
  have dot : '.' ≠ dialect.nameQuote := by
    cases dialect <;> decide
  unfold Ident.render
  induction parts with
  | nil => exact (begun rfl).elim
  | cons first rest inductionHypothesis =>
      obtain ⟨name, rendered, bared⟩ := named first (List.mem_cons_self ..)
      cases rest with
      | nil =>
          have alone := path?_quoteName dialect name []
          simp only [List.append_nil] at alone
          simp [rendered, bared, alone, path?]
      | cons second later =>
          have tail := inductionHypothesis (by simp)
            (fun star => starless (List.mem_cons_of_mem first star))
            fun part member => named part (List.mem_cons_of_mem first member)
          simp only [List.map_cons, String.intercalate_cons_cons,
            String.toList_append, rendered, List.append_assoc] at tail ⊢
          have separated : ".".toList = ['.'] := rfl
          rw [path?_quoteName, separated, List.singleton_append, path?,
            if_neg dot, if_pos rfl, tail]
          simp [bared]

theorem writes_column (passage : Passage) (marks : Nat) {ident : Ident}
    (begun : ident.parts ≠ []) (starless : .star ∉ ident.parts) :
    passage.Writes marks (ident.render passage.dialect).toList 0
      [.operand (.column (ident.parts.map bare))] := by
  have written : (ident.render passage.dialect).toList ≠ [] := by
    simpa [Ident.render_eq_empty_iff] using begun
  have pieces :=
    writes_of_spelled (spelled_ident passage ident) written marks
  have path := path?_render passage.dialect begun starless
  rwa [piece, value?_of_path? path, path] at pieces

end Passage

end Grammar

end RecordQuery
