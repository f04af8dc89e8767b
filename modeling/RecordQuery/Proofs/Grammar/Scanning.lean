import RecordQuery.Proofs.Grammar.Scanner

/-!
# What scanning makes of texts

Letters belong to the word that is being read, or they stay between the
parentheses in which they stand.  Both carry over from texts to their
concatenation, so that they are settled once for names, placeholders and plain
text.
-/

namespace RecordQuery

namespace Grammar

/-- The scanner after letters that belong to its word. -/
def Scanner.spell (scanner : Scanner) (quoting : Quoting)
    (letters : List Char) (marks : Nat) : Scanner :=
  { scanner with
    quoting
    level :=
      { scanner.level with
        word := letters.reverse ++ scanner.level.word
        text := letters.reverse ++ scanner.level.text }
    marks := scanner.marks + marks }

/-- The scanner after letters that stay between its parentheses. -/
def Scanner.hold (scanner : Scanner) (pieces : List Piece) (word : List Char)
    (letters : List Char) (marks : Nat) : Scanner :=
  { scanner with
    level :=
      { scanner.level with
        pieces := pieces ++ scanner.level.pieces
        word
        text := letters.reverse ++ scanner.level.text }
    marks := scanner.marks + marks }

theorem Scanner.spell_spell (scanner : Scanner) (between after : Quoting)
    (left right : List Char) (leftMarks rightMarks : Nat) :
    (scanner.spell between left leftMarks).spell after right rightMarks =
      scanner.spell after (left ++ right) (leftMarks + rightMarks) := by
  simp [Scanner.spell, Nat.add_assoc]

/-- The letters that end words and enclose pieces. -/
def dividing : List Char := [' ', ',', '(', ')']

/-- A letter without a special meaning. -/
def isWordLetter (letter : Char) : Bool :=
  !dividing.contains letter && !Text.marking.contains letter

theorem not_marking_of_isWordLetter {letter : Char}
    (plain : isWordLetter letter = true) :
    Text.marking.contains letter = false := by
  simpa using (Bool.and_eq_true_iff.mp plain).2

theorem isWordLetter_of_isDigit {letter : Char}
    (digit : letter.isDigit = true) : isWordLetter letter = true := by
  have none : dividing.any Char.isDigit = false := by rfl
  have undivided : letter ∉ dividing :=
    fun divides => List.any_eq_false.mp none letter divides digit
  simpa [isWordLetter, undivided] using Text.not_marking_of_isDigit digit

namespace Passage

variable {passage : Passage}

theorem scan_append (scanner : Scanner) (left right : List Char) :
    passage.scan scanner (left ++ right) =
      passage.scan (passage.scan scanner left) right :=
  List.foldl_append

theorem scan_cons (scanner : Scanner) (letter : Char) (rest : List Char) :
    passage.scan scanner (letter :: rest) =
      passage.scan (passage.step scanner letter) rest :=
  rfl

/-! ## Letters of a word -/

/-- Letters that belong to the word that is being read, whatever was read of
it. -/
def Spelled (passage : Passage) (before : Quoting) (letters : List Char)
    (marks : Nat) (after : Quoting) : Prop :=
  ∀ scanner : Scanner, scanner.quoting = before →
    passage.scan scanner letters = scanner.spell after letters marks

theorem spelled_append {before between after : Quoting}
    {left right : List Char} {leftMarks rightMarks : Nat}
    (lefts : passage.Spelled before left leftMarks between)
    (rights : passage.Spelled between right rightMarks after) :
    passage.Spelled before (left ++ right) (leftMarks + rightMarks)
      after := by
  intro scanner standing
  rw [scan_append, lefts scanner standing, rights _ rfl,
    Scanner.spell_spell]

/-- A letter between quotes, or that opens or closes them. -/
theorem spelled_quoted (passage : Passage) (before : Quoting)
    (letter : Char)
    (quoted : ¬(before = .outside ∧
      before.next passage.dialect letter = .outside)) :
    passage.Spelled before [letter] 0
      (before.next passage.dialect letter) := by
  intro scanner standing
  simp only [scan, List.foldl_cons, List.foldl_nil, step, standing,
    if_neg quoted]
  rfl

theorem step_outside {scanner : Scanner} (standing : scanner.quoting = .outside)
    {letter : Char} (unquoted : passage.dialect.closing? letter = none) :
    passage.step scanner letter = passage.stepOutside scanner letter := by
  have stays : scanner.quoting.next passage.dialect letter = .outside := by
    rw [standing, Quoting.next, unquoted]
  exact if_pos ⟨standing, stays⟩

theorem spelled_undivided {letter : Char} (undivided : letter ∉ dividing)
    (unquoted : passage.dialect.closing? letter = none) :
    passage.Spelled .outside [letter]
      (if letter = markLetter passage.dialect then 1 else 0) .outside := by
  intro scanner standing
  simp only [dividing, List.mem_cons, List.not_mem_nil, or_false,
    not_or] at undivided
  obtain ⟨blank, comma, opening, closing⟩ := undivided
  have stepped := step_outside standing unquoted
  have counted :
      (if letter = markLetter passage.dialect then scanner.marks + 1
        else scanner.marks) =
        scanner.marks +
          if letter = markLetter passage.dialect then 1 else 0 := by
    split <;> rfl
  simp only [scan, List.foldl_cons, List.foldl_nil, stepped, stepOutside,
    if_neg blank, if_neg comma, if_neg opening, counted]
  split
  · exact (closing rfl).elim
  · simp [Scanner.spell, standing]

/-- Letters of names and of words without special letters. -/
theorem spelled_letters {letters : List Char}
    (plain : letters.all isWordLetter = true) :
    passage.Spelled .outside letters 0 .outside := by
  induction letters with
  | nil =>
      intro scanner standing
      simp [scan, Scanner.spell, ← standing]
  | cons letter rest inductionHypothesis =>
      obtain ⟨head, tail⟩ := Bool.and_eq_true_iff.mp plain
      have unmarked := not_marking_of_isWordLetter head
      have undivided : letter ∉ dividing := by
        simpa using (Bool.and_eq_true_iff.mp head).1
      have noMark : letter ≠ markLetter passage.dialect := by
        intro same
        rw [same] at unmarked
        revert unmarked
        unfold markLetter
        split <;> decide
      have first := spelled_undivided undivided
        (Quoting.closing?_of_not_marking passage.dialect unmarked)
      rw [if_neg noMark] at first
      exact spelled_append first (inductionHypothesis tail)

/-- A quoted name, with every quote in it doubled. -/
theorem spelled_doubled (letters : List Char) :
    let quote := passage.dialect.nameQuote
    passage.Spelled (.inside quote)
      (letters.flatMap fun letter =>
        if letter = quote then [quote, quote] else [letter])
      0 (.inside quote) := by
  intro quote
  have closes :
      Quoting.next passage.dialect (.inside quote) quote = .outside := by
    simp [Quoting.next]
  have opens :
      Quoting.next passage.dialect .outside quote = .inside quote := by
    rw [Quoting.next, Quoting.closing?_nameQuote]
  induction letters with
  | nil =>
      intro scanner standing
      simp [scan, Scanner.spell, ← standing]
  | cons letter rest inductionHypothesis =>
      rw [List.flatMap_cons]
      refine spelled_append ?_ inductionHypothesis
      by_cases doubled : letter = quote
      · rw [if_pos doubled]
        have closing : passage.Spelled (.inside quote) [quote] 0 .outside := by
          have quoted :=
            spelled_quoted passage (.inside quote) quote (by simp)
          rwa [closes] at quoted
        have opening : passage.Spelled .outside [quote] 0 (.inside quote) := by
          have quoted :=
            spelled_quoted passage .outside quote (by simp [opens])
          rwa [opens] at quoted
        exact spelled_append closing opening
      · rw [if_neg doubled]
        have stays :
            Quoting.next passage.dialect (.inside quote) letter =
              .inside quote := by
          simp [Quoting.next, doubled, quote, Quoting.escapes_nameQuote]
        have quoted :=
          spelled_quoted passage (.inside quote) letter (by simp)
        rwa [stays] at quoted

theorem spelled_quoteName (passage : Passage) (name : String) :
    passage.Spelled .outside (passage.dialect.quoteName name).toList 0
      .outside := by
  have opens :
      Quoting.next passage.dialect .outside passage.dialect.nameQuote =
        .inside passage.dialect.nameQuote := by
    rw [Quoting.next, Quoting.closing?_nameQuote]
  have opening :=
    spelled_quoted passage .outside passage.dialect.nameQuote
      (by simp [opens])
  have closing :=
    spelled_quoted passage (.inside passage.dialect.nameQuote)
      passage.dialect.nameQuote (by simp)
  rw [opens] at opening
  have closes :
      Quoting.next passage.dialect (.inside passage.dialect.nameQuote)
        passage.dialect.nameQuote = .outside := by
    simp [Quoting.next]
  rw [closes] at closing
  simp only [Dialect.quoteName, quoteWith, String.toList_ofList]
  exact spelled_append opening
    (spelled_append (spelled_doubled name.toList) closing)

theorem spelled_ident (passage : Passage) (ident : Ident) :
    passage.Spelled .outside (ident.render passage.dialect).toList 0
      .outside := by
  have part (part : Ident.Part) :
      passage.Spelled .outside (part.render passage.dialect).toList 0
        .outside := by
    cases part with
    | plain name => exact spelled_quoteName passage name
    | quoted name => exact spelled_quoteName passage name
    | star =>
        have star : passage.Spelled .outside "*".toList 0 .outside :=
          spelled_letters (by decide)
        exact star
  have dot : passage.Spelled .outside ".".toList 0 .outside :=
    spelled_letters (by decide)
  rcases ident with ⟨parts⟩
  unfold Ident.render
  induction parts with
  | nil =>
      intro scanner standing
      simp [scan, Scanner.spell, ← standing]
  | cons first rest inductionHypothesis =>
      cases rest with
      | nil => simpa using part first
      | cons second rest =>
          simp only [List.map_cons, String.intercalate_cons_cons,
            String.toList_append] at inductionHypothesis ⊢
          exact spelled_append (spelled_append (part first) dot)
            inductionHypothesis

theorem spelled_placeholder (passage : Passage) (number : Nat) :
    passage.Spelled .outside
      (passage.dialect.placeholder number).toList 1 .outside := by
  have mark :
      passage.Spelled .outside [markLetter passage.dialect] 1 .outside := by
    have undivided : markLetter passage.dialect ∉ dividing := by
      unfold markLetter
      split <;> decide
    have unquoted :
        passage.dialect.closing? (markLetter passage.dialect) = none := by
      cases passage.dialect <;> decide
    simpa using spelled_undivided undivided unquoted
  have digits :
      passage.Spelled .outside (Nat.toDigits 10 number) 0 .outside := by
    have numeric := Text.toDigits_isDigit number
    exact spelled_letters (List.all_eq_true.mpr fun letter member =>
      isWordLetter_of_isDigit (numeric letter member))
  cases shape : passage.dialect with
  | postgres =>
      have written := spelled_append mark digits
      rw [shape] at written
      simpa [markLetter, Dialect.placeholder] using written
  | sqlite =>
      rw [shape] at mark
      simpa [markLetter, Dialect.placeholder] using mark
  | mysql =>
      rw [shape] at mark
      simpa [markLetter, Dialect.placeholder] using mark

/-! ## Letters between parentheses -/

/-- Letters that stay between the parentheses in which they stand.  What they
write there depends on the word before them and on the placeholders seen. -/
def Contained (passage : Passage) (letters : List Char) (seen : Nat) :
    Prop :=
  ∀ (word : List Char) (marks : Nat),
    ∃ (pieces : List Piece) (last : List Char),
      ∀ scanner : Scanner, scanner.quoting = .outside →
        scanner.level.word = word → scanner.marks = marks →
          passage.scan scanner letters =
            scanner.hold pieces last letters seen

theorem contained_nil (passage : Passage) : passage.Contained [] 0 := by
  intro word marks
  refine ⟨[], word, fun scanner _ begun _ => ?_⟩
  rw [← begun]
  rfl

theorem contained_of_spelled {letters : List Char} {seen : Nat}
    (spelled : passage.Spelled .outside letters seen .outside) :
    passage.Contained letters seen := by
  intro word marks
  refine ⟨[], letters.reverse ++ word, fun scanner standing begun _ => ?_⟩
  rw [spelled scanner standing, Scanner.spell, ← standing, ← begun]
  rfl

theorem contained_append {left right : List Char} {leftSeen rightSeen : Nat}
    (lefts : passage.Contained left leftSeen)
    (rights : passage.Contained right rightSeen) :
    passage.Contained (left ++ right) (leftSeen + rightSeen) := by
  intro word marks
  obtain ⟨before, between, first⟩ := lefts word marks
  obtain ⟨later, last, second⟩ := rights between (marks + leftSeen)
  refine ⟨later ++ before, last, fun scanner standing begun counted => ?_⟩
  rw [scan_append, first scanner standing begun counted,
    second (scanner.hold before between left leftSeen) standing rfl
      (by rw [← counted]; rfl)]
  simp [Scanner.hold, Nat.add_assoc]

/-- The pieces that ending a word writes. -/
def ended (passage : Passage) (marks : Nat) (word : List Char) :
    List Piece :=
  if word.isEmpty then [] else [passage.piece marks word.reverse]

theorem flush_eq (passage : Passage) (marks : Nat) (level : Level) :
    passage.flush marks level =
      { level with
        pieces := passage.ended marks level.word ++ level.pieces
        word := [] } := by
  unfold flush ended
  by_cases fresh : level.word.isEmpty = true
  · rw [if_pos fresh, if_pos fresh, ← List.isEmpty_iff.mp fresh]
    rfl
  · rw [if_neg fresh, if_neg fresh]
    rfl

/-- A letter without special meaning stays where it stands, whether it ends a
word or not. -/
theorem contained_plain {letter : Char}
    (plain : Text.marking.contains letter = false) :
    passage.Contained [letter] 0 := by
  have unquoted := Quoting.closing?_of_not_marking passage.dialect plain
  by_cases divides : letter = ' ' ∨ letter = ','
  · intro word marks
    rcases divides with blank | comma
    · refine ⟨passage.ended marks word, [],
        fun scanner standing begun counted => ?_⟩
      simp only [scan, List.foldl_cons, List.foldl_nil,
        step_outside standing unquoted, stepOutside, flush_eq, if_pos blank,
        begun, counted]
      simp [Scanner.hold, counted]
    · have noBlank : ¬letter = ' ' := by
        rw [comma]
        decide
      refine ⟨.comma :: passage.ended marks word, [],
        fun scanner standing begun counted => ?_⟩
      simp only [scan, List.foldl_cons, List.foldl_nil,
        step_outside standing unquoted, stepOutside, flush_eq, if_neg noBlank,
        if_pos comma, begun, counted]
      simp [Scanner.hold, counted]
  · have undivided : letter ∉ dividing := by
      intro divided
      simp only [dividing, List.mem_cons, List.not_mem_nil, or_false]
        at divided
      rcases divided with blank | comma | opening | closing
      · exact divides (Or.inl blank)
      · exact divides (Or.inr comma)
      · rw [opening] at plain
        revert plain
        decide
      · rw [closing] at plain
        revert plain
        decide
    apply contained_of_spelled
    apply spelled_letters
    simpa [isWordLetter, undivided] using plain

theorem contained_text {sql : String} (plain : Text.isPlain sql = true) :
    passage.Contained sql.toList 0 := by
  have each : ∀ letter ∈ sql.toList, Text.marking.contains letter = false :=
    fun letter member => by simpa using List.all_eq_true.mp plain letter member
  generalize sql.toList = letters at each
  induction letters with
  | nil => exact contained_nil passage
  | cons letter rest inductionHypothesis =>
      exact contained_append
        (contained_plain (each letter (List.mem_cons_self ..)))
        (inductionHypothesis fun later member =>
          each later (List.mem_cons_of_mem letter member))

/-! ## Parentheses -/

theorem step_opening (passage : Passage) {scanner : Scanner}
    (standing : scanner.quoting = .outside) :
    passage.step scanner '(' =
      { scanner with
        level := { start := scanner.marks }
        outer := passage.flush scanner.marks scanner.level ::
          scanner.outer } := by
  have unquoted : passage.dialect.closing? '(' = none := by
    cases passage.dialect <;> decide
  rw [step_outside standing unquoted]
  rfl

theorem step_closing (passage : Passage) {scanner : Scanner}
    (standing : scanner.quoting = .outside) {around : Level}
    {outer : List Level} (within : scanner.outer = around :: outer) :
    passage.step scanner ')' =
      let level := passage.flush scanner.marks scanner.level
      { scanner with
        level :=
          { around with
            pieces := passage.enclose scanner.marks level :: around.pieces
            text := ')' :: (level.text ++ '(' :: around.text) }
        outer } := by
  have unquoted : passage.dialect.closing? ')' = none := by
    cases passage.dialect <;> decide
  rw [step_outside standing unquoted]
  simp only [stepOutside, within]
  rfl

/-- What parentheses around letters enclose, once the letters are scanned on a
level of their own. -/
theorem scan_enclosed {letters : List Char} {marks seen : Nat}
    {pieces : List Piece} {last : List Char}
    (contained : ∀ scanner : Scanner, scanner.quoting = .outside →
      scanner.level.word = [] → scanner.marks = marks →
        passage.scan scanner letters = scanner.hold pieces last letters seen)
    (scanner : Scanner) (standing : scanner.quoting = .outside)
    (counted : scanner.marks = marks) :
    passage.scan scanner ('(' :: letters ++ [')']) =
      scanner.hold
        (passage.enclose (marks + seen)
          { pieces := passage.ended (marks + seen) last ++ pieces
            text := letters.reverse
            start := marks } ::
          passage.ended marks scanner.level.word)
        [] ('(' :: letters ++ [')']) seen := by
  have opened := step_opening passage standing
  have inside := contained (passage.step scanner '(')
    (by rw [opened]; exact standing) (by rw [opened]) (by rw [opened, counted])
  let inner : Scanner :=
    ({ scanner with
      level := { start := scanner.marks }
      outer := passage.flush scanner.marks scanner.level ::
        scanner.outer } : Scanner).hold pieces last letters seen
  have stands : inner.quoting = .outside := standing
  have within :
      inner.outer =
        passage.flush scanner.marks scanner.level :: scanner.outer :=
    rfl
  have closed := step_closing passage stands within
  rw [List.cons_append, scan_cons, scan_append, inside, opened]
  show passage.step inner ')' = _
  rw [closed]
  simp [Scanner.hold, flush_eq, counted, inner]

theorem contained_enclosed {letters : List Char} {seen : Nat}
    (contained : passage.Contained letters seen) :
    passage.Contained ('(' :: letters ++ [')']) seen := by
  intro word marks
  obtain ⟨pieces, last, scanned⟩ := contained [] marks
  refine ⟨passage.enclose (marks + seen)
      { pieces := passage.ended (marks + seen) last ++ pieces
        text := letters.reverse
        start := marks } :: passage.ended marks word,
    [], fun scanner standing begun counted => ?_⟩
  rw [scan_enclosed scanned scanner standing counted, begun]

end Passage

end Grammar

end RecordQuery
