import RecordQuery.Proofs.Grammar.Term
import RecordQuery.Proofs.Text.Quotes
import RecordQuery.Text.Basic

/-!
# From letters to pieces

A compiled text is scanned letter by letter.  Blanks and commas end a word,
parentheses enclose pieces of their own, and what stands between quotes belongs
to its word.  A word is a name, a placeholder, a number or just a word; a
placeholder stands for the value that was bound for it.
-/

namespace RecordQuery

namespace Grammar

/-- A compiled text to be read, with the placeholders that were taken before
it. -/
structure Passage where
  dialect : Dialect
  count : Nat
  compiled : Compiled

/-- What has been scanned between one pair of parentheses, from the last letter
and piece to the first: pieces, the word that is not ended yet, and all of the
text.  `start` placeholders were seen before it. -/
structure Level where
  pieces : List Piece := []
  word : List Char := []
  text : List Char := []
  start : Nat := 0

/-- The innermost level, those around it, and how many placeholders were
seen. -/
structure Scanner where
  level : Level := {}
  outer : List Level := []
  quoting : Quoting := .outside
  marks : Nat := 0

/-! ## Words -/

/-- Where a reader of a quoted path stands: at a name, in one, or after a quote
that ends it unless another follows. -/
inductive PathStage where
  | start
  | inside (name : List Char)
  | closing (name : List Char)

/-- The names of a path whose names stand in quotes. -/
def path? (quote : Char) : PathStage → List Char → Option (List Ident.Part)
  | .start, letter :: rest =>
      if letter = quote then path? quote (.inside []) rest else none
  | .start, [] => none
  | .inside _, [] => none
  | .inside name, letter :: rest =>
      if letter = quote then path? quote (.closing name) rest
      else path? quote (.inside (letter :: name)) rest
  | .closing name, [] => some [.quoted (String.ofList name.reverse)]
  | .closing name, letter :: rest =>
      if letter = quote then path? quote (.inside (quote :: name)) rest
      else if letter = '.' then
        (path? quote .start rest).map
          (.quoted (String.ofList name.reverse) :: ·)
      else none

/-- The letter that placeholders of a dialect start with. -/
def markLetter (dialect : Dialect) : Char :=
  if dialect = .postgres then '$' else '?'

namespace Passage

variable (passage : Passage)

/-- The value that a word stands for: the next one for a question mark, and the
one of its number for a numbered placeholder. -/
def value? (marks : Nat) (word : List Char) : Option Value :=
  match passage.dialect, word with
  | .postgres, '$' :: digits => do
      let number ← Text.digitsNumber? digits
      if passage.count < number then
        passage.compiled.bindings[number - passage.count - 1]?
      else none
  | .postgres, _ => none
  | _, word =>
      if word = ['?'] then passage.compiled.bindings[marks - 1]? else none

/-- The piece that a word is. -/
def piece (marks : Nat) (word : List Char) : Piece :=
  match passage.value? marks word with
  | some value => .operand (.value value)
  | none =>
      match path? passage.dialect.nameQuote .start word with
      | some path => .operand (.column path)
      | none =>
          if word.all Char.isDigit then
            .operand (.number (String.ofList word))
          else .word (String.ofList word)

/-! ## Letters -/

/-- The level with its word ended. -/
def flush (marks : Nat) (level : Level) : Level :=
  if level.word.isEmpty then level
  else
    { level with
      pieces := passage.piece marks level.word.reverse :: level.pieces
      word := [] }

/-- What a level encloses, as one piece. -/
def enclose (marks : Nat) (level : Level) : Piece :=
  let inside := level.pieces.reverse
  .enclosed
    ⟨String.ofList level.text.reverse,
      (passage.compiled.bindings.take marks).drop level.start⟩
    inside (Piece.alternatives? inside)

/-- A letter outside of quotes. -/
def stepOutside (scanner : Scanner) (letter : Char) : Scanner :=
  let level := passage.flush scanner.marks scanner.level
  if letter = ' ' then
    { scanner with level := { level with text := letter :: level.text } }
  else if letter = ',' then
    { scanner with
      level :=
        { level with
          pieces := .comma :: level.pieces
          text := letter :: level.text } }
  else if letter = '(' then
    { scanner with
      level := { start := scanner.marks }
      outer := level :: scanner.outer }
  else
    match letter, scanner.outer with
    | ')', around :: outer =>
        { scanner with
          level :=
            { around with
              pieces := passage.enclose scanner.marks level :: around.pieces
              text := ')' :: (level.text ++ '(' :: around.text) }
          outer }
    | _, _ =>
        { scanner with
          level :=
            { scanner.level with
              word := letter :: scanner.level.word
              text := letter :: scanner.level.text }
          marks :=
            if letter = markLetter passage.dialect then scanner.marks + 1
            else scanner.marks }

/-- A letter that opens quotes, stands in them or closes them belongs to the
word. -/
def step (scanner : Scanner) (letter : Char) : Scanner :=
  let quoting := scanner.quoting.next passage.dialect letter
  if scanner.quoting = .outside ∧ quoting = .outside then
    passage.stepOutside scanner letter
  else
    { scanner with
      quoting
      level :=
        { scanner.level with
          word := letter :: scanner.level.word
          text := letter :: scanner.level.text } }

def scan (scanner : Scanner) (letters : List Char) : Scanner :=
  letters.foldl passage.step scanner

/-- The conditions that the whole text writes; none at all are written by no
text. -/
def read : Option Alternatives :=
  let scanner := passage.scan {} passage.compiled.sql.toList
  let level := passage.flush scanner.marks scanner.level
  if scanner.quoting = .outside ∧ scanner.outer.isEmpty then
    if level.pieces.isEmpty then some []
    else Piece.alternatives? level.pieces.reverse
  else none

end Passage

end Grammar

end RecordQuery
