import RecordQuery.Declaration.Literal
import RecordQuery.Declaration.Token
import RecordQuery.Text.Debug

/-!
# The tokens of source text

`readTokens?` gives the tokens of a text in which every bracket is closed. The lexer is that of source
text at large: blanks and comments separate tokens, comments nest, and those that document something
stand for attributes. A text that it refuses has no tokens; at which letter is not told.
-/

namespace RecordQuery.Declaration

/-!
## Comments

A comment that documents something stands for an attribute with its text; any other stands for
nothing.
-/

/-- How many of the letters stand before the end of the line. -/
def lineSize : List Char → Nat
  | [] => 0
  | '\n' :: _ => 0
  | '\r' :: '\n' :: _ => 0
  | _ :: rest => 1 + lineSize rest

/-- How many letters a block comment takes after its opening, with its end; `depth` comments inside it
are open. -/
def blockSize? : (depth : Nat) → List Char → Option Nat
  | _, [] => none
  | depth, '/' :: '*' :: rest => (blockSize? (depth + 1) rest).map (· + 2)
  | 0, '*' :: '/' :: _ => some 2
  | depth + 1, '*' :: '/' :: rest => (blockSize? depth rest).map (· + 2)
  | depth, _ :: rest => (blockSize? depth rest).map (· + 1)

/-- A comment: how many letters it takes after its slash, and the tokens that it stands for. -/
structure Comment where
  size : Nat
  tokens : List Token := []

/-- The attribute that a documenting comment stands for; `inner` if it documents what encloses it. -/
def documentation (inner : Bool) (text : List Char) : List Token :=
  let escaped := text.flatMap fun letter =>
    if letter = '\'' then [letter] else Text.debugLetter letter
  (if inner then [.mark "#", .mark "!"] else [.mark "#"]) ++
    [.opening .square, ⟨.word, "doc".toList⟩, .mark "=", ⟨.literal, '"' :: (escaped ++ ['"'])⟩,
      .closing .square]

/-- The comment that letters after a slash begin. A third slash or a second star, but no more of them,
documents what follows; an exclamation mark documents what encloses. -/
def comment? : List Char → Option Comment
  | '/' :: rest =>
    let size := lineSize rest
    match rest.take size with
    | '!' :: text => some ⟨1 + size, documentation true text⟩
    | '/' :: '/' :: _ => some ⟨1 + size, []⟩
    | '/' :: text => some ⟨1 + size, documentation false text⟩
    | _ => some ⟨1 + size, []⟩
  | '*' :: rest =>
    (blockSize? 0 rest).map fun size =>
      match rest.take (size - 2), rest with
      | '!' :: text, _ => ⟨1 + size, documentation true text⟩
      | _, '*' :: '*' :: _ => ⟨1 + size, []⟩
      | '*' :: text, _ => ⟨1 + size, documentation false text⟩
      | _, _ => ⟨1 + size, []⟩
  | _ => none

/-! ## Tokens -/

/-- The characters that are marks by themselves. -/
def markLetters : List Char :=
  "~!@#$%^&*-=+|;:,<.>/?".toList

/-- The kind of the token that a letter begins and how many of the following letters belong to it. -/
def Token.extent? (first : Char) (rest : List Char) : Option (TokenKind × Nat) :=
  match literalSize? first rest with
  | some size => some (.literal, size)
  | none =>
    if isNameStart first then (wordSize? first rest).map fun size => (.word, size)
    else if first = '\'' then (lifetimeSize? rest).map fun size => (.lifetime, size)
    else
      match Bracket.all.find? (·.letters.1 == first), Bracket.all.find? (·.letters.2 == first) with
      | some bracket, _ => some (.opening bracket, 0)
      | _, some bracket => some (.closing bracket, 0)
      | none, none =>
        match first, rest with
        | '/', '*' :: _ => none
        | ':', ':' :: _ => some (.mark, 1)
        | '-', '>' :: _ => some (.mark, 1)
        | _, _ => if markLetters.contains first then some (.mark, 0) else none

/-- Blanks and the marks of writing direction separate tokens. -/
def isSeparator (letter : Char) : Bool :=
  Text.isBlank letter || letter == '\u200e' || letter == '\u200f'

/-- The tokens of a text, if it consists of tokens. -/
def tokens? : List Char → Option (List Token)
  | [] => some []
  | letter :: rest =>
    if isSeparator letter then tokens? rest
    else
      match if letter = '/' then comment? rest else none with
      | some comment => (tokens? (rest.drop comment.size)).map (comment.tokens ++ ·)
      | none =>
        match Token.extent? letter rest with
        | some (kind, size) =>
          (tokens? (rest.drop size)).map (⟨kind, letter :: rest.take size⟩ :: ·)
        | none => none
termination_by letters => letters.length
decreasing_by
  all_goals simp only [List.length_cons, List.length_drop]
  all_goals omega

/-- Whether every bracket is closed by its partner, where `awaited` brackets are open. -/
def balanced : (awaited : List Bracket) → List Token → Bool
  | awaited, [] => awaited.isEmpty
  | awaited, token :: rest =>
    match token.kind, awaited with
    | .opening bracket, awaited => balanced (bracket :: awaited) rest
    | .closing bracket, last :: outer => bracket == last && balanced outer rest
    | .closing _, [] => false
    | _, awaited => balanced awaited rest

/-- The tokens of a text in which every bracket is closed. The text may begin with a byte order
mark. -/
def readTokens? (text : String) : Option (List Token) :=
  let letters := if text.toList.head? = some '\ufeff' then text.toList.drop 1 else text.toList
  (tokens? letters).filter (balanced [])

end RecordQuery.Declaration
