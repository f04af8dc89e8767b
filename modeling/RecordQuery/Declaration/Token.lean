import RecordQuery.Text.Basic

/-!
# Tokens

The words, lifetimes, literals, marks and brackets that source text consists of. Taken over from a lexer
of source text is how it is cut into them; of marks only two pairs are read as one, and where a token
stands is left out.
-/

namespace RecordQuery.Declaration

/-- The brackets of groups. -/
inductive Bracket where
  | round
  | square
  | curly
deriving DecidableEq, Repr

namespace Bracket

/-- The letters that open and close a group. -/
def letters : Bracket → Char × Char
  | round => ('(', ')')
  | square => ('[', ']')
  | curly => ('\x7b', '\x7d')

def all : List Bracket :=
  [round, square, curly]

end Bracket

/-- What a token is. -/
inductive TokenKind where
  | word
  | lifetime
  | literal
  | mark
  | opening (bracket : Bracket)
  | closing (bracket : Bracket)
deriving DecidableEq, Repr

/-- A token and its letters. A mark is one character, or one of the pairs `::` and `->`. -/
structure Token where
  kind : TokenKind
  letters : List Char
deriving DecidableEq, Repr

namespace Token

def isMark (token : Token) (letters : String) : Bool :=
  token.kind == .mark && token.letters == letters.toList

def isWord (token : Token) (letters : String) : Bool :=
  token.kind == .word && token.letters == letters.toList

def mark (letters : String) : Token :=
  ⟨.mark, letters.toList⟩

def opening (bracket : Bracket) : Token :=
  ⟨.opening bracket, [bracket.letters.1]⟩

def closing (bracket : Bracket) : Token :=
  ⟨.closing bracket, [bracket.letters.2]⟩

end Token

/-- The text of tokens without any blanks. -/
def tokenText (run : List Token) : String :=
  String.ofList ((run.flatMap Token.letters).filter fun letter => !Text.isBlank letter)

end RecordQuery.Declaration
