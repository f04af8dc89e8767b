import RecordQuery.Dialect
import RecordQuery.Error

/-!
# Identifiers

Dotted paths of plain names, names in double quotes, and a star in the last place. `Ident.parse` reads
letter by letter; what it refuses it names by a `Fault`.
-/

namespace RecordQuery

namespace Ident

/-- One part of a path. -/
inductive Part where
  | plain (name : String)
  | quoted (name : String)
  | star
deriving DecidableEq, Repr

/-- What is wrong with a text that is no identifier. -/
inductive Fault where
  | empty
  | nul
  | afterStar
  | trailingDot
  | missingDot (letter : Char)
  | unclosed
  | emptyQuoted
  | invalidLetter (letter : Char)
  | emptySegment
deriving DecidableEq

def Fault.message (text : String) : Fault → String
  | .empty => "Identifier cannot be empty"
  | .nul => "Identifier cannot contain NUL character"
  | .afterStar => "'*' must be the last part of '" ++ text ++ "'"
  | .trailingDot => "Trailing '.' in identifier"
  | .missingDot letter =>
    "Expected '.' between identifier parts, got '" ++ letter.toString ++ "'"
  | .unclosed => "Unclosed quoted identifier"
  | .emptyQuoted => "Empty quoted identifier"
  | .invalidLetter letter =>
    "Invalid character '" ++ letter.toString ++ "' in identifier '" ++ text ++ "'"
  | .emptySegment => "Empty identifier segment"

/-- The letters that a plain name may start with. -/
def startsName (letter : Char) : Bool :=
  letter == '_' || letter.isAlpha

/-- The letters that a plain name may go on with. -/
def continuesName (letter : Char) : Bool :=
  letter == '_' || letter == '$' || letter.isAlphanum

/-- Where in a part the reader stands. Names are held backwards; `closing` is after a quote that ends
the name unless another follows. -/
inductive Stage where
  | start
  | plain (name : List Char)
  | quoted (name : List Char)
  | closing (name : List Char)
  | star

/-- The parts of the letters that are left. -/
def read : Stage → List Char → Except Fault (List Part)
  | .start, [] => .error .trailingDot
  | .start, letter :: rest =>
    if letter = '*' then read .star rest
    else if letter = '"' then read (.quoted []) rest
    else if letter = '.' then .error .emptySegment
    else if startsName letter then read (.plain [letter]) rest
    else .error (.invalidLetter letter)
  | .plain name, [] => .ok [.plain (String.ofList name.reverse)]
  | .plain name, letter :: rest =>
    if letter = '.' then
      (read .start rest).map (.plain (String.ofList name.reverse) :: ·)
    else if continuesName letter then read (.plain (letter :: name)) rest
    else .error (.invalidLetter letter)
  | .quoted _, [] => .error .unclosed
  | .quoted name, letter :: rest =>
    if letter = '"' then read (.closing name) rest else read (.quoted (letter :: name)) rest
  | .closing [], [] => .error .emptyQuoted
  | .closing name, [] => .ok [.quoted (String.ofList name.reverse)]
  | .closing name, letter :: rest =>
    if letter = '"' then read (.quoted ('"' :: name)) rest
    else if name.isEmpty then .error .emptyQuoted
    else if letter = '.' then
      (read .start rest).map (.quoted (String.ofList name.reverse) :: ·)
    else .error (.missingDot letter)
  | .star, [] => .ok [.star]
  | .star, _ :: _ => .error .afterStar

end Ident

/-- A path of parts. -/
structure Ident where
  parts : List Ident.Part
deriving DecidableEq, Repr

namespace Ident

/-- The identifier that a text writes. -/
def parse (text : String) : Except Fault Ident :=
  let letters := text.toList
  if letters.isEmpty then .error .empty
  else if letters.contains '\x00' then .error .nul
  else (read .start letters).map Ident.mk

def isWildcard (ident : Ident) : Bool :=
  ident.parts.getLast? == some .star

/-- A part in a dialect's quotes. -/
def Part.render (dialect : Dialect) : Part → String
  | .plain name | .quoted name => dialect.quoteName name
  | .star => "*"

def render (dialect : Dialect) (ident : Ident) : String :=
  String.intercalate "." (ident.parts.map (Part.render dialect))

/-- Reads a text and writes it in a dialect's quotes. -/
def quote (dialect : Dialect) (text : String) : Except Error String :=
  match parse text with
  | .ok ident => .ok (ident.render dialect)
  | .error fault => .error (.invalidIdentifier (fault.message text))

end Ident

end RecordQuery
