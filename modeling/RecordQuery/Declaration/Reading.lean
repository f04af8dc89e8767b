import RecordQuery.Declaration.Token

/-!
# Reading tokens from the front

A reading gives what it has read and leaves the other tokens, or finds the fault that nothing can be
read. Taken over from a parser of source text are the reserved words, lists with commas, groups in
brackets and the wording of what was expected; where in the text a fault lies is left out.
-/

namespace RecordQuery.Declaration

/-! ## Why nothing can be derived -/

/-- Why nothing can be derived from a declaration. The first few concern its source text; `atEnd` says
that the text, or the group of it that was read, came to its end. -/
inductive Fault where
  | unreadable
  | expected (wanted : String) (atEnd : Bool)
  | expectedMark (mark : String)
  | reservedName (word : String)
  | leftover (group? : Option Bracket)
  | noTrait
  | literalAsItem
  | markAsItem
  | unknownItem
  | unknownFieldItem
  | genericModel
  | notRecord (derived : String)
  | unnamedFields (derived : String)
  | columnItemOnRelation
  | keyItemOnColumn
  | noColumn

/-- A text between the quotes that set off source text. -/
def sourceQuoted (text : String) : String :=
  "`" ++ text ++ "`"

def Fault.message : Fault → String
  | .unreadable => "cannot parse string into token stream"
  | .expected wanted atEnd => (if atEnd then "unexpected end of input, " else "") ++ "expected " ++ wanted
  | .expectedMark mark => "expected " ++ sourceQuoted mark
  | .reservedName word => "expected identifier, found keyword " ++ sourceQuoted word
  | .leftover none => "unexpected token"
  | .leftover (some group) =>
    "unexpected token, expected " ++ sourceQuoted (String.ofList [group.letters.2])
  | .noTrait => "at least one trait is required for an object type"
  | .literalAsItem => "unexpected literal in nested attribute, expected ident"
  | .markAsItem => "unexpected token in nested attribute, expected ident"
  | .unknownItem => "unknown struct attribute; expected `table` or `scopes`"
  | .unknownFieldItem => "unknown field attribute"
  | .genericModel => "Model cannot be derived for generic structs"
  | .notRecord derived => derived ++ " can only be derived for structs"
  | .unnamedFields derived => derived ++ " can only be derived for structs with named fields"
  | .columnItemOnRelation => "column attributes cannot be used on a relationship field"
  | .keyItemOnColumn =>
    "`local`, `foreign` and `owner` only apply to HasOne, HasMany and BelongsTo fields"
  | .noColumn => "Model requires at least one column field"

/-! ## Readings -/

/-- A reading of tokens. -/
abbrev Reading := StateT (List Token) (Except Fault)

namespace Reading

variable {α : Type}

/-! ### Single tokens -/

def atEnd : Reading Bool :=
  return (← get).isEmpty

/-- Whether the next token passes a test. -/
def upcoming (test : Token → Bool) : Reading Bool :=
  return (← get).head?.any test

/-- Whether the token after the next passes a test. -/
def upcomingSecond (test : Token → Bool) : Reading Bool :=
  return (← get)[1]?.any test

def upcomingMark (letters : String) : Reading Bool :=
  upcoming (·.isMark letters)

def upcomingWord (letters : String) : Reading Bool :=
  upcoming (·.isWord letters)

def take : Reading (List Token) :=
  modifyGet fun tokens => (tokens.take 1, tokens.drop 1)

/-- The next token if it passes a test. -/
def takeIf (test : Token → Bool) : Reading (List Token) := do
  if ← upcoming test then take else pure []

/-- All tokens that are left. -/
def everything : Reading (List Token) :=
  modifyGet fun tokens => (tokens, [])

/-- The fault that something else was wanted. -/
def expected (wanted : String) : Reading α := do
  throw (.expected wanted (← atEnd))

/-- A mark that has to come next. -/
def mark (letters : String) : Reading (List Token) := do
  if ← upcomingMark letters then take else throw (.expectedMark letters)

/-! ### Names -/

/-- The words that are no names. -/
def reservedWords : List String :=
  ["_", "abstract", "as", "async", "await", "become", "box", "break", "const", "continue", "crate",
    "do", "dyn", "else", "enum", "extern", "false", "final", "fn", "for", "if", "impl", "in", "let",
    "loop", "macro", "match", "mod", "move", "mut", "override", "priv", "pub", "ref", "return",
    "Self", "self", "static", "struct", "super", "trait", "true", "try", "type", "typeof", "unsafe",
    "unsized", "use", "virtual", "where", "while", "yield"]

/-- Whether a token is a word that may be a name. -/
def isName (token : Token) : Bool :=
  token.kind == .word && !reservedWords.contains (String.ofList token.letters)

def nameWord : Reading (List Token) := do
  match (← get).head? with
  | some token =>
    if token.kind ≠ .word then expected "identifier"
    else if isName token then take
    else throw (.reservedName (String.ofList token.letters))
  | none => expected "identifier"

/-! ### Groups and lists -/

/-- The tokens before the bracket that closes the group they stand in, and those after it. -/
def splitGroup : (depth : Nat) → List Token → List Token × List Token
  | _, [] => ([], [])
  | depth, token :: rest =>
    match token.kind, depth with
    | .closing _, 0 => ([], rest)
    | .closing _, outer + 1 => let (inside, after) := splitGroup outer rest; (token :: inside, after)
    | .opening _, _ =>
      let (inside, after) := splitGroup (depth + 1) rest
      (token :: inside, after)
    | _, _ => let (inside, after) := splitGroup depth rest; (token :: inside, after)

/-- What a group in brackets is called where it is wanted. -/
def groupName : Bracket → String
  | .round => "parentheses"
  | .square => "square brackets"
  | .curly => "curly braces"

/-- A group, whose tokens the inner reading has to use up. -/
def group (bracket : Bracket) (inner : Reading (List Token)) : Reading (List Token) := do
  if ← upcoming (·.kind == .opening bracket) then
    let (inside, after) := splitGroup 0 ((← get).drop 1)
    let (read, left) ← inner.run inside
    if !left.isEmpty then throw (.leftover bracket)
    set after
    pure (Token.opening bracket :: (read ++ [Token.closing bracket]))
  else expected (groupName bracket)

/-- Runs a reading over all tokens of a list. -/
def runAll (reading : Reading α) (tokens : List Token) : Except Fault α := do
  let (read, left) ← reading.run tokens
  if left.isEmpty then pure read else throw (.leftover none)

/-- An entry of a list, with the comma after it if there is one. -/
structure Entry (α : Type) where
  value : α
  comma : List Token

/-- Entries with commas between them and perhaps one at the end, up to where `done` says so. There are
no more of them than `limit`. -/
def entries (done : Reading Bool) (entry : Reading α) : (limit : Nat) → Reading (List (Entry α))
  | 0 => pure []
  | limit + 1 => do
    if ← done then return []
    let value ← entry
    if ← done then return [⟨value, []⟩]
    let comma ← mark ","
    return ⟨value, comma⟩ :: (← entries done entry limit)

/-- Entries up to where `done` says so. -/
def commaList (done : Reading Bool) (entry : Reading α) : Reading (List (Entry α)) := do
  entries done entry ((← get).length + 1)

/-- The tokens of a list. -/
def entryTokens (list : List (Entry (List Token))) : List Token :=
  list.flatMap fun entry => entry.value ++ entry.comma

/-- The tokens of a list with those first that `leads` tells apart. A comma is put between the two
parts if none stands there. -/
def leadersFirst (leads : α → Bool) (tokens : α → List Token) (list : List (Entry α)) : List Token :=
  let written (part : List (Entry α)) : List Token :=
    part.flatMap fun entry => tokens entry.value ++ entry.comma
  let leaders := list.filter fun entry => leads entry.value
  let others := list.filter fun entry => !leads entry.value
  let bare := leaders.getLast?.any fun entry => entry.comma.isEmpty
  written leaders ++ (if !others.isEmpty && bare then [Token.mark ","] else []) ++ written others

/-- Bounds with plus signs between them; only one unless `plus`. A plus sign may stand at the end,
before what begins no bound. -/
def sum (plus : Bool) (beginsBound : Token → Bool) (bound : Reading (List Token)) :
    (limit : Nat) → Reading (List Token)
  | 0 => pure []
  | limit + 1 => do
    let first ← bound
    if plus && (← upcomingMark "+") then
      let sign ← take
      if ← upcoming beginsBound then
        return first ++ sign ++ (← sum plus beginsBound bound limit)
      else return first ++ sign
    else return first

end Reading

/-!
## Lifetimes and attributes

Lifetimes with their bounds, and the attributes before parts of a declaration.
-/

open Reading

/-- The attributes before a part of a declaration, at most `limit` of them. -/
def attributeRun : (limit : Nat) → Reading (List Token)
  | 0 => pure []
  | limit + 1 => do
    if (← upcomingMark "#") && (← upcomingSecond (·.kind == .opening .square)) then
      let sign ← take
      let content ← group .square everything
      return sign ++ content ++ (← attributeRun limit)
    else pure []

def attributeTokens : Reading (List Token) := do
  attributeRun (← get).length

def isLifetime (token : Token) : Bool :=
  token.kind == .lifetime

def lifetime : Reading (List Token) := do
  if ← upcoming isLifetime then take else expected "lifetime"

/-- A colon and the bounds after it; a colon without bounds is left out. -/
def bounds (beginsBound : Token → Bool) (bound : Reading (List Token)) : Reading (List Token) := do
  let colon ← takeIf (·.isMark ":")
  if !colon.isEmpty && (← upcoming beginsBound) then
    return colon ++ (← sum true beginsBound bound ((← get).length + 1))
  else pure []

/-- The lifetimes that `for` introduces, if it comes next. -/
def binder : Reading (List Token) := do
  if ← upcomingWord "for" then
    let word ← take
    let opened ← mark "<"
    let list ← commaList (upcomingMark ">") do return (← attributeTokens) ++ (← lifetime)
    let closed ← mark ">"
    return word ++ opened ++ entryTokens list ++ closed
  else pure []

end RecordQuery.Declaration
