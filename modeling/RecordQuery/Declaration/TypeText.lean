import RecordQuery.Declaration.Reading
import RecordQuery.Declaration.Token
import RecordQuery.Model

/-!
# The types of declared fields

A type is kept as its tokens and, for a path, its last name with the arguments. A field is a
relationship if its type is a path that ends in one of the three containers with a single type as its
argument.

The grammar of types is taken over from a parser of source text: which forms there are, in which order
they are tried, and in which order a printer gives their tokens back. Expressions, such as the length of
an array, are left out: their tokens stay as they stand, but for arguments after `::` in them.
-/

namespace RecordQuery.Declaration

/-- What an argument between angle brackets is. -/
inductive ArgumentKind where
  | lifetime
  | type
  | other
deriving DecidableEq

/-- An argument between angle brackets. -/
structure Argument where
  kind : ArgumentKind
  tokens : List Token

/-- A name of a path and its arguments between angle brackets, if it has any. -/
structure Segment where
  name : String
  arguments? : Option (List Argument) := none

/-- A type: its tokens and, for a path, its last name. It is `simple` if it is that name alone. -/
structure TypeText where
  tokens : List Token
  last? : Option Segment := none
  simple : Bool := false

/-- The kind of relationship that a container stands for. -/
def containerKind? : String → Option RelationKind
  | "HasOne" => some .hasOne
  | "HasMany" => some .hasMany
  | "BelongsTo" => some .belongsTo
  | _ => none

/-- The relationship that a type stands for: its kind and the related type. -/
def relationType? (type : TypeText) : Option (RelationKind × String) := do
  let last ← type.last?
  let kind ← containerKind? last.name
  match ← last.arguments? with
  | [argument] => if argument.kind = .type then some (kind, tokenText argument.tokens) else none
  | _ => none

/-!
## Arguments and bounds

The tokens of arguments between angle brackets are given in a settled order: lifetimes come first. The
types inside them are read as given, so that a reading of types can be made of readings of the types
inside.
-/

open Reading

/-- A reading of the types inside a type. With `plus` they may be sums of bounds. -/
abbrev TypeReading := (plus : Bool) → Reading TypeText

def beginsPath (token : Token) : Bool :=
  isName token || ["super", "self", "Self", "crate"].any token.isWord ||
    token.isMark "::" || token.isMark "<"

def beginsBound (token : Token) : Bool :=
  token.kind == .word || isLifetime token || token.kind == .opening .round ||
    token.kind == .opening .square || ["::", "?", "~"].any token.isMark

/-- Whether a token begins a literal; truth values do. -/
def beginsLiteral (token : Token) : Bool :=
  token.kind == .literal || token.isWord "true" || token.isWord "false"

/-- Whether a value comes next that may be an argument: a literal, a negative number or a block. -/
def upcomingValue : Reading Bool := do
  let negative := (← upcomingMark "-") && (← upcomingSecond (·.kind == .literal))
  return negative || (← upcoming fun token => beginsLiteral token || token.kind == .opening .curly)

/-- The names that `use` says are captured, lifetimes first. -/
def captured : Reading (List Token) := do
  let word ← take
  let opened ← mark "<"
  let list ← commaList (upcomingMark ">") take
  let closed ← mark ">"
  let leads (entry : List Token) : Bool := entry.any isLifetime
  return word ++ opened ++ leadersFirst leads id list ++ closed

section Parts

variable (type : TypeReading)

/-- A bound that names a trait. -/
def traitBound : Reading (List Token) := do
  let lifetimes ← binder
  let condition ←
    if ← upcoming (·.kind == .opening .square) then group .square everything
    else pure ((← takeIf (·.isMark "~")) ++ (← takeIf (·.isWord "const")))
  let question ← takeIf (·.isMark "?")
  if !(← upcoming beginsPath) then
    let _ ← nameWord
  return lifetimes ++ condition ++ question ++ (← type false).tokens

/-- A bound: a lifetime, the names that are captured, or a trait, perhaps in parentheses. -/
def bound : Reading (List Token) := do
  if ← upcoming isLifetime then take
  else if ← upcomingWord "use" then captured
  else if ← upcoming (·.kind == .opening .round) then group .round (traitBound type)
  else traitBound type

/-- Bounds with plus signs between them; only one unless `plus`. -/
def boundSum (plus : Bool) : Reading (List Token) := do
  sum plus beginsBound (bound type) ((← get).length + 1)

/-- A value that is an argument. -/
def value : Reading (List Token) := do
  if ← upcoming (·.kind == .opening .curly) then group .curly everything
  else return (← takeIf (·.isMark "-")) ++ (← take)

/-- An argument between angle brackets. A name alone may be assigned a value or a type, or be asked
for bounds. -/
def argument : Reading Argument := do
  if (← upcoming isLifetime) && !(← upcomingSecond (·.isMark "+")) then
    return ⟨.lifetime, ← take⟩
  if ← upcomingValue then return ⟨.other, ← value⟩
  let read ← type true
  if read.simple && (← upcomingMark "=") then
    let sign ← take
    let assigned ← if ← upcomingValue then value else pure (← type true).tokens
    return ⟨.other, read.tokens ++ sign ++ assigned⟩
  else if read.simple && (← upcomingMark ":") then
    let colon ← take
    let asked ← if ← upcoming beginsBound then boundSum type true else pure []
    return ⟨.other, read.tokens ++ colon ++ asked⟩
  else return ⟨.type, read.tokens⟩

/-- Arguments between angle brackets, with their tokens, lifetimes first. -/
def argumentList : Reading (List Argument × List Token) := do
  let opened ← mark "<"
  let list ← commaList (upcomingMark ">") (argument type)
  let closed ← mark ">"
  let settled := leadersFirst (fun entry => entry.kind == .lifetime) Argument.tokens list
  return (list.map Entry.value, opened ++ settled ++ closed)

/-- The tokens of an expression. Only the arguments after `::` in it have an order to settle. -/
def expression : (limit : Nat) → Reading (List Token)
  | 0 => everything
  | limit + 1 => do
    if ← atEnd then pure []
    else if (← upcomingMark "::") && (← upcomingSecond (·.isMark "<")) then
      let colons ← take
      let settled ← tryCatch (Prod.snd <$> argumentList type) fun _ => take
      return colons ++ settled ++ (← expression limit)
    else return (← take) ++ (← expression limit)

end Parts

/-!
## Paths

Names with `::` between them, each perhaps with arguments, after a type between angle brackets if they
begin with one. A path may be called with types in parentheses.
-/

section Paths

variable (type : TypeReading)

/-- A path: its tokens and its last name. It is `simple` if it is that name alone. -/
structure Path where
  tokens : List Token
  last : Segment
  simple : Bool

/-- A path after more tokens. -/
def Path.after (path : Path) (tokens : List Token) : Path :=
  { path with tokens := tokens ++ path.tokens, simple := path.simple && tokens.isEmpty }

/-- A name of a path, with the arguments between angle brackets after it. -/
def segment : Reading Path := do
  if ← upcoming fun token => ["super", "self", "crate", "try"].any token.isWord then
    let word ← take
    return ⟨word, ⟨tokenText word, none⟩, true⟩
  let word ← if ← upcomingWord "Self" then take else nameWord
  let joined := (← upcomingMark "::") && (← upcomingSecond (·.isMark "<"))
  let atOnce := (← upcomingMark "<") && !(← upcomingSecond (·.isMark "="))
  if joined || atOnce then
    let colons ← takeIf (·.isMark "::")
    let (list, tokens) ← argumentList type
    return ⟨word ++ colons ++ tokens, ⟨tokenText word, some list⟩, true⟩
  else return ⟨word, ⟨tokenText word, none⟩, true⟩

/-- The names of a path up to `::` before parentheses, at most `limit` after the first. -/
def segments : (limit : Nat) → Reading Path
  | 0 => segment type
  | limit + 1 => do
    let first ← segment type
    if (← upcomingMark "::") && !(← upcomingSecond (·.kind == .opening .round)) then
      let colons ← take
      return (← segments limit).after (first.tokens ++ colons)
    else return first

def path : Reading Path := do
  let colons ← takeIf (·.isMark "::")
  return (← segments type (← get).length).after colons

/-- A path that begins with a type between angle brackets. -/
def qualifiedPath : Reading Path := do
  let opened ← mark "<"
  let self ← type true
  let word ← takeIf (·.isWord "as")
  let trait ← if word.isEmpty then pure [] else Path.tokens <$> path type
  let closed ← mark ">"
  let colons ← mark "::"
  return (← segments type (← get).length).after
    (opened ++ self.tokens ++ word ++ trait ++ closed ++ colons)

/-- The type after an arrow, if one comes next. -/
def result : Reading (List Token) := do
  if ← upcomingMark "->" then
    let arrow ← take
    return arrow ++ (← type false).tokens
  else pure []

/-- The types in parentheses that a path is called with, and their result. Colons before them are left
out. -/
def call : Reading (List Token) := do
  let _ ← takeIf (·.isMark "::")
  let content ← group .round do
    return entryTokens (← commaList atEnd do return (← type true).tokens)
  return content ++ (← result type)

end Paths

/-!
## Forms of types

Paths, functions, tuples, arrays, pointers, references, bounds and calls of macros. `readType` reads
any of them.
-/

section Forms

variable (type : TypeReading)

/-- What a type begins with. -/
def typeStarts : String :=
  "one of: `for`, parentheses, `fn`, `unsafe`, `extern`, identifier, `::`, `<`, `dyn`, " ++
    "square brackets, `*`, `&`, `!`, `impl`, `_`, lifetime"

/-- A parameter of a function type: a type that a name may stand before, or dots for any others. -/
def functionParameter : Reading (List Token) := do
  let notes ← attributeTokens
  let dot ← takeIf (·.isMark ".")
  if !dot.isEmpty then return notes ++ dot ++ (← mark ".") ++ (← mark ".")
  let named := (← upcoming (·.kind == .word)) && (← upcomingSecond (·.isMark ":"))
  let label ← if named then pure ((← take) ++ (← take)) else pure []
  return notes ++ label ++ (← type true).tokens

def functionType : Reading (List Token) := do
  let safety ← takeIf (·.isWord "unsafe")
  let linkage ← takeIf (·.isWord "extern")
  let convention ← if linkage.isEmpty then pure [] else takeIf (·.kind == .literal)
  if !(← upcomingWord "fn") then expected (sourceQuoted "fn")
  let word ← take
  let content ← group .round do
    return entryTokens (← commaList atEnd (functionParameter type))
  return safety ++ linkage ++ convention ++ word ++ content ++ (← result type)

/-- A type in parentheses, or any number of them with commas. -/
def parenthesized : Reading (List Token) := do
  let content ← group .round do
    if ← atEnd then pure []
    else if ← upcomingMark "?" then traitBound type
    else
      let first := (← type true).tokens
      let comma ← takeIf (·.isMark ",")
      if comma.isEmpty then return first
      let others ← commaList atEnd do return (← type true).tokens
      return first ++ comma ++ entryTokens others
  let plus ← takeIf (·.isMark "+")
  if plus.isEmpty then return content else return content ++ plus ++ (← boundSum type true)

/-- A slice or an array. -/
def bracketed : Reading (List Token) := do
  group .square do
    let item ← type true
    let semicolon ← takeIf (·.isMark ";")
    if semicolon.isEmpty then return item.tokens
    if ← atEnd then expected "an expression"
    return item.tokens ++ semicolon ++ (← expression type (← get).length)

/-- A group in any brackets, as it stands. -/
def anyGroup : Reading (List Token) := do
  match (← get).head? with
  | some ⟨.opening bracket, _⟩ => group bracket everything
  | _ => expected "delimiter"

/-- The call after a path, if parentheses come next, and the names after the call. -/
def called (start : Path) : Reading (Path × Bool) := do
  let round (token : Token) : Bool := token.kind == .opening .round
  let joined := (← upcomingMark "::") && (← upcomingSecond round)
  if start.last.arguments?.isNone && (joined || (← upcoming round)) then
    let call ← call type
    if ← upcomingMark "::" then
      let colons ← take
      return ((← segments type (← get).length).after (start.tokens ++ call ++ colons), false)
    else return ({ start with tokens := start.tokens ++ call, simple := false }, true)
  else return (start, false)

/-- A type that begins with a path: the path itself, the call of a macro, or bounds. -/
def pathType (lifetimes : List Token) (plus : Bool) : Reading TypeText := do
  let qualified ← upcomingMark "<"
  let (path, isCall) ← called type (← if qualified then qualifiedPath type else path type)
  let plain := path.tokens.all fun token => token.kind == .word || token.isMark "::"
  if plain && (← upcomingMark "!") && !(← upcomingSecond (·.isMark "=")) then
    return ⟨path.tokens ++ (← take) ++ (← anyGroup), none, false⟩
  let sum ← if plus && !qualified then takeIf (·.isMark "+") else pure []
  let more ← if !sum.isEmpty && (← upcoming beginsBound) then boundSum type true else pure []
  let whole := lifetimes ++ path.tokens ++ sum ++ more
  if lifetimes.isEmpty && sum.isEmpty then
    return ⟨whole, if isCall then none else some path.last, path.simple⟩
  else return ⟨whole, none, false⟩

/-- Bounds of which one has to be a trait. -/
def traitSum (plus : Bool) : Reading (List Token) := do
  let tokens ← boundSum type plus
  if tokens.all fun token => isLifetime token || token.isMark "+" then throw .noTrait
  return tokens

/-- A type, where the types inside it are read as given. -/
def typeForm (plus : Bool) : Reading TypeText := do
  let lifetimes ← binder
  let plain (reading : Reading (List Token)) : Reading TypeText := return ⟨← reading, none, false⟩
  if ← upcoming fun token => ["fn", "unsafe", "extern"].any token.isWord then
    plain do return lifetimes ++ (← functionType type)
  else if ← upcoming beginsPath then pathType type lifetimes plus
  else if ← upcoming (·.kind == .opening .round) then plain (parenthesized type)
  else if ← upcoming (·.kind == .opening .square) then plain (bracketed type)
  else if ← upcomingWord "dyn" then
    plain do return (← take) ++ (← takeIf (·.isMark "*")) ++ (← traitSum type plus)
  else if ← upcomingWord "impl" then plain do return (← take) ++ (← boundSum type plus)
  else if ← upcomingMark "*" then
    plain do
      let star ← take
      let kind ← takeIf fun token => token.isWord "const" || token.isWord "mut"
      if kind.isEmpty then expected "`const` or `mut`"
      return star ++ kind ++ (← type false).tokens
  else if ← upcomingMark "&" then
    plain do
      let sign ← take
      let life ← takeIf isLifetime
      let change ← takeIf (·.isWord "mut")
      return sign ++ life ++ change ++ (← type false).tokens
  else if (← upcomingMark "!") || (← upcomingWord "_") then plain take
  else if ← upcoming isLifetime then plain (traitSum type plus)
  else expected typeStarts

end Forms

/-- A type with at most `depth` types around one another. -/
def typeReading : (depth : Nat) → TypeReading
  | 0 => fun _ => expected typeStarts
  | depth + 1 => typeForm (typeReading depth)

/-- A type. Each type inside another follows a token of the outer one, so that no type is deeper than
the tokens are many. -/
def readType : Reading TypeText := do
  typeReading ((← get).length + 1) true

end RecordQuery.Declaration
