import RecordQuery.Ident
import RecordQuery.Value

/-!
# Pieces of SQL

A fragment is laid out from left to right; compiling it for a dialect gives its text and, in the same
order, the values that its placeholders stand for. Placeholders are numbered by a counter that runs
through the whole statement, sub-queries included, and is not set back when a fragment fails.
-/

namespace RecordQuery

/-- A piece of SQL. `joined` puts a separator between two sides that both have text, `led` puts a
keyword before a body and vanishes with it, `unlimited` is the dialect's argument of LIMIT that sets
no limit, and `refused` is a part that cannot be compiled. -/
inductive Fragment where
  | name (path : String)
  | raw (sql : String) (bindings : List Value)
  | bound (value : Value)
  | group (inner : Fragment)
  | joined (separator : String) (left right : Fragment)
  | led (keyword : String) (body : Fragment)
  | unlimited
  | refused (cause : Error)

/-- Text with the values of its placeholders. -/
structure Compiled where
  sql : String := ""
  bindings : List Value := []

namespace Compiled

def isEmpty (compiled : Compiled) : Bool :=
  compiled.sql.isEmpty

/-- Appends text with a separator where both sides have text; what has no text is dropped whole. -/
def push (compiled : Compiled) (separator : String) (next : Compiled) : Compiled :=
  if next.isEmpty then compiled
  else
    let start := if compiled.isEmpty then "" else compiled.sql ++ separator
    ⟨start ++ next.sql, compiled.bindings ++ next.bindings⟩

end Compiled

/-- A computation that counts placeholders. The count outlives a failure. -/
abbrev Compiler := ExceptT Error (StateM Nat)

namespace Compiler

def placeholder (dialect : Dialect) : Compiler String := do
  let number := (← get) + 1
  set number
  pure (dialect.placeholder number)

/-- What a compiler shows of itself when printed. -/
def debugText (dialect : Dialect) (count : Nat) : String :=
  "Compiler \x7b dialect: \"" ++ dialect.name ++ "\", placeholders: " ++ toString count ++ " \x7d"

end Compiler

namespace Fragment

/-- Text without values. -/
def text (sql : String) : Fragment :=
  .raw sql []

def nothing : Fragment :=
  .text ""

/-- Parts in order, with a separator between those that have text. -/
def join (separator : String) (parts : List Fragment) : Fragment :=
  parts.foldl (.joined separator) nothing

/-- The letters with placeholders for the first question marks, one for each pending value, numbered
after `count`; further question marks stay. -/
def fill (dialect : Dialect) : (count pending : Nat) → List Char → List Char
  | _, _, [] => []
  | count, 0, letter :: rest => letter :: fill dialect count 0 rest
  | count, pending + 1, letter :: rest =>
    if letter = '?' then
      (dialect.placeholder (count + 1)).toList ++ fill dialect (count + 1) pending rest
    else letter :: fill dialect count (pending + 1) rest

/-- Raw text takes a placeholder for each question mark while values are left, and must place them
all. -/
def compileRaw (dialect : Dialect) (sql : String) (bindings : List Value) : Compiler Compiled := do
  let count ← get
  let used := min (sql.toList.count '?') bindings.length
  set (count + used)
  if used = bindings.length then
    pure ⟨String.ofList (fill dialect count bindings.length sql.toList), bindings⟩
  else
    throw (.invalidCondition ("raw SQL has " ++ toString used ++ " placeholder(s) but " ++
      toString bindings.length ++ " binding(s): " ++ sql))

/-- The text and values of a fragment. -/
def compile (dialect : Dialect) : Fragment → Compiler Compiled
  | .name path =>
    match Ident.quote dialect path with
    | .ok quoted => pure ⟨quoted, []⟩
    | .error error => throw error
  | .raw sql bindings => compileRaw dialect sql bindings
  | .bound value => do
    let mark ← Compiler.placeholder dialect
    pure ⟨mark, [value]⟩
  | .group inner => do
    let body ← compile dialect inner
    pure (if body.isEmpty then body else ⟨"(" ++ body.sql ++ ")", body.bindings⟩)
  | .joined separator left right => do
    let done ← compile dialect left
    let next ← compile dialect right
    pure (done.push separator next)
  | .led keyword body => do
    let body ← compile dialect body
    pure (if body.isEmpty then body else ⟨keyword ++ " " ++ body.sql, body.bindings⟩)
  | .unlimited => pure ⟨dialect.limitAll, []⟩
  | .refused cause => throw cause

/-- The text and values of a statement, with placeholders from 1. -/
def toSql (dialect : Dialect) (fragment : Fragment) : Except Error Compiled :=
  ((fragment.compile dialect).run.run 0).1

end Fragment

end RecordQuery
