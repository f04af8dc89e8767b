import RecordQuery.Event
import RecordQuery.Query.Layout
import RecordQuery.Row

/-!
# Executors

What runs statements. An executor acts on a state of its own; an action may fail, and the state that
it leaves is kept all the same. Plain queries are fetched through it as rows.
-/

namespace RecordQuery

/-- A computation on an executor's state. -/
abbrev Action (σ : Type) := ExceptT Error (StateM σ)

/-- Runs statements of one dialect with their bindings, for a caller's context; `note` hears events. -/
structure Executor (σ : Type) where
  dialect : Dialect
  query : Context → String → List Value → Action σ (List Row)
  execute : Context → String → List Value → Action σ Nat
  note : Event → σ → σ

namespace Executor

variable {σ : Type}

/-- Lets the executor hear an event. -/
def emit (executor : Executor σ) (event : Event) : Action σ Unit :=
  modify (executor.note event)

end Executor

namespace Query

variable {σ : Type}

/-- The rows of a query. The context handed along is that of the query without its scopes. -/
def fetchRows (executor : Executor σ) (query : Query) : Action σ (List Row) := do
  let compiled ← (query.toSql executor.dialect : Except Error Compiled)
  executor.query query.context compiled.sql compiled.bindings

/-- The first column of the first row, read as a type. -/
def fetchScalar (executor : Executor σ) (type : ScalarType) (query : Query) :
    Action σ (Option Scalar) := do
  let rows ← query.fetchRows executor
  match rows with
  | [] => pure none
  | row :: _ =>
    match row.columns, row.values with
    | column :: _, value :: _ =>
      match type.decode value with
      | .ok scalar => pure (some scalar)
      | .error fault => throw (.ofDecode column fault)
    | _, _ => pure none

/-- Counts the rows of a query. One with DISTINCT or groups is counted as a derived table. -/
def countQuery (query : Query) : Query :=
  let plain := { query.applyScopes with orderBy := [], limit? := none, offset? := none }
  if plain.distinct || !plain.groupBy.isEmpty then
    { source? := some (.derived plain.fragment "sub")
      columns := [.text "COUNT(*) AS count"]
      context := plain.context }
  else { plain with distinct := false, columns := [.text "COUNT(*) AS count"] }

def hasRow (executor : Executor σ) (query : Query) : Action σ Bool := do
  let rows ← { query with limit? := some 1 }.fetchRows executor
  pure !rows.isEmpty

end Query

end RecordQuery
