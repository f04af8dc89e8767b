import RecordQuery.Executor.Connection

/-!
# A connection that follows a script

It answers statements with prepared replies, one after another, and keeps a record of the statements
and events. When the replies run out there are no rows.
-/

namespace RecordQuery

/-- What a prepared reply holds. -/
inductive Reply where
  | rows (rows : List Row)
  | affected (count : Nat)
  | refusal (text : String)
  | silence

/-- A statement as it was run. -/
structure Statement where
  context : Context
  sql : String
  bindings : List Value

/-- The replies to come, each with its delay in nanoseconds, and the record, the newest entry last. -/
structure Script where
  replies : List (Nat × Reply) := []
  statements : List Statement := []
  events : List Event := []

namespace Reply

/-- The rows that a reply gives to a query. -/
def toRows : Reply → Except Error (List Row)
  | .rows found => .ok found
  | .refusal text => .error (.other text)
  | .affected _ | .silence => .ok []

/-- The number of affected rows that a reply gives to a statement. -/
def toCount : Reply → Except Error Nat
  | .affected count => .ok count
  | .refusal text => .error (.other text)
  | .rows _ | .silence => .ok 0

/-- A reply after a delay. Silence never ends. -/
def completion {α : Type} (delay : Nat) (read : Reply → Except Error α) :
    Reply → Completion α
  | .silence => .never
  | reply => .after delay (read reply)

end Reply

namespace Script

/-- Records a statement and takes the next reply for it. -/
def answer {α : Type} (read : Reply → Except Error α) (context : Context) (sql : String)
    (bindings : List Value) : StateM Script (Completion α) := do
  let script ← get
  let statements := script.statements ++ [⟨context, sql, bindings⟩]
  match script.replies with
  | [] =>
    set { script with statements }
    pure (Reply.completion 0 read (.affected 0))
  | (delay, reply) :: replies =>
    set { script with statements, replies }
    pure (Reply.completion delay read reply)

/-- The connection of a script. -/
def connection (dialect : Dialect) : Connection Script where
  dialect
  query := answer Reply.toRows
  execute := answer Reply.toCount
  note event script := { script with events := script.events ++ [event] }

/-- The script with an empty record. -/
def forget (script : Script) : Script :=
  { script with statements := [], events := [] }

end Script

end RecordQuery
