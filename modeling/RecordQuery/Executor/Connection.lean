import RecordQuery.Event
import RecordQuery.Executor

/-!
# Connections

Statements that are run on a connection take time and may never end. A connection can log its
statements: one that succeeds is logged at the level of the settings, or as a warning when it was slow.
One that fails is not logged, and neither is one that is given up.
-/

namespace RecordQuery

/-- How a statement ends: with a result after so many nanoseconds of waiting, or never. -/
inductive Completion (α : Type) where
  | after (nanos : Nat) (result : Except Error α)
  | never

namespace Completion

variable {α : Type}

/-- A statement that would wait longer than the limit ends there, with a timeout. -/
def within (limit : Nat) : Completion α → Completion α
  | .never => .after limit (.error (.timeout limit))
  | .after nanos result =>
    if limit < nanos then .after limit (.error (.timeout limit)) else .after nanos result

/-- The result for a caller who waits; one who would wait for ever is told so. -/
def result : Completion α → Except Error α
  | .after _ result => result
  | .never => .error (.other "statement never completes")

end Completion

/-- What runs statements of one dialect and takes its time; `note` hears events. -/
structure Connection (σ : Type) where
  dialect : Dialect
  query : Context → String → List Value → StateM σ (Completion (List Row))
  execute : Context → String → List Value → StateM σ (Completion Nat)
  note : Event → σ → σ

/-- The executor that waits for each statement. -/
def Connection.executor {σ : Type} (connection : Connection σ) : Executor σ where
  dialect := connection.dialect
  query context sql bindings :=
    ExceptT.mk (Completion.result <$> connection.query context sql bindings)
  execute context sql bindings :=
    ExceptT.mk (Completion.result <$> connection.execute context sql bindings)
  note := connection.note

/-! ## Logged connections -/

/-- Nanoseconds in a millisecond. -/
def nanosPerMilli : Nat := 1000000

namespace LogSettings

/-- Whether a time of waiting is slow. The time of a statement is always more than that of waiting for
it, so waiting as long as the threshold is slow. -/
def isSlow (settings : LogSettings) (nanos : Nat) : Bool :=
  match settings.slowMillis? with
  | none => false
  | some limit => limit * nanosPerMilli ≤ nanos

/-- The event of a statement that succeeded. -/
def event (settings : LogSettings) (sql : String) (bindings : List Value) (nanos : Nat) : Event :=
  let fields := [("param_count", .count bindings.length), ("sql", .text (settings.shorten sql))]
  if settings.isSlow nanos then
    { target := "relorm.sql", level := .warn, fields := fields ++ [("message", .text "slow query")] }
  else { target := "relorm.sql", level := settings.level, fields }

/-- A completion under the time limit of the settings. -/
def limit {α : Type} (settings : LogSettings) (completion : Completion α) : Completion α :=
  match settings.timeoutMillis? with
  | none => completion
  | some millis => completion.within (millis * nanosPerMilli)

end LogSettings

namespace Connection

variable {σ : Type}

/-- Runs a statement within the time limit and notes it if it succeeds. -/
def watch {α : Type} (connection : Connection σ) (settings : LogSettings) (sql : String)
    (bindings : List Value) (run : StateM σ (Completion α)) : StateM σ (Completion α) := do
  let completion := settings.limit (← run)
  match completion with
  | .after nanos (.ok _) => modify (connection.note (settings.event sql bindings nanos))
  | _ => pure ()
  pure completion

/-- The connection with its statements logged. -/
def logged (connection : Connection σ) (settings : LogSettings) : Connection σ where
  dialect := connection.dialect
  query context sql bindings :=
    connection.watch settings sql bindings (connection.query context sql bindings)
  execute context sql bindings :=
    connection.watch settings sql bindings (connection.execute context sql bindings)
  note := connection.note

end Connection

end RecordQuery
