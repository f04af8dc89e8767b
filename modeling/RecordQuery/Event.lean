import RecordQuery.Text.Basic
import RecordQuery.Text.Utf8

/-!
# Events and the log

Events tell whoever listens what was done; settings say which statements are told of and how.
-/

namespace RecordQuery

/-- How loud an event is. -/
inductive Level where
  | error
  | warn
  | info
  | debug
  | trace
deriving DecidableEq, Repr

namespace Level

def name : Level → String
  | .error => "ERROR"
  | .warn => "WARN"
  | .info => "INFO"
  | .debug => "DEBUG"
  | .trace => "TRACE"

/-- The level of a number, the loudest first. -/
def ofNumber? : Nat → Option Level
  | 1 => some .error
  | 2 => some .warn
  | 3 => some .info
  | 4 => some .debug
  | 5 => some .trace
  | _ => none

/-- The level that a text names in any case or by number. -/
def ofText? (text : String) : Option Level :=
  match Text.lowerAscii text with
  | "error" => some .error
  | "warn" => some .warn
  | "info" => some .info
  | "debug" => some .debug
  | "trace" => some .trace
  | _ => (Text.wholeNumber? text.toList).bind ofNumber?

end Level

/-- A detail of an event. -/
inductive EventField where
  | count (value : Nat)
  | text (value : String)

/-- Something that happened, for whoever listens. -/
structure Event where
  target : String
  level : Level
  fields : List (String × EventField)

/-!
## Settings of a log

How statements are logged: at which level, how much of their text, and from when on they count as slow
or are given up.
-/

/-- Settings of a log. The text limit is in bytes, times are in milliseconds. -/
structure LogSettings where
  level : Level := .debug
  maxBytes? : Option Nat := some 200
  slowMillis? : Option Nat := none
  timeoutMillis? : Option Nat := none

namespace LogSettings

/-- The text up to the last boundary between characters within a limit in bytes. -/
def beginning (limit : Nat) (text : String) : String :=
  if text.utf8ByteSize ≤ limit then text
  else
    let cut := text.pos ⟨Text.Utf8.lastBoundary text limit⟩ (Text.Utf8.isValid_lastBoundary text limit)
    (text.sliceTo cut).copy

/-- A statement as it is shown: whole if it fits the limit, else its beginning and three dots. -/
def shorten (settings : LogSettings) (sql : String) : String :=
  match settings.maxBytes? with
  | none => sql
  | some limit => if limit < sql.utf8ByteSize then beginning limit sql ++ "..." else sql

end LogSettings

end RecordQuery
