import RecordQuery.Dialect
import RecordQuery.Error
import RecordQuery.Event
import RecordQuery.Json
import RecordQuery.Json.Parser
import RecordQuery.Model.Query

/-!
# Settings

The settings of an application, read from named variables or from a configuration text.
-/

namespace RecordQuery

/-! ## The names that choose a dialect -/

namespace Dialect

def ofSetting (text : String) : Except Error Dialect :=
  match ofSetting? text with
  | some dialect => .ok dialect
  | none => .error (.other ("unknown dialect '" ++ Text.lowerAscii (Text.trim text) ++ "'"))

end Dialect

/-! ## Settings by variables -/

namespace UnknownRelation

/-- The name of a policy in a configuration text. -/
def tag : UnknownRelation → String
  | .error => "error"
  | .skip => "skip"

def ofTag? : String → Option UnknownRelation
  | "error" => some .error
  | "skip" => some .skip
  | _ => none

end UnknownRelation

/-- Settings. The log level is kept as it was written. -/
structure Settings where
  dialect : Dialect := .sqlite
  unknownRelation : UnknownRelation := .error
  logLevel? : Option String := none
  maxBytes? : Option Nat := none
  slowMillis? : Option Nat := none
  timeoutMillis? : Option Nat := none

namespace Settings

/-! ### Variables -/

/-- A switch: one of four words for each position, in any case and with blanks around it. -/
def switch (name text : String) : Except Error Bool :=
  match Text.lowerAscii (Text.trim text) with
  | "1" | "true" | "yes" | "on" => .ok true
  | "0" | "false" | "no" | "off" => .ok false
  | other => .error (.other (name ++ ": expected a boolean, got '" ++ other ++ "'"))

/-- A whole number that fits in 64 bits, with blanks around it. -/
def wholeNumber (name text : String) : Except Error Nat :=
  let refused : Except Error Nat :=
    .error (.other (name ++ ": expected an integer, got '" ++ text ++ "'"))
  match Text.wholeNumber? (Text.trim text).toList with
  | some number => if number < Nat.pow 2 64 then .ok number else refused
  | none => refused

/-- A log level, with blanks around it. -/
def level (text : String) : Except Error Level :=
  match Level.ofText? (Text.trim text) with
  | some level => .ok level
  | none => .error (.other ("unknown log level '" ++ text ++ "'"))

/-- Changes the settings by a variable, if it is set. -/
def withVariable (lookup : String → Option String) (name : String)
    (change : String → Settings → Except Error Settings) (settings : Settings) :
    Except Error Settings :=
  match lookup name with
  | none => .ok settings
  | some text => change text settings

/-- The settings that variables give, read in a fixed order up to the first fault. -/
def ofVariables (lookup : String → Option String) : Except Error Settings := do
  let settings : Settings := {}
  let settings ← settings.withVariable lookup "RELORM_DIALECT" fun text settings => do
    pure { settings with dialect := ← Dialect.ofSetting text }
  let settings ← settings.withVariable lookup "RELORM_STRICT_RELATIONS" fun text settings => do
    let strict ← switch "RELORM_STRICT_RELATIONS" text
    pure { settings with unknownRelation := if strict then .error else .skip }
  let settings ← settings.withVariable lookup "RELORM_LOG_LEVEL" fun text settings => do
    let _ ← level text
    pure { settings with logLevel? := some text }
  let settings ← settings.withVariable lookup "RELORM_SLOW_QUERY_MS" fun text settings => do
    pure { settings with slowMillis? := some (← wholeNumber "RELORM_SLOW_QUERY_MS" text) }
  settings.withVariable lookup "RELORM_QUERY_TIMEOUT_MS" fun text settings => do
    pure { settings with timeoutMillis? := some (← wholeNumber "RELORM_QUERY_TIMEOUT_MS" text) }

/-! ### Use -/

def log (settings : Settings) : Except Error LogSettings := do
  let base : LogSettings := {}
  let level ← match settings.logLevel? with
    | none => pure base.level
    | some text => level text
  pure {
    level
    maxBytes? := settings.maxBytes?.or base.maxBytes?
    slowMillis? := settings.slowMillis?
    timeoutMillis? := settings.timeoutMillis? }

/-- The configuration text, every setting in its place. -/
def text (settings : Settings) : String :=
  let number? (value? : Option Nat) : Json := value?.elim .null fun value => .integer value
  Json.text <| .object
    [("dialect", .string settings.dialect.name),
      ("unknown_relation", .string settings.unknownRelation.tag),
      ("log_level", settings.logLevel?.elim .null .string),
      ("max_sql_length", number? settings.maxBytes?),
      ("slow_query_ms", number? settings.slowMillis?),
      ("query_timeout_ms", number? settings.timeoutMillis?)]

end Settings

/-!
## Settings from a configuration text

An object with some of the settings by name, or an array with the first ones in order. Members of other
names are passed over, whatever they hold.
-/

namespace Settings

/-! ### Single settings -/

/-- A tag: a string, or an object with the tag as its only member and null in it. -/
def tag? : Json.Source → Option String
  | .string tag? => tag?
  | .object [(tag?, .null)] => tag?
  | _ => none

/-- A string or null. -/
def string? : Json.Source → Option (Option String)
  | .null => some none
  | .string value? => value?.map some
  | _ => none

/-- An integer that is not negative, or null. -/
def number? : Json.Source → Option (Option Nat)
  | .null => some none
  | .number (some (.integer value)) => if 0 ≤ value then some (some value.toNat) else none
  | _ => none

/-- The names of the settings, in order. -/
def names : List String :=
  ["dialect", "unknown_relation", "log_level", "max_sql_length", "slow_query_ms", "query_timeout_ms"]

/-- The settings with one of them set to what the text holds for it. -/
def put? (settings : Settings) (name : String) (content : Json.Source) : Option Settings :=
  match name with
  | "dialect" => (tag? content).bind fun tag =>
    (Dialect.ofTag? tag).map fun dialect => { settings with dialect }
  | "unknown_relation" => (tag? content).bind fun tag =>
    (UnknownRelation.ofTag? tag).map fun unknownRelation => { settings with unknownRelation }
  | "log_level" => (string? content).map fun logLevel? => { settings with logLevel? }
  | "max_sql_length" => (number? content).map fun maxBytes? => { settings with maxBytes? }
  | "slow_query_ms" => (number? content).map fun slowMillis? => { settings with slowMillis? }
  | "query_timeout_ms" => (number? content).map fun timeoutMillis? => { settings with timeoutMillis? }
  | _ => some settings

/-! ### Texts -/

/-- The members of an object. No setting may be named twice. -/
def putMembers? (settings : Settings) (seen : List String) :
    List (Option String × Json.Source) → Option Settings
  | [] => some settings
  | (none, _) :: _ => none
  | (some name, content) :: rest =>
    if names.contains name then
      if seen.contains name then none
      else (settings.put? name content).bind fun next => putMembers? next (name :: seen) rest
    else putMembers? settings seen rest

/-- The items of an array. -/
def putItems? (settings : Settings) : List String → List Json.Source → Option Settings
  | _, [] => some settings
  | [], _ :: _ => none
  | name :: names, content :: rest =>
    (settings.put? name content).bind fun next => putItems? next names rest

/-- The settings of a configuration text, if it can be read. -/
def ofText? (text : String) : Option Settings :=
  match Json.Source.ofText? text with
  | some (.object members) => putMembers? {} [] members
  | some (.array items) => putItems? {} names items
  | _ => none

end Settings

end RecordQuery
