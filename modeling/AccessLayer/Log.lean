import AccessLayer.Inspect.Json
import AccessLayer.Text.Case

namespace AccessLayer

/-- How much is logged, from everything to failures alone. -/
inductive LogLevel
  | trace
  | debug
  | info
  | warn
  | error
  deriving DecidableEq, Repr

/-- How a level is called in the log. -/
def LogLevel.label : LogLevel → String
  | trace => "TRACE"
  | debug => "DEBUG"
  | info => "INFO"
  | warn => "WARN"
  | error => "ERROR"

/-- How many levels are graver than this one. -/
def LogLevel.rank : LogLevel → Nat
  | error => 0
  | warn => 1
  | info => 2
  | debug => 3
  | trace => 4

/-- In which form events are logged. -/
inductive LogFormat
  | json
  | pretty
  deriving DecidableEq, Repr

/-- What is asked of the log. -/
structure LogSettings where
  asked : String
  format : LogFormat
  deriving DecidableEq, Repr

namespace LogSettings

/-- Settings from the level and the format in the environment. Any format but `json` is pretty. -/
def ofEnvironment (level format : Option String) : LogSettings where
  asked := level.getD "warn"
  format :=
    if (format.map fun f => Text.lower f.toList) = some "json".toList then .json else .pretty

/-- A verbose run is logged at the debug level, whatever the environment asks for. -/
def verbose (on : Bool) (s : LogSettings) : LogSettings :=
  if on then { s with asked := "debug" } else s

/-- The level that is asked for, in any case. What is no level is taken for a warning. -/
def level (s : LogSettings) : LogLevel :=
  match String.ofList (Text.lower s.asked.toList) with
  | "trace" => .trace
  | "debug" => .debug
  | "info" => .info
  | "error" => .error
  | _ => .warn

/-- An event as it is logged. -/
def line (s : LogSettings) (l : LogLevel) (event : String) : String :=
  match s.format with
  | .json =>
    "\x7b\"level\":" ++ Json.quoted l.label ++ ",\"message\":" ++ Json.quoted event ++ "\x7d"
  | .pretty => l.label ++ " " ++ event

/-- The line for an event, or none where the level that is asked for leaves it out. -/
def line? (s : LogSettings) (l : LogLevel) (event : String) : Option String :=
  if s.level.rank < l.rank then none else some (s.line l event)

end LogSettings

end AccessLayer
