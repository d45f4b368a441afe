/-
  Logging/Level.lean --- log levels, their names, and which events pass.

  Levels run from the most severe, `error`, to the most verbose, `trace`.  A
  level name from the configuration is read without regard to case; `warning`
  is `warn`, and a name that is none of them is `info`.  A logger set to a
  level writes the events of that level and every more severe one, each as
  the level's name in capitals, a space, and the message.
-/
import TopicHub.Text.Case

set_option autoImplicit false

namespace TopicHub.Logging

/-- A log level, from the most severe to the most verbose. -/
inductive Level where
  | error
  | warn
  | info
  | debug
  | trace
  deriving DecidableEq, Repr

/-- The position of a level from the most severe. -/
def Level.rank : Level → Nat
  | .error => 0
  | .warn => 1
  | .info => 2
  | .debug => 3
  | .trace => 4

/-- The name of a level in capitals. -/
def Level.name : Level → String
  | .error => "ERROR"
  | .warn => "WARN"
  | .info => "INFO"
  | .debug => "DEBUG"
  | .trace => "TRACE"

/-- The level a configuration names. -/
def Level.parse (text : String) : Level :=
  match Text.lowerText text with
  | "error" => .error
  | "warn" | "warning" => .warn
  | "debug" => .debug
  | "trace" => .trace
  | _ => .info

/-- A logger set to `max` writes events of `level`. -/
def Level.passes (max level : Level) : Bool := level.rank ≤ max.rank

/-- An event as a log line. -/
def line (level : Level) (message : String) : String := level.name ++ " " ++ message

/-- The lines a logger writes for the events, in order: none without a logger,
and those that pass its level with one. -/
def written (logger : Option Level) (events : List (Level × String)) : List String :=
  match logger with
  | none => []
  | some max => (events.filter (fun e => max.passes e.1)).map fun e => line e.1 e.2

/-- The logger that a series of set-ups leaves: the first one installs, the
later ones find a logger in place and change nothing. -/
def installed (requests : List String) : Option Level := requests.head?.map Level.parse

end TopicHub.Logging
