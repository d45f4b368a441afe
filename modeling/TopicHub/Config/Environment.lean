/-
  Config/Environment.lean --- configuration from environment variables.

  A variable belongs to the configuration when its name, in lower case,
  starts with the prefix `airhub__`.  The rest of the name, with each `__`
  made a dot, is the key: `AIRHUB__SERVER__PORT` sets `server.port`.  The
  value is typed by the first reading that takes the whole of it: a boolean
  (`true` or `false` in any case), a signed 64-bit integer, a double, and
  else the text itself.
-/
import TopicHub.Config.Tree
import TopicHub.Text.Case

set_option autoImplicit false

namespace TopicHub.Config

open TopicHub.Decimal

/-- The source name of values from the environment. -/
def environmentOrigin : String := "the environment"

/-- The start of the lower-cased names of the variables that configure the hub. -/
def environmentPrefix : String := "airhub__"

/-- The typed value of a variable's text. -/
def typedScalar (text : String) : Scalar :=
  let l := Text.lowerText text
  if l = "true" then .bool true
  else if l = "false" then .bool false
  else match readI64? text with
    | some i => .int i
    | none =>
      match readFloat? text with
      | some x => .float x
      | none => .str text

/-- The key a variable sets, when it configures the hub. -/
def environmentKey? (name : String) : Option String :=
  let l := Text.lowerText name
  if l.startsWith environmentPrefix then
    some (".".intercalate ((String.ofList (l.toList.drop environmentPrefix.length)).splitOn "__"))
  else none

/-- The keys and values the variables give, in their order. -/
def environmentEntries (vars : List (String × String)) : List (String × Tree) :=
  vars.filterMap fun (name, value) =>
    (environmentKey? name).map fun key => (key, .leaf (some environmentOrigin) (typedScalar value))

end TopicHub.Config
