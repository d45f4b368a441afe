/-
  Cli/Args.lean --- the command line of the hub.

  The program has two commands, `server` and `watch`, and `help`.  `watch`
  takes the options `--url`, `--id` (each at most once) and `--topic` (any
  number of times), each with one value, given as the next argument or after
  `=`; every command takes `-h` or `--help`.

  `parseArgs` reads the arguments from left to right the way the argument
  parser of the program does, stopping at the first that asks for help or
  that it cannot place:

  * a help flag gives the command's help, on standard output;
  * no arguments at all give the top help, on standard error, as a usage
    fault;
  * an argument that is no flag or command of the command it stands in, an
    option without its value, an option given twice, and a word that names
    no command are usage faults, with a tip when the word is like a flag or
    command that exists (`Cli/Similarity`).

  Help and faults are rendered from `CommandSpec`, the description of each
  command, in the layout of that parser.
-/
import TopicHub.Cli.Similarity

set_option autoImplicit false

namespace TopicHub.Cli

/-- An option of a command that takes a value. -/
structure OptionSpec where
  long : String
  valueName : String
  help : String
  default : Option String
  repeatable : Bool

/-- A command: its name, what it does, and its options. -/
structure CommandSpec where
  name : String
  about : String
  usage : String
  options : List OptionSpec

/-- The name of the program. -/
def programName : String := "airhub"

/-- The command that serves the hub. -/
def serverSpec : CommandSpec := ⟨"server", "Start the WebSocket server", programName ++ " server", []⟩

/-- The default URL a watcher connects to. -/
def defaultUrl : String := "ws://127.0.0.1:8181"

/-- The default client id of a watcher. -/
def defaultWatchId : String := "watcher"

/-- The command that watches the hub. -/
def watchSpec : CommandSpec :=
  ⟨"watch", "Connect as a dashboard client and print every event received", programName ++ " watch [OPTIONS]",
    [⟨"url", "URL", "WebSocket server URL to connect to", some defaultUrl, false⟩,
     ⟨"id", "ID", "Client id announced in the handshake", some defaultWatchId, false⟩,
     ⟨"topic", "TOPICS", "Topics to join; defaults to the dashboard topic", none, true⟩]⟩

/-- The command that prints help. -/
def helpSpec : CommandSpec :=
  ⟨"help", "Print this message or the help of the given subcommand(s)", programName ++ " help [COMMAND]...", []⟩

/-- The commands of the program, in order. -/
def commands : List CommandSpec := [serverSpec, watchSpec, helpSpec]

/-- The usage line of the program as a whole. -/
def topUsage : String := programName ++ " <COMMAND>"

/-- `n` blanks. -/
def blanks (n : Nat) : String := String.ofList (List.replicate n ' ')

/-- Lines of two columns, the second starting two blanks after the widest
first. -/
def twoColumns (rows : List (String × String)) : String :=
  let width := rows.foldl (fun w r => max w r.1.length) 0
  String.join (rows.map fun (l, r) => l ++ blanks (width + 2 - l.length) ++ r ++ "\n")

/-- The help text of the program as a whole. -/
def topHelp : String :=
  "Usage: " ++ topUsage ++ "\n\nCommands:\n" ++
    twoColumns (commands.map fun c => ("  " ++ c.name, c.about)) ++
    "\nOptions:\n" ++ twoColumns [("  -h, --help", "Print help")]

/-- How an option is named in help and faults. -/
def OptionSpec.shown (o : OptionSpec) : String := "--" ++ o.long ++ " <" ++ o.valueName ++ ">"

/-- The help text of a command. -/
def CommandSpec.helpText (c : CommandSpec) : String :=
  let header := c.about ++ "\n\nUsage: " ++ c.usage ++ "\n\n"
  if c.name = helpSpec.name then
    header ++ "Arguments:\n" ++ twoColumns [("  [COMMAND]...", "Print help for the subcommand(s)")]
  else
    let rows := c.options.map fun o =>
      ("      " ++ o.shown, o.help ++ (match o.default with | some d => " [default: " ++ d ++ "]" | none => ""))
    header ++ "Options:\n" ++ twoColumns (rows ++ [("  -h, --help", "Print help")])

/-- A usage fault as written: the message, tips, and the usage when known. -/
def faultText (message : String) (tips : List String) (usage : Option String) : String :=
  "error: " ++ message ++ "\n" ++
    (if tips.isEmpty then "" else "\n" ++ String.join (tips.map fun t => "  tip: " ++ t ++ "\n")) ++
    (match usage with | some u => "\nUsage: " ++ u ++ "\n" | none => "") ++
    "\nFor more information, try '--help'.\n"

/-- What a command of the program is asked to do. -/
inductive Command where
  | server
  | watch (url id : String) (topics : List String)
  deriving DecidableEq, Repr

/-- What the command line asks for. -/
inductive Invocation where
  /-- run a command -/
  | run (c : Command)
  /-- print this help and succeed -/
  | help (text : String)
  /-- print this on standard error and fail as a misuse -/
  | misuse (text : String)
  deriving DecidableEq, Repr

/-- The argument is a flag: it starts with `-` and is more than that. -/
def isFlag (a : String) : Bool := a.startsWith "-" && a != "-"

/-- The argument is a long flag: it starts with `--` and is more than that. -/
def isLong (a : String) : Bool := a.startsWith "--" && a != "--"

/-- The name and attached value of a long flag `--name[=value]`. -/
def longParts (a : String) : String × Option String :=
  let body := String.ofList (a.toList.drop 2)
  match body.splitOn "=" with
  | [name] => (name, none)
  | name :: rest => (name, some ("=".intercalate rest))
  | [] => (body, none)

/-- The first flag of a cluster of short flags, such as `-x` of `-xy`. -/
def firstShort (a : String) : String := String.ofList (a.toList.take 2)

/-- The usage of a command that names the arguments given so far; with none
given it is the command's own usage. -/
def CommandSpec.usageWith (c : CommandSpec) (used : List String) : String :=
  if used.isEmpty then c.usage else programName ++ " " ++ c.name ++ " " ++ " ".intercalate used

/-- The usage of the program as a whole that names the arguments given. -/
def topUsageWith (used : List String) : String :=
  if used.isEmpty then topUsage else programName ++ " " ++ " ".intercalate used ++ " <COMMAND>"

/-- The fault for a flag without values that was given one. -/
def tooManyValues (usage : String) (value flag : String) : Invocation :=
  .misuse (faultText ("unexpected value '" ++ value ++ "' for '" ++ flag ++ "' found; no more were expected") [] (some usage))

/-- The fault for an option whose value is missing. -/
def missingValue (o : OptionSpec) : Invocation :=
  .misuse (faultText ("a value is required for '" ++ o.shown ++ "' but none was supplied") [] none)

/-- The fault for an argument that has no place in a command. -/
def unexpectedIn (usage : String) (shown : String) (tips : List String) : Invocation :=
  .misuse (faultText ("unexpected argument '" ++ shown ++ "' found") tips (some usage))

/-- What has been read of a command's arguments. -/
structure Reading where
  /-- the options given, each with its values, in the order first given -/
  given : List (OptionSpec × List String) := []
  /-- an option read without its value yet, and its value once read -/
  pending : Option (OptionSpec × Option String) := none
  /-- `--` was read: what follows are values -/
  trailing : Bool := false

/-- The options given, as a usage names them. -/
def Reading.used (r : Reading) : List String := r.given.map (·.1.shown)

/-- The values given to the option named `long`. -/
def Reading.valuesOf (r : Reading) (long : String) : List String :=
  match r.given.find? (·.1.long == long) with
  | some g => g.2
  | none => []

/-- Records a value of an option.  A second value of an option taken once is
refused, and the option is dropped with it. -/
def Reading.record (r : Reading) (o : OptionSpec) (v : String) : Reading × Option String :=
  if r.given.any (·.1.long == o.long) then
    if o.repeatable then
      ({ r with given := r.given.map fun g => if g.1.long == o.long then (g.1, g.2 ++ [v]) else g }, none)
    else
      ({ r with given := r.given.filter (·.1.long != o.long) },
        some ("the argument '" ++ o.shown ++ "' cannot be used multiple times"))
  else ({ r with given := r.given ++ [(o, [v])] }, none)

/-- Completes the option waiting for its value, before any other flag of `c`
takes effect.  The fault, if any, stands beside what is kept after it: a
refused second value has dropped its option. -/
def Reading.resolve (c : CommandSpec) (r : Reading) : Reading × Option Invocation :=
  match r.pending with
  | none => (r, none)
  | some (o, none) => ({ r with pending := none }, some (missingValue o))
  | some (o, some v) =>
    let (r', fault) := { r with pending := none }.record o v
    (r', fault.map fun m => .misuse (faultText m [] (some c.usage)))

/-- The fault for a long flag `--name` that `c` does not know, with a tip for
a flag like it.  The usage names the arguments given and the flag of the tip. -/
def unknownLong (c : CommandSpec) (r : Reading) (name : String) : Invocation :=
  match (suggestions name (c.options.map (·.long) ++ ["help"])).getLast? with
  | some s =>
    let shown := match c.options.find? (·.long == s) with
      | some o => o.shown
      | none => "--" ++ s
    let used := if r.used.contains shown then r.used else r.used ++ [shown]
    unexpectedIn (c.usageWith used) ("--" ++ name) ["a similar argument exists: '--" ++ s ++ "'"]
  | none => unexpectedIn (c.usageWith r.used) ("--" ++ name) []

/-- Reads the arguments of the command `c` from left to right; `finish` makes
the invocation of what was read. -/
def readCommand (c : CommandSpec) (finish : Reading → Invocation) : List String → Reading → Invocation
  | [], r =>
    match r.resolve c with
    | (_, some fault) => fault
    | (r', none) => finish r'
  | a :: rest, r =>
    if !r.trailing && a = "--" then readCommand c finish rest { r with trailing := true }
    else if !r.trailing && isLong a then
      let (name, attached) := longParts a
      if name = "help" then
        match attached with
        | none =>
          match r.resolve c with
          | (_, some fault) => fault
          | (_, none) => .help c.helpText
        | some v => tooManyValues (c.usageWith (r.used ++ ["--help"])) v "--help"
      else
        match c.options.find? (·.long == name) with
        | none => unknownLong c (r.resolve c).1 name
        | some o =>
          match r.resolve c with
          | (_, some fault) => fault
          | (r', none) =>
            match attached with
            | none => readCommand c finish rest { r' with pending := some (o, none) }
            | some v =>
              match r'.record o v with
              | (_, some m) => .misuse (faultText m [] (some c.usage))
              | (r'', none) => readCommand c finish rest r''
    else if !r.trailing && isFlag a then
      if a.startsWith "-h" then
        match r.resolve c with
        | (_, some fault) => fault
        | (_, none) => .help c.helpText
      else unexpectedIn c.usage (firstShort a) []
    else
      match r.pending with
      | some (o, none) => readCommand c finish rest { r with pending := some (o, some a) }
      | _ => unexpectedIn c.usage a []

/-- The invocation of `watch` with the options read. -/
def finishWatch (r : Reading) : Invocation :=
  .run (.watch ((r.valuesOf "url").head?.getD defaultUrl) ((r.valuesOf "id").head?.getD defaultWatchId)
    (r.valuesOf "topic"))

/-- Reads the arguments of `help`: the help of the command they name. -/
def parseHelp (names : List String) : Invocation :=
  match names with
  | [] => .help topHelp
  | n :: rest =>
    match commands.find? (·.name == n) with
    | none => .misuse (faultText ("unrecognized subcommand '" ++ n ++ "'") [] (some topUsage))
    | some c =>
      match rest with
      | [] => .help c.helpText
      | m :: _ => .misuse (faultText ("unrecognized subcommand '" ++ m ++ "'") [] (some c.usage))

/-- The fault for a word that names no command, with a tip for commands like it. -/
def unrecognized (a : String) : Invocation :=
  let tips := match suggestions a (commands.map (·.name)) with
    | [] => []
    | [s] => ["a similar subcommand exists: '" ++ s ++ "'"]
    | ss => ["some similar subcommands exist: " ++ ", ".intercalate (ss.map fun s => "'" ++ s ++ "'")]
  .misuse (faultText ("unrecognized subcommand '" ++ a ++ "'") tips (some topUsage))

/-- The fault for a long flag `--name` that the program as a whole does not
know.  The tip names a flag like it, of the program or else of a command
named later on the line. -/
def unknownTopLong (name : String) (rest : List String) : Invocation :=
  match (suggestions name ["help"]).getLast? with
  | some s => unexpectedIn (topUsageWith ["--" ++ s]) ("--" ++ name) ["a similar argument exists: '--" ++ s ++ "'"]
  | none =>
    let later := commands.filterMap fun c =>
      match rest.idxOf? c.name, (suggestions name (c.options.map (·.long) ++ ["help"])).getLast? with
      | some i, some s => if c.name = helpSpec.name then none else some (i, "'" ++ c.name ++ " --" ++ s ++ "' exists")
      | _, _ => none
    let best := later.foldl (fun best x => match best with
      | some b => if x.1 < b.1 then some x else some b
      | none => some x) none
    unexpectedIn topUsage ("--" ++ name) (match best with | some (_, t) => [t] | none => [])

/-- Reads the command line after the program's name; `trailing` is set once
`--` has been read. -/
def readTop : List String → Bool → Invocation
  | [], _ => .misuse topHelp
  | a :: rest, trailing =>
    if !trailing && a = serverSpec.name then readCommand serverSpec (fun _ => .run .server) rest {}
    else if !trailing && a = watchSpec.name then readCommand watchSpec finishWatch rest {}
    else if !trailing && a = helpSpec.name then parseHelp rest
    else if !trailing && a = "--" then readTop rest true
    else if !trailing && isLong a then
      let (name, attached) := longParts a
      if name = "help" then
        match attached with
        | none => .help topHelp
        | some v => tooManyValues (topUsageWith ["--help"]) v "--help"
      else unknownTopLong name rest
    else if !trailing && isFlag a then
      if a.startsWith "-h" then .help topHelp else unexpectedIn topUsage (firstShort a) []
    else if commands.any (·.name == a) then
      unexpectedIn topUsage a ["subcommand '" ++ a ++ "' exists; to use it, remove the '--' before it"]
    else unrecognized a

/-- Reads the command line after the program's name. -/
def parseArgs (args : List String) : Invocation := readTop args false

end TopicHub.Cli
