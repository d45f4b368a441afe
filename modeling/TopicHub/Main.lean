/-
  Main.lean --- the command line.

  The arguments, the environment and the files the program reads are gathered
  here and handed to `Cli.run`, which decides everything; this layer only
  prints what it returns and exits with its status.  No socket is opened: the
  hub is run in `Net.Network.isolated`, which has no route and no name
  service.
-/
import TopicHub.Cli.Run

set_option autoImplicit false

namespace TopicHub.CommandLine

/-- The files the program may read: the configuration file in each format, and
the file of variables. -/
def readablePaths : List String :=
  Config.fileFormats.map (fun f => Config.configStem ++ "." ++ f.1) ++ [Cli.dotEnvPath]

/-- The variables of a process environment block: `NAME=value` entries ended
by a zero byte. -/
def environmentEntries (block : String) : List (String × String) :=
  (block.splitOn "\x00").filterMap fun entry =>
    match entry.splitOn "=" with
    | name :: value :: more =>
      if name.isEmpty then none else some (name, "=".intercalate (value :: more))
    | _ => none

/-- The text of a file, if it can be read. -/
def readIfPresent (path : String) : IO (Option String) := do
  try
    let text ← IO.FS.readFile path
    return some text
  catch _ =>
    return none

/-- The environment of this process. -/
def environment : IO (List (String × String)) := do
  match ← readIfPresent "/proc/self/environ" with
  | some block => return environmentEntries block
  | none => return []

/-- The files of `readablePaths` that exist, with their text. -/
def presentFiles : IO (List (String × String)) := do
  let mut found := []
  for path in readablePaths do
    if let some text ← readIfPresent path then
      found := found ++ [(path, text)]
  return found

/-- Prints what a run wrote and gives its exit status. -/
def finish : Cli.Ending → IO UInt32
  | .exited status out err => do
    for line in out do
      IO.println line
    IO.eprint err
    return status.toUInt32
  | .running out => do
    for line in out do
      IO.println line
    return 0

end TopicHub.CommandLine

open TopicHub in
/-- Runs the program with the process's arguments, environment and files. -/
def main (args : List String) : IO UInt32 := do
  let vars ← CommandLine.environment
  let files ← CommandLine.presentFiles
  CommandLine.finish (Cli.run ⟨args, vars, files, Net.Network.isolated⟩)
