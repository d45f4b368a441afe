/-
  Cli/Run.lean --- what a run of the program does.

  A run sees its command line, its environment variables, the files of its
  working directory and a network (`Surroundings`).  It first adds the
  variables of a `.env` file, then reads the command line (`Cli/Args`):

  * help is printed and the run succeeds; a misuse is printed on standard
    error and the run fails with status 2;
  * `server` loads the settings (a fault is logged at the default level and
    the run fails with status 1), sets its logger to the configured level and
    listens on the configured host and port: it then serves until it is
    stopped, and a fault to listen is logged and fails the run;
  * `watch` logs at the default level and connects to its URL with the
    client id as query; a fault to connect is logged and fails the run, and
    a connection is kept until the server ends it.

  Log lines are written as `Logging.line` gives them, one per line of text.
-/
import TopicHub.Cli.Args
import TopicHub.Config.Load
import TopicHub.Config.DotEnv
import TopicHub.Logging.Level
import TopicHub.Net.Dial
import TopicHub.Text.FormEncoding

set_option autoImplicit false

namespace TopicHub.Cli

open TopicHub.Config
open TopicHub.Logging
open TopicHub.Net

/-- What a run of the program sees. -/
structure Surroundings where
  args : List String
  vars : List (String × String)
  /-- the files of the working directory, by relative path -/
  files : List (String × String)
  network : Network

/-- How a run of the program went. -/
inductive Ending where
  /-- it exited with a status, having written these lines to standard output
  and this text to standard error -/
  | exited (status : Nat) (out : List String) (err : String)
  /-- it keeps running until it is stopped, having written these lines -/
  | running (out : List String)

/-- The lines of a text, without the empty one after a final line break. -/
def textLines (text : String) : List String :=
  let ls := text.splitOn "\n"
  if ls.getLast? = some "" then ls.dropLast else ls

/-- The lines a logger set to `max` writes for an event. -/
def logLines (max level : Level) (message : String) : List String :=
  if max.passes level then textLines (line level message) else []

/-- The path of the file of variables. -/
def dotEnvPath : String := ".env"

/-- The environment after the file of variables, if any, is loaded. -/
def withDotEnv (s : Surroundings) : List (String × String) :=
  match fileText? s.files dotEnvPath with
  | some text => DotEnv.load s.vars text
  | none => s.vars

/-- The level logs are written at before the settings are known. -/
def defaultLevel : Level := .info

/-- Serves the hub with the settings of the surroundings. -/
def runServer (s : Surroundings) (vars : List (String × String)) : Ending :=
  match loadSettings s.files vars with
  | .error f =>
    .exited 1 (logLines defaultLevel .error ("Failed to load configuration: " ++ f.render)) ""
  | .ok settings =>
    let level := Level.parse settings.level
    match s.network.listen settings.host settings.port with
    | .ok () =>
      .running (logLines level .info ("WebSocket server listening on ws://" ++ settings.host ++ ":" ++
        toString settings.port))
    | .error e => .exited 1 (logLines level .error ("Server failed: " ++ e.message)) ""

/-- The URL a watcher opens: the server's URL with the client id as query. -/
def watchUrl (url id : String) : String := url ++ "/?" ++ Text.formPair "id" id

/-- Watches the hub at `url` as client `id`. -/
def runWatch (s : Surroundings) (url id : String) : Ending :=
  match dialSocket s.network (watchUrl url id) with
  | .error f => .exited 1 (logLines defaultLevel .error ("Watch failed: " ++ f.message)) ""
  | .ok _ => .running (logLines defaultLevel .info ("Connected to " ++ url ++ " as " ++ id))

/-- A run of the program in its surroundings. -/
def run (s : Surroundings) : Ending :=
  let vars := withDotEnv s
  match parseArgs s.args with
  | .help text => .exited 0 (textLines text) ""
  | .misuse text => .exited 2 [] text
  | .run .server => runServer s vars
  | .run (.watch url id _) => runWatch s url id

/-- The line a server logs when an interrupt stops it. -/
def shutdownMessage : String := "Shutdown signal received. Exiting gracefully."

/-- A run stopped by an interrupt once it is under way: a server that was
serving logs its shutdown at its level and exits successfully; any other run
ends as it would have. -/
def runInterrupted (s : Surroundings) : Ending :=
  let vars := withDotEnv s
  match parseArgs s.args, loadSettings s.files vars with
  | .run .server, .ok settings =>
    match runServer s vars with
    | .running out => .exited 0 (out ++ logLines (Level.parse settings.level) .info shutdownMessage) ""
    | e => e
  | _, _ => run s

end TopicHub.Cli
