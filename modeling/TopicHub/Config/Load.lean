/-
  Config/Load.lean --- the settings the hub starts with.

  The configuration comes from two sources, later ones laid over earlier ones
  key by key (`Tree.set`):

  1. the file `config/default` with the first extension present among
     `toml`, `json`, `yaml`, `yml`, `ini`, `ron` and `json5`, read in the
     format the extension names, after the byte order mark it may start
     with; with none present this source gives nothing, and a file that
     cannot be read is a fault naming it;
  2. the environment variables of the hub (`Config/Environment`).

  The merged tree is read as partial settings, which are laid over the
  defaults.
-/
import TopicHub.Config.Toml
import TopicHub.Config.Yaml
import TopicHub.Config.Ini
import TopicHub.Config.Ron
import TopicHub.Config.Json5
import TopicHub.Config.Environment
import TopicHub.Json.Read

set_option autoImplicit false

namespace TopicHub.Config

open TopicHub.Json

/-- The formats a configuration file may be written in. -/
inductive FileFormat where
  | toml
  | json
  | yaml
  | ini
  | ron
  | json5
  deriving DecidableEq, Repr

/-- The extensions looked for, in order, and the format each names. -/
def fileFormats : List (String × FileFormat) :=
  [("toml", .toml), ("json", .json), ("yaml", .yaml), ("yml", .yaml), ("ini", .ini),
    ("ron", .ron), ("json5", .json5)]

/-- The path of the configuration file without its extension. -/
def configStem : String := "config/default"

/-- A relative path spelled plainly: empty and `.` components dropped, so
that `./config//default.toml` is `config/default.toml`. -/
def plainPath (p : String) : String :=
  "/".intercalate ((p.splitOn "/").filter fun c => c ≠ "" ∧ c ≠ ".")

/-- The text of the file at `path` among `files` (path and text), whatever
the spelling of its path. -/
def fileText? (files : List (String × String)) (path : String) : Option String :=
  (files.find? fun (p, _) => plainPath p == path).map (·.2)

/-- The configuration file among `files`: its path, format and text.  A file
named by the stem itself has no format, and an optional source that names
such a file gives nothing, even when a file with an extension is present. -/
def findConfigFile (files : List (String × String)) : Option (String × FileFormat × String) :=
  if (fileText? files configStem).isSome then none
  else
    fileFormats.findSome? fun (ext, fmt) =>
      let path := configStem ++ "." ++ ext
      (fileText? files path).map fun text => (path, fmt, text)

/-- A file named by the stem alone hides every file with an extension. -/
theorem findConfigFile_eq_none_of_stem (files : List (String × String))
    (h : (fileText? files configStem).isSome) : findConfigFile files = none := by
  simp [findConfigFile, h]

mutual
/-- A document as a configuration tree: an integer that fits 64 signed bits
stays a signed one and a larger one that fits 64 bits an unsigned one, any
other number is a double, and of members with one key the last one
counts. -/
def jsonTree (origin : Option String) : Json → Tree
  | .null => .leaf origin .nil
  | .bool b => .leaf origin (.bool b)
  | .num (.unsigned n) => .leaf origin (if n < Nat.pow 2 63 then .int n else .uint n)
  | .num (.signed i) => .leaf origin (.int i)
  | .num (.float x) => .leaf origin (.float x)
  | .str s => .leaf origin (.str s)
  | .arr items => .array origin (jsonTrees origin items)
  | .obj fields => .table origin (jsonMembers origin fields [])

/-- Items as trees. -/
def jsonTrees (origin : Option String) : List Json → List Tree
  | [] => []
  | j :: rest => jsonTree origin j :: jsonTrees origin rest

/-- Members as trees, one per key in key order, the last of a key counting. -/
def jsonMembers (origin : Option String) : List (String × Json) → List (String × Tree) → List (String × Tree)
  | [], acc => acc
  | (k, j) :: rest, acc => jsonMembers origin rest (putEntry k (jsonTree origin j) acc)
end

/-- The members of a document's top table; a document that is no table is
refused in the words of a wrong type. -/
def rootMembers (origin : String) : Tree → Except String (List (String × Tree))
  | .table _ es => .ok es
  | .array _ _ => .error (ConfigFault.wrongType (some origin) "sequence" "a map" none).render
  | .leaf _ v => .error (ConfigFault.wrongType (some origin) v.unexpected "a map" none).render

/-- Reads a configuration file: the members of its top table, or why it
cannot be read. -/
def readConfigFile (fmt : FileFormat) (path text : String) : Except String (List (String × Tree)) :=
  match fmt with
  | .toml => (Toml.read (some path) text).mapError (Toml.ReadFault.render text)
  | .json =>
    match Json.read text with
    | .ok j => rootMembers path (jsonTree (some path) j)
    | .error e => .error e.message
  | .yaml => do
    let t ← Yaml.read (some path) text
    rootMembers path t
  | .ini => Ini.read (some path) text
  | .ron => do
    let t ← Ron.read (some path) text
    rootMembers path t
  | .json5 => do
    let t ← Json5.read (some path) text
    rootMembers path t

/-- A file's text without the byte order mark it may start with. -/
def dropByteOrderMark (text : String) : String :=
  match text.toList with
  | '\uFEFF' :: rest => String.ofList rest
  | _ => text

/-- Lays members over a configuration, one key at a time. -/
def Tree.setAll (root : Tree) (entries : List (String × Tree)) : Tree :=
  entries.foldl (fun t (k, v) => t.set k v) root

/-- The settings from the files present (path and text) and the environment
variables (name and value). -/
def loadSettings (files : List (String × String)) (vars : List (String × String)) :
    Except ConfigFault Settings := do
  let fromFile ← match findConfigFile files with
    | none => .ok []
    | some (path, fmt, text) =>
      (readConfigFile fmt path (dropByteOrderMark text)).mapError fun cause => .fileParse cause path
  let root := (Tree.empty.setAll fromFile).setAll (environmentEntries vars)
  let p ← PartialSettings.ofTree root
  .ok (p.merge Settings.default)

end TopicHub.Config
