/-
  Config/Tree.lean --- configuration values merged from their sources.

  A `Tree` is what every source of configuration gives: scalars, arrays and
  tables, each value remembering the source it came from (a file's name, or
  "the environment").  Sources are laid over each other one key at a time by
  `Tree.set`:

  * a key is a path of identifiers (letters, digits, `_` and `-`) joined by
    dots, with `[n]` subscripts into arrays: `a.b[2].c`; a key that is no
    such path names one member of the top table as it stands;
  * every table or array on the way is created if missing, a value of the
    other kind is replaced by an empty one, and an array is grown with empty
    values up to its subscript; a negative subscript counts from the end, and
    one that reaches before the first item puts empty values in front;
  * a table value is merged member by member into the table already there,
    any other value replaces what was there.

  Reading settings from the merged tree (`Decoder`) follows the rules of the
  library that does it: a value is converted to the type of its field where
  it can be (a number to text, a word such as `yes` or a rounded double to an
  integer), and a fault names the key it happened under and the source of the
  value, as `ConfigFault` renders.
-/
import TopicHub.Config.Settings
import TopicHub.Decimal.Plain
import TopicHub.Text.Debug

set_option autoImplicit false

namespace TopicHub.Config

open TopicHub.Decimal

/-- A scalar value of a configuration; integers are kept signed unless the
source gave them as unsigned. -/
inductive Scalar where
  | nil
  | bool (b : Bool)
  | int (i : Int)
  | uint (n : Nat)
  | float (x : Float)
  | str (s : String)

/-- A configuration value with the source it came from; tables keep one member
per key, in key order. -/
inductive Tree where
  | leaf (origin : Option String) (v : Scalar)
  | array (origin : Option String) (items : List Tree)
  | table (origin : Option String) (entries : List (String × Tree))

/-- The empty table made while merging: it has no source. -/
def Tree.empty : Tree := .table none []

/-- A value as a table: its source and members; anything else is an empty
table with no source. -/
def Tree.tableParts : Tree → Option String × List (String × Tree)
  | .table o es => (o, es)
  | _ => (none, [])

/-- Inserts or replaces a member, keeping members in key order. -/
def putEntry {α : Type} (k : String) (v : α) : List (String × α) → List (String × α)
  | [] => [(k, v)]
  | (k', v') :: rest =>
    if k = k' then (k, v) :: rest
    else if k < k' then (k, v) :: (k', v') :: rest
    else (k', v') :: putEntry k v rest

mutual
/-- Sets the member `key` of a table to `v`: a table merges into the one there
(created if missing), anything else replaces it.  A non-table is first
replaced by an empty table. -/
def Tree.setKey (root : Tree) (key : String) : Tree → Tree
  | .table _ incoming =>
    let (origin, entries) := root.tableParts
    let target := (entries.lookup key).getD Tree.empty
    .table origin (putEntry key (Tree.mergeEntries target incoming) entries)
  | v =>
    let (origin, entries) := root.tableParts
    .table origin (putEntry key v entries)

/-- Merges members one by one into a table. -/
def Tree.mergeEntries (target : Tree) : List (String × Tree) → Tree
  | [] => target
  | (k, v) :: rest => Tree.mergeEntries (target.setKey k v) rest
end

/-- The character may stand in an identifier of a key path. -/
def isPathChar (c : Char) : Bool := c.isAlphanum || c == '_' || c == '-'

/-- A step of a key path: a member of a table, or an item of an array
(counted from the end when negative). -/
inductive PathStep where
  | member (name : String)
  | item (index : Int)
  deriving DecidableEq, Repr

/-- The largest index a subscript may have: a machine word. -/
def maxSubscript : Nat := Nat.pow 2 63 - 1

/-- A blank inside a subscript: a space or a tab. -/
def isSubscriptBlank (c : Char) : Bool := c == ' ' || c == '\t'

/-- Reads the subscript after `[`: blanks, an optional `-`, digits, blanks
and `]`; gives the index and the rest. -/
def readSubscript (cs : List Char) : Option (Int × List Char) :=
  let cs := cs.dropWhile isSubscriptBlank
  let (negative, cs) := match cs with
    | '-' :: rest => (true, rest)
    | _ => (false, cs)
  let digits := cs.takeWhile Char.isDigit
  let cs := (cs.dropWhile Char.isDigit).dropWhile isSubscriptBlank
  let n := digits.foldl (fun acc c => acc * 10 + (c.toNat - '0'.toNat)) 0
  match cs with
  | ']' :: rest =>
    if digits.isEmpty ∨ n > maxSubscript + (if negative then 1 else 0) then none
    else some (if negative then -(n : Int) else n, rest)
  | _ => none

/-- Reads the steps after the first identifier of a key path. -/
def readPathSteps : Nat → List Char → Option (List PathStep)
  | _, [] => some []
  | 0, _ => none
  | fuel + 1, '.' :: rest =>
    let name := rest.takeWhile isPathChar
    if name.isEmpty then none
    else (readPathSteps fuel (rest.dropWhile isPathChar)).map (.member (String.ofList name) :: ·)
  | fuel + 1, '[' :: rest =>
    match readSubscript rest with
    | some (i, rest') => (readPathSteps fuel rest').map (.item i :: ·)
    | none => none
  | _ + 1, _ :: _ => none

/-- A key as a path: an identifier, then `.identifier` and `[index]` steps;
nothing when the key is no such path. -/
def keyPath? (key : String) : Option (List PathStep) :=
  let cs := key.toList
  let name := cs.takeWhile isPathChar
  if name.isEmpty then none
  else (readPathSteps cs.length (cs.dropWhile isPathChar)).map (.member (String.ofList name) :: ·)

/-- An empty value made while merging: it has no source. -/
def Tree.nothing : Tree := .leaf none .nil

/-- A value as an array: its source and items; anything else is an empty
array with no source. -/
def Tree.arrayParts : Tree → Option String × List Tree
  | .array o items => (o, items)
  | _ => (none, [])

/-- The items of an array made ready for a subscript, and the position it
names: counted from the end when negative, with empty values put in front
when it reaches before the first item. -/
def subscriptPosition (index : Int) (items : List Tree) : List Tree × Nat :=
  if 0 ≤ index then (items, index.toNat)
  else if index.natAbs ≤ items.length then (items, items.length - index.natAbs)
  else (List.replicate (index.natAbs - items.length) Tree.nothing ++ items, 0)

/-- The most items an array is grown to by a subscript. -/
def growthLimit : Nat := Nat.pow 2 24

/-- Changes the value at a path by `f`, forcing the way there: a value that
is not a table before a member step becomes an empty table, one that is not
an array before an item step an empty array, a missing member is an empty
value, and an array too short for its index is grown with empty values. -/
def Tree.modifyAt (f : Tree → Tree) : Tree → List PathStep → Tree
  | t, [] => f t
  | t, .member k :: rest =>
    let (origin, entries) := t.tableParts
    let child := (entries.lookup k).getD Tree.nothing
    .table origin (putEntry k (child.modifyAt f rest) entries)
  | t, .item i :: rest =>
    let (origin, items) := t.arrayParts
    if i.natAbs ≥ growthLimit then t
    else
      let (items, n) := subscriptPosition i items
      let items := items ++ List.replicate (n + 1 - items.length) Tree.nothing
      .array origin (items.set n ((items.getD n Tree.nothing).modifyAt f rest))

/-- What setting `v` does to the value already at its place: a table merges
into it (a value that is not a table first becomes an empty one), anything
else replaces it. -/
def Tree.assign (v : Tree) (there : Tree) : Tree :=
  match v with
  | .table _ incoming =>
    match there with
    | .table o es => Tree.mergeEntries (.table o es) incoming
    | _ => Tree.mergeEntries Tree.empty incoming
  | _ => v

/-- Sets a key of the merged configuration: along its path when it is one,
else as one member of the top table. -/
def Tree.set (root : Tree) (key : String) (v : Tree) : Tree :=
  match keyPath? key with
  | some path => root.modifyAt (Tree.assign v) path
  | none => root.setKey key v

/-- Why configuration could not be loaded or read. -/
inductive ConfigFault where
  /-- a value of the wrong kind: what it was, what was expected, the key and
  the value's source when they are known -/
  | wrongType (origin : Option String) (unexpected expected : String) (key : Option String)
  /-- a message of the reader, under a key when it is known -/
  | message (text : String) (key : Option String)
  /-- a file that could not be read, and why -/
  | fileParse (cause : String) (uri : String)

/-- The text of a fault. -/
def ConfigFault.render : ConfigFault → String
  | .wrongType origin u e key =>
    "invalid type: " ++ u ++ ", expected " ++ e ++
      (match key with | some k => " for key `" ++ k ++ "`" | none => "") ++
      (match origin with | some o => " in " ++ o | none => "")
  | .message t none => t
  | .message t (some k) => t ++ " for key `" ++ k ++ "`"
  | .fileParse cause uri => cause ++ " in " ++ uri

/-- Puts `segment` in front of the key of a fault; a dot separates it from a
key that does not start with a subscript. -/
def ConfigFault.prepend (f : ConfigFault) (segment : String) (dot : Bool) : ConfigFault :=
  let join (key : Option String) : String :=
    let k := key.getD ""
    let sep := if dot && !k.isEmpty && !k.startsWith "[" then "." else ""
    segment ++ sep ++ k
  match f with
  | .wrongType o u e key => .wrongType o u e (some (join key))
  | .message t key => .message t (some (join key))
  | other => other

/-- The text of a scalar of the configuration in a message of its own. -/
def Scalar.unexpected : Scalar → String
  | .nil => "unit value"
  | .bool b => "boolean `" ++ toString b ++ "`"
  | .int i => "64-bit integer `" ++ toString i ++ "`"
  | .uint n => "64-bit unsigned integer `" ++ toString n ++ "`"
  | .float x => "floating point `" ++ plainText x ++ "`"
  | .str s => "string " ++ TopicHub.Text.debugQuote s

/-- The text of a value in a message of a decoder of the data model. -/
def Scalar.found : Scalar → String
  | .nil => "unit value"
  | .bool b => "boolean `" ++ toString b ++ "`"
  | .int i => "integer `" ++ toString i ++ "`"
  | .uint n => "integer `" ++ toString n ++ "`"
  | .float x => "floating point `" ++ pointText x ++ "`"
  | .str s => "string " ++ TopicHub.Text.debugQuote s

/-- Reads a value of the configuration, or says why it cannot. -/
abbrev Decoder (α : Type) := Tree → Except ConfigFault α

namespace Decoder

/-- Text: a number or a boolean is written out. -/
def string : Decoder String
  | .leaf _ (.str s) => .ok s
  | .leaf _ (.bool b) => .ok (toString b)
  | .leaf _ (.int i) => .ok (toString i)
  | .leaf _ (.uint n) => .ok (toString n)
  | .leaf _ (.float x) => .ok (plainText x)
  | .leaf o .nil => .error (.wrongType o "unit value" "a string" none)
  | .table o _ => .error (.wrongType o "map" "a string" none)
  | .array o _ => .error (.wrongType o "sequence" "a string" none)

/-- A double rounded half away from zero and cut to the unsigned 64-bit range. -/
def roundToUnsigned (x : Float) : Nat :=
  if x.isNaN || x ≤ 0 then 0
  else if x ≥ 18446744073709551615.0 then Nat.pow 2 64 - 1
  else
    let f := x.floor
    (if x - f ≥ 0.5 then f + 1 else f).toUInt64.toNat

/-- An unsigned integer of at most 64 bits. -/
def unsigned : Decoder Nat
  | .leaf o (.str s) =>
    let l := String.ofList (TopicHub.Decimal.asciiLower s.toList)
    if l = "true" ∨ l = "on" ∨ l = "yes" then .ok 1
    else if l = "false" ∨ l = "off" ∨ l = "no" then .ok 0
    else match readU64? s with
      | some n => .ok n
      | none => .error (.wrongType o (Scalar.str s).unexpected "an integer" none)
  | .leaf o (.int i) =>
    if 0 ≤ i then .ok i.toNat
    else .error (.wrongType o (Scalar.int i).unexpected "an unsigned 64 bit or less integer" none)
  | .leaf _ (.uint n) => .ok n
  | .leaf _ (.bool b) => .ok (if b then 1 else 0)
  | .leaf _ (.float x) => .ok (roundToUnsigned x)
  | .leaf o .nil => .error (.wrongType o "unit value" "an integer" none)
  | .table o _ => .error (.wrongType o "map" "an integer" none)
  | .array o _ => .error (.wrongType o "sequence" "an integer" none)

/-- An unsigned 16-bit integer. -/
def u16 : Decoder Nat := fun t => do
  let n ← unsigned t
  if n < Nat.pow 2 16 then .ok n
  else .error (.wrongType none ("64-bit unsigned integer `" ++ toString n ++ "`") "an unsigned 16 bit integer" none)

/-- Nothing for an empty value, else a decoded one. -/
def option {α : Type} (d : Decoder α) : Decoder (Option α)
  | .leaf _ .nil => .ok none
  | t => (d t).map some

end Decoder

/-- A field of a struct read from the configuration. -/
structure Field where
  name : String
  check : Tree → Except ConfigFault Unit

/-- The field `name` read by `d`. -/
def Field.of {α : Type} (name : String) (d : Decoder α) : Field :=
  ⟨name, fun t => (d t).map fun _ => ()⟩

/-- Checks the members of a table in order; a fault is put under its key. -/
def checkMembers (fields : List Field) : List (String × Tree) → Except ConfigFault Unit
  | [] => .ok ()
  | (k, v) :: rest =>
    match fields.find? (·.name == k) with
    | none => checkMembers fields rest
    | some f => do
      (f.check v).mapError (·.prepend k true)
      checkMembers fields rest

/-- Gives each field the next item of an array; a fault is put under the
item's index, and a missing item is an invalid length. -/
def checkItems (what : String) (total : Nat) (fields : List Field) (index : Nat) :
    List Tree → Except (ConfigFault) (List (String × Tree))
  | items =>
    match fields with
    | [] => .ok []
    | f :: more =>
      match items with
      | [] =>
        .error (.message ("invalid length " ++ toString index ++ ", expected " ++ what ++ " with " ++
          toString total ++ (if total = 1 then " element" else " elements")) none)
      | t :: rest => do
        (f.check t).mapError (·.prepend ("[" ++ toString index ++ "]") false)
        let later ← checkItems what total more (index + 1) rest
        .ok ((f.name, t) :: later)

/-- A struct called `what` with the fields `fields`, built by `build` from the
values its fields were given. -/
def Decoder.struct {α : Type} (what : String) (fields : List Field)
    (build : List (String × Tree) → Except ConfigFault α) : Decoder α
  | .table _ entries => do
    checkMembers fields entries
    build (entries.filter fun (k, _) => fields.any (·.name == k))
  | .array _ items => do
    let given ← checkItems what fields.length fields 0 items
    build given
  | .leaf _ v => .error (.message ("invalid type: " ++ v.found ++ ", expected " ++ what) none)

/-- The value of an optional field read by `d`: nothing when it is absent. -/
def lookupWith {α : Type} (given : List (String × Tree)) (name : String) (d : Decoder (Option α)) :
    Except ConfigFault (Option α) :=
  match given.lookup name with
  | some t => d t
  | none => .ok none

/-- Server overrides from the configuration. -/
def PartialServer.ofTree : Decoder PartialServer :=
  let host := Decoder.option Decoder.string
  let port := Decoder.option Decoder.u16
  Decoder.struct "struct PartialServerSettings" [.of "host" host, .of "port" port] fun given => do
    let h ← lookupWith given "host" host
    let p ← lookupWith given "port" port
    .ok ⟨h, p⟩

/-- Dashboard override from the configuration. -/
def PartialDashboard.ofTree : Decoder PartialDashboard :=
  let n := Decoder.option Decoder.unsigned
  Decoder.struct "struct PartialDashboardSettings" [.of "recent_logs" n] fun given => do
    let r ← lookupWith given "recent_logs" n
    .ok ⟨r⟩

/-- Logging override from the configuration. -/
def PartialLogging.ofTree : Decoder PartialLogging :=
  let l := Decoder.option Decoder.string
  Decoder.struct "struct PartialLoggingSettings" [.of "level" l] fun given => do
    let v ← lookupWith given "level" l
    .ok ⟨v⟩

/-- Partial settings from the configuration. -/
def PartialSettings.ofTree : Decoder PartialSettings :=
  let server := Decoder.option PartialServer.ofTree
  let dashboard := Decoder.option PartialDashboard.ofTree
  let logging := Decoder.option PartialLogging.ofTree
  Decoder.struct "struct PartialSettings"
    [.of "server" server, .of "dashboard" dashboard, .of "logging" logging] fun given => do
    let s ← lookupWith given "server" server
    let d ← lookupWith given "dashboard" dashboard
    let l ← lookupWith given "logging" logging
    .ok ⟨s, d, l⟩

end TopicHub.Config
