/-
  Config/Toml.lean --- reading TOML documents into configuration trees.

  Reading goes in three passes, and the first fault found by the earliest
  pass is the one reported:

  1. the text is cut into tokens (`Config/Toml/Token`) and read into
     expressions (`Config/Toml/Syntax`), where faults of form are found;
  2. the expressions build the document in order: each key part and value
     is decoded (`Config/Toml/Leaf`), then put in place, where faults of
     meaning are found;
  3. the document becomes a configuration tree, keys in order, where an
     integer that does not fit 64 signed bits or a float that overflows is a
     fault of its own, without a place in the text.

  Building follows the rules of the format.  An assignment goes into the
  table of the last header, along its dotted key: tables it names are made
  (as dotted tables) when missing or only implied, a table defined by a
  header may not be reached by a dotted key, and an inline table or any
  other value may not be extended at all.  A header may define a table that was only implied by an
  earlier header, never one defined before or made by dotted keys; an
  array-of-tables header adds a table to an array of tables.  A key may be
  given once.  Inline tables are built the same way from their own members,
  and closed once written.  A date or time becomes its text in normal form.

  A fault of the first two passes names the bytes it is about, and
  `Fault.render` shows the line with carets under them, line and column
  counted from one.
-/
import TopicHub.Config.Tree
import TopicHub.Config.Toml.Leaf
import TopicHub.Text.Utf8

set_option autoImplicit false

namespace TopicHub.Config.Toml

open TopicHub.Decimal

/-- How a table of a document came to be. -/
inductive Made where
  /-- by its own header, or the top table -/
  | header
  /-- as the parent of a header's table -/
  | implicit
  /-- by a dotted key -/
  | dotted
  /-- written inline, closed to additions -/
  | inline
  deriving DecidableEq

/-- A value of the document being built; tables keep their members in the
order they were given. -/
inductive Node where
  | leaf (v : Leaf)
  | array (items : List Node)
  | table (made : Made) (entries : List (String × Node))
  | tables (each : List (List (String × Node)))

/-- The members of a table. -/
abbrev Entries := List (String × Node)

/-- Sets a member: in its place when the key is there, else at the end. -/
def Entries.set (es : Entries) (k : String) (v : Node) : Entries :=
  if es.any (·.1 == k) then es.map fun (k', v') => if k' == k then (k', v) else (k', v')
  else es ++ [(k, v)]

/-- The word for the type of a value in faults. -/
def Node.typeName : Node → String
  | .leaf (.str _) => "string"
  | .leaf (.bool _) => "boolean"
  | .leaf (.integer _ _) => "integer"
  | .leaf (.float _) => "float"
  | .leaf (.moment _) => "datetime"
  | .array _ => "array"
  | .table .inline _ => "inline table"
  | .table _ _ => "table"
  | .tables _ => "array"

/-- The fault of a key given twice. -/
def duplicateKey {α : Type} (p : Piece) : Except Fault α := .error ⟨"duplicate key", p.start, p.stop⟩

/-- The fault of a dotted key or header that goes through a value. -/
def cannotExtend {α : Type} (v : Node) (p : Piece) : Except Fault α :=
  .error ⟨"cannot extend value of type " ++ v.typeName ++ " with a dotted key", p.start, p.stop⟩

/-- Changes the table at `path` below a table of the document by `f`, which
is told how that table came to be.  Missing tables on the way are made,
dotted or implied; through an array of tables the way goes to its last
table.  A dotted key (`dotted`) may not enter a table defined by a header,
and a table it enters that was only implied becomes a dotted one, which no
header may define later; no key may enter a value that is not a table. -/
def descend {α : Type} (dotted : Bool) (f : Made → Entries → Except Fault (Entries × α)) :
    List (String × Piece) → Made → Entries → Except Fault (Entries × α)
  | [], made, es => f made es
  | (k, p) :: rest, _, es =>
    let fresh : Made := if dotted then .dotted else .implicit
    match es.lookup k with
    | none => do
      let (sub, a) ← descend dotted f rest fresh []
      .ok (es ++ [(k, .table fresh sub)], a)
    | some (.table m sub) =>
      if m = .inline then cannotExtend (.table m sub) p
      else if dotted ∧ m = .header then duplicateKey p
      else do
        -- a dotted key takes over a table that a header only implied
        let m := if dotted ∧ m = .implicit then Made.dotted else m
        let (sub, a) ← descend dotted f rest m sub
        .ok (es.set k (.table m sub), a)
    | some (.tables each) => do
      let (last, a) ← descend dotted f rest .header (each.getLast?.getD [])
      .ok (es.set k (.tables (each.dropLast ++ [last])), a)
    | some v => cannotExtend v p

/-- Puts `key = v` into the table reached by a dotted key's parents: a dotted
key must reach a dotted table and a plain one the table itself, and the key
must be new. -/
def putMember (path : List (String × Piece)) (key : String × Piece) (v : Node) (made : Made)
    (es : Entries) : Except Fault Entries :=
  if (made = .dotted) = path.isEmpty then duplicateKey key.2
  else if (es.lookup key.1).isSome then duplicateKey key.2
  else .ok (es ++ [(key.1, v)])

/-- Changes the table at `path` below an inline table by `f`: missing tables
are made as dotted ones, and only those may be entered. -/
def descendInline (f : Made → Entries → Except Fault Entries) :
    List (String × Piece) → Made → Entries → Except Fault Entries
  | [], made, es => f made es
  | (k, p) :: rest, _, es =>
    match es.lookup k with
    | none => do
      let sub ← descendInline f rest .dotted []
      .ok (es ++ [(k, .table .dotted sub)])
    | some (.table m sub) =>
      if m ≠ .dotted then duplicateKey p
      else do
        let sub ← descendInline f rest m sub
        .ok (es.set k (.table m sub))
    | some v => cannotExtend v p

/-- Decodes the parts of a key, each with its piece. -/
def decodeKeyPath (key : List Piece) : Except Fault (List (String × Piece)) :=
  key.mapM fun p => do
    let k ← decodeKey p
    .ok (k, p)

/-- Splits a key into its parents and its last part. -/
def splitKey (key : List (String × Piece)) : List (String × Piece) × (String × Piece) :=
  (key.dropLast, key.getLast?.getD ("", Piece.missing 0))

mutual
/-- Decodes a written value into a node of the document. -/
def Written.node : Written → Except Fault Node
  | .scalar p => do
    let v ← p.leaf
    .ok (.leaf v)
  | .array items => do
    let ns ← Written.nodes items
    .ok (.array ns)
  | .inline pairs => do
    let es ← Written.members pairs []
    .ok (.table .inline es)

/-- Decodes the items of an array. -/
def Written.nodes : List Written → Except Fault (List Node)
  | [] => .ok []
  | w :: rest => do
    let n ← w.node
    let ns ← Written.nodes rest
    .ok (n :: ns)

/-- Builds the members of an inline table, one pair after the other. -/
def Written.members : List (List Piece × Written) → Entries → Except Fault Entries
  | [], es => .ok es
  | (key, w) :: rest, es => do
    let path ← decodeKeyPath key
    let n ← w.node
    let (parents, last) := splitKey path
    let es ← descendInline (putMember parents last n) parents .inline es
    Written.members rest es
end

/-- The state of building a document: the top table (once a header has been
read), the table being filled, the header that named it, and whether it is
an item of an array of tables. -/
structure Building where
  root : Entries := []
  current : Entries := []
  path : List (String × Piece) := []
  isArray : Bool := false

namespace Building

/-- Puts the table being filled in its place. -/
def finish (b : Building) : Except Fault Building :=
  match b.path with
  | [] => .ok { b with root := b.current, current := [] }
  | _ =>
    let (parents, (leaf, piece)) := splitKey b.path
    let place (_ : Made) (es : Entries) : Except Fault (Entries × Unit) :=
      if b.isArray then
        match es.lookup leaf with
        | none => .ok (es ++ [(leaf, .tables [b.current])], ())
        | some (.tables each) => .ok (es.set leaf (.tables (each ++ [b.current])), ())
        | some _ => duplicateKey piece
      else
        match es.lookup leaf with
        | none => .ok (es ++ [(leaf, .table .header b.current)], ())
        | some (.table .implicit _) => .ok (es.set leaf (.table .header b.current), ())
        | some _ => duplicateKey piece
    match descend false place parents .header b.root with
    | .ok (root, _) => .ok { b with root := root, current := [], path := [] }
    | .error f => .error f

/-- Starts the table of a header, after the last one is put in place.  An
implied table of the same key is taken up; anything else there is a
duplicate. -/
def startTable (b : Building) (key : List (String × Piece)) : Except Fault Building := do
  let b ← b.finish
  let (parents, (leaf, piece)) := splitKey key
  let take (_ : Made) (es : Entries) : Except Fault (Entries × Entries) :=
    match es.lookup leaf with
    | none => .ok (es, [])
    | some (.table .implicit sub) => .ok (es.filter (·.1 != leaf), sub)
    | some _ => duplicateKey piece
  let (root, current) ← descend false take parents .header b.root
  .ok { root := root, current := current, path := key, isArray := false }

/-- Starts a table of an array of tables, after the last one is put in
place. -/
def startArrayTable (b : Building) (key : List (String × Piece)) : Except Fault Building := do
  let b ← b.finish
  let (parents, (leaf, piece)) := splitKey key
  let prepare (_ : Made) (es : Entries) : Except Fault (Entries × Unit) :=
    match es.lookup leaf with
    | none => .ok (es ++ [(leaf, .tables [])], ())
    | some (.tables _) => .ok (es, ())
    | some _ => duplicateKey piece
  let (root, _) ← descend false prepare parents .header b.root
  .ok { root := root, current := [], path := key, isArray := true }

/-- Adds an assignment to the table being filled. -/
def assign (b : Building) (key : List (String × Piece)) (v : Node) : Except Fault Building := do
  let (parents, last) := splitKey key
  let put (made : Made) (es : Entries) : Except Fault (Entries × Unit) := do
    let es ← putMember parents last v made es
    .ok (es, ())
  let (current, _) ← descend true put parents .header b.current
  .ok { b with current := current }

/-- Takes one expression. -/
def step (b : Building) : Expression → Except Fault Building
  | .assign key w => do
    let path ← decodeKeyPath key
    let v ← w.node
    b.assign path v
  | .table key => do
    let path ← decodeKeyPath key
    b.startTable path
  | .arrayTable key => do
    let path ← decodeKeyPath key
    b.startArrayTable path

end Building

/-- Builds the top table of a document from its expressions. -/
def buildDocument (exprs : List Expression) : Except Fault Entries := do
  let b ← exprs.foldlM Building.step {}
  let b ← b.finish
  .ok b.root

/-- The value of an integer's digits in a radix as a signed 64-bit integer,
or why it is none. -/
def integerValue (digits : List Char) (radix : Nat) : Except String Int :=
  let (negative, ds) := match digits with
    | '-' :: rest => (true, rest)
    | '+' :: rest => (false, rest)
    | cs => (false, cs)
  if digits.isEmpty then .error "cannot parse integer from empty string"
  else if ds.isEmpty ∨ !ds.all (isRadixDigit radix) then .error "invalid digit found in string"
  else
    let v := ds.foldl (fun n c => n * radix + Text.hexValue [c]) 0
    if negative then
      if v > Nat.pow 2 63 then .error "number too small to fit in target type" else .ok (-(v : Int))
    else if v ≥ Nat.pow 2 63 then .error "number too large to fit in target type"
    else .ok v

/-- The double of a float's text; a finite text whose value is too large is
an overflow. -/
def floatValue (text : List Char) : Except String Float :=
  match readFloat? (String.ofList text) with
  | some x =>
    if x.isInf ∧ !(asciiLower text).contains 'i' then .error "floating-point number overflowed"
    else .ok x
  | none => .error "invalid float literal"

/-- Members in key order, a later key replacing an earlier one. -/
def sortedEntries {α : Type} (es : List (String × α)) : List (String × α) :=
  es.foldl (fun acc (k, v) => putEntry k v acc) []

mutual
/-- A node with the members of every table in key order. -/
def Node.sorted : Node → Node
  | .leaf v => .leaf v
  | .array items => .array (Node.sortedItems items)
  | .table m es => .table m (sortedEntries (Node.sortedMembers es))
  | .tables each => .tables (Node.sortedTables each)

/-- Items with their tables sorted. -/
def Node.sortedItems : List Node → List Node
  | [] => []
  | n :: rest => n.sorted :: Node.sortedItems rest

/-- Members with their tables sorted. -/
def Node.sortedMembers : List (String × Node) → List (String × Node)
  | [] => []
  | (k, n) :: rest => (k, n.sorted) :: Node.sortedMembers rest

/-- The tables of an array of tables, sorted. -/
def Node.sortedTables : List (List (String × Node)) → List (List (String × Node))
  | [] => []
  | es :: rest => sortedEntries (Node.sortedMembers es) :: Node.sortedTables rest
end

mutual
/-- A node of the document as a configuration tree from the source
`origin`, or why a number in it has no value; members are taken in the
order given. -/
def Node.toTree (origin : Option String) : Node → Except String Tree
  | .leaf (.str s) => .ok (.leaf origin (.str s))
  | .leaf (.bool b) => .ok (.leaf origin (.bool b))
  | .leaf (.integer ds radix) => do
    let i ← integerValue ds radix
    .ok (.leaf origin (.int i))
  | .leaf (.float text) => do
    let x ← floatValue text
    .ok (.leaf origin (.float x))
  | .leaf (.moment m) => .ok (.leaf origin (.str m.render))
  | .array items => do
    let ts ← Node.treesOf origin items
    .ok (.array origin ts)
  | .table _ es => do
    let es ← Node.membersOf origin es
    .ok (.table origin es)
  | .tables each => do
    let ts ← Node.tablesOf origin each
    .ok (.array origin ts)

/-- Items as trees. -/
def Node.treesOf (origin : Option String) : List Node → Except String (List Tree)
  | [] => .ok []
  | n :: rest => do
    let t ← n.toTree origin
    let ts ← Node.treesOf origin rest
    .ok (t :: ts)

/-- Members as trees, in the order given. -/
def Node.membersOf (origin : Option String) : List (String × Node) → Except String (List (String × Tree))
  | [] => .ok []
  | (k, n) :: rest => do
    let t ← n.toTree origin
    let ts ← Node.membersOf origin rest
    .ok ((k, t) :: ts)

/-- The tables of an array of tables as trees. -/
def Node.tablesOf (origin : Option String) : List (List (String × Node)) → Except String (List Tree)
  | [] => .ok []
  | es :: rest => do
    let t ← Node.membersOf origin es
    let ts ← Node.tablesOf origin rest
    .ok (.table origin t :: ts)
end

/-- Why a document cannot be read: a fault at a place in the text, or a
number without a value. -/
inductive ReadFault where
  | at (f : Fault)
  | number (message : String)

/-- Reads a document: the members of its top table. -/
def read (origin : Option String) (text : String) : Except ReadFault (List (String × Tree)) := do
  let exprs ← (readSyntax (Token.scan text.toList)).mapError .at
  let root ← (buildDocument exprs).mapError .at
  (Node.membersOf origin (sortedEntries (Node.sortedMembers root))).mapError .number

/-- The line (from zero) and column of a byte, as a reader of the text counts
them: the column in characters, or in bytes when the byte is inside a
character. -/
def position (bytes : List Nat) (index : Nat) : Nat × Nat :=
  if bytes.isEmpty then (0, index) else
  let safe := min index (bytes.length - 1)
  let beyond := index - safe
  let before := bytes.take safe
  let lineStart := match (before.reverse.findIdx? (· == 10)) with
    | some i => safe - i
    | none => 0
  let line := (bytes.take lineStart).count 10
  let slice := (bytes.drop lineStart).take (safe - lineStart + 1)
  let column := match String.fromUTF8? (ByteArray.mk (slice.map UInt8.ofNat).toArray) with
    | some str => str.length - 1
    | none => safe - lineStart
  (line, column + beyond)

/-- The text of a fault, showing the line it is on. -/
def Fault.render (f : Fault) (text : String) : String :=
  let bytes := TopicHub.Text.utf8Bytes text
  let (line, column) := position bytes f.start
  let lineNum := line + 1
  let gutter := (Nat.repr lineNum).length
  let content := (text.splitOn "\n")[line]?.getD ""
  let span := f.stop - f.start
  let highlight := min span (content.utf8ByteSize - column)
  let pad (n : Nat) := String.ofList (List.replicate n ' ')
  "TOML parse error at line " ++ toString lineNum ++ ", column " ++ toString (column + 1) ++ "\n" ++
    pad (gutter + 1) ++ "|\n" ++
    toString lineNum ++ " | " ++ content ++ "\n" ++
    pad (gutter + 1) ++ "|" ++ pad (column + 1) ++ "^" ++ String.ofList (List.replicate (highlight - 1) '^') ++ "\n" ++
    f.message ++ "\n"

/-- The text of a reading fault. -/
def ReadFault.render (text : String) : ReadFault → String
  | .at f => f.render text
  | .number m => m

end TopicHub.Config.Toml
