/-
  Config/Yaml.lean --- YAML documents as configuration trees.

  A YAML text with no document is an empty table, one with a single document
  is that document's top node, and one with more is refused.  A node becomes
  a tree as follows:

  * a mapping is a table; its keys are text, integers, booleans or reals
    as written, and any other key is refused, named in its debug form;
  * a sequence is an array;
  * a real is the double its text reads as; `.inf` and `.nan` do not read
    as doubles here, and are refused;
  * null, and a value that a tag or alias could not give, is nothing.
-/
import TopicHub.Yaml.Node
import TopicHub.Config.Tree
import TopicHub.Text.Debug

set_option autoImplicit false

namespace TopicHub.Config.Yaml

open TopicHub.Yaml
open TopicHub.Decimal

/-- The text of a mapping key, or why it cannot be one. -/
def keyText : Node → Except String String
  | .str s => .ok s
  | .int i => .ok (toString i)
  | .bool b => .ok (toString b)
  | .real t => .ok t
  | other => .error ("Cannot parse " ++ other.debug ++ " because it is an unsupported hash key type")

mutual
/-- A node as a configuration tree from the source `origin`. -/
def treeOf (origin : Option String) : Node → Except String Tree
  | .null => .ok (.leaf origin .nil)
  | .bad => .ok (.leaf origin .nil)
  | .bool b => .ok (.leaf origin (.bool b))
  | .int i => .ok (.leaf origin (.int i))
  | .real t =>
    match readFloat? t with
    | some x => .ok (.leaf origin (.float x))
    | none => .error ("Parsing " ++ t ++ " as floating point number failed")
  | .str s => .ok (.leaf origin (.str s))
  | .seq items => (treesOf origin items).map (.array origin)
  | .map es => (membersOf origin es []).map (.table origin)

/-- Items as trees. -/
def treesOf (origin : Option String) : List Node → Except String (List Tree)
  | [] => .ok []
  | n :: rest => do
    let t ← treeOf origin n
    let ts ← treesOf origin rest
    .ok (t :: ts)

/-- Pairs as table members, in order, a later key replacing an earlier one. -/
def membersOf (origin : Option String) : List (Node × Node) → List (String × Tree) →
    Except String (List (String × Tree))
  | [], acc => .ok acc
  | (k, v) :: rest, acc => do
    let key ← keyText k
    let t ← treeOf origin v
    membersOf origin rest (putEntry key t acc)
end

/-- Reads a YAML text as a configuration tree, or says why it cannot. -/
def read (origin : Option String) (text : String) : Except String Tree :=
  match load text with
  | .error f => .error f.message
  | .ok [] => .ok (.table origin [])
  | .ok [doc] => treeOf origin doc
  | .ok docs => .error ("Got " ++ toString docs.length ++ " YAML documents, expected 1")

end TopicHub.Config.Yaml
