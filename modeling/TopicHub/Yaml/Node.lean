/-
  Yaml/Node.lean --- the documents of a YAML stream, composed from its events.

  Each document becomes one node.  A quoted or block scalar is text; a plain
  scalar is typed by its text:

  * `~` and `null` are null, `true` and `false` booleans, the words also
    with a capital first letter or all in capitals;
  * `0x` and `0o` followed by an optionally signed number in base 16 or 8,
    `+` followed by a decimal, or an optionally signed decimal, is an integer
    when it fits 64 bits;
  * what has a digit and reads as a double (also `.inf`, `-.inf` and `.nan`
    in their three spellings) is a real, kept as written;
  * anything else is text.

  A YAML tag `!!bool`, `!!int`, `!!float` or `!!null` on a plain scalar asks
  for that type and gives a bad value when the text is not one; any other
  tag keeps the text.  An alias stands for a copy of its anchored node, or a
  bad value when that node is not finished yet.  A key met twice in a
  mapping is a fault, named in its debug form at the end of its second value.
-/
import TopicHub.Yaml.Event
import TopicHub.Decimal.Plain
import TopicHub.Text.Debug

set_option autoImplicit false

namespace TopicHub.Yaml

open TopicHub.Decimal

/-- A YAML value. -/
inductive Node where
  | null
  | bool (b : Bool)
  | int (i : Int)
  /-- a real number, as written -/
  | real (text : String)
  | str (text : String)
  | seq (items : List Node)
  | map (entries : List (Node × Node))
  /-- what a tag or alias could not give -/
  | bad
  deriving Inhabited

mutual
/-- Two nodes are the same value: of one kind, with the same contents in the
same order. -/
def Node.same : Node → Node → Bool
  | .null, .null => true
  | .bool a, .bool b => a == b
  | .int a, .int b => a == b
  | .real a, .real b => a == b
  | .str a, .str b => a == b
  | .seq as, .seq bs => Node.sameItems as bs
  | .map as, .map bs => Node.samePairs as bs
  | .bad, .bad => true
  | _, _ => false

/-- Two lists of nodes are the same, item by item. -/
def Node.sameItems : List Node → List Node → Bool
  | [], [] => true
  | a :: as, b :: bs => Node.same a b && Node.sameItems as bs
  | _, _ => false

/-- Two lists of pairs are the same, pair by pair. -/
def Node.samePairs : List (Node × Node) → List (Node × Node) → Bool
  | [], [] => true
  | (k, v) :: as, (k', v') :: bs => Node.same k k' && Node.same v v' && Node.samePairs as bs
  | _, _ => false
end

instance : BEq Node := ⟨Node.same⟩

/-- An integer in `base`: an optional sign and at least one digit, fitting 64
bits. -/
def readRadix? (base : Nat) (cs : List Char) : Option Int :=
  let (neg, ds) := match cs with
    | '-' :: rest => (true, rest)
    | '+' :: rest => (false, rest)
    | cs => (false, cs)
  if ds.isEmpty || !ds.all (fun c => isHexChar c && hexValue c < base) then none
  else
    let v : Nat := ds.foldl (fun n c => n * base + hexValue c) 0
    let i : Int := if neg then -(v : Int) else v
    if -Int.pow 2 63 ≤ i && i ≤ Int.pow 2 63 - 1 then some i else none

/-- The text reads as a double: one of the spellings of infinity and
not-a-number, or a text with a digit in it that reads as a number. -/
def isRealText (text : String) : Bool :=
  [".inf", ".Inf", ".INF", "+.inf", "+.Inf", "+.INF", "-.inf", "-.Inf", "-.INF", ".nan", ".NaN", ".NAN"].contains text ||
    (text.toList.any Char.isDigit && (readFloat? text).isSome)

/-- The spellings of null. -/
def nullWords : List String := ["~", "null"]

/-- The boolean a word spells, if any. -/
def boolWord? (text : String) : Option Bool :=
  if ["true", "True", "TRUE"].contains text then some true
  else if ["false", "False", "FALSE"].contains text then some false
  else none

/-- The value of a plain scalar. -/
def Node.ofPlain (text : String) : Node :=
  let special : Option Int :=
    match text.toList with
    | '0' :: 'x' :: ds => readRadix? 16 ds
    | '0' :: 'o' :: ds => readRadix? 8 ds
    | '+' :: ds => readI64? (String.ofList ds)
    | _ => none
  match special with
  | some i => .int i
  | none =>
    if nullWords.contains text then .null
    else match boolWord? text with
    | some b => .bool b
    | none =>
      match readI64? text with
      | some i => .int i
      | none => if isRealText text then .real text else .str text

/-- The prefix of the YAML tags. -/
def yamlTags : String := "tag:yaml.org,2002:"

/-- The value of a scalar, by its style and tag. -/
def Node.ofScalar (text : String) (style : ScalarStyle) (tag : Option Tag) : Node :=
  if style != .plain then .str text
  else
    match tag with
    | none => Node.ofPlain text
    | some t =>
      if t.handle != yamlTags then .str text
      else if t.suffix == "bool" then
        ((boolWord? text).map Node.bool).getD .bad
      else if t.suffix == "int" then ((readI64? text).map Node.int).getD .bad
      else if t.suffix == "float" then (if isRealText text then .real text else .bad)
      else if t.suffix == "null" then (if nullWords.contains text then .null else .bad)
      else .str text

mutual
/-- A node in its debug form, as messages name it. -/
def Node.debug : Node → String
  | .null => "Null"
  | .bad => "BadValue"
  | .bool b => "Boolean(" ++ toString b ++ ")"
  | .int i => "Integer(" ++ toString i ++ ")"
  | .real t => "Real(" ++ Text.debugQuote t ++ ")"
  | .str t => "String(" ++ Text.debugQuote t ++ ")"
  | .seq items => "Array([" ++ Node.debugItems items ++ "])"
  | .map es => "Hash(\x7b" ++ Node.debugPairs es ++ "\x7d)"

/-- Items in their debug form, separated by commas. -/
def Node.debugItems : List Node → String
  | [] => ""
  | [n] => Node.debug n
  | n :: rest => Node.debug n ++ ", " ++ Node.debugItems rest

/-- Pairs in their debug form, separated by commas. -/
def Node.debugPairs : List (Node × Node) → String
  | [] => ""
  | [(k, v)] => Node.debug k ++ ": " ++ Node.debug v
  | (k, v) :: rest => Node.debug k ++ ": " ++ Node.debug v ++ ", " ++ Node.debugPairs rest
end

/-- A collection being composed. -/
inductive Partial where
  /-- a sequence: its anchor and its items so far, the last first -/
  | seq (anchor : Nat) (items : List Node)
  /-- a mapping: its anchor, its pairs so far and the key waiting for its
  value (a bad value while there is none) -/
  | map (anchor : Nat) (entries : List (Node × Node)) (key : Node)

/-- The state of the composer. -/
structure Composer where
  /-- the documents composed, in order -/
  docs : List Node := []
  /-- the top node of the current document, once finished -/
  root : Option Node := none
  /-- the open collections, innermost first -/
  open_ : List Partial := []
  /-- finished anchored nodes, by the numbers of their anchors -/
  anchored : List (Nat × Node) := []

namespace Composer

/-- Places a finished node in the collection it belongs to; `mark` is where
it ended.  A value whose key the mapping has already is a fault. -/
def place (c : Composer) (n : Node) (anchor : Nat) (mark : Mark) : Except Fault Composer :=
  let c := if anchor > 0 then { c with anchored := (anchor, n) :: c.anchored } else c
  match c.open_ with
  | [] => .ok { c with root := some n }
  | .seq a items :: rest => .ok { c with open_ := .seq a (n :: items) :: rest }
  | .map a es k :: rest =>
    if k == .bad then .ok { c with open_ := .map a es n :: rest }
    else if es.any (·.1 == k) then .error ⟨mark, k.debug ++ ": duplicated key in mapping"⟩
    else .ok { c with open_ := .map a (es ++ [(k, n)]) .bad :: rest }

/-- Takes one event, which ends at `mark`. -/
def take (c : Composer) (mark : Mark) : Event → Except Fault Composer
  | .documentEnd => .ok { c with docs := c.docs ++ [c.root.getD .bad], root := none }
  | .sequenceStart a _ => .ok { c with open_ := .seq a [] :: c.open_ }
  | .sequenceEnd =>
    match c.open_ with
    | .seq a items :: rest => { c with open_ := rest }.place (.seq items.reverse) a mark
    | _ => .ok c
  | .mappingStart a _ => .ok { c with open_ := .map a [] .bad :: c.open_ }
  | .mappingEnd =>
    match c.open_ with
    | .map a es _ :: rest => { c with open_ := rest }.place (.map es) a mark
    | _ => .ok c
  | .scalar text style a tag => c.place (Node.ofScalar text style tag) a mark
  | .alias id => c.place ((c.anchored.lookup id).getD .bad) 0 mark
  | _ => .ok c

end Composer

/-- Reads events until the stream ends; anchor names start afresh with each
document. -/
def composeLoop : Nat → Reader → Composer → Except Fault (List Node)
  | 0, _, c => .ok c.docs
  | fuel + 1, r, c => do
    let (e, mark, r) ← r.step
    match e with
    | .streamEnd => .ok c.docs
    | .documentStart => composeLoop fuel { r with anchors := [] } c
    | e => do
      let c ← c.take mark e
      composeLoop fuel r c

/-- The documents of a YAML text, or the first fault in it. Each character
gives rise to a few tokens at most, and each token to a few events, so the
fuel never runs out first. -/
def load (text : String) : Except Fault (List Node) :=
  composeLoop (32 * (text.length + 4)) { lexer := { rest := text.toList } } {}

end TopicHub.Yaml
