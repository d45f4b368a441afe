/-
  Config/Ron.lean --- reading RON documents into configuration trees.

  RON writes data the way programs spell it: `true`, `false`, numbers
  (decimal, `0x`, `0o` and `0b` integers, floats, `inf`, `NaN`), strings in
  double quotes with escapes or raw (`r#"..."#`), characters in single
  quotes, `Some(v)` and `None`, the unit `()`, lists `[a, b]`, maps
  `{k: v}`, tuples `(a, b)` and structs `(name: v)`, either of the last two
  after a type name, which is dropped (`Config(port: 1)`); a type name alone
  is the unit.  `Config/Ron/Syntax` reads a document into a value.

  As a configuration tree, options and the unit are nil, characters are
  strings, integers keep their value and signedness and floats their double,
  and a byte string is a list of its bytes.  Map entries are taken in key
  order; every key must be a string, a character or a byte string in UTF-8,
  and the first key that is not fails with what it is.
-/
import TopicHub.Config.Tree
import TopicHub.Config.Ron.Syntax

set_option autoImplicit false

namespace TopicHub.Config.Ron

open TopicHub.Decimal

/-- A byte as `\xNN` or its printable ASCII character, quotes and the
backslash escaped. -/
def escapeByte (b : Nat) : String :=
  let hex (n : Nat) : Char := if n < 10 then Char.ofNat (48 + n) else Char.ofNat (87 + n)
  if b = 9 then "\\t" else if b = 13 then "\\r" else if b = 10 then "\\n"
  else if b = 92 then "\\\\" else if b = 39 then "\\'" else if b = 34 then "\\\""
  else if 32 ≤ b ∧ b < 127 then String.singleton (Char.ofNat b)
  else String.ofList ['\\', 'x', hex (b / 16), hex (b % 16)]

/-- What a value that is no string is called in faults. -/
def Value.description : Value → String
  | .bool b => "the boolean `" ++ toString b ++ "`"
  | .char c => "the UTF-8 character `" ++ String.singleton c ++ "`"
  | .number (.int k v) =>
    (if k.unsigned then "the unsigned integer `" else "the signed integer `") ++ toString v ++ "`"
  | .number (.float _ x) => "the floating point number `" ++ plainText x ++ "`"
  | .option _ => "an optional value"
  | .str s => "the string " ++ Text.debugQuote s
  | .bytes bs => "the byte string b\"" ++ String.join (bs.map escapeByte) ++ "\""
  | .seq _ => "a sequence"
  | .map _ => "a map"
  | .unit => "a unit value"

/-- The name a map key gives a member: a string, a character, or a byte
string in UTF-8. -/
def Value.keyName (v : Value) : Except String String :=
  let refuse : Except String String :=
    .error ("Expected a string but found " ++ v.description ++ " instead")
  match v with
  | .str s => .ok s
  | .char c => .ok (String.singleton c)
  | .bytes bs =>
    match String.fromUTF8? (ByteArray.mk (bs.map UInt8.ofNat).toArray) with
    | some s => .ok s
    | none => refuse
  | _ => refuse

mutual
/-- A value as a configuration tree. -/
def Value.toTree (origin : Option String) : Value → Except String Tree
  | .bool b => .ok (.leaf origin (.bool b))
  | .char c => .ok (.leaf origin (.str (String.singleton c)))
  | .map es => do
    let ms ← Value.membersOf origin es []
    .ok (.table origin ms)
  | .number (.int k v) => .ok (.leaf origin (if k.unsigned then .uint v.toNat else .int v))
  | .number (.float _ x) => .ok (.leaf origin (.float x))
  | .option none => .ok (.leaf origin .nil)
  | .option (some v) => Value.toTree origin v
  | .str s => .ok (.leaf origin (.str s))
  | .bytes bs => .ok (.array origin (bs.map fun b => Tree.leaf origin (.uint b)))
  | .seq vs => do
    let ts ← Value.treesOf origin vs
    .ok (.array origin ts)
  | .unit => .ok (.leaf origin .nil)

/-- Items as trees. -/
def Value.treesOf (origin : Option String) : List Value → Except String (List Tree)
  | [] => .ok []
  | v :: rest => do
    let t ← Value.toTree origin v
    let ts ← Value.treesOf origin rest
    .ok (t :: ts)

/-- Map entries as members, in key order, a later one of a name replacing
an earlier one. -/
def Value.membersOf (origin : Option String) :
    List (Value × Value) → List (String × Tree) → Except String (List (String × Tree))
  | [], acc => .ok acc
  | (k, v) :: rest, acc => do
    let name ← k.keyName
    let t ← Value.toTree origin v
    Value.membersOf origin rest (putEntry name t acc)
end

/-- Reads a document as a configuration tree, or says why it cannot be read. -/
def read (origin : Option String) (text : String) : Except String Tree := do
  let v ← Value.ofText text
  v.toTree origin

end TopicHub.Config.Ron
