/-
  Json/Value.lean --- JSON documents as a Lean value.

  A `Json` keeps what a reader saw: object members in document order, duplicates
  included.  That is the shape a document has while it is being read and
  buffered.  A *map value* is the other shape: members sorted by key, one per
  key, the last of several winning.  `Json.normalize` turns the first into the
  second, and `Json.IsMapValue` says when a document already has it.

  Numbers keep the kind they were read as: an unsigned or a negative integer
  while it fits in 64 bits, a double otherwise.
-/

set_option autoImplicit false

namespace TopicHub.Json

/-- A JSON number, in the kind it was read or built as. -/
inductive Number where
  /-- an integer in `[0, 2^64)` -/
  | unsigned (n : Nat)
  /-- a negative integer in `[-2^63, 0)` -/
  | signed (i : Int)
  /-- any other number, as a double -/
  | float (x : Float)

end TopicHub.Json

namespace TopicHub

/-- A JSON document. -/
inductive Json where
  | null
  | bool (b : Bool)
  | num (n : Json.Number)
  | str (s : String)
  | arr (items : List Json)
  /-- members in the order they stand, duplicates included -/
  | obj (fields : List (String × Json))

end TopicHub

namespace TopicHub.Json

/-- An integer as a number of the kind a reader gives it. -/
def ofInt (i : Int) : Json :=
  if 0 ≤ i then .num (.unsigned i.toNat) else .num (.signed i)

/-- A double as a number. -/
def ofFloat (x : Float) : Json := .num (.float x)

/-- A list of strings as an array. -/
def ofStrings (xs : List String) : Json := .arr (xs.map .str)

/-- Inserts a member into members sorted by key; an equal key is replaced. -/
def insertSorted (k : String) (v : Json) : List (String × Json) → List (String × Json)
  | [] => [(k, v)]
  | (k', v') :: rest =>
    if k < k' then (k, v) :: (k', v') :: rest
    else if k = k' then (k, v) :: rest
    else (k', v') :: insertSorted k v rest

/-- Of each run of members with equal keys, the last. -/
def lastOfRuns : List (String × Json) → List (String × Json)
  | [] => []
  | m :: tail =>
    match tail with
    | [] => [m]
    | n :: _ => if m.1 == n.1 then lastOfRuns tail else m :: lastOfRuns tail

/-- Members sorted by key, the last of equal keys kept.  The sort is stable,
so members of one key stay in their order and the last of them is kept. -/
def sortMembers (fields : List (String × Json)) : List (String × Json) :=
  lastOfRuns (fields.mergeSort fun a b => decide (a.1 ≤ b.1))

mutual
/-- The map value of a document: every object's members sorted by key, one per
key, the last of several winning. -/
def normalize : Json → Json
  | .arr items => .arr (normalizeItems items)
  | .obj fields => .obj (sortMembers (normalizeFields fields))
  | j => j

/-- `normalize` on each item. -/
def normalizeItems : List Json → List Json
  | [] => []
  | j :: rest => normalize j :: normalizeItems rest

/-- `normalize` on each member's value. -/
def normalizeFields : List (String × Json) → List (String × Json)
  | [] => []
  | (k, v) :: rest => (k, normalize v) :: normalizeFields rest
end

/-- The value of the member `k` of an object, the last one if there are several. -/
def field? (j : Json) (k : String) : Option Json :=
  match j with
  | .obj fields => (fields.reverse.find? (·.1 == k)).map (·.2)
  | _ => none

/-- The string, if the document is one. -/
def getStr? : Json → Option String
  | .str s => some s
  | _ => none

/-- The boolean, if the document is one. -/
def getBool? : Json → Option Bool
  | .bool b => some b
  | _ => none

/-- The items, if the document is an array. -/
def getArr? : Json → Option (List Json)
  | .arr items => some items
  | _ => none

/-- The members, if the document is an object. -/
def getObj? : Json → Option (List (String × Json))
  | .obj fields => some fields
  | _ => none

/-- The natural number, if the document is a non-negative integer. -/
def getNat? : Json → Option Nat
  | .num (.unsigned n) => some n
  | _ => none

end TopicHub.Json
