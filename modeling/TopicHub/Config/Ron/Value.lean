/-
  Config/Ron/Value.lean --- the values of a RON document and their order.

  A number keeps the width it was read with: integers are signed or unsigned
  of 8, 16, 32 or 64 bits, floats of 32 or 64 bits.  Values are ordered by
  kind (booleans, characters, maps, numbers, options, strings, byte strings,
  lists, the unit), then within each kind; numbers by width first, then by
  value, with every NaN equal to every other and below all other floats.  A
  map keeps its entries in key order, and an equal key replaces the value.
-/

set_option autoImplicit false

namespace TopicHub.Config.Ron

/-- The width and signedness of an integer. -/
inductive IntKind where
  | i8 | i16 | i32 | i64 | u8 | u16 | u32 | u64
  deriving DecidableEq, Repr

/-- The place of an integer kind in the order of numbers. -/
def IntKind.rank : IntKind → Nat
  | .i8 => 0 | .i16 => 1 | .i32 => 2 | .i64 => 3
  | .u8 => 4 | .u16 => 5 | .u32 => 6 | .u64 => 7

/-- The least value of an integer kind. -/
def IntKind.least : IntKind → Int
  | .i8 => -Int.pow 2 7 | .i16 => -Int.pow 2 15 | .i32 => -Int.pow 2 31 | .i64 => -Int.pow 2 63
  | _ => 0

/-- The greatest value of an integer kind. -/
def IntKind.greatest : IntKind → Int
  | .i8 => Int.pow 2 7 - 1 | .i16 => Int.pow 2 15 - 1 | .i32 => Int.pow 2 31 - 1 | .i64 => Int.pow 2 63 - 1
  | .u8 => Int.pow 2 8 - 1 | .u16 => Int.pow 2 16 - 1 | .u32 => Int.pow 2 32 - 1 | .u64 => Int.pow 2 64 - 1

/-- The kind is unsigned. -/
def IntKind.unsigned (k : IntKind) : Bool := 4 ≤ k.rank

/-- The narrowest kind of one signedness that holds a value. -/
def IntKind.narrowest (negative : Bool) (v : Int) : IntKind :=
  let kinds := if negative then [IntKind.i8, .i16, .i32] else [IntKind.u8, .u16, .u32]
  (kinds.find? fun k => k.least ≤ v ∧ v ≤ k.greatest).getD (if negative then .i64 else .u64)

/-- A number of a document. -/
inductive Number where
  /-- an integer of a kind, within its range -/
  | int (kind : IntKind) (v : Int)
  /-- a float, of 64 bits when `wide`, else the double of a 32-bit one -/
  | float (wide : Bool) (x : Float)
  deriving Inhabited

/-- The place of a number's kind in the order of numbers. -/
def Number.rank : Number → Nat
  | .int k _ => k.rank
  | .float wide _ => if wide then 9 else 8

/-- A value of a document. -/
inductive Value where
  | bool (b : Bool)
  | char (c : Char)
  | map (entries : List (Value × Value))
  | number (n : Number)
  | option (v : Option Value)
  | str (s : String)
  | bytes (bs : List Nat)
  | seq (items : List Value)
  | unit
  deriving Inhabited

/-- The order of the kinds of values. -/
def Value.rank : Value → Nat
  | .bool _ => 0
  | .char _ => 1
  | .map _ => 2
  | .number _ => 3
  | .option _ => 4
  | .str _ => 5
  | .bytes _ => 6
  | .seq _ => 7
  | .unit => 8

/-- The order of floats, NaN below every number and equal to itself; the
two zeros are equal. -/
def compareFloat (x y : Float) : Ordering :=
  if x.isNaN then (if y.isNaN then .eq else .lt)
  else if y.isNaN then .gt
  else if x < y then .lt
  else if x == y then .eq
  else .gt

/-- The order of numbers: by kind, then by value. -/
def compareNumbers (a b : Number) : Ordering :=
  match a, b with
  | .int k x, .int l y => if k = l then compare x y else compare k.rank l.rank
  | .float v x, .float w y => if v = w then compareFloat x y else compare a.rank b.rank
  | _, _ => compare a.rank b.rank

/-- The order of lists of bytes, item by item. -/
def compareBytes : List Nat → List Nat → Ordering
  | [], [] => .eq
  | [], _ :: _ => .lt
  | _ :: _, [] => .gt
  | x :: xs, y :: ys =>
    match compare x y with
    | .eq => compareBytes xs ys
    | o => o

mutual
/-- The order of values: by kind, then within each kind; lists and maps are
ordered entry by entry. -/
def compareValues : Nat → Value → Value → Ordering
  | 0, _, _ => .eq
  | fuel + 1, a, b =>
    match a, b with
    | .bool x, .bool y => compare x y
    | .char x, .char y => compare x y
    | .map xs, .map ys => comparePairs fuel xs ys
    | .number x, .number y => compareNumbers x y
    | .option none, .option none => .eq
    | .option none, .option (some _) => .lt
    | .option (some _), .option none => .gt
    | .option (some x), .option (some y) => compareValues fuel x y
    | .str x, .str y => compare x y
    | .bytes x, .bytes y => compareBytes x y
    | .seq xs, .seq ys => compareItems fuel xs ys
    | a, b => compare a.rank b.rank

/-- Lists of values in order, item by item. -/
def compareItems : Nat → List Value → List Value → Ordering
  | 0, _, _ => .eq
  | _, [], [] => .eq
  | _, [], _ :: _ => .lt
  | _, _ :: _, [] => .gt
  | fuel + 1, x :: xs, y :: ys =>
    match compareValues fuel x y with
    | .eq => compareItems fuel xs ys
    | o => o

/-- Map entries in order, key then value, entry by entry. -/
def comparePairs : Nat → List (Value × Value) → List (Value × Value) → Ordering
  | 0, _, _ => .eq
  | _, [], [] => .eq
  | _, [], _ :: _ => .lt
  | _, _ :: _, [] => .gt
  | fuel + 1, (k, v) :: xs, (k', v') :: ys =>
    match compareValues fuel k k' with
    | .eq =>
      match compareValues fuel v v' with
      | .eq => comparePairs fuel xs ys
      | o => o
    | o => o
end

/-- Enough steps to compare any two values of a document of `n` characters. -/
def compareFuel (n : Nat) : Nat := 2 * n + 8

/-- Puts an entry into a map kept in key order; an equal key keeps its place
and takes the new value. -/
def insertEntry (fuel : Nat) (k v : Value) : List (Value × Value) → List (Value × Value)
  | [] => [(k, v)]
  | (k', v') :: rest =>
    match compareValues fuel k k' with
    | .lt => (k, v) :: (k', v') :: rest
    | .eq => (k', v) :: rest
    | .gt => (k', v') :: insertEntry fuel k v rest

end TopicHub.Config.Ron
