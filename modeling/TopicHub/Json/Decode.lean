/-
  Json/Decode.lean --- building typed values from documents.

  A `Decoder` turns a document into a value or names the first mismatch.  The
  primitive decoders accept what their type can hold: an integer type accepts
  integers in its range (outside it, an invalid value), a double accepts any
  number, a string only a string.  A struct is read from an object, by field
  name, or from an array, by position:

  * members are visited in order; a field seen twice is refused when its
    second key is met, and a member whose key names no field is passed over;
  * after the last member, the first required field that did not occur is
    missing;
  * from an array each field takes the next item, and a missing item is an
    invalid length; items left over are refused as `Origin` says.

  A variant is named by a string; a name that is none of the variants' is an
  unknown variant, reported with the list of names.  A variant of an enum
  tagged inside its object is read from the other members: a struct variant
  as a struct, a unit variant from anything but an array with items.

  `Origin` records where the document came from: buffered from text, or a map
  value.  The two differ only in how items left over in an array are named.
-/
import TopicHub.Json.Fault

set_option autoImplicit false

namespace TopicHub.Json

/-- Turns a document into a value of a type, or names the first mismatch. -/
abbrev Decoder (α : Type) := Json → Except Mismatch α

/-- Where a document being decoded came from. -/
inductive Origin where
  /-- buffered while its text was read; members in document order -/
  | buffered
  /-- a map value: members sorted, one per key -/
  | value
  deriving Repr, DecidableEq

/-- How an array with `total` items, of which `used` were taken, is refused. -/
def Origin.leftOver (o : Origin) (total used : Nat) : Mismatch :=
  match o with
  | .buffered =>
    .invalidLength total (if used = 1 then "1 element in sequence" else s!"{used} elements in sequence")
  | .value => .invalidLength total "fewer elements in array"

namespace Decoder

/-- A string. -/
def string : Decoder String
  | .str s => .ok s
  | j => .error (.invalidType (Found.ofJson j) "a string")

/-- A boolean. -/
def bool : Decoder Bool
  | .bool b => .ok b
  | j => .error (.invalidType (Found.ofJson j) "a boolean")

/-- A double: any number, an integer rounded to the nearest double. -/
def float : Decoder Float
  | .num (.unsigned n) => .ok (Float.ofNat n)
  | .num (.signed i) => .ok (Float.ofInt i)
  | .num (.float x) => .ok x
  | j => .error (.invalidType (Found.ofJson j) "f64")

/-- An integer between `lo` and `hi`, named `name` in messages. -/
def integer (name : String) (lo hi : Int) : Decoder Int
  | .num (.unsigned n) =>
    if lo ≤ (n : Int) ∧ (n : Int) ≤ hi then .ok n else .error (.invalidValue (.unsigned n) name)
  | .num (.signed i) =>
    if lo ≤ i ∧ i ≤ hi then .ok i else .error (.invalidValue (.signed i) name)
  | j => .error (.invalidType (Found.ofJson j) name)

/-- A signed 32-bit integer. -/
def i32 : Decoder Int := integer "i32" (-Int.pow 2 31) (Int.pow 2 31 - 1)

/-- An unsigned integer below `2^bits`, named `name`. -/
def unsigned (name : String) (bits : Nat) : Decoder Nat := fun j =>
  (integer name 0 (Int.pow 2 bits - 1) j).map Int.toNat

/-- An unsigned 16-bit integer. -/
def u16 : Decoder Nat := unsigned "u16" 16

/-- An unsigned 32-bit integer. -/
def u32 : Decoder Nat := unsigned "u32" 32

/-- An unsigned machine-word integer (64 bits). -/
def usize : Decoder Nat := unsigned "usize" 64

/-- Each item of an array, in order. -/
def listItems {α : Type} (d : Decoder α) : List Json → Except Mismatch (List α)
  | [] => .ok []
  | j :: rest => do
    let x ← d j
    let xs ← listItems d rest
    .ok (x :: xs)

/-- An array, each item decoded. -/
def list {α : Type} (d : Decoder α) : Decoder (List α)
  | .arr items => listItems d items
  | j => .error (.invalidType (Found.ofJson j) "a sequence")

/-- `null` as nothing, anything else decoded. -/
def option {α : Type} (d : Decoder α) : Decoder (Option α)
  | .null => .ok none
  | j => (d j).map some

end Decoder

/-- A field of a struct: its name, and a check that a value is one it can take. -/
structure FieldSpec where
  name : String
  check : Json → Except Mismatch Unit

/-- The field `name` taking values of the decoder `d`. -/
def FieldSpec.of {α : Type} (name : String) (d : Decoder α) : FieldSpec :=
  ⟨name, fun j => (d j).map fun _ => ()⟩

/-- The values a struct's fields were given: the first occurrence of each. -/
abbrev FieldValues := List (String × Json)

/-- Visits members in order: a known field is refused the second time it
occurs and its value checked the first time; other members are passed over. -/
def collectMembers (specs : List FieldSpec) :
    List (String × Json) → FieldValues → Except Mismatch FieldValues
  | [], found => .ok found.reverse
  | (k, v) :: rest, found =>
    match specs.find? (·.name == k) with
    | none => collectMembers specs rest found
    | some spec =>
      if found.any (·.1 == k) then .error (.duplicateField k)
      else do
        spec.check v
        collectMembers specs rest ((k, v) :: found)

/-- Gives each field the next item, in order; a missing item is an invalid
length for `expecting`. -/
def collectItems (expecting : String) (specs : List FieldSpec) (index : Nat) :
    List Json → FieldValues → Except Mismatch (FieldValues × List Json)
  | items, found =>
    match specs with
    | [] => .ok (found.reverse, items)
    | spec :: more =>
      match items with
      | [] => .error (.invalidLength index expecting)
      | j :: rest => do
        spec.check j
        collectItems expecting more (index + 1) rest ((spec.name, j) :: found)

/-- The value of a required field. -/
def FieldValues.required {α : Type} (fs : FieldValues) (name : String) (d : Decoder α) :
    Except Mismatch α :=
  match fs.lookup name with
  | some j => d j
  | none => .error (.missingField name)

/-- The value of an optional field, read by a decoder of optional values;
nothing if it did not occur. -/
def FieldValues.optional {α : Type} (fs : FieldValues) (name : String) (d : Decoder (Option α)) :
    Except Mismatch (Option α) :=
  match fs.lookup name with
  | some j => d j
  | none => .ok none

/-- The text naming a struct of `n` fields read from an array. -/
def withElements (what : String) (n : Nat) : String :=
  if n = 1 then s!"{what} with 1 element" else s!"{what} with {n} elements"

/-- A struct called `what` with the fields `specs`, built by `build` from the
values its fields were given. -/
def Decoder.struct {α : Type} (origin : Origin) (what : String) (specs : List FieldSpec)
    (build : FieldValues → Except Mismatch α) : Decoder α
  | .obj members => do
    let fs ← collectMembers specs members []
    build fs
  | .arr items => do
    let (fs, left) ← collectItems (withElements what specs.length) specs 0 items []
    let v ← build fs
    match left with
    | [] => .ok v
    | _ => .error (origin.leftOver items.length specs.length)
  | j => .error (.invalidType (Found.ofJson j) what)

/-- The variant of `all` whose name is `name`. -/
def variantNamed {α : Type} (all : List α) (nameOf : α → String) (name : String) :
    Except Mismatch α :=
  match all.find? (nameOf · == name) with
  | some k => .ok k
  | none => .error (.unknownVariant name (all.map nameOf))

/-- The struct variant `enum::variant` with the single field `field` of decoder `d`,
read from the buffered rest of a tagged document. -/
def Decoder.oneField {α : Type} (enum variant field : String) (d : Decoder α) : Decoder α :=
  Decoder.struct .buffered ("struct variant " ++ enum ++ "::" ++ variant) [.of field d]
    fun fs => fs.required field d

/-- A unit variant of a tagged enum: any members are ignored, an array must be empty. -/
def Decoder.noFields : Decoder Unit
  | .arr [] => .ok ()
  | .arr items => .error (Origin.buffered.leftOver items.length 0)
  | _ => .ok ()

end TopicHub.Json
