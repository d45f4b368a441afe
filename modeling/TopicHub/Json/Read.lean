/-
  Json/Read.lean --- reading a JSON document from text.

  `Json.read` reads one document and refuses anything but blanks after it.
  Objects keep their members in document order, duplicates included.  Arrays
  and objects nest at most 127 deep: the 128th opening bracket is refused.

  Each fault is reported with the position where the reader stood, in the way
  `Json/Cursor` counts it: after the byte that showed the fault when one did,
  and before the next byte when it was the end of the text.

  `Json.readTagged` reads a document whose head names its variant: an object
  with a tag member, or an array whose first item is the tag.  The tag's
  variant is checked as soon as it is read, before the rest of the text, and a
  missing or repeated tag is reported after the object's closing brace has been
  passed over.
-/
import TopicHub.Json.Scalar

set_option autoImplicit false

namespace TopicHub.Json

open Scalar

/-- The most brackets open at once, plus one. -/
def depthLimit : Nat := 128

/-- Reads the colon between a key and its value. -/
def readColon (c : Cursor) : Except Error Cursor :=
  let c := c.skipBlanks
  match c.rest with
  | ':' :: _ => .ok c.next
  | [] => failAt .endInObject c.peekPos
  | _ => failAt .colonExpected c.peekPos

/-- Where the next member's key starts: the first one directly, a later one
after a comma. -/
def memberStart (c : Cursor) (first : Bool) : Except Error Cursor :=
  if first then .ok c
  else match c.rest with
    | ',' :: _ => .ok c.next.skipBlanks
    | _ => failAt .objectCommaOrEndExpected c.peekPos

mutual
/-- Reads one value.  `budget` is what is left of the depth limit; `fuel` bounds
the steps and is never the reason to stop on a text it was computed for. -/
def readValue (budget : Nat) : Nat → Cursor → Except Error (Json × Cursor)
  | 0, c => failAt .endInValue c.pos
  | fuel + 1, c =>
    let c := c.skipBlanks
    match c.rest with
    | [] => failAt .endInValue c.peekPos
    | 'n' :: _ => do let c' ← readIdent "ull".toList c.next; .ok (.null, c')
    | 't' :: _ => do let c' ← readIdent "rue".toList c.next; .ok (.bool true, c')
    | 'f' :: _ => do let c' ← readIdent "alse".toList c.next; .ok (.bool false, c')
    | '-' :: _ => do let (n, c') ← readNumber false c.next; .ok (.num n, c')
    | '"' :: _ => do let (s, c') ← readString c.next; .ok (.str s, c')
    | '[' :: _ =>
      if budget ≤ 1 then failAt .tooDeep c.peekPos
      else do
        let (items, c') ← readItems (budget - 1) fuel c.next true []
        .ok (.arr items, c'.skipBlanks.next)
    | '{' :: _ =>
      if budget ≤ 1 then failAt .tooDeep c.peekPos
      else do
        let (fields, c') ← readMembers (budget - 1) fuel c.next true []
        .ok (.obj fields, c'.skipBlanks.next)
    | ch :: _ =>
      if (digit? ch).isSome then do let (n, c') ← readNumber true c; .ok (.num n, c')
      else failAt .valueExpected c.peekPos

/-- Reads the items of an array up to, not including, its closing bracket. -/
def readItems (budget : Nat) : Nat → Cursor → Bool → List Json → Except Error (List Json × Cursor)
  | 0, c, _, _ => failAt .endInArray c.pos
  | fuel + 1, c, first, acc =>
    let c := c.skipBlanks
    match c.rest with
    | [] => failAt .endInArray c.peekPos
    | ']' :: _ => .ok (acc.reverse, c)
    | ch :: _ =>
      if first then do
        let (v, c') ← readValue budget fuel c
        readItems budget fuel c' false (v :: acc)
      else if ch = ',' then
        let c1 := c.next.skipBlanks
        match c1.rest with
        | ']' :: _ => failAt .trailingComma c1.peekPos
        | [] => failAt .endInValue c1.peekPos
        | _ => do
          let (v, c') ← readValue budget fuel c1
          readItems budget fuel c' false (v :: acc)
      else failAt .arrayCommaOrEndExpected c.peekPos

/-- Reads the members of an object up to, not including, its closing brace. -/
def readMembers (budget : Nat) :
    Nat → Cursor → Bool → List (String × Json) → Except Error (List (String × Json) × Cursor)
  | 0, c, _, _ => failAt .endInObject c.pos
  | fuel + 1, c, first, acc =>
    let c := c.skipBlanks
    match c.rest with
    | [] => failAt .endInObject c.peekPos
    | '}' :: _ => .ok (acc.reverse, c)
    | _ => do
      let c1 ← memberStart c first
      match c1.rest with
      | '"' :: _ => do
        let (k, c2) ← readString c1.next
        let c3 ← readColon c2
        let (v, c4) ← readValue budget fuel c3
        readMembers budget fuel c4 false ((k, v) :: acc)
      | '}' :: _ => failAt .trailingComma c1.peekPos
      | [] => failAt .endInValue c1.peekPos
      | _ => failAt .keyNotString c1.peekPos
end

/-- Enough fuel for any text of this length. -/
def fuelFor (c : Cursor) : Nat := 4 * c.rest.length + 4

/-- Refuses anything but blanks after a document. -/
def finish (c : Cursor) : Except Error Unit :=
  let c := c.skipBlanks
  match c.rest with
  | [] => .ok ()
  | _ => failAt .trailingCharacters c.peekPos

/-- Reads a document that fills the text. -/
def read (s : String) : Except Error Json := do
  let c := Cursor.start s
  let (v, c') ← readValue depthLimit (fuelFor c) c
  finish c'
  .ok v

/-- What a number found in the wrong place is, for a message. -/
def Number.found : Number → Found
  | .unsigned n => .unsigned n
  | .signed i => .signed i
  | .float x => .float x

/-- A scalar where something else was expected: it is read, then refused as an
invalid type after it.  An array or object is refused before its bracket. -/
def refuseFound {α : Type} (expected : String) (c : Cursor) : Except Error α :=
  match c.rest with
  | 'n' :: _ => do let c' ← readIdent "ull".toList c.next; mismatchAt (.invalidType .null expected) c'.pos
  | 't' :: _ => do let c' ← readIdent "rue".toList c.next; mismatchAt (.invalidType (.bool true) expected) c'.pos
  | 'f' :: _ => do let c' ← readIdent "alse".toList c.next; mismatchAt (.invalidType (.bool false) expected) c'.pos
  | '-' :: _ => do let (n, c') ← readNumber false c.next; mismatchAt (.invalidType n.found expected) c'.pos
  | '"' :: _ => do let (s, c') ← readString c.next; mismatchAt (.invalidType (.str s) expected) c'.pos
  | '[' :: _ => mismatchAt (.invalidType .seq expected) c.pos
  | '{' :: _ => mismatchAt (.invalidType .map expected) c.pos
  | ch :: _ =>
    if (digit? ch).isSome then do
      let (n, c') ← readNumber true c
      mismatchAt (.invalidType n.found expected) c'.pos
    else failAt .valueExpected c.peekPos
  | [] => failAt .endInValue c.peekPos

/-- How the head of a tagged document names its variant. -/
structure TagRule (α : Type) where
  /-- the key of the tag member -/
  tag : String
  /-- what the document as a whole is called in a message -/
  expecting : String
  /-- the variant a tag names -/
  variant : String → Except Mismatch α

/-- Reads a tag: a string that names a variant. -/
def readVariant {α : Type} (rule : TagRule α) (c : Cursor) : Except Error (α × Cursor) :=
  let c := c.skipBlanks
  match c.rest with
  | '"' :: _ => do
    let (s, c') ← readString c.next
    match rule.variant s with
    | .ok v => .ok (v, c')
    | .error m => mismatchAt m c'.pos
  | _ => refuseFound "variant identifier" c

/-- How reading a tagged object's members ended: with the tag (if any) and the
other members, or with a refusal found before the closing brace. -/
inductive TaggedMembers (α : Type) where
  | done (tag : Option α) (fields : List (String × Json)) (c : Cursor)
  | refused (m : Mismatch) (c : Cursor)

/-- Reads the members of a tagged object: the tag member is read as a variant,
the others as values. -/
def readTaggedMembers {α : Type} (rule : TagRule α) :
    Nat → Cursor → Bool → Option α → List (String × Json) → Except Error (TaggedMembers α)
  | 0, c, _, _, _ => failAt .endInObject c.pos
  | fuel + 1, c, first, tag, acc =>
    let c := c.skipBlanks
    match c.rest with
    | [] => failAt .endInObject c.peekPos
    | '}' :: _ => .ok (.done tag acc.reverse c)
    | _ => do
      let c1 ← memberStart c first
      match c1.rest with
      | '"' :: _ => do
        let (k, c2) ← readString c1.next
        if k = rule.tag then
          match tag with
          | some _ => .ok (.refused (.duplicateField rule.tag) c2)
          | none => do
            let c3 ← readColon c2
            let (v, c4) ← readVariant rule c3
            readTaggedMembers rule fuel c4 false (some v) acc
        else do
          let c3 ← readColon c2
          let (v, c4) ← readValue (depthLimit - 1) fuel c3
          readTaggedMembers rule fuel c4 false tag ((k, v) :: acc)
      | '}' :: _ => failAt .trailingComma c1.peekPos
      | [] => failAt .endInValue c1.peekPos
      | _ => failAt .keyNotString c1.peekPos

/-- Passes over blanks and the closing brace, if it is next. -/
def passClose (close : Char) (c : Cursor) : Cursor :=
  let c := c.skipBlanks
  match c.rest with
  | ch :: _ => if ch = close then c.next else c
  | [] => c

/-- Reads the head of a tagged document: its variant, and the rest of it (the
other members of an object, or the further items of an array). -/
def readTaggedHead {α : Type} (rule : TagRule α) (c : Cursor) : Except Error (α × Json × Cursor) :=
  let fuel := fuelFor c
  let c := c.skipBlanks
  match c.rest with
  | '{' :: _ => do
    match ← readTaggedMembers rule fuel c.next true none [] with
    | .refused m c' => mismatchAt m (passClose '}' c').pos
    | .done none _ c' => mismatchAt (.missingField rule.tag) (passClose '}' c').pos
    | .done (some v) fields c' => .ok (v, .obj fields, passClose '}' c')
  | '[' :: _ =>
    let c1 := c.next.skipBlanks
    match c1.rest with
    | [] => failAt .endInArray c1.peekPos
    | ']' :: _ => mismatchAt (.missingField rule.tag) c1.next.pos
    | _ => do
      let (v, c2) ← readVariant rule c1
      let (items, c3) ← readItems (depthLimit - 1) fuel c2 false []
      .ok (v, .arr items, c3.skipBlanks.next)
  | [] => failAt .endInValue c.peekPos
  | _ => refuseFound rule.expecting c

/-- Reads a tagged document that fills the text: the head is read first, then
`body` builds the value from the variant and the rest, and only then is the
text after the document checked. -/
def readTagged {α β : Type} (rule : TagRule α) (body : α → Json → Except Mismatch β)
    (s : String) : Except Error β := do
  let (v, rest, c) ← readTaggedHead rule (Cursor.start s)
  match body v rest with
  | .ok b => do finish c; .ok b
  | .error m => .error (Error.ofMismatch m)

end TopicHub.Json
