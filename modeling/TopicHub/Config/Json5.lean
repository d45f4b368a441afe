/-
  Config/Json5.lean --- reading JSON5 documents into configuration trees.

  JSON5 is JSON with the conveniences of hand-written files: comments (`//`
  to the end of the line, `/* ... */`), keys without quotes (identifiers),
  strings in single or double quotes with more escapes and escaped line
  breaks, numbers with a sign, a leading or trailing point, hexadecimal
  digits, `Infinity` and `NaN`, and a comma after the last item of an array
  or object.

  A number without point or exponent is an integer when it fits 64 signed
  bits; one that only fits 64 unsigned bits is refused, and a larger one is a
  double.  Of the members of an object with one key the last one counts.

  A fault is said with ` at line L column C` naming where it is found (both
  from one), unless the text ended there; then, for each array or object it
  lies in from the innermost outwards, the same naming where that one opens.
  A fault after the document's value names only its own place.
-/
import TopicHub.Config.Tree
import TopicHub.Text.Case
import TopicHub.Text.Class

set_option autoImplicit false

namespace TopicHub.Config.Json5

open TopicHub.Decimal

/-- The text still to read and the line and column of its first character,
both from one. -/
structure Cursor where
  rest : List Char
  line : Nat
  col : Nat

namespace Cursor

/-- The cursor one character further on. -/
def next (c : Cursor) : Cursor :=
  match c.rest with
  | [] => c
  | ch :: r => if ch = '\n' then ⟨r, c.line + 1, 1⟩ else ⟨r, c.line, c.col + 1⟩

/-- The cursor `n` characters further on. -/
def skip : Nat → Cursor → Cursor
  | 0, c => c
  | n + 1, c => skip n c.next

/-- The next character. -/
def peek (c : Cursor) : Option Char := c.rest.head?

/-- The place of the cursor in faults. -/
def place (c : Cursor) : String := " at line " ++ toString c.line ++ " column " ++ toString c.col

end Cursor

/-- White space between the tokens of a document. -/
def isSpace (c : Char) : Bool :=
  Text.isWhiteSpace c || c == '\uFEFF'

/-- Passes over white space and comments; an unclosed block comment is a
fault. -/
def skipSpace : Nat → Cursor → Except String Cursor
  | 0, c => .ok c
  | fuel + 1, c =>
    match c.rest with
    | ch :: _ =>
      if isSpace ch then skipSpace fuel c.next
      else if ch = '/' then
        match c.rest with
        | _ :: '/' :: r =>
          let line := r.takeWhile (· ≠ '\n')
          skipSpace fuel (c.skip (2 + line.length))
        | _ :: '*' :: r =>
          match (List.range r.length).find? (fun i => (r.drop i).take 2 = ['*', '/']) with
          | some i => skipSpace fuel (c.skip (4 + i))
          | none => .error "EOF parsing comment"
        | _ => .ok c
      else .ok c
    | [] => .ok c

/-- A character that may start an identifier. -/
def isIdentStart (c : Char) : Bool :=
  c.isAlpha || c == '$' || c == '_' || (c.toNat ≥ 0x80 && Text.isAlphanumeric c)

/-- A character that may continue an identifier. -/
def isIdentPart (c : Char) : Bool :=
  isIdentStart c || c.isDigit || c == '\u200C' || c == '\u200D'

/-- The value of hexadecimal digits, when all are. -/
def hexDigits? (ds : List Char) : Option Nat :=
  if ds.all fun c => c.isDigit || ('a' ≤ c && c ≤ 'f') || ('A' ≤ c && c ≤ 'F') then
    some (Text.hexValue ds)
  else none

/-- A code point as a character, when it is one. -/
def charOf? (n : Nat) : Option Char :=
  if n < 0xD800 ∨ (0xDFFF < n ∧ n < 0x110000) then some (Char.ofNat n) else none

/-- The fault of an escape that is none. -/
def invalidEscape : String := "invalid escape sequence"

/-- The code point of four hexadecimal digits after `\u` at the front of
`cs`. -/
def unicodeEscape? (cs : List Char) : Option Nat :=
  match cs with
  | '\\' :: 'u' :: r => if r.length ≥ 4 then hexDigits? (r.take 4) else none
  | _ => none

/-- The character of a `\u` escape at the front of `c`, a high surrogate
joined with the low one escaped right after it, and the cursor after them;
a fault names where the escape starts, or where a low surrogate was due. -/
def readUnicode (c : Cursor) : Except String (Char × Cursor) :=
  match unicodeEscape? c.rest with
  | none => .error (invalidEscape ++ c.place)
  | some n =>
    let c1 := c.skip 6
    if 0xD800 ≤ n ∧ n < 0xDC00 then
      match unicodeEscape? c1.rest with
      | some m =>
        if 0xDC00 ≤ m ∧ m < 0xE000 then
          .ok (Char.ofNat (0x10000 + (n - 0xD800) * 0x400 + (m - 0xDC00)), c1.skip 6)
        else .error (invalidEscape ++ c1.place)
      | none => .error (invalidEscape ++ c1.place)
    else match charOf? n with
      | some d => .ok (d, c1)
      | none => .error (invalidEscape ++ c.place)

/-- Reads a string after its opening quote `q`.  A line may go on after a
backslash; a line break itself may not stand in a string. -/
def readString (q : Char) : Nat → Cursor → List Char → Except String (String × Cursor)
  | 0, _, _ => .error "EOF parsing string"
  | fuel + 1, c, acc =>
    match c.rest with
    | [] => .error "EOF parsing string"
    | ch :: r =>
      if ch = q then .ok (String.ofList acc.reverse, c.next)
      else if ch = '\n' ∨ ch = '\r' then .error ("line terminator in string" ++ c.place)
      else if ch ≠ '\\' then readString q fuel c.next (ch :: acc)
      else
        match r with
        | [] => .error "EOF parsing string"
        | e :: r' =>
          let c1 := c.next.next
          let simple (d : Char) := readString q fuel c1 (d :: acc)
          match e with
          | 'b' => simple (Char.ofNat 8)
          | 'f' => simple (Char.ofNat 12)
          | 'n' => simple '\n'
          | 'r' => simple '\r'
          | 't' => simple '\t'
          | 'v' => simple (Char.ofNat 11)
          | '0' =>
            if (r'.head?.map Char.isDigit).getD false then .error (invalidEscape ++ c.place)
            else simple (Char.ofNat 0)
          | '\n' | '\u2028' | '\u2029' => readString q fuel c1 acc
          | '\r' => readString q fuel (if r'.head? = some '\n' then c1.next else c1) acc
          | 'x' =>
            match (hexDigits? (r'.take 2)).bind charOf? with
            | some d => if r'.length ≥ 2 then readString q fuel (c1.skip 2) (d :: acc)
                else .error (invalidEscape ++ c.place)
            | none => .error (invalidEscape ++ c.place)
          | 'u' => do
            let (d, c') ← readUnicode c
            readString q fuel c' (d :: acc)
          | d => if d.isDigit then .error (invalidEscape ++ c.place) else simple d

/-- A number read from its text. -/
inductive Number where
  | int (i : Int)
  | float (x : Float)
  /-- an integer beyond the signed range that fits 64 unsigned bits -/
  | unsigned (n : Nat)

/-- The digits at the front of `cs`. -/
def leadingDigits (cs : List Char) : List Char := cs.takeWhile Char.isDigit

/-- A fault of a value and how many characters from the value's start it
lies, or none when the text ended. -/
abbrev Miss := String × Option Nat

/-- Scans a number: a sign, then `Infinity`, `NaN`, hexadecimal digits after
`0x`, or a decimal whose whole part has no leading zero, with a point and
an exponent.  Gives its characters and whether it is an integer.  A number
with no digit at all is scanned and then fails to read as a float. -/
def scanNumber (cs : List Char) : Except Miss (List Char × Bool) :=
  let (sign, body) := match cs with
    | '-' :: r => (['-'], r)
    | '+' :: r => (['+'], r)
    | r => ([], r)
  let word (w : String) : Option (Except Miss (List Char × Bool)) :=
    if w.toList.isPrefixOf body then some (.ok (sign ++ w.toList, false))
    else if body.isPrefixOf w.toList then some (.error ("EOF parsing number", none))
    else none
  -- the fault of a digit missing after `taken` characters
  let noDigit (taken : Nat) (rest : List Char) : Except Miss (List Char × Bool) :=
    if rest.isEmpty then .error ("EOF parsing number", none) else .error ("expected number", some taken)
  match word "Infinity", word "NaN" with
  | some r, _ => r
  | none, some r => r
  | none, none =>
    match body with
    | '0' :: x :: rest =>
      if x = 'x' ∨ x = 'X' then
        let ds := rest.takeWhile fun c => (hexDigits? [c]).isSome
        if !ds.isEmpty then .ok (sign ++ '0' :: x :: ds, true)
        else noDigit (sign.length + 2) rest
      else if x.isDigit then .error ("leading zero", some 0)
      else decimal sign body noDigit
    | _ => decimal sign body noDigit
where
  /-- A decimal after its sign. -/
  decimal (sign body : List Char) (noDigit : Nat → List Char → Except Miss (List Char × Bool)) :
      Except Miss (List Char × Bool) :=
    let whole := leadingDigits body
    let afterWhole := body.drop whole.length
    let (frac, afterFrac) := match afterWhole with
      | '.' :: r => let f := leadingDigits r; ('.' :: f, r.drop f.length)
      | r => ([], r)
    let mantissa := sign ++ whole ++ frac
    match afterFrac with
    | e :: r =>
      if e = 'e' ∨ e = 'E' then
        let (esign, r) := match r with
          | '-' :: r => (['-'], r)
          | '+' :: r => (['+'], r)
          | r => ([], r)
        let ds := leadingDigits r
        if !ds.isEmpty then .ok (mantissa ++ e :: esign ++ ds, false)
        else noDigit (mantissa.length + 1 + esign.length) r
      else .ok (mantissa, frac.isEmpty)
    | [] => .ok (mantissa, frac.isEmpty)

/-- The value of a scanned number: an integer that fits 64 signed bits, one
that only fits 64 unsigned bits, or a double; none for a text without
digits, which is no float. -/
def numberValue (cs : List Char) (isInteger : Bool) : Option Number :=
  let (negative, body) := match cs with
    | '-' :: r => (true, r)
    | '+' :: r => (false, r)
    | r => (false, r)
  let integer (n : Nat) : Number :=
    let i : Int := if negative then -(n : Int) else n
    if -Int.pow 2 63 ≤ i ∧ i < Int.pow 2 63 then .int i
    else if 0 ≤ i ∧ i < Int.pow 2 64 then .unsigned n
    else .float (withSign negative (nearest n 0))
  if body = "Infinity".toList then some (.float (withSign negative infinity))
  else if body = "NaN".toList then some (.float notANumber)
  else match body with
    | '0' :: x :: ds =>
      if x = 'x' ∨ x = 'X' then some (integer ((hexDigits? ds).getD 0))
      else decimal negative body isInteger integer
    | _ => decimal negative body isInteger integer
where
  /-- A decimal's value. -/
  decimal (negative : Bool) (body : List Char) (isInteger : Bool) (integer : Nat → Number) :
      Option Number :=
    (decimalParts? body).map fun (whole, frac, e) =>
      if isInteger then integer (digitsValue whole)
      else .float (withSign negative (nearest (digitsValue (whole ++ frac)) (e - frac.length)))

/-- A word of a value, `null`, `true` or `false`: its fault when the text
ends inside it or differs from it. -/
def readWord (w : String) (kind : String) (c : Cursor) : Except String Cursor :=
  if w.toList.isPrefixOf c.rest then .ok (c.skip w.length)
  else if c.rest.isPrefixOf w.toList then .error ("EOF parsing " ++ kind)
  else
    -- the fault is at the first character that differs
    let same := ((w.toList.zip c.rest).takeWhile fun (x, y) => x = y).length
    .error ("expected " ++ kind ++ (c.skip same).place)

/-- What the values of a document may be, as faults name them. -/
def valueKinds : String := "a boolean, integer, float, string, null, array or map"

/-- The character of an identifier at the front of `c`, written as itself
or as a `\u` escape, and the cursor after it; `first` asks for one that may
start an identifier. -/
def identChar? (first : Bool) (c : Cursor) : Option (Char × Cursor) :=
  let fits (d : Char) : Bool := if first then isIdentStart d else isIdentPart d
  match c.rest with
  | '\\' :: _ =>
    match (unicodeEscape? c.rest).bind charOf? with
    | some d => if fits d then some (d, c.skip 6) else none
    | none => none
  | ch :: _ => if fits ch then some (ch, c.next) else none
  | [] => none

/-- The characters that continue an identifier. -/
def identRest : Nat → Cursor → List Char → List Char × Cursor
  | 0, c, acc => (acc.reverse, c)
  | fuel + 1, c, acc =>
    match identChar? false c with
    | some (d, c') => identRest fuel c' (d :: acc)
    | none => (acc.reverse, c)

/-- Reads an object key: a string in either quotes or an identifier. -/
def readKey (c : Cursor) : Except String (String × Cursor) :=
  match c.rest with
  | [] => .error "EOF parsing object"
  | ch :: _ =>
    if ch = '"' ∨ ch = '\'' then readString ch (c.rest.length + 1) c.next []
    else match identChar? true c with
      | some (d, c1) =>
        let (more, c2) := identRest c1.rest.length c1 []
        .ok (String.ofList (d :: more), c2)
      | none => .error ("expected identifier" ++ c.place)

mutual
/-- Reads a value.  A fault found inside a scalar names its own place, the
end of the text none; an array or object adds where it opens. -/
def readValue (origin : Option String) : Nat → Cursor → Except String (Tree × Cursor)
  | 0, _ => .error "EOF parsing value"
  | fuel + 1, c =>
    match c.rest with
    | [] => .error "EOF parsing value"
    | ch :: _ =>
      if ch = '\x7b' then (readMembers origin fuel c.next []).mapError (· ++ c.place)
      else if ch = '[' then (readItems origin fuel c.next []).mapError (· ++ c.place)
      else if ch = '"' ∨ ch = '\'' then
        (readString ch (c.rest.length + 1) c.next []).map fun (s, c') => (.leaf origin (.str s), c')
      else if ch = 'n' then (readWord "null" "null" c).map fun c' => (.leaf origin .nil, c')
      else if ch = 't' then (readWord "true" "bool" c).map fun c' => (.leaf origin (.bool true), c')
      else if ch = 'f' then (readWord "false" "bool" c).map fun c' => (.leaf origin (.bool false), c')
      else if ch.isDigit ∨ ch = '+' ∨ ch = '-' ∨ ch = '.' ∨ ch = 'I' ∨ ch = 'N' then
        match scanNumber c.rest with
        | .error (m, some k) => .error (m ++ (c.skip k).place)
        | .error (m, none) => .error m
        | .ok (cs, isInteger) =>
          let c' := c.skip cs.length
          match numberValue cs isInteger with
          | some (.int i) => .ok (.leaf origin (.int i), c')
          | some (.float x) => .ok (.leaf origin (.float x), c')
          | some (.unsigned n) =>
            .error ("invalid type: integer `" ++ toString n ++ "`, expected " ++ valueKinds ++ c.place)
          | none => .error ("invalid float literal" ++ c.place)
      else .error ("expected value" ++ c.place)

/-- Reads the items of an array after its opening bracket or a comma. -/
def readItems (origin : Option String) : Nat → Cursor → List Tree → Except String (Tree × Cursor)
  | 0, _, _ => .error "EOF parsing array"
  | fuel + 1, c, items => do
    let c ← skipSpace (c.rest.length + 1) c
    if c.peek = some ']' then .ok (.array origin items.reverse, c.next) else do
    let (v, c) ← readValue origin fuel c
    let c ← skipSpace (c.rest.length + 1) c
    match c.peek with
    | none => .error "EOF parsing array"
    | some ',' => readItems origin fuel c.next (v :: items)
    | some ']' => .ok (.array origin (v :: items).reverse, c.next)
    | some _ => .error ("expected comma" ++ c.place)

/-- Reads the members of an object after its opening brace or a comma. -/
def readMembers (origin : Option String) : Nat → Cursor → List (String × Tree) →
    Except String (Tree × Cursor)
  | 0, _, _ => .error "EOF parsing object"
  | fuel + 1, c, members => do
    let c ← skipSpace (c.rest.length + 1) c
    if c.peek = some '\x7d' then .ok (.table origin members, c.next) else do
    let (key, c) ← readKey c
    let c ← skipSpace (c.rest.length + 1) c
    match c.peek with
    | none => .error "EOF parsing object"
    | some ':' => do
      let c ← skipSpace (c.rest.length + 1) c.next
      let (v, c) ← readValue origin fuel c
      let c ← skipSpace (c.rest.length + 1) c
      let members := putEntry key v members
      match c.peek with
      | none => .error "EOF parsing object"
      | some ',' => readMembers origin fuel c.next members
      | some '\x7d' => .ok (.table origin members, c.next)
      | some _ => .error ("expected comma" ++ c.place)
    | some _ => .error ("expected colon" ++ c.place)
end

/-- Reads a document: its one value, with nothing but white space and
comments around it. -/
def read (origin : Option String) (text : String) : Except String Tree := do
  let c : Cursor := ⟨text.toList, 1, 1⟩
  let fuel := 2 * text.length + 4
  let c ← skipSpace fuel c
  let (v, c) ← readValue origin fuel c
  let c ← skipSpace fuel c
  if c.rest.isEmpty then .ok v else .error ("trailing characters" ++ c.place)

end TopicHub.Config.Json5
