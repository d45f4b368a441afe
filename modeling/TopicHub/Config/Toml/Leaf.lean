/-
  Config/Toml/Leaf.lean --- decoding the key parts and scalars of a TOML
  document.

  Keys.  A bare key is letters, digits, `-` and `_`, at least one; a quoted
  key is read as a string, and a multi-line string is no key.

  Strings.  `"..."` takes the escapes `\b \e \f \n \r \t \\ \"`, `\xHH`,
  `\uHHHH` and `\UHHHHHHHH` (the value a character); `'...'` is taken as it
  stands.  In `"""..."""` and `'''...'''` a line break right after the
  opening quotes is dropped, and in `"""..."""` a backslash at the end of a
  line drops the blanks and line breaks after it.  No string holds a control
  character other than a tab, nor, on one line, a line break.

  Unquoted scalars.  `true` and `false`; `inf` and `nan`, signed or not;
  a date or time when digits are followed by `-` or `:`; a float when the
  text after the leading digits has `.`, `e` or `E`; otherwise an integer,
  decimal or after `0x`, `0o` or `0b` (lower case, unsigned).  An underscore
  must stand between two digits, a decimal may not start with a zero unless
  it is zero, and a fraction or exponent needs digits.  Integers and floats
  keep their digits as text: how large they may be is decided later.

  Each fault points at the bytes it is about, and the first fault of a piece
  is the one reported.
-/
import TopicHub.Config.Toml.Syntax
import TopicHub.Config.Toml.Moment
import TopicHub.Text.Table

set_option autoImplicit false

namespace TopicHub.Config.Toml

/-- A decoded scalar. -/
inductive Leaf where
  | str (s : String)
  | bool (b : Bool)
  /-- the digits of an integer, with a sign for a decimal, in a radix -/
  | integer (digits : List Char) (radix : Nat)
  /-- the text of a float, signed, without underscores -/
  | float (text : List Char)
  | moment (m : Moment)

/-- The text is a hexadecimal digit. -/
def isHexDigit (c : Char) : Bool := c.isDigit || ('a' ≤ c && c ≤ 'f') || ('A' ≤ c && c ≤ 'F')

/-- The character is a digit in `radix` (2, 8, 10 or 16). -/
def isRadixDigit (radix : Nat) (c : Char) : Bool :=
  if radix = 16 then isHexDigit c else c.isDigit && c.toNat - '0'.toNat < radix

/-- A fault about the characters from index `i` to `j` of a piece. -/
def Piece.failAt {α : Type} (p : Piece) (message : String) (i j : Nat) : Except Fault α :=
  .error ⟨message, p.start + byteCount (p.text.take i), p.start + byteCount (p.text.take j)⟩

/-- The expected parts of a bare key, as faults name them. -/
def bareKeyExpected : String := "expected letters, numbers, `-`, `_`"

/-- A character of a bare key. -/
def isBareKeyChar (c : Char) : Bool :=
  ('a' ≤ c && c ≤ 'z') || ('A' ≤ c && c ≤ 'Z') || c.isDigit || c == '-' || c == '_'

/-- A character that stands for itself in `"..."`. -/
def isBasicChar (c : Char) : Bool :=
  c == '\t' || (0x20 ≤ c.toNat && c.toNat ≤ 0x7E && c != '"' && c != '\\') || c.toNat ≥ 0x80

/-- A character that stands for itself in `"""..."""`. -/
def isMlBasicChar (c : Char) : Bool :=
  c == '\t' || (0x20 ≤ c.toNat && c.toNat ≤ 0x7E && c != '\\') || c.toNat ≥ 0x80

/-- A character that stands for itself in `'...'`. -/
def isLiteralChar (c : Char) : Bool :=
  c == '\t' || (0x20 ≤ c.toNat && c.toNat ≤ 0x7E && c != '\'') || c.toNat ≥ 0x80

/-- A character that stands for itself in `'''...'''`. -/
def isMlLiteralChar (c : Char) : Bool :=
  c == '\t' || (0x20 ≤ c.toNat && c.toNat ≤ 0x7E) || c.toNat ≥ 0x80

/-- What an escape fault expects. -/
def escapeExpected : String := "expected `b`, `e`, `f`, `n`, `r`, `\\`, `\"`, `x`, `u`, `U`"

/-- The character of `n` hexadecimal digits after `\x`, `\u` or `\U`; `i` is
the index of the first digit in the piece. -/
def hexEscape (p : Piece) (n i : Nat) (cs : List Char) : Except Fault (Char × List Char) :=
  let ds := (cs.take n).takeWhile isHexDigit
  if ds.length < n then
    p.failAt "too few unicode value digits, expected unicode hexadecimal value" (i + ds.length) (i + ds.length)
  else
    let v := Text.hexValue ds
    if v < 0xD800 ∨ (0xDFFF < v ∧ v < 0x110000) then .ok (Char.ofNat v, cs.drop n)
    else p.failAt "invalid value, expected unicode hexadecimal value" i i

/-- The character an escape stands for; `i` is the index of the character
after the backslash. -/
def escapeChar (p : Piece) (i : Nat) : List Char → Except Fault (Char × List Char × Nat)
  | [] => p.failAt ("missing escaped value, " ++ escapeExpected) i i
  | c :: rest =>
    let simple (d : Char) : Except Fault (Char × List Char × Nat) := .ok (d, rest, i + 1)
    match c with
    | 'b' => simple (Char.ofNat 8)
    | 'e' => simple (Char.ofNat 27)
    | 'f' => simple (Char.ofNat 12)
    | 'n' => simple '\n'
    | 'r' => simple '\r'
    | 't' => simple '\t'
    | '\\' => simple '\\'
    | '"' => simple '"'
    | 'x' => do let (d, rest) ← hexEscape p 2 (i + 1) rest; .ok (d, rest, i + 3)
    | 'u' => do let (d, rest) ← hexEscape p 4 (i + 1) rest; .ok (d, rest, i + 5)
    | 'U' => do let (d, rest) ← hexEscape p 8 (i + 1) rest; .ok (d, rest, i + 9)
    | _ => p.failAt ("missing escaped value, " ++ escapeExpected) i i

/-- After a backslash in `"""..."""`: blanks and a line break, after which
blanks and line breaks are dropped; the characters left, if so. -/
def lineEndingBackslash (cs : List Char) : Option (List Char) :=
  let blanks := cs.takeWhile fun c => c = ' ' ∨ c = '\t'
  match cs.drop blanks.length with
  | '\n' :: _ | '\r' :: '\n' :: _ =>
    some (cs.dropWhile fun c => c = ' ' ∨ c = '\t' ∨ c = '\n' ∨ c = '\r')
  | _ => none

/-- Decodes the body of a string; `i` is the index of its first character in
the piece, `multi` says whether line breaks may stand in it and `escapes`
whether backslashes escape. -/
def stringBody (p : Piece) (ok : Char → Bool) (multi escapes : Bool) (invalid : String) :
    Nat → Nat → List Char → List Char → Except Fault String
  | 0, _, _, acc => .ok (String.ofList acc.reverse)
  | _ + 1, _, [], acc => .ok (String.ofList acc.reverse)
  | fuel + 1, i, c :: rest, acc =>
    if escapes ∧ c = '\\' then
      match (if multi then lineEndingBackslash rest else none) with
      | some rest' => stringBody p ok multi escapes invalid fuel (i + 1 + (rest.length - rest'.length)) rest' acc
      | none =>
        match escapeChar p (i + 1) rest with
        | .ok (d, rest', i') => stringBody p ok multi escapes invalid fuel i' rest' (d :: acc)
        | .error f => .error f
    else if multi ∧ c = '\n' then stringBody p ok multi escapes invalid fuel (i + 1) rest ('\n' :: acc)
    else if multi ∧ c = '\r' ∧ rest.head? = some '\n' then
      stringBody p ok multi escapes invalid fuel (i + 2) (rest.drop 1) ('\n' :: '\r' :: acc)
    else if ok c then stringBody p ok multi escapes invalid fuel (i + 1) rest (c :: acc)
    else
      let run := (c :: rest).takeWhile fun d => !ok d && d != '\\' && !(multi && (d == '\n' || d == '\r'))
      p.failAt invalid i (i + max run.length 1)

/-- The body of a multi-line string without the line break right after its
opening quotes; how many characters were dropped. -/
def dropFirstBreak (cs : List Char) : List Char × Nat :=
  match cs with
  | '\n' :: rest => (rest, 1)
  | '\r' :: '\n' :: rest => (rest, 2)
  | _ => (cs, 0)

/-- Decodes a quoted string with delimiter `delim` (one or three quotes). -/
def decodeQuoted (p : Piece) (delim : List Char) (ok : Char → Bool) (multi escapes : Bool)
    (name expected : String) : Except Fault String :=
  let raw := p.text
  let expectDelim := "invalid " ++ name ++ ", expected `" ++ String.ofList delim ++ "`"
  if !delim.isPrefixOf raw then p.failAt expectDelim 0 0
  else
    let afterOpen := raw.drop delim.length
    if afterOpen.length < delim.length ∨ !(delim.reverse.isPrefixOf afterOpen.reverse) then
      p.failAt expectDelim raw.length raw.length
    else
      let body := afterOpen.take (afterOpen.length - delim.length)
      let (body, dropped) := if multi then dropFirstBreak body else (body, 0)
      stringBody p ok multi escapes ("invalid " ++ name ++ ", " ++ expected)
        (body.length + 1) (delim.length + dropped) body []

/-- Decodes a string piece of any encoding but the unquoted one. -/
def decodeString (p : Piece) : Except Fault String :=
  match p.encoding with
  | .basic => decodeQuoted p ['"'] isBasicChar false true "basic string"
      "expected non-double-quote visible characters, `\\`"
  | .literal => decodeQuoted p ['\''] isLiteralChar false false "literal string"
      "expected non-single-quote visible characters"
  | .mlBasic => decodeQuoted p ['"', '"', '"'] isMlBasicChar true true "multi-line basic string"
      "expected visible characters, `\\`"
  | .mlLiteral => decodeQuoted p ['\'', '\'', '\''] isMlLiteralChar true false "multi-line literal string"
      "expected visible characters"
  | .unquoted => .ok (String.ofList p.text)

/-- Decodes a key part. -/
def decodeKey (p : Piece) : Except Fault String :=
  match p.encoding with
  | .unquoted =>
    if p.text.isEmpty then p.failAt ("unquoted keys cannot be empty, " ++ bareKeyExpected) 0 0
    else
      match p.text.findIdx? (fun c => !isBareKeyChar c) with
      | some i => p.failAt ("invalid unquoted key, " ++ bareKeyExpected) i (i + 1)
      | none => .ok (String.ofList p.text)
  | .mlBasic | .mlLiteral =>
    p.failAt "keys cannot be multi-line strings, expected basic string, literal string" 0 p.text.length
  | _ => decodeString p

/-- An unquoted value that is no value: a string without its quotes. -/
def Piece.unquotedFault {α : Type} (p : Piece) : Except Fault α :=
  let raw := p.text
  let endsWith (s : String) : Bool := s.toList.reverse.isPrefixOf raw.reverse
  if endsWith "'''" then p.failAt "missing opening quote, expected `'''`" 0 0
  else if endsWith "\"\"\"" then p.failAt "missing opening quote, expected `\"\"\"`" 0 0
  else if endsWith "'" then p.failAt "missing opening quote, expected `'`" 0 0
  else if endsWith "\"" then p.failAt "missing opening quote, expected `\"`" 0 0
  else p.failAt "string values must be quoted, expected literal string" 0 raw.length

/-- A word such as `true` or `inf`: exactly that, or a fault. -/
def Piece.symbol (p : Piece) (word : String) (leaf : Leaf) (invalid : String) : Except Fault Leaf :=
  if p.text = word.toList then .ok leaf
  else if p.text.contains ' ' then p.unquotedFault
  else p.failAt (invalid ++ ", expected `" ++ word ++ "`") 0 p.text.length

/-- Every underscore of `cs` (from index `i` of the piece) stands between two
digits of the radix. -/
def checkUnderscores (p : Piece) (radix : Nat) (i : Nat) (cs : List Char) : Except Fault Unit :=
  let bad := (List.range cs.length).find? fun k =>
    cs[k]? = some '_' &&
      !(k > 0 && ((cs[k - 1]?).map (isRadixDigit radix)).getD false &&
        ((cs[k + 1]?).map (isRadixDigit radix)).getD false)
  match bad with
  | some k => p.failAt "`_` may only go between digits, expected nothing" (i + k) (i + k + 1)
  | none => .ok ()

/-- Checks digits and underscores from index `i`, at least one digit; a
leading zero is refused unless `zeroPrefix`.  Gives the characters after them
and their index. -/
def checkDigits (p : Piece) (zeroPrefix : Bool) (invalid : String) (i : Nat) (cs : List Char) :
    Except Fault (List Char × Nat) :=
  let run := cs.takeWhile fun c => c.isDigit ∨ c = '_'
  let count := (run.filter Char.isDigit).length
  if count = 0 then p.failAt (invalid ++ ", expected digits") i i
  else if count ≥ 2 ∧ run.head? = some '0' ∧ !zeroPrefix then
    p.failAt "unexpected leading zero, expected nothing" i (i + 1)
  else .ok (cs.drop run.length, i + run.length)

/-- Checks the form of a float from index `i`: digits, an optional fraction,
an optional exponent. -/
def checkFloat (p : Piece) (i : Nat) (cs : List Char) : Except Fault Unit := do
  let (cs, i) ← checkDigits p false "invalid mantissa" i cs
  let (cs, i) ← match cs with
    | '.' :: rest => checkDigits p true "invalid fraction" (i + 1) rest
    | _ => .ok (cs, i)
  let (cs, i) ← match cs with
    | e :: rest =>
      if e = 'e' ∨ e = 'E' then
        match rest with
        | s :: rest' =>
          if s = '+' ∨ s = '-' then checkDigits p true "invalid exponent" (i + 2) rest'
          else checkDigits p true "invalid exponent" (i + 1) rest
        | [] => checkDigits p true "invalid exponent" (i + 1) rest
      else .ok (cs, i)
    | [] => .ok (cs, i)
  if cs.isEmpty then .ok () else p.failAt "invalid float" i p.text.length

/-- A float whose digits start at index `i`. -/
def Piece.floatAt (p : Piece) (i : Nat) : Except Fault Leaf := do
  checkFloat p i (p.text.drop i)
  checkUnderscores p 10 0 p.text
  .ok (.float (p.text.filter (· ≠ '_')))

/-- A decimal whose digits start at index `i` begins with a zero. -/
def Piece.leadingZero (p : Piece) (i : Nat) : Except Fault Unit :=
  if (p.text.drop i).head? = some '0' then p.failAt "unexpected leading zero, expected nothing" i (i + 1)
  else .ok ()

/-- A decimal integer. -/
def Piece.decimal (p : Piece) : Except Fault Leaf := do
  checkUnderscores p 10 0 p.text
  .ok (.integer (p.text.filter (· ≠ '_')) 10)

/-- A value whose digits start at index `i`: a moment, a float or a decimal
integer. -/
def Piece.momentOrNumber (p : Piece) (i : Nat) : Except Fault Leaf :=
  let v := p.text.drop i
  let lead := (v.takeWhile Char.isDigit).length
  let rest := v.drop lead
  if rest.isEmpty then do
    p.leadingZero i
    p.decimal
  else if rest.head? = some '-' ∨ rest.head? = some ':' then
    match Moment.read p.text with
    | .ok m => .ok (.moment m)
    | .error f => p.failAt f.message 0 p.text.length
  else if rest.contains ' ' then p.unquotedFault
  else if rest.any (fun c => c = '.' ∨ c = 'e' ∨ c = 'E') then p.floatAt i
  else if rest.head? = some '_' then do
    p.leadingZero i
    match v.findIdx? (fun c => !(c.isDigit ∨ c = '_')) with
    | some k => p.failAt "invalid integer number" (i + k) (i + k)
    | none => p.decimal
  else p.unquotedFault

/-- The name of a radix in faults. -/
def radixName (radix : Nat) : String :=
  if radix = 16 then "hexadecimal" else if radix = 8 then "octal" else "binary"

/-- A value starting with `0` at index `i`; `signed` when a sign is before it. -/
def Piece.afterZero (p : Piece) (i : Nat) (signed : Bool) : Except Fault Leaf :=
  match p.text.drop i with
  | [_] => p.decimal
  | _ :: r :: digits =>
    let radix := if r = 'x' ∨ r = 'X' then 16 else if r = 'o' ∨ r = 'O' then 8
      else if r = 'b' ∨ r = 'B' then 2 else 0
    if radix ≠ 0 then
      if signed then p.failAt "integers with a radix cannot be signed, expected nothing" 0 1
      else if r.isUpper then
        p.failAt ("radix must be lowercase, expected `0" ++ String.singleton r.toLower ++ "`") i (i + 2)
      else
        let start := i + 2
        let (start, digits) := match digits with
          | s :: more => if s = '+' ∨ s = '-' then (start + 1, more) else (start, digits)
          | [] => (start, digits)
        if start ≠ i + 2 then p.failAt "unexpected sign, expected nothing" (i + 2) (i + 3)
        else
          match digits.findIdx? (fun c => !(isRadixDigit radix c || c = '_')) with
          | some k => p.failAt ("invalid " ++ radixName radix ++ " number") (start + k) (start + k)
          | none => do
            checkUnderscores p radix start digits
            .ok (.integer (digits.filter (· ≠ '_')) radix)
    else if r = 'd' ∨ r = 'D' then
      if signed then p.failAt "integers with a radix cannot be signed, expected nothing" 0 1
      else p.failAt "redundant integer number prefix, expected nothing" i (i + 2)
    else p.momentOrNumber i
  | [] => p.unquotedFault

/-- An unquoted value after its sign. -/
def Piece.afterSign (p : Piece) : Except Fault Leaf :=
  match p.text.drop 1 with
  | [] => p.unquotedFault
  | c :: _ =>
    if c = '+' ∨ c = '-' then p.failAt "redundant numeric sign, expected nothing" 1 2
    else if c = '_' ∨ ('1' ≤ c ∧ c ≤ '9') then p.momentOrNumber 1
    else if c = '0' then p.afterZero 1 true
    else if c = '.' then p.floatAt 0
    else if c = 'i' ∨ c = 'I' then
      if p.text.drop 1 = "inf".toList then .ok (.float p.text)
      else p.failAt "invalid float, expected `inf`" 1 p.text.length
    else if c = 'n' ∨ c = 'N' then
      if p.text.drop 1 = "nan".toList then .ok (.float p.text)
      else p.failAt "invalid float, expected `nan`" 1 p.text.length
    else p.unquotedFault

/-- Decodes an unquoted value. -/
def Piece.unquotedLeaf (p : Piece) : Except Fault Leaf :=
  match p.text with
  | [] => p.unquotedFault
  | c :: _ =>
    if c = '+' ∨ c = '-' then p.afterSign
    else if c = '_' ∨ ('1' ≤ c ∧ c ≤ '9') then p.momentOrNumber 0
    else if c = '0' then p.afterZero 0 false
    else if c = '.' then p.floatAt 0
    else if c = 't' ∨ c = 'T' then p.symbol "true" (.bool true) "invalid boolean"
    else if c = 'f' ∨ c = 'F' then p.symbol "false" (.bool false) "invalid boolean"
    else if c = 'i' ∨ c = 'I' then p.symbol "inf" (.float p.text) "invalid float"
    else if c = 'n' ∨ c = 'N' then p.symbol "nan" (.float p.text) "invalid float"
    else p.unquotedFault

/-- Decodes a scalar. -/
def Piece.leaf (p : Piece) : Except Fault Leaf :=
  match p.encoding with
  | .unquoted => p.unquotedLeaf
  | _ => (decodeString p).map .str

end TopicHub.Config.Toml
