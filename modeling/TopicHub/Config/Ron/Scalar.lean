/-
  Config/Ron/Scalar.lean --- the numbers, strings and characters of RON.

  Integers are decimal or follow `0x`, `0o` or `0b`, may hold `_` after their
  first digit, and may end in a kind (`5u8`, `-3i32`); without one a
  negative integer takes the narrowest signed kind that holds it and any
  other the narrowest unsigned one.  Floats are read by the decimal rules of
  doubles, may end in `f32` or `f64`, and are of 32 bits when that width
  holds their value exactly.

  A number whose characters run further as a float than as an integer is a
  float.  Otherwise it is first read as an integer; when that fails it is
  read again as a float, which is taken only if it reaches at least as far
  as the integer did, and else the integer's fault stands, with the cursor
  where the integer stopped.

  Strings are quoted with escapes (`\n`, `\x41`, `\u{1F600}`, ...) or raw
  (`r#"..."#`); characters are quoted with `'`; byte strings are `b"..."` or
  `br"..."` and a byte is `b'a'`.
-/
import TopicHub.Config.Ron.Reader
import TopicHub.Config.Ron.Value
import TopicHub.Decimal.Plain
import TopicHub.Text.Utf8

set_option autoImplicit false

namespace TopicHub.Config.Ron

open TopicHub.Decimal

/-! Integers. -/

/-- Reads the digits `ds` of an integer in `base` from index `i` on, adding
(or, for a negative one, subtracting) each digit to `acc` within `lo` and
`hi`; `len` characters in all are taken at the end.  A value beyond the
bounds takes them all; a digit beyond the base takes those before it. -/
def integerDigits (base : Nat) (negative : Bool) (lo hi : Int) (len : Nat) :
    Nat → List Char → Int → Read Int
  | _, [], acc => do
    advance len
    return acc
  | i, c :: more, acc =>
    if c = '_' then integerDigits base negative lo hi len (i + 1) more acc
    else do
      let scaled := acc * base
      if scaled < lo ∨ hi < scaled then
        advance len
        throw integerOutOfBounds
      let d := (hexDigit? c).getD 0
      if base ≤ d then
        advance i
        throw (invalidDigit c base)
      let next := if negative then scaled - d else scaled + d
      if next < lo ∨ hi < next then
        advance len
        throw integerOutOfBounds
      integerDigits base negative lo hi len (i + 1) more next

/-- Reads an integer after its sign, within `lo` and `hi`: a base prefix,
then digits that may not start with `_`. -/
def parseInteger (negative : Bool) (lo hi : Int) : Read Int := do
  let base ←
    if ← consume "0b" then pure 2
    else if ← consume "0o" then pure 8
    else if ← consume "0x" then pure 16
    else pure 10
  let r ← rest
  let ds := r.takeWhile isIntChar
  if ds.isEmpty then throw expectedInteger
  if r.head? = some '_' then throw underscoreAtBeginning
  integerDigits base negative lo hi ds.length 0 ds 0

/-- The integer kinds that may end an integer, in the order they are tried. -/
def intSuffixes : List (String × IntKind) :=
  [("i8", .i8), ("u8", .u8), ("i16", .i16), ("u16", .u16), ("i32", .i32), ("u32", .u32),
   ("i64", .i64), ("u64", .u64)]

/-- The first kind of `kinds` whose name comes next as a whole word, taken. -/
def consumeSuffix : List (String × IntKind) → Read (Option IntKind)
  | [] => return none
  | (name, k) :: more => do
    if ← consumeIdent name then return some k else consumeSuffix more

mutual
/-- Reads an escape after its backslash.  In a byte string (`binary`) `\x`
gives any byte; elsewhere it gives a character, and outside a character
literal (`inChar`) several `\x` escapes may spell one in UTF-8.  The result
is the bytes of the escape. -/
def parseEscape (binary inChar : Bool) : Read (List Nat) := do
  match ← nextChar with
  | '\'' => return [39]
  | '"' => return [34]
  | '\\' => return [92]
  | 'n' => return [10]
  | 'r' => return [13]
  | 't' => return [9]
  | '0' => return [0]
  | 'x' => do
    let b ← asciiEscape
    if binary ∨ b < 128 then return [b]
    if inChar then throw "Not a valid byte-escaped Unicode character"
    byteEscapes [b] 3
  | 'u' => do
    expect '\x7b' "Missing \x7b in Unicode escape"
    let (v, n) ← unicodeDigits 6 0 0
    if n = 0 then throw "Expected 1-6 digits, got 0 digits in Unicode escape"
    expect '\x7d' "No \x7d at the end of Unicode escape"
    if v < 0xD800 ∨ (0xDFFF < v ∧ v < 0x110000) then
      return Text.utf8Bytes (String.singleton (Char.ofNat v))
    else throw "Not a valid Unicode-escaped character"
  | _ => throw "Unknown escape character"

/-- Two hexadecimal digits: a byte. -/
def asciiEscape : Read Nat := do
  let hi ← hexEscapeDigit
  let lo ← hexEscapeDigit
  return hi * 16 + lo

/-- One hexadecimal digit of an escape. -/
def hexEscapeDigit : Read Nat := do
  match hexDigit? (← nextChar) with
  | some d => return d
  | none => throw "Non-hex digit found"

/-- More `\x` escapes after the bytes `bs` of a character, at most `more`,
until they spell one. -/
def byteEscapes (bs : List Nat) : Nat → Read (List Nat)
  | 0 => throw "Not a valid byte-escaped Unicode character"
  | more + 1 => do
    if !(← consume "\\x") then throw "Not a valid byte-escaped Unicode character"
    let bs := bs ++ [← asciiEscape]
    match String.fromUTF8? (ByteArray.mk (bs.map UInt8.ofNat).toArray) with
    | some s => if s.isEmpty then byteEscapes bs more else return bs
    | none => byteEscapes bs more

/-- The one to six digits of `\u{...}`, up to the closing brace: the value
and how many. -/
def unicodeDigits : Nat → Nat → Nat → Read (Nat × Nat)
  | 0, v, n => return (v, n)
  | fuel + 1, v, n => do
    if (← peekOrEnd) = '\x7d' then return (v, n)
    let c ← nextChar
    match hexDigit? c with
    | some d => unicodeDigits fuel (v * 16 + d) (n + 1)
    | none => throw "Non-hex digit found"
end

/-- Reads a byte literal after its `b'`; a `\u` escape is refused once
read. -/
def byteLiteral : Read Nat := do
  let c ← nextChar
  let b ←
    if c = '\\' then do
      let unicode := (← peek) = some 'u'
      let bs ← parseEscape true true
      if unicode then throw "Unexpected Unicode escape in byte literal"
      pure (bs.headD 0)
    else if c.toNat < 128 then pure c.toNat
    else throw expectedByteLiteral
  if !(← consume "'") then throw expectedByteLiteral
  return b

/-- Reads an integer: a sign or a byte literal, then the digits, with a
kind after them if one is named. -/
def readInteger : Read Number := do
  let first ← peekOrEnd
  let negative ←
    if first = '+' then do
      let _ ← nextChar
      pure false
    else if first = '-' then do
      let _ ← nextChar
      pure true
    else pure false
  if first = 'b' then
    if ← consume "b'" then
      return .int .u8 (← byteLiteral)
  let r ← rest
  let len := (r.takeWhile isIntChar).length
  let suffixed ←
    if (r.drop len).head? = some 'i' ∨ (r.drop len).head? = some 'u' then do
      let start ← cursor
      advance len
      match ← consumeSuffix intSuffixes with
      | some k => do
        setCursor start
        let result ← tryCatch (do
            let v ← parseInteger negative k.least k.greatest
            pure (Except.ok v))
          fun e => pure (Except.error e)
        match result with
        | .ok v =>
          let _ ← skipIdentifier
          pure (some (Number.int k v))
        | .error e =>
          if e ≠ underscoreAtBeginning ∧ !e.startsWith "Invalid digit" then
            let _ ← skipIdentifier
          throw e
      | none => do
        setCursor start
        pure none
    else pure none
  match suffixed with
  | some n => return n
  | none =>
    if negative then
      let v ← parseInteger true (-Int.pow 2 63) 0
      return .int (IntKind.narrowest true v) v
    else
      let v ← parseInteger false 0 (Int.pow 2 64 - 1)
      return .int (IntKind.narrowest false v) v

/-! Floats. -/

/-- The words read as floats before any digits. -/
def floatWords : List (String × Float) :=
  [("inf", infinity), ("+inf", infinity), ("-inf", -infinity),
   ("NaN", notANumber), ("+NaN", notANumber), ("-NaN", -notANumber)]

/-- The double of the nearest 32-bit float. -/
def toSingle (x : Float) : Float := x.toFloat32.toFloat

/-- A double as a number of the narrower float kind that holds it exactly. -/
def floatNumber (x : Float) : Number :=
  if (toSingle x).toBits = x.toBits then .float false x else .float true x

/-- Reads one of `floatWords`, or one followed by `f32` or `f64`. -/
def readFloatWord : List (String × Float) → Read (Option Number)
  | [] => return none
  | (w, x) :: more => do
    if ← consumeIdent w then return some (floatNumber x)
    let r ← rest
    if w.toList.isPrefixOf r then
      let after := r.drop w.length
      let ends (s : String) : Bool :=
        s.toList.isPrefixOf after ∧ !(((after.drop 3).head?.map Text.isXidContinue).getD false)
      if ends "f32" then
        advance (w.length + 3)
        return some (.float false x)
      if ends "f64" then
        advance (w.length + 3)
        return some (.float true x)
    readFloatWord more

/-- The characters of a float without its `_`, or the index of an `_` that
may not stand there: first, or after a point or a sign. -/
def floatText : Nat → Bool → List Char → Except Nat (List Char)
  | _, _, [] => .ok []
  | i, allow, c :: more =>
    if c = '_' then
      if allow then floatText (i + 1) allow more else .error i
    else
      let allow := if c.isDigit ∨ c = 'e' ∨ c = 'E' then true else if c = '.' then false else allow
      (floatText (i + 1) allow more).map (c :: ·)

/-- Reads a float: a word, or the characters of a float, with a width after
them if one is named. -/
def readFloat : Read Number := do
  if let some n ← readFloatWord floatWords then return n
  let r ← rest
  let len := (r.takeWhile isFloatChar).length
  if len = 0 then throw expectedFloat
  if r.head? = some '_' then throw underscoreAtBeginning
  match floatText 0 false (r.take len) with
  | .error i =>
    advance i
    throw floatUnderscore
  | .ok cs =>
    let text := String.ofList cs
    let suffixed ←
      if (r.drop len).head? = some 'f' then do
        let start ← cursor
        advance len
        if ← consumeIdent "f32" then
          match readFloat? text with
          | some x => pure (some (Number.float false (toSingle x)))
          | none => do
            setCursor start
            throw expectedFloat
        else if ← consumeIdent "f64" then
          match readFloat? text with
          | some x => pure (some (Number.float true x))
          | none => do
            setCursor start
            throw expectedFloat
        else do
          setCursor start
          pure none
      else pure none
    match suffixed with
    | some n => return n
    | none =>
      match readFloat? text with
      | some x => do
        advance len
        return floatNumber x
      | none => throw expectedFloat

/-- The characters after a sign run further as a float than as an integer. -/
def floatAhead : Read Bool := do
  let r ← rest
  let body := match r with
    | c :: more => if c = '+' ∨ c = '-' then more else r
    | [] => []
  return (body.takeWhile isFloatChar).length > (body.takeWhile isIntChar).length

/-- Reads a number: a float when its characters say so, else an integer,
and a float from the same place when the integer fails, kept only if it
reaches as far. -/
def anyNumber : Read Number := fun r =>
  match floatAhead r with
  | .ok true r => readFloat r
  | .ok false r =>
    let start := r.cursor
    match readInteger r with
    | .ok n r => .ok n r
    | .error e r =>
      let stop := r.cursor
      match readFloat { r with cursor := start } with
      | .ok n r' => if stop.index ≤ r'.cursor.index then .ok n r' else .error e { r' with cursor := stop }
      | .error _ r' => .error e { r' with cursor := stop }
  | .error e r => .error e r

/-! Strings and characters. -/

/-- The rest of an escaped string after an escape at index `i` of the text
still to read: bytes up to the closing quote, escapes decoded into `acc`;
the string's length to step over at the end. -/
def escapedBytes (binary : Bool) : Nat → List Nat → Nat → Read (List Nat × Nat)
  | 0, _, _ => throw expectedStringEnd
  | fuel + 1, acc, i => do
    advance (i + 1)
    let acc := acc ++ (← parseEscape binary false)
    let r ← rest
    match r.idxOf? '"' with
    | none => throw expectedStringEnd
    | some stop =>
      match (r.take stop).idxOf? '\\' with
      | some i => escapedBytes binary fuel (acc ++ Text.utf8Bytes (String.ofList (r.take i))) i
      | none => return (acc ++ Text.utf8Bytes (String.ofList (r.take stop)), stop + 1)

/-- A quoted string after its opening quote, as bytes; the cursor ends
after the closing quote. -/
def quotedBytes (binary : Bool) : Read (List Nat) := do
  let r ← rest
  match r.idxOf? '"' with
  | none => throw expectedStringEnd
  | some stop =>
    let (bs, len) ←
      match (r.take stop).idxOf? '\\' with
      | some i => escapedBytes binary (r.length + 1) (Text.utf8Bytes (String.ofList (r.take i))) i
      | none => pure (Text.utf8Bytes (String.ofList (r.take stop)), stop + 1)
    advance len
    return bs

/-- The first place where `pat` starts in `cs`. -/
def findPattern (pat cs : List Char) : Option Nat :=
  (List.range cs.length).find? fun i => pat.isPrefixOf (cs.drop i)

/-- A raw string after its `r`: hashes, a quote, and the text up to a quote
followed by as many hashes. -/
def rawText : Read String := do
  let hashes := ((← rest).takeWhile (· = '#')).length
  advance hashes
  expect '"' expectedString
  let r ← rest
  match findPattern ('"' :: List.replicate hashes '#') r with
  | none => throw expectedStringEnd
  | some i =>
    advance (i + hashes + 1)
    return String.ofList (r.take i)

/-- Text from UTF-8 bytes. -/
def utf8Text (bs : List Nat) : String := String.ofList (Text.decodeLossy bs)

/-- Reads a string, quoted or raw. -/
def readString : Read String := do
  if ← consume "\"" then return utf8Text (← quotedBytes false)
  else if ← consume "r" then rawText
  else throw expectedString

/-- Reads a byte string, quoted (`b"..."`) or raw (`br"..."`). -/
def readByteString : Read (List Nat) := do
  if ← consume "b\"" then quotedBytes true
  else if ← consume "br" then return Text.utf8Bytes (← rawText)
  else throw expectedByteString

/-- Reads a character in single quotes: an escape or one character. -/
def readChar : Read Char := do
  expect '\'' expectedChar
  let c ← nextChar
  let c ←
    if c = '\\' then do
      let bs ← parseEscape false true
      match Text.decodeLossy bs with
      | [d] => pure d
      | _ => throw expectedChar
    else pure c
  expect '\'' expectedChar
  return c

end TopicHub.Config.Ron
