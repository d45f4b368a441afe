/-
  Json/Scalar.lean --- reading the scalars of JSON text: literals, strings and
  numbers.

  Strings.  Between the quotes a control character below U+0020 is refused;
  an escape is one of `\" \\ \/ \b \f \n \r \t` or `\u` and four hex digits.  A
  `\u` escape of a high surrogate must be followed at once by `\u` and a low
  surrogate; the two stand for one character.  A low surrogate alone, or a high
  one followed by anything else, is refused.

  Numbers.  An integer is kept exact while it fits in 64 bits (unsigned, or
  signed when negative); `-0` and the other integers become doubles.  A number
  with a fraction or an exponent is a double computed from its decimal digits
  as a 64-bit significand and a power of ten: the significand is rounded to a
  double and multiplied or divided by the double nearest that power
  (`Scalar.scaleByTen`).  Digits beyond what 64 bits hold are dropped, those
  before the point counting into the exponent.  A result too large for a double
  is refused; an exponent too large to hold gives zero when the number shrinks.
-/
import TopicHub.Json.Cursor

set_option autoImplicit false

namespace TopicHub.Json

namespace Scalar

/-- Reads the rest of a literal such as `null` after its first letter. -/
def readIdent : List Char → Cursor → Except Error Cursor
  | [], c => .ok c
  | e :: es, c =>
    match c.rest with
    | [] => failAt .endInValue c.pos
    | ch :: _ => if ch = e then readIdent es c.next else failAt .identExpected c.peekPos

/-- The value of a hex digit. -/
def hexDigit? (c : Char) : Option Nat :=
  if '0' ≤ c ∧ c ≤ '9' then some (c.toNat - '0'.toNat)
  else if 'a' ≤ c ∧ c ≤ 'f' then some (c.toNat - 'a'.toNat + 10)
  else if 'A' ≤ c ∧ c ≤ 'F' then some (c.toNat - 'A'.toNat + 10)
  else none

/-- Reads the four hex digits of a `\u` escape.  Fewer than four bytes left is
the end of the text; four bytes that are not all hex digits are a bad escape,
found after them. -/
def readHex4 (c : Cursor) : Except Error (Nat × Cursor) :=
  let bad : Except Error (Nat × Cursor) :=
    if c.bytesLeft < 4 then failAt .endInString c.endPos
    else failAt .badEscape (c.posAfterBytes 4)
  match c.rest with
  | a :: b :: d :: e :: _ =>
    match hexDigit? a, hexDigit? b, hexDigit? d, hexDigit? e with
    | some va, some vb, some vd, some ve =>
      .ok (((va * 16 + vb) * 16 + vd) * 16 + ve, c.next.next.next.next)
    | _, _, _, _ => bad
  | _ => bad

/-- Reads what follows `\u`: one character, from one escape or from a pair of
surrogate escapes. -/
def readUnicodeEscape (c : Cursor) : Except Error (Char × Cursor) := do
  let (n, c1) ← readHex4 c
  if 0xDC00 ≤ n ∧ n ≤ 0xDFFF then failAt .loneSurrogate c1.pos
  else if n < 0xD800 ∨ 0xDBFF < n then .ok (Char.ofNat n, c1)
  else
    match c1.rest with
    | [] => failAt .endInString c1.pos
    | '\\' :: _ =>
      let c2 := c1.next
      match c2.rest with
      | [] => failAt .endInString c2.pos
      | 'u' :: _ =>
        let (n2, c3) ← readHex4 c2.next
        if 0xDC00 ≤ n2 ∧ n2 ≤ 0xDFFF then
          .ok (Char.ofNat ((n - 0xD800) * 0x400 + (n2 - 0xDC00) + 0x10000), c3)
        else failAt .loneSurrogate c3.pos
      | _ => failAt .unfinishedSurrogatePair c2.peekPos
    | _ => failAt .unfinishedSurrogatePair c1.peekPos

/-- The character a one-letter escape stands for. -/
def shortEscape? : Char → Option Char
  | '"' => some '"'
  | '\\' => some '\\'
  | '/' => some '/'
  | 'b' => some (Char.ofNat 8)
  | 'f' => some (Char.ofNat 12)
  | 'n' => some '\n'
  | 'r' => some '\r'
  | 't' => some '\t'
  | _ => none

/-- Reads the body of a string after its opening quote, up to and including the
closing quote.  `fuel` bounds the characters read. -/
def readStringBody : Nat → Cursor → List Char → Except Error (String × Cursor)
  | 0, c, _ => failAt .endInString c.endPos
  | fuel + 1, c, acc =>
    match c.rest with
    | [] => failAt .endInString c.pos
    | '"' :: _ => .ok (String.ofList acc.reverse, c.next)
    | '\\' :: _ =>
      let c1 := c.next
      match c1.rest with
      | [] => failAt .endInString c1.pos
      | 'u' :: _ => do
        let (ch, c2) ← readUnicodeEscape c1.next
        readStringBody fuel c2 (ch :: acc)
      | e :: _ =>
        match shortEscape? e with
        | some ch => readStringBody fuel c1.next (ch :: acc)
        | none => failAt .badEscape c1.peekPos
    | ch :: _ =>
      if ch.toNat < 0x20 then failAt .controlInString c.peekPos
      else readStringBody fuel c.next (ch :: acc)

/-- Reads a string after its opening quote. -/
def readString (c : Cursor) : Except Error (String × Cursor) :=
  readStringBody c.fuel c []

/-- The largest exponent of ten whose double is used directly. -/
def maxTenPower : Nat := 308

/-- The double nearest `10^k`. -/
def tenPower (k : Nat) : Float := Float.ofScientific 1 false k

/-- `significand * 10^exponent` in doubles: the significand rounded to a
double, then multiplied or divided by the double nearest the power of ten.  A
power beyond `10^308` is applied as steps of `10^308`; a product that
overflows is `none`.  `fuel` bounds the steps. -/
def scaleByTen (significand : Nat) (exponent : Int) : Option Float :=
  go (Float.ofNat significand) exponent 8
where
  go (f : Float) (e : Int) : Nat → Option Float
    | 0 => some f
    | fuel + 1 =>
      if e.natAbs ≤ maxTenPower then
        if 0 ≤ e then
          let g := f * tenPower e.natAbs
          if g.isInf then none else some g
        else some (f / tenPower e.natAbs)
      else if f == 0 then some f
      else if 0 ≤ e then none
      else go (f / tenPower maxTenPower) (e + (maxTenPower : Int)) fuel

/-- The double of a number read as digits and an exponent, with its sign. -/
def fromParts (positive : Bool) (significand : Nat) (exponent : Int) (at_ : Pos) :
    Except Error Float :=
  match scaleByTen significand exponent with
  | some f => .ok (if positive then f else -f)
  | none => failAt .numberOutOfRange at_

/-- The largest unsigned 64-bit integer. -/
def maxUnsigned : Nat := Nat.pow 2 64 - 1

/-- The bounds of a 32-bit signed exponent. -/
def maxExponent : Int := Int.pow 2 31 - 1

/-- An exponent held to 32 bits, the way a saturating sum holds it. -/
def clampExponent (e : Int) : Int := max (-maxExponent - 1) (min maxExponent e)

/-- `acc * 10 + d` would pass `bound`. -/
def overflows (acc d bound : Nat) : Bool :=
  acc ≥ bound / 10 && (acc > bound / 10 || d > bound % 10)

/-- The value of a decimal digit, if it is one. -/
def digit? (c : Char) : Option Nat :=
  if '0' ≤ c ∧ c ≤ '9' then some (c.toNat - '0'.toNat) else none

/-- Skips decimal digits. -/
def skipDigits (c : Cursor) : Cursor :=
  match h : c.rest with
  | [] => c
  | ch :: _ => if (digit? ch).isSome then skipDigits c.next else c
termination_by c.rest.length
decreasing_by rw [Cursor.next_rest h, h]; simp

/-- Reads the exponent after `e` or `E`. -/
def readExponent (positive : Bool) (significand : Nat) (start : Int) (c : Cursor) :
    Except Error (Float × Cursor) :=
  let (positiveExp, c) :=
    match c.rest with
    | '+' :: _ => (true, c.next)
    | '-' :: _ => (false, c.next)
    | _ => (true, c)
  match c.rest with
  | [] => failAt .endInValue c.pos
  | ch :: _ =>
    match digit? ch with
    | none => failAt .badNumber c.peekPos
    | some d => loop positiveExp d c.next c.fuel
where
  loop (positiveExp : Bool) (acc : Nat) (c : Cursor) : Nat → Except Error (Float × Cursor)
    | 0 => failAt .badNumber c.pos
    | fuel + 1 =>
      match c.rest with
      | ch :: _ =>
        match digit? ch with
        | some d =>
          let c1 := c.next
          if overflows acc d maxExponent.toNat then
            if significand ≠ 0 ∧ positiveExp then failAt .numberOutOfRange c1.pos
            else
              let c2 := skipDigits c1
              .ok (if positive then 0.0 else -0.0, c2)
          else loop positiveExp (acc * 10 + d) c1 fuel
        | none => finish positiveExp acc c
      | [] => finish positiveExp acc c
  finish (positiveExp : Bool) (acc : Nat) (c : Cursor) : Except Error (Float × Cursor) := do
    let e := clampExponent (if positiveExp then start + acc else start - acc)
    let f ← fromParts positive significand e c.pos
    .ok (f, c)

/-- After digits that no longer fit: ignores the rest of the fraction. -/
def readDecimalOverflow (positive : Bool) (significand : Nat) (exponent : Int) (c : Cursor) :
    Except Error (Float × Cursor) :=
  let c := skipDigits c
  match c.rest with
  | e :: _ =>
    if e = 'e' ∨ e = 'E' then readExponent positive significand exponent c.next
    else do let f ← fromParts positive significand exponent c.pos; .ok (f, c)
  | [] => do let f ← fromParts positive significand exponent c.pos; .ok (f, c)

/-- Reads the fraction after the point: at least one digit, then perhaps an
exponent. -/
def readDecimal (positive : Bool) (significand : Nat) (before : Int) (c : Cursor) :
    Except Error (Float × Cursor) :=
  loop significand 0 c c.fuel
where
  loop (sig : Nat) (after : Int) (c : Cursor) : Nat → Except Error (Float × Cursor)
    | 0 => failAt .badNumber c.pos
    | fuel + 1 =>
      let more : Option Nat := c.rest.head?.bind digit?
      match more with
      | some d =>
        if overflows sig d maxUnsigned then readDecimalOverflow positive sig (before + after) c
        else loop (sig * 10 + d) (after - 1) c.next fuel
      | none =>
        if after = 0 then
          match c.rest with
          | [] => failAt .endInValue c.peekPos
          | _ => failAt .badNumber c.peekPos
        else
          let exponent := before + after
          match c.rest with
          | e :: _ =>
            if e = 'e' ∨ e = 'E' then readExponent positive sig exponent c.next
            else do let f ← fromParts positive sig exponent c.pos; .ok (f, c)
          | [] => do let f ← fromParts positive sig exponent c.pos; .ok (f, c)

/-- An integer too long for 64 bits: the further digits count into the
exponent. -/
def readLongInteger (positive : Bool) (significand : Nat) (c : Cursor) :
    Except Error (Float × Cursor) :=
  loop 0 c c.fuel
where
  loop (exponent : Int) (c : Cursor) : Nat → Except Error (Float × Cursor)
    | 0 => failAt .badNumber c.pos
    | fuel + 1 =>
      match c.rest with
      | ch :: _ =>
        if (digit? ch).isSome then loop (exponent + 1) c.next fuel
        else if ch = '.' then readDecimal positive significand exponent c.next
        else if ch = 'e' ∨ ch = 'E' then readExponent positive significand exponent c.next
        else do let f ← fromParts positive significand exponent c.pos; .ok (f, c)
      | [] => do let f ← fromParts positive significand exponent c.pos; .ok (f, c)

/-- A double as a number. -/
def floatNumber (r : Float × Cursor) : Number × Cursor := (.float r.1, r.2)

/-- What follows the integer part: a fraction, an exponent, or nothing. -/
def readNumberTail (positive : Bool) (significand : Nat) (c : Cursor) :
    Except Error (Number × Cursor) :=
  match c.rest with
  | '.' :: _ => floatNumber <$> readDecimal positive significand 0 c.next
  | e :: _ =>
    if e = 'e' ∨ e = 'E' then floatNumber <$> readExponent positive significand 0 c.next
    else .ok (integer, c)
  | [] => .ok (integer, c)
where
  integer : Number :=
    if positive then .unsigned significand
    else if significand = 0 then .float (-0.0)
    else if significand ≤ Nat.pow 2 63 then .signed (-(significand : Int))
    else .float (-(Float.ofNat significand))

/-- Reads the digits of an integer part after the first, while they fit in 64
bits. -/
def readDigits (positive : Bool) : Nat → Cursor → Nat → Except Error (Number × Cursor)
  | sig, c, 0 => readNumberTail positive sig c
  | sig, c, fuel + 1 =>
    match c.rest.head?.bind digit? with
    | some d =>
      if overflows sig d maxUnsigned then floatNumber <$> readLongInteger positive sig c
      else readDigits positive (sig * 10 + d) c.next fuel
    | none => readNumberTail positive sig c

/-- Reads a number from its first digit (the minus sign, if any, already read).
A leading zero stands alone. -/
def readNumber (positive : Bool) (c : Cursor) : Except Error (Number × Cursor) :=
  match c.rest with
  | [] => failAt .endInValue c.pos
  | ch :: _ =>
    match digit? ch with
    | some 0 =>
      let c1 := c.next
      match c1.rest.head?.bind digit? with
      | some _ => failAt .badNumber c1.peekPos
      | none => readNumberTail positive 0 c1
    | some d => readDigits positive d c.next c.fuel
    | none => failAt .badNumber c.peekPos

end Scalar

end TopicHub.Json
