/-
  Text/FormEncoding.lean --- the `application/x-www-form-urlencoded` format.

  Decoding splits the bytes at `&`, drops empty parts, and splits each part at
  its first `=` into a name and a value (an empty value when there is no `=`).
  In both, `+` is a space and `%` with two hex digits is that byte; any other
  `%` stands for itself.  The bytes are then read as UTF-8 with replacement.

  Encoding keeps ASCII letters, digits and `*-._`, writes a space as `+`, and
  every other byte as `%` and two upper-case hex digits.
-/
import TopicHub.Text.Utf8

set_option autoImplicit false

namespace TopicHub.Text

/-- The value of an ASCII hex digit byte. -/
def hexByte? (b : Nat) : Option Nat :=
  if 0x30 ≤ b ∧ b ≤ 0x39 then some (b - 0x30)
  else if 0x41 ≤ b ∧ b ≤ 0x46 then some (b - 0x41 + 10)
  else if 0x61 ≤ b ∧ b ≤ 0x66 then some (b - 0x61 + 10)
  else none

/-- Decodes `+` and percent escapes of a name or value. -/
def unescapeBytes : List Nat → List Nat
  | [] => []
  | 0x2B :: rest => 0x20 :: unescapeBytes rest
  | 0x25 :: h :: l :: rest =>
    match hexByte? h, hexByte? l with
    | some a, some b => (a * 16 + b) :: unescapeBytes rest
    | _, _ => 0x25 :: unescapeBytes (h :: l :: rest)
  | b :: rest => b :: unescapeBytes rest

/-- Splits bytes at every occurrence of `sep`. -/
def splitBytes (sep : Nat) (bs : List Nat) : List (List Nat) :=
  bs.splitOn sep

/-- Decodes one name or value. -/
def decodeComponent (bs : List Nat) : String := String.ofList (decodeLossy (unescapeBytes bs))

/-- The name and value pairs of a form-encoded text, in order. -/
def formPairs (text : String) : List (String × String) :=
  ((splitBytes 0x26 (utf8Bytes text)).filter (· ≠ [])).map fun part =>
    let name := part.takeWhile (· ≠ 0x3D)
    let value := (part.dropWhile (· ≠ 0x3D)).drop 1
    (decodeComponent name, decodeComponent value)

/-- An upper-case hex digit. -/
def upperHexDigit (n : Nat) : Char := if n < 10 then Char.ofNat (48 + n) else Char.ofNat (55 + n)

/-- The encoded form of one byte. -/
def encodeByte (b : Nat) : List Char :=
  let c := Char.ofNat b
  if b < 0x80 ∧ (c.isAlphanum ∨ c = '*' ∨ c = '-' ∨ c = '.' ∨ c = '_') then [c]
  else if b = 0x20 then ['+']
  else ['%', upperHexDigit (b / 16), upperHexDigit (b % 16)]

/-- The encoded form of a name or value. -/
def formEncode (s : String) : String := String.ofList ((utf8Bytes s).flatMap encodeByte)

/-- The encoded pair `name=value`. -/
def formPair (name value : String) : String := formEncode name ++ "=" ++ formEncode value

end TopicHub.Text
