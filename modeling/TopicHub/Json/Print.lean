/-
  Json/Print.lean --- the compact text of a JSON document.

  No blank is written between tokens.  A string escapes the quote, the
  backslash and every control character below U+0020: the six with a short form
  as `\b \f \n \r \t`, the others as `\u00xx` in lower-case hex; all else,
  U+007F and non-ASCII included, stands as itself.  A double is written in its
  shortest digits that read back (`Json.numberNotation`); NaN and the
  infinities have no JSON text and are written `null`.
-/
import TopicHub.Json.Value
import TopicHub.Decimal.Notation

set_option autoImplicit false

namespace TopicHub.Json

open TopicHub.Decimal

/-- Doubles in JSON text: positional while the leading digit's exponent is
between -5 and 15, with `.0` after an integral value; otherwise one digit before
the point and an exponent `e+N` or `e-N`.  Of two equally near shortest
candidates the even one is written when the tie is recognised as exact
(`Binary.tiesExact`), the larger one otherwise. -/
def numberNotation : Notation := ⟨-5, 15, true, "e", true, .toEvenWhenExact⟩

/-- The text of a double in JSON, `none` for NaN and the infinities. -/
def floatText? (x : Float) : Option String := numberNotation.ofFloat x

/-- The text of a number; a double without JSON text is `null`. -/
def Number.render : Number → String
  | .unsigned n => Nat.repr n
  | .signed i => toString i
  | .float x => (floatText? x).getD "null"

/-- A hex digit in lower case. -/
def hexDigit (n : Nat) : Char :=
  if n < 10 then Char.ofNat (48 + n) else Char.ofNat (87 + n)

/-- The escaped form of one character inside a JSON string. -/
def escapeChar (c : Char) : List Char :=
  if c = '"' then ['\\', '"']
  else if c = '\\' then ['\\', '\\']
  else if c = '\n' then ['\\', 'n']
  else if c = '\r' then ['\\', 'r']
  else if c = '\t' then ['\\', 't']
  else if c.toNat = 8 then ['\\', 'b']
  else if c.toNat = 12 then ['\\', 'f']
  else if c.toNat < 0x20 then ['\\', 'u', '0', '0', hexDigit (c.toNat / 16), hexDigit (c.toNat % 16)]
  else [c]

/-- A string as a JSON string literal, quotes included. -/
def quote (s : String) : String :=
  String.ofList ('"' :: (s.toList.flatMap escapeChar ++ ['"']))

mutual
/-- Writes the compact text of a document after `out`, members in the order
they stand.  Each piece is added at the end of the text so far, so a document
is written in time linear in its text. -/
def writeOnto (out : String) : Json → String
  | .null => out ++ "null"
  | .bool true => out ++ "true"
  | .bool false => out ++ "false"
  | .num n => out ++ n.render
  | .str s => out ++ quote s
  | .arr items => writeItems (out ++ "[") items ++ "]"
  | .obj fields => writeFields (out ++ "\x7b") fields ++ "\x7d"

/-- Writes items after `out`, separated by commas. -/
def writeItems (out : String) : List Json → String
  | [] => out
  | [j] => writeOnto out j
  | j :: rest => writeItems (writeOnto out j ++ ",") rest

/-- Writes members after `out`, separated by commas, each as `key:value`. -/
def writeFields (out : String) : List (String × Json) → String
  | [] => out
  | [(k, v)] => writeOnto (out ++ quote k ++ ":") v
  | (k, v) :: rest => writeFields (writeOnto (out ++ quote k ++ ":") v ++ ",") rest
end

/-- The compact text of a document. -/
def render (j : Json) : String := writeOnto "" j

mutual
/-- Writing after `out` puts `out` before the text written from nothing. -/
theorem writeOnto_eq (out : String) (j : Json) : writeOnto out j = out ++ writeOnto "" j := by
  cases j with
  | null => simp only [writeOnto, String.empty_append]
  | bool b => cases b <;> simp only [writeOnto, String.empty_append]
  | num n => simp only [writeOnto, String.empty_append]
  | str s => simp only [writeOnto, String.empty_append]
  | arr items =>
    simp only [writeOnto, String.empty_append]
    rw [writeItems_eq (out ++ "[") items, writeItems_eq "[" items]
    simp only [String.append_assoc]
  | obj fields =>
    simp only [writeOnto, String.empty_append]
    rw [writeFields_eq (out ++ "\x7b") fields, writeFields_eq "\x7b" fields]
    simp only [String.append_assoc]

/-- Writing items after `out` puts `out` before the items written from nothing. -/
theorem writeItems_eq (out : String) (items : List Json) :
    writeItems out items = out ++ writeItems "" items := by
  match items with
  | [] => simp only [writeItems, String.append_empty]
  | [j] => simp only [writeItems]; exact writeOnto_eq out j
  | j :: k :: rest =>
    simp only [writeItems]
    rw [writeItems_eq (writeOnto out j ++ ",") (k :: rest),
      writeItems_eq (writeOnto "" j ++ ",") (k :: rest), writeOnto_eq out j]
    simp only [String.append_assoc]

/-- Writing members after `out` puts `out` before the members written from
nothing. -/
theorem writeFields_eq (out : String) (fields : List (String × Json)) :
    writeFields out fields = out ++ writeFields "" fields := by
  match fields with
  | [] => simp only [writeFields, String.append_empty]
  | [(k, v)] =>
    simp only [writeFields, String.empty_append]
    rw [writeOnto_eq (out ++ quote k ++ ":") v, writeOnto_eq (quote k ++ ":") v]
    simp only [String.append_assoc]
  | (k, v) :: f :: rest =>
    simp only [writeFields, String.empty_append]
    rw [writeFields_eq (writeOnto (out ++ quote k ++ ":") v ++ ",") (f :: rest),
      writeFields_eq (writeOnto (quote k ++ ":") v ++ ",") (f :: rest),
      writeOnto_eq (out ++ quote k ++ ":") v, writeOnto_eq (quote k ++ ":") v]
    simp only [String.append_assoc]
end

end TopicHub.Json
