/-
  Json/Cursor.lean --- where a reader stands in a text.

  A `Cursor` is the text still to read together with the position of its first
  byte: the line, counted from 1, and the number of bytes before it on that
  line.  Positions count bytes of the UTF-8 encoding, so a character outside
  ASCII moves the column by two to four.  A reader that stops inside a
  character (after its first byte) reports the position one byte further on,
  which `Cursor.peekPos` gives.
-/
import TopicHub.Json.Fault

set_option autoImplicit false

namespace TopicHub.Json

/-- The text still to read, and the position of its first byte. -/
structure Cursor where
  rest : List Char
  line : Nat
  column : Nat
  /-- a bound on the characters any loop may read: one more than the length
  of the whole text, so never smaller than what is left -/
  fuel : Nat

namespace Cursor

/-- The start of a text. -/
def start (s : String) : Cursor := ⟨s.toList, 1, 0, s.length + 1⟩

/-- The position of the first unread byte. -/
def pos (c : Cursor) : Pos := ⟨c.line, c.column⟩

/-- The cursor one character further on; a line feed starts a new line. -/
def next (c : Cursor) : Cursor :=
  match c.rest with
  | [] => c
  | ch :: r => if ch = '\n' then ⟨r, c.line + 1, 0, c.fuel⟩ else ⟨r, c.line, c.column + ch.utf8Size, c.fuel⟩

theorem next_rest {c : Cursor} {ch : Char} {r : List Char} (h : c.rest = ch :: r) :
    c.next.rest = r := by
  simp only [next, h]
  split <;> rfl

/-- The position after the first byte of the next character; at the end of the
text, the end. -/
def peekPos (c : Cursor) : Pos :=
  match c.rest with
  | [] => c.pos
  | ch :: _ => if ch = '\n' then ⟨c.line + 1, 0⟩ else ⟨c.line, c.column + 1⟩

/-- The position `n` bytes into `text` from `line` and `column`, counting a
character cut in the middle by the bytes taken of it. -/
def posAfterBytesIn (line column : Nat) : List Char → Nat → Pos
  | _, 0 => ⟨line, column⟩
  | [], _ => ⟨line, column⟩
  | ch :: r, n + 1 =>
    if ch.utf8Size ≤ n + 1 then
      if ch = '\n' then posAfterBytesIn (line + 1) 0 r (n + 1 - ch.utf8Size)
      else posAfterBytesIn line (column + ch.utf8Size) r (n + 1 - ch.utf8Size)
    else ⟨line, column + n + 1⟩

/-- The position `n` bytes further on. -/
def posAfterBytes (c : Cursor) (n : Nat) : Pos := posAfterBytesIn c.line c.column c.rest n

/-- The position at the end of the text. -/
def endPos (c : Cursor) : Pos :=
  let final := c.rest.foldl (fun (p : Pos) ch =>
    if ch = '\n' then ⟨p.line + 1, 0⟩ else ⟨p.line, p.column + ch.utf8Size⟩) c.pos
  final

/-- The number of bytes still to read. -/
def bytesLeft (c : Cursor) : Nat := (c.rest.map Char.utf8Size).foldr (· + ·) 0

/-- The blanks of JSON: space, line feed, tab and carriage return. -/
def isBlank (ch : Char) : Bool := ch = ' ' || ch = '\n' || ch = '\t' || ch = '\r'

/-- The cursor after any blanks. -/
def skipBlanks (c : Cursor) : Cursor :=
  match h : c.rest with
  | [] => c
  | ch :: _ => if isBlank ch then c.next.skipBlanks else c
termination_by c.rest.length
decreasing_by rw [next_rest h, h]; simp

/-- The next character, if any. -/
def peek? (c : Cursor) : Option Char := c.rest.head?

end Cursor

/-- A fault of the text at a position. -/
def failAt {α : Type} (f : TextFault) (p : Pos) : Except Error α := .error ⟨.text f, some p⟩

/-- A mismatch found while reading, at a position. -/
def mismatchAt {α : Type} (m : Mismatch) (p : Pos) : Except Error α := .error ⟨.mismatch m, some p⟩

end TopicHub.Json
