/-
  Config/Ini.lean --- reading INI documents into configuration trees.

  A document is read character by character.  ASCII white space at its
  start and any white space (line breaks included) between items is passed
  over, except the spaces and tabs that open a line: such an indented line is
  read as a key, whatever it holds, and the key may run to the end of the
  document, where it is dropped.  Otherwise

  * `;` or `#` starts a comment running to the end of the line, which must
    stand at the start of its line: after other text it is a fault;
  * `[name]` starts a section; the name is trimmed, and it may run over line
    breaks up to its `]`;
  * `=` or `:` after a key starts its value; with no key before it is a
    fault;
  * anything else is a key, read up to the next `=` or `:` and trimmed.

  A value starts after blanks on its line and is made of parts: text in
  double or single quotes, read up to the closing quote even across lines,
  and unquoted text up to the end of the line, trimmed when it comes first
  and trimmed at its end otherwise.  In every text a backslash escapes: `\0`,
  `\a`, `\b`, `\t`, `\r` and `\n` stand for control characters, `\x` and four
  hexadecimal digits for a character, a backslash before a line break joins
  the lines, and before any other character stands for that character.

  A fault names its place as `line:column`, both from one, at the character
  where reading stopped.  Every value is text: a reader of settings converts
  it to the field's type.  Keys before the first section belong to the top
  table; a section is a table of its keys, and a later section or key of the
  same name replaces an earlier one.
-/
import TopicHub.Config.Tree
import TopicHub.Text.Case
import TopicHub.Text.Debug

set_option autoImplicit false

namespace TopicHub.Config.Ini

/-- A place in the text being read: the characters from the current one on,
the line of the current character (from zero) and its column (from one; a
line break has column zero, on the line it starts). -/
structure Cursor where
  rest : List Char
  line : Nat
  col : Nat

namespace Cursor

/-- The place whose current character is the first of `rest`, coming from
line `line` and column `col`. -/
def onto (line col : Nat) (rest : List Char) : Cursor :=
  match rest with
  | '\n' :: _ => ⟨rest, line + 1, 0⟩
  | _ :: _ => ⟨rest, line, col + 1⟩
  | [] => ⟨rest, line, col⟩

/-- The place at the start of a text. -/
def start (text : String) : Cursor := onto 0 0 text.toList

/-- The current character; none at the end. -/
def current (c : Cursor) : Option Char := c.rest.head?

/-- The place after the current character. -/
def bump (c : Cursor) : Cursor := onto c.line c.col (c.rest.drop 1)

/-- Passes over the characters for which `p` holds. -/
def skipWhile (p : Char → Bool) : Nat → Cursor → Cursor
  | 0, c => c
  | fuel + 1, c =>
    match c.current with
    | some ch => if p ch then skipWhile p fuel c.bump else c
    | none => c

/-- Passes over the ASCII white space at the start of a document: spaces,
tabs, line feeds, form feeds and carriage returns. -/
def skipLeading (c : Cursor) : Cursor :=
  c.skipWhile (fun ch => ch == ' ' || ch == '\t' || ch == '\n' || ch == '\x0c' || ch == '\r')
    c.rest.length

/-- Whether the current character is a space or tab that opens its line. -/
def indents (c : Cursor) : Bool :=
  c.col == 1 && (c.current == some ' ' || c.current == some '\t')

/-- Passes over white space between items, line breaks included, up to the
space or tab that opens a line: an indented line is kept whole. -/
def skipWhite : Nat → Cursor → Cursor
  | 0, c => c
  | fuel + 1, c =>
    match c.current with
    | some ch => if Text.isWhiteSpace ch && !c.indents then skipWhite fuel c.bump else c
    | none => c

/-- Passes over white space up to a line break. -/
def skipBlank (c : Cursor) : Cursor :=
  c.skipWhile (fun ch => Text.isWhiteSpace ch && ch != '\n' && ch != '\r') c.rest.length

/-- Passes over a comment and the line break that ends it. -/
def skipLine : Nat → Cursor → Cursor
  | 0, c => c
  | fuel + 1, c =>
    match c.current with
    | none => c
    | some ch => if ch = '\n' then c.bump else skipLine fuel c.bump

end Cursor

/-- Why a document cannot be read, and the place of the character where
reading stopped. -/
structure Fault where
  line : Nat
  col : Nat
  message : String

/-- The text of a fault: `line:column message`, both counted from one. -/
def Fault.render (f : Fault) : String :=
  toString (f.line + 1) ++ ":" ++ toString (f.col + 1) ++ " " ++ f.message

/-- A fault at the current character. -/
def Cursor.fail {α : Type} (c : Cursor) (message : String) : Except Fault α :=
  .error ⟨c.line, c.col, message⟩

/-- A character that may end a text, or the end of the document, in debug
form. -/
def stopText : Option Char → String
  | some ch => "Some(" ++ Text.debugCharQuote ch ++ ")"
  | none => "None"

/-- The fault of a document that ends while a text looks for one of `stops`. -/
def Cursor.failAtEnd {α : Type} (c : Cursor) (stops : List (Option Char)) : Except Fault α :=
  c.fail ("expecting \"[" ++ ", ".intercalate (stops.map stopText) ++ "]\" but found EOF.")

/-- What a backslash and the character after it stand for; `x` is read apart. -/
def escaped : Char → List Char
  | '0' => [Char.ofNat 0]
  | 'a' => [Char.ofNat 7]
  | 'b' => [Char.ofNat 8]
  | 't' => ['\t']
  | 'r' => ['\r']
  | 'n' => ['\n']
  | '\n' => []
  | c => [c]

/-- The character four characters after `\x` name: hexadecimal digits, which
may follow a `+`, for a code point that is a character. -/
def hexEscape? (cs : List Char) : Option Char :=
  let ds := match cs with
    | '+' :: r => r
    | r => r
  let isHex (c : Char) : Bool := c.isDigit || ('a' ≤ c && c ≤ 'f') || ('A' ≤ c && c ≤ 'F')
  if ds.isEmpty || !ds.all isHex then none
  else
    let v := Text.hexValue ds
    if v < 0xD800 ∨ (0xDFFF < v ∧ v < 0x110000) then some (Char.ofNat v) else none

/-- Reads the four characters after `\x`, the cursor on the last one read.  A
backslash among them must come before a line break, on which the cursor then
stands. -/
def hexChars (stops : List (Option Char)) : Nat → Cursor → List Char →
    Except Fault (List Char × Cursor)
  | 0, c, acc => .ok (acc.reverse, c)
  | n + 1, c, acc =>
    let c := c.bump
    match c.current with
    | none => c.failAtEnd stops
    | some '\\' =>
      let c := c.bump
      if c.current = some '\n' then hexChars stops n c ('\\' :: acc)
      else
        let found := match c.current with
          | some ch => "Some(" ++ Text.debugCharQuote ch ++ ")"
          | none => "None"
        c.fail ("expecting \"\\\\n\" but found \"" ++ found ++ "\".")
    | some ch => hexChars stops n c (ch :: acc)

/-- Reads text up to one of `stops` (a character, or `none` for the end of the
document), which is left current; the end of the document when it is not
among them is a fault. -/
def textUntil (stops : List (Option Char)) : Nat → Cursor → List Char → Except Fault (String × Cursor)
  | 0, c, acc => .ok (String.ofList acc.reverse, c)
  | fuel + 1, c, acc =>
    if stops.contains c.current then .ok (String.ofList acc.reverse, c)
    else
      match c.current with
      | none => c.failAtEnd stops
      | some '\\' =>
        let c1 := c.bump
        match c1.current with
        | none => textUntil stops fuel c1 ('\\' :: acc)
        | some 'x' =>
          match hexChars stops 4 c1 [] with
          | .error f => .error f
          | .ok (cs, c2) =>
            match hexEscape? cs with
            | some ch => textUntil stops fuel c2.bump (ch :: acc)
            | none => c2.fail "unknown character in \\xHH form"
        | some e => textUntil stops fuel c1.bump ((escaped e).reverse ++ acc)
      | some ch => textUntil stops fuel c.bump (ch :: acc)

/-- Text up to one of `stops`, with fuel for the whole rest of the document. -/
def Cursor.readUntil (c : Cursor) (stops : List (Option Char)) : Except Fault (String × Cursor) :=
  textUntil stops (c.rest.length + 2) c []

/-- The ends of an unquoted part of a value. -/
def lineStops : List (Option Char) := [some '\n', some '\r', none]

/-- A text without white space at its start and end. -/
def trimText (s : String) : String :=
  String.ofList ((s.toList.dropWhile Text.isWhiteSpace).reverse.dropWhile Text.isWhiteSpace).reverse

/-- A text without white space at its end. -/
def trimEnd (s : String) : String :=
  String.ofList (s.toList.reverse.dropWhile Text.isWhiteSpace).reverse

/-- Reads the parts of a value: quoted parts, then at most one unquoted part
that ends the line. -/
def valueParts : Nat → Cursor → String → Bool → Except Fault (String × Cursor)
  | 0, c, v, _ => .ok (v, c)
  | fuel + 1, c, v, first =>
    match c.current with
    | none => .ok (v, c)
    | some q =>
      if q = '"' ∨ q = '\'' then
        match c.bump.readUntil [some q] with
        | .error f => .error f
        | .ok (part, c') => valueParts fuel c'.bump (v ++ part) false
      else
        match c.readUntil lineStops with
        | .error f => .error f
        | .ok (part, c') => .ok (v ++ (if first then trimText part else trimEnd part), c')

/-- Reads a value, the cursor on the `=` or `:` before it. -/
def readValue (c : Cursor) : Except Fault (String × Cursor) :=
  let c := c.bump.skipBlank
  valueParts (c.rest.length + 1) c "" true

/-- A document as read: the keys before the first section, and the sections
in order with their keys in order; names may repeat. -/
structure Document where
  general : List (String × String) := []
  sections : List (String × List (String × String)) := []

/-- Adds a key to the last section, or before the first one when there is
none yet. -/
def Document.add (d : Document) (key value : String) : Document :=
  match d.sections.reverse with
  | [] => { d with general := d.general ++ [(key, value)] }
  | (name, es) :: earlier => { d with sections := (earlier.reverse ++ [(name, es ++ [(key, value)])]) }

/-- Starts a section. -/
def Document.openSection (d : Document) (name : String) : Document :=
  { d with sections := d.sections ++ [(name, [])] }

/-- Reads the items of a document; `key` is the key waiting for its value. -/
def readItems : Nat → Cursor → String → Document → Except Fault Document
  | 0, _, _, d => .ok d
  | fuel + 1, c, key, d =>
    match c.current with
    | none => .ok d
    | some ch =>
      if ch = ';' ∨ ch = '#' then
        if c.col > 1 then c.fail "doesn't support inline comment"
        else
          let c := Cursor.skipLine c.rest.length c
          readItems fuel (Cursor.skipWhite c.rest.length c) key d
      else if ch = '[' then
        match c.bump.readUntil [some ']'] with
        | .error f => .error f
        | .ok (name, c') =>
          let c' := if c'.current = some ']' then c'.bump else c'
          readItems fuel (Cursor.skipWhite c'.rest.length c') key (d.openSection (trimText name))
      else if ch = '=' ∨ ch = ':' then
        if key.isEmpty then c.fail "missing key"
        else
          match readValue c with
          | .error f => .error f
          | .ok (v, c') => readItems fuel (Cursor.skipWhite c'.rest.length c') "" (d.add key v)
      else
        -- an indented key may run to the end of the document, where it is dropped
        let stops := if c.indents then [some '=', some ':', none] else [some '=', some ':']
        match c.readUntil stops with
        | .error f => .error f
        | .ok (k, c') => readItems fuel (Cursor.skipWhite c'.rest.length c') (trimText k) d

/-- Reads a document. -/
def Document.read (text : String) : Except Fault Document :=
  let c := (Cursor.start text).skipLeading
  readItems (c.rest.length + 1) c "" {}

/-- Keys and their values as table members, text from the source `origin`; a
later key replaces an earlier one. -/
def members (origin : Option String) (es : List (String × String)) : List (String × Tree) :=
  es.foldl (fun acc (k, v) => putEntry k (.leaf origin (.str v)) acc) []

/-- Reads a document: the members of its top table, or why it cannot be read. -/
def read (origin : Option String) (text : String) : Except String (List (String × Tree)) :=
  match Document.read text with
  | .error f => .error f.render
  | .ok d =>
    .ok (d.sections.foldl (fun acc (n, es) => putEntry n (.table origin (members origin es)) acc)
      (members origin d.general))

end TopicHub.Config.Ini
