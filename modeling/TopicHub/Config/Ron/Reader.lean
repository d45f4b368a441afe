/-
  Config/Ron/Reader.lean --- the state of reading a RON document, and its
  smallest steps.

  A reader holds a cursor in the text and the place where its last step
  began.  A step that takes a known stretch of text (a word, a run of
  blanks, an integer's digits) moves both; taking a single character to look
  at it, or winding the cursor back, moves only the cursor.  A fault is
  reported with both places, from the start of the last step to the cursor,
  as `line:column-line:column: message`, or `line:column: message` when they
  are one; lines and columns count characters from one.

  Reading runs in `Read`, a state and fault monad whose faults keep the state
  they happened in, because the span of a fault is that of the reader when
  the fault reaches the top.  Blanks are the pattern white space of Unicode;
  comments are `//` to the end of the line and `/* ... */`, which nest.
-/
import TopicHub.Text.Debug
import TopicHub.Text.Ident

set_option autoImplicit false

namespace TopicHub.Config.Ron

/-- A place in the text: line and column, both from one, in characters. -/
structure Place where
  line : Nat
  col : Nat
  deriving DecidableEq, Inhabited

/-- The text of a place: `line:column`. -/
def Place.render (p : Place) : String := toString p.line ++ ":" ++ toString p.col

/-- A cursor: the text still to read, how many characters lie before it,
and its place. -/
structure Cursor where
  rest : List Char
  index : Nat
  place : Place
  deriving Inhabited

/-- The cursor one character further on; a line feed starts the next line. -/
def Cursor.next (c : Cursor) : Cursor :=
  match c.rest with
  | [] => c
  | ch :: r =>
    ⟨r, c.index + 1, if ch = '\n' then ⟨c.place.line + 1, 1⟩ else ⟨c.place.line, c.place.col + 1⟩⟩

/-- The cursor `n` characters further on. -/
def Cursor.skip : Nat → Cursor → Cursor
  | 0, c => c
  | n + 1, c => Cursor.skip n c.next

/-- The state of reading: the cursor, where the last step began, the
extensions the document enabled, how much deeper values may still nest, and
whether the value next read is the content of a newtype that may go without
parentheses. -/
structure Reader where
  cursor : Cursor
  prev : Place
  implicitSome : Bool := false
  unwrapVariantNewtypes : Bool := false
  depth : Nat := 128
  newtypeVariant : Bool := false
  deriving Inhabited

/-- A reader at the start of a text. -/
def Reader.start (text : String) : Reader := { cursor := ⟨text.toList, 0, ⟨1, 1⟩⟩, prev := ⟨1, 1⟩ }

/-- The text of a fault found by a reader: the span of its last step, then
the message. -/
def Reader.render (r : Reader) (message : String) : String :=
  if r.prev = r.cursor.place then r.prev.render ++ ": " ++ message
  else r.prev.render ++ "-" ++ r.cursor.place.render ++ ": " ++ message

/-- Reading: a state and fault monad whose faults keep their state. -/
abbrev Read := EStateM String Reader

/-! The messages of faults. -/

def endOfInput : String := "Unexpected end of RON"
def expectedArray : String := "Expected opening `[`"
def expectedArrayEnd : String := "Expected closing `]`"
def expectedAttribute : String := "Expected an `#![enable(...)]` attribute"
def expectedAttributeEnd : String := "Expected closing `)]` after the enable attribute"
def expectedByteLiteral : String := "Expected byte literal"
def expectedByteString : String := "Expected byte string"
def expectedChar : String := "Expected char"
def expectedComma : String := "Expected comma"
def expectedFloat : String := "Expected float"
def expectedIdentifier : String := "Expected identifier"
def expectedInteger : String := "Expected integer"
def expectedMap : String := "Expected opening `\x7b`"
def expectedMapColon : String := "Expected colon"
def expectedMapEnd : String := "Expected closing `\x7d`"
def expectedOption : String := "Expected option"
def expectedOptionEnd : String := "Expected closing `)`"
def expectedString : String := "Expected string"
def expectedStringEnd : String := "Expected end of string"
def expectedStructLike : String := "Expected opening `(`"
def expectedStructLikeEnd : String := "Expected closing `)`"
def floatUnderscore : String := "Unexpected underscore in float"
def integerOutOfBounds : String := "Integer is out of bounds"
def trailingCharacters : String := "Non-whitespace trailing characters"
def unclosedComment : String := "Unclosed block comment"
def underscoreAtBeginning : String := "Unexpected leading underscore in a number"
def recursionLimit : String :=
  "Exceeded recursion limit, try increasing `ron::Options::recursion_limit` " ++
    "and using `serde_stacker` to protect against a stack overflow"

/-- The fault of a character no value starts with. -/
def unexpectedChar (c : Char) : String := "Unexpected char " ++ Text.debugCharQuote c

/-- The fault of a digit beyond the base of an integer. -/
def invalidDigit (c : Char) (base : Nat) : String :=
  "Invalid digit " ++ Text.debugCharQuote c ++ " for base " ++ toString base ++ " integers"

/-! Characters. -/

/-- A blank: Unicode pattern white space. -/
def isBlank (c : Char) : Bool :=
  c = ' ' || c = '\t' || c = '\n' || c = '\r' || c = '\x0B' || c = '\x0C' ||
    c = '\u0085' || c = '\u200E' || c = '\u200F' || c = '\u2028' || c = '\u2029'

/-- A character that may start an identifier. -/
def isIdentFirst (c : Char) : Bool := c = '_' || Text.isXidStart c

/-- A character of a raw identifier (`r#name`), which also takes `.`, `+` and
`-`. -/
def isIdentRaw (c : Char) : Bool := c = '.' || c = '+' || c = '-' || Text.isXidContinue c

/-- A character of an integer: a hexadecimal digit or `_`. -/
def isIntChar (c : Char) : Bool :=
  c.isDigit || ('a' ≤ c && c ≤ 'f') || ('A' ≤ c && c ≤ 'F') || c = '_'

/-- A character of a float: a digit, `e`, `E`, `.`, a sign or `_`. -/
def isFloatChar (c : Char) : Bool :=
  c.isDigit || c = 'e' || c = 'E' || c = '.' || c = '+' || c = '-' || c = '_'

/-- The value of a hexadecimal digit. -/
def hexDigit? (c : Char) : Option Nat :=
  if c.isDigit then some (c.toNat - 48)
  else if 'a' ≤ c && c ≤ 'f' then some (c.toNat - 87)
  else if 'A' ≤ c && c ≤ 'F' then some (c.toNat - 55)
  else none

/-- How an identifier is named in faults: in backquotes, with `r#` before a
name that is not a plain identifier. -/
def identifierName (name : String) : String :=
  match name.toList with
  | [] => Text.debugQuote name ++ "_[invalid identifier]"
  | c :: cs =>
    if !(name.toList.all isIdentRaw) then Text.debugQuote name ++ "_[invalid identifier]"
    else if isIdentFirst c && cs.all Text.isXidContinue then "`" ++ name ++ "`"
    else "`r#" ++ name ++ "`"

/-! Steps. -/

/-- The text still to read. -/
def rest : Read (List Char) := return (← get).cursor.rest

/-- The cursor. -/
def cursor : Read Cursor := return (← get).cursor

/-- Puts the cursor back at `c`; the start of the last step stays. -/
def setCursor (c : Cursor) : Read Unit := modify fun r => { r with cursor := c }

/-- Takes `n` characters as one step. -/
def advance (n : Nat) : Read Unit :=
  modify fun r => { r with prev := r.cursor.place, cursor := r.cursor.skip n }

/-- Takes the next character without making a step of it; the end of the
text is a fault. -/
def nextChar : Read Char := do
  let r ← get
  match r.cursor.rest with
  | [] => throw endOfInput
  | c :: _ =>
    set { r with cursor := r.cursor.next }
    return c

/-- The next character, if any. -/
def peek : Read (Option Char) := return (← rest).head?

/-- The next character; the end of the text is a fault. -/
def peekOrEnd : Read Char := do
  match ← peek with
  | some c => return c
  | none => throw endOfInput

/-- The text `s` comes next. -/
def check (s : String) : Read Bool := return s.toList.isPrefixOf (← rest)

/-- Takes the text `s` when it comes next. -/
def consume (s : String) : Read Bool := do
  if ← check s then
    advance s.length
    return true
  else return false

/-- The character `k` places on continues an identifier. -/
def continuesAt (k : Nat) : Read Bool :=
  return (((← rest).drop k).head?.map Text.isXidContinue).getD false

/-- The word `s` comes next, and no identifier goes on after it. -/
def checkIdent (s : String) : Read Bool := do
  if ← check s then return !(← continuesAt s.length) else return false

/-- Takes the word `s` when it comes next as a whole word. -/
def consumeIdent (s : String) : Read Bool := do
  if ← checkIdent s then
    advance s.length
    return true
  else return false

/-- Takes the character `c` when it comes next, else fails with `fault`. -/
def expect (c : Char) (fault : String) : Read Unit := do
  if !(← consume (String.singleton c)) then throw fault

/-- Passes over a block comment at nesting `level`, up to the `*/` that
closes it. -/
def blockComment : Nat → Nat → Read Unit
  | 0, _ => throw unclosedComment
  | fuel + 1, level =>
    if level = 0 then return
    else do
      let r ← rest
      if r.isEmpty then throw unclosedComment
      advance (r.takeWhile fun c => c ≠ '/' ∧ c ≠ '*').length
      if ← consume "/*" then blockComment fuel (level + 1)
      else if ← consume "*/" then blockComment fuel (level - 1)
      else if (← rest).isEmpty then throw unclosedComment
      else do
        let _ ← nextChar
        blockComment fuel level

/-- Passes over a comment when one starts at the cursor: whether there was
one.  A `/` that starts no comment is a fault. -/
def skipComment : Read Bool := do
  if !(← consume "/") then return false
  match ← nextChar with
  | '/' =>
    advance ((← rest).takeWhile (· ≠ '\n')).length
    return true
  | '*' =>
    blockComment ((← rest).length + 1) 1
    return true
  | c => throw (unexpectedChar c)

/-- Passes over blanks and comments, one run of blanks at a time. -/
def skipBlanks : Nat → Read Unit
  | 0 => return
  | fuel + 1 => do
    advance ((← rest).takeWhile isBlank).length
    if ← skipComment then skipBlanks fuel

/-- Passes over blanks and comments; at the end of the text nothing
happens. -/
def skipWs : Read Unit := do
  let r ← rest
  if !r.isEmpty then skipBlanks (r.length + 1)

/-- Passes over a comma between blanks: whether there was one. -/
def comma : Read Bool := do
  skipWs
  if ← consume "," then
    skipWs
    return true
  else return false

/-- Reads an identifier, plain or raw (`r#name`, given without `r#`).  A
run that reads on further as a raw identifier is refused with the advice to
write it raw; `r"` and a bare `r#` start no identifier. -/
def identifier : Read String := do
  let r ← rest
  let suggestRaw (n : Nat) : Read String :=
    let name := String.ofList (r.take n)
    throw ("Found invalid std identifier `" ++ name ++ "`, try the raw identifier `r#" ++ name ++
      "` instead")
  match r with
  | [] => throw endOfInput
  | first :: more =>
    if !isIdentFirst first then
      if isIdentRaw first then suggestRaw (r.takeWhile isIdentRaw).length
      else throw expectedIdentifier
    else
      let plain : Read String := do
        let std := (r.takeWhile Text.isXidContinue).length
        let raw := (r.takeWhile isIdentRaw).length
        if raw > std then suggestRaw raw
        else
          advance std
          return String.ofList (r.take std)
      if first = 'r' then
        match more with
        | [] => throw endOfInput
        | '"' :: _ => throw expectedIdentifier
        | '#' :: after =>
          if !((after.head?.map isIdentRaw).getD false) then throw expectedIdentifier
          else do
            advance 2
            let name := after.takeWhile isIdentRaw
            advance name.length
            return String.ofList name
        | _ => plain
      else plain

/-- Passes over an identifier, plain or raw, when one comes next and no
string starts there: the name passed. -/
def skipIdentifier : Read (Option String) := do
  let r ← rest
  if ["b\"", "b'", "br#", "br\"", "r\"", "r#\"", "r##"].any (·.toList.isPrefixOf r) then
    return none
  if "r#".toList.isPrefixOf r then
    let name := (r.drop 2).takeWhile isIdentRaw
    if name.isEmpty then return none
    advance (2 + name.length)
    return some (String.ofList name)
  match r with
  | c :: more =>
    if isIdentFirst c then
      let name := c :: more.takeWhile Text.isXidContinue
      advance name.length
      return some (String.ofList name)
    else return none
  | [] => return none

/-- Runs a step one level deeper, failing when values nest deeper than
allowed. -/
def nested {α : Type} (x : Read α) : Read α := do
  let r ← get
  if r.depth = 0 then throw recursionLimit
  set { r with depth := r.depth - 1 }
  let a ← x
  modify fun r => { r with depth := r.depth + 1 }
  return a

end TopicHub.Config.Ron
