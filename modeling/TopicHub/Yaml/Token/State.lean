/-
  Yaml/Token/State.lean --- where the lexer of a YAML text stands.

  The lexer reads the text from left to right and keeps

  * the text not yet read, and the mark of its first character;
  * the tokens found and not yet handed out, in order;
  * the columns of the open block collections, innermost first, and the
    column of the current one (`-1` outside every block collection); a level
    opened only to make the content after `:` or `- ` more indented than its
    key ends without a block-end token;
  * for each flow level, where a simple key could start: a token that turns
    into a key when a `:` follows on the same line;
  * whether a simple key may start at the next token, and whether only
    blanks stand between the start of the line and the next character.

  Past the end the text reads as NUL, and so does a NUL in it: both end the
  stream.  Every move here reads at most what is left, so every loop of the
  lexer is bounded by the length of the text, which the lexer keeps as its
  fuel.
-/
import TopicHub.Yaml.Token

set_option autoImplicit false

namespace TopicHub.Yaml

/-- The character that stands for the end of the text. -/
def endChar : Char := '\x00'

/-- The end of the text. -/
def isEnd (c : Char) : Bool := c == endChar

/-- A line break. -/
def isBreak (c : Char) : Bool := c == '\n' || c == '\r'

/-- A line break or the end. -/
def isBreakOrEnd (c : Char) : Bool := isBreak c || isEnd c

/-- A space or a tab. -/
def isBlank (c : Char) : Bool := c == ' ' || c == '\t'

/-- A blank, a line break or the end. -/
def isBlankOrEnd (c : Char) : Bool := isBlank c || isBreakOrEnd c

/-- A flow indicator. -/
def isFlowChar (c : Char) : Bool := c == ',' || c == '[' || c == ']' || c == '{' || c == '}'

/-- A letter, digit, `_` or `-` of ASCII. -/
def isWordChar (c : Char) : Bool :=
  ('0' ≤ c && c ≤ '9') || ('a' ≤ c && c ≤ 'z') || ('A' ≤ c && c ≤ 'Z') || c == '_' || c == '-'

/-- A hexadecimal digit. -/
def isHexChar (c : Char) : Bool :=
  ('0' ≤ c && c ≤ '9') || ('a' ≤ c && c ≤ 'f') || ('A' ≤ c && c ≤ 'F')

/-- The value of a hexadecimal digit. -/
def hexValue (c : Char) : Nat :=
  if '0' ≤ c && c ≤ '9' then c.toNat - '0'.toNat
  else if 'a' ≤ c && c ≤ 'f' then c.toNat - 'a'.toNat + 10
  else c.toNat - 'A'.toNat + 10

/-- A character of an anchor or alias name: anything but blanks, breaks, the
byte order mark, flow indicators and the end. -/
def isAnchorChar (c : Char) : Bool :=
  !isBlank c && !isBreak c && c != '\uFEFF' && !isFlowChar c && !isEnd c

/-- A character of a URI. -/
def isUriChar (c : Char) : Bool :=
  isWordChar c || "#;/?:@&=+$,_.!~*'()[]%".contains c

/-- A character of a tag suffix: a URI character but no flow indicator or `!`. -/
def isTagChar (c : Char) : Bool := isUriChar c && !isFlowChar c && c != '!'

/-- Where a simple key may start. -/
structure SimpleKey where
  /-- a key may start here -/
  possible : Bool := false
  /-- a key must start here: the token stands at the column of a block mapping -/
  required : Bool := false
  /-- how many tokens are handed out before the key's first token -/
  tokenNumber : Nat := 0
  /-- where the key would start -/
  mark : Mark := ⟨0, 0, 0⟩

/-- An indentation level left open. -/
structure Indent where
  /-- the column of the enclosing level -/
  column : Int
  /-- the level is a block collection's, closed by a block-end token -/
  needsBlockEnd : Bool

/-- The state of the lexer. -/
structure Lexer where
  /-- the text not yet read -/
  rest : List Char
  /-- a bound on the steps of every loop over the text: its length and two
  more, the end and the stream end that read no character -/
  fuel : Nat := rest.length + 2
  /-- the mark of the first character not yet read -/
  mark : Mark := Mark.start
  /-- tokens found and not yet handed out -/
  queue : List Token := []
  /-- the stream-start token was found -/
  started : Bool := false
  /-- the stream-end token was handed out -/
  finished : Bool := false
  /-- the index at which a `:` right after a flow key still starts a value -/
  adjacentValueAt : Nat := 0
  /-- a simple key may start at the next token -/
  simpleKeyAllowed : Bool := true
  /-- one place per flow level, innermost first -/
  simpleKeys : List SimpleKey := []
  /-- the column of the innermost block level -/
  indent : Int := -1
  /-- the enclosing levels, innermost first -/
  indents : List Indent := []
  /-- how many flow collections are open -/
  flowLevel : Nat := 0
  /-- how many tokens were handed out -/
  handed : Nat := 0
  /-- only blanks stand between the start of the line and the next character -/
  lineStart : Bool := true

namespace Lexer

/-- The next character. -/
def peek (s : Lexer) : Char := s.rest.head?.getD endChar

/-- The character `n` places ahead. -/
def peekAt (s : Lexer) (n : Nat) : Char := (s.rest.drop n).head?.getD endChar

/-- A fault at the next character. -/
def fault (s : Lexer) (info : String) : Fault := ⟨s.mark, info⟩

/-- Passes over one character of the line. -/
def skipBlank (s : Lexer) : Lexer :=
  match s.rest with
  | [] => s
  | _ :: r => { s with rest := r, mark := { s.mark with index := s.mark.index + 1, col := s.mark.col + 1 } }

/-- Passes over one character that is not blank: the line has content now. -/
def skipChar (s : Lexer) : Lexer := { s.skipBlank with lineStart := false }

/-- Passes over `n` characters that are not blank. -/
def skipChars (s : Lexer) : Nat → Lexer
  | 0 => s
  | n + 1 => (s.skipChar).skipChars n

/-- Passes over the last character of a line. -/
def skipNewline (s : Lexer) : Lexer :=
  match s.rest with
  | [] => s
  | _ :: r => { s with rest := r, mark := ⟨s.mark.index + 1, s.mark.line + 1, 0⟩, lineStart := true }

/-- Passes over a line break: CR LF, CR or LF. -/
def skipLineBreak (s : Lexer) : Lexer :=
  match s.rest with
  | '\r' :: '\n' :: _ => s.skipBlank.skipNewline
  | c :: _ => if isBreak c then s.skipNewline else s
  | [] => s

/-- Passes over a comment, up to the end of its line. -/
def skipComment (s : Lexer) : Lexer :=
  let n := (s.rest.takeWhile fun c => !isBreakOrEnd c).length
  { s with rest := s.rest.drop n, mark := { s.mark with index := s.mark.index + n, col := s.mark.col + n } }

/-- The next characters are `---` or `...` at the start of a line, followed
by a blank, a break or the end. -/
def atDocumentMarker (s : Lexer) (c : Char) : Bool :=
  s.mark.col == 0 && s.peek == c && s.peekAt 1 == c && s.peekAt 2 == c && isBlankOrEnd (s.peekAt 3)

/-- The next characters start or end a document. -/
def atDocumentIndicator (s : Lexer) : Bool := s.atDocumentMarker '-' || s.atDocumentMarker '.'

/-- Adds a token after those found. -/
def push (s : Lexer) (t : Token) : Lexer := { s with queue := s.queue ++ [t] }

/-- Puts a token at place `n` among those found. -/
def insertAt (s : Lexer) (n : Nat) (t : Token) : Lexer :=
  { s with queue := s.queue.take n ++ t :: s.queue.drop n }

/-- Lets a simple key start at the next token. -/
def allowKey (s : Lexer) : Lexer := { s with simpleKeyAllowed := true }

/-- Keeps a simple key from starting at the next token. -/
def disallowKey (s : Lexer) : Lexer := { s with simpleKeyAllowed := false }

/-- The innermost level belongs to a block collection. -/
def innermostIsBlock (s : Lexer) : Bool :=
  match s.indents with
  | i :: _ => i.needsBlockEnd
  | [] => false

/-- Marks the next token as where a simple key may start, if one may. It
must be a key when it stands at the column of a block mapping. -/
def saveKey (s : Lexer) : Lexer :=
  if s.simpleKeyAllowed then
    let required := s.flowLevel == 0 && s.indent == (s.mark.col : Int) && s.innermostIsBlock
    let k : SimpleKey := { possible := true, required, tokenNumber := s.handed + s.queue.length, mark := s.mark }
    { s with simpleKeys := k :: s.simpleKeys.drop 1 }
  else s

/-- Gives up the simple key of the innermost level; one that had to be a key
is a fault. -/
def removeKey (s : Lexer) : Except Fault Lexer :=
  match s.simpleKeys with
  | k :: ks =>
    if k.possible && k.required then .error (s.fault "simple key expected")
    else .ok { s with simpleKeys := { k with possible := false } :: ks }
  | [] => .ok s

/-- Gives up simple keys that can no longer be keys: outside flow
collections a key ends on its own line and within 1024 characters. -/
def staleKeys (s : Lexer) : Except Fault Lexer := do
  let keys ← s.simpleKeys.mapM fun k =>
    if k.possible && s.flowLevel == 0 &&
        (k.mark.line < s.mark.line || k.mark.index + 1024 < s.mark.index) then
      if k.required then .error (s.fault "simple key expect ':'")
      else .ok { k with possible := false }
    else .ok k
  .ok { s with simpleKeys := keys }

/-- Closes the block levels deeper than `col`, each block collection with a
block-end token; flow collections keep their levels. -/
def unrollIndent (s : Lexer) (col : Int) : Lexer :=
  if s.flowLevel > 0 then s else go s.indents s.indent s.queue
where
  go : List Indent → Int → List Token → Lexer
    | i :: is, ind, q =>
      if ind > col then go is i.column (if i.needsBlockEnd then q ++ [⟨s.mark, .blockEnd⟩] else q)
      else { s with indents := i :: is, indent := ind, queue := q }
    | [], ind, q => { s with indents := [], indent := ind, queue := q }

/-- Closes the innermost levels that are no block collection's. -/
def unrollNonBlock (s : Lexer) : Lexer :=
  go s.indents s.indent
where
  go : List Indent → Int → Lexer
    | i :: is, ind =>
      if i.needsBlockEnd then { s with indents := i :: is, indent := ind } else go is i.column
    | [], ind => { s with indents := [], indent := ind }

/-- Opens a block collection at `col` when it is deeper than the current
level, with its start token put at place `number` or after those found. A
level opened only for content after `:` or `- ` gives way to it. -/
def rollIndent (s : Lexer) (col : Nat) (number : Option Nat) (kind : TokenKind) (mark : Mark) : Lexer :=
  if s.flowLevel > 0 then s
  else
    let s := if s.indent ≤ (col : Int) then
        match s.indents with
        | i :: is => if i.needsBlockEnd then s else { s with indent := i.column, indents := is }
        | [] => s
      else s
    if s.indent < (col : Int) then
      let s := { s with indents := ⟨s.indent, true⟩ :: s.indents, indent := col }
      match number with
      | some n => s.insertAt (n - s.handed) ⟨mark, kind⟩
      | none => s.push ⟨mark, kind⟩
    else s

/-- Makes the content that follows more indented than the current block
level by one column. -/
def rollOneColumn (s : Lexer) : Lexer :=
  if s.flowLevel == 0 && s.innermostIsBlock then
    { s with indents := ⟨s.indent, false⟩ :: s.indents, indent := s.indent + 1 }
  else s

/-- Opens a flow level; at most 255 may be open. -/
def enterFlow (s : Lexer) : Except Fault Lexer :=
  if s.flowLevel ≥ 255 then .error (s.fault "recursion limit exceeded")
  else .ok { s with simpleKeys := {} :: s.simpleKeys, flowLevel := s.flowLevel + 1 }

/-- Closes a flow level. -/
def leaveFlow (s : Lexer) : Lexer :=
  if s.flowLevel > 0 then { s with flowLevel := s.flowLevel - 1, simpleKeys := s.simpleKeys.drop 1 } else s

/-- Passes over blanks, tabs only when `tabs` is set, and a comment, up to
the end of the line; tells whether a tab and whether a space were passed.
A comment must be separated from the token before it. -/
def skipSpaceLoop (tabs : Bool) : Nat → Lexer → Bool → Bool → Except Fault (Lexer × Bool × Bool)
  | 0, s, t, w => .ok (s, t, w)
  | fuel + 1, s, t, w =>
    match s.peek with
    | ' ' => skipSpaceLoop tabs fuel s.skipBlank t true
    | '\t' => if tabs then skipSpaceLoop tabs fuel s.skipBlank true w else .ok (s, t, w)
    | '#' =>
      if !t && !w then .error (s.fault "comments must be separated from other tokens by whitespace")
      else .ok (s.skipComment, t, w)
    | _ => .ok (s, t, w)

/-- Passes over blanks and a comment up to the end of the line. -/
def skipSpace (s : Lexer) (tabs : Bool) : Except Fault (Lexer × Bool × Bool) :=
  skipSpaceLoop tabs s.fuel s false false

/-- Passes over blanks, line breaks and comments up to the next token. A
tab where a block level wants indentation is refused if content follows it
on its line. -/
def skipToTokenLoop : Nat → Lexer → Except Fault Lexer
  | 0, s => .ok s
  | fuel + 1, s =>
    match s.peek with
    | '\t' =>
      if !s.indents.isEmpty && s.lineStart && (s.mark.col : Int) < s.indent then do
        let (s, _, _) ← s.skipSpace true
        if isBreakOrEnd s.peek then skipToTokenLoop fuel s
        else .error (s.fault "tabs disallowed within this context (block indentation)")
      else skipToTokenLoop fuel s.skipBlank
    | ' ' => skipToTokenLoop fuel s.skipBlank
    | '\n' | '\r' =>
      let s := s.skipLineBreak
      skipToTokenLoop fuel (if s.flowLevel == 0 then s.allowKey else s)
    | '#' => skipToTokenLoop fuel s.skipComment
    | _ => .ok s

/-- Passes over everything up to the next token. -/
def skipToToken (s : Lexer) : Except Fault Lexer := skipToTokenLoop s.fuel s

end Lexer

end TopicHub.Yaml
