/-
  Yaml/Token/Scalar.lean --- reading the tokens that carry text.

  * A plain scalar runs over words and the blanks between them; it ends
    before `: `, before ` #`, at a flow indicator inside a flow collection,
    at a document marker, or at a line indented no deeper than its block
    level.  Line breaks fold: one break becomes a space, `n + 1` breaks
    become `n` newlines.
  * A quoted scalar folds the same way; `''` stands for `'` in single
    quotes, and a backslash starts an escape in double quotes.
  * A block scalar (`|` literal, `>` folded) takes the lines indented at
    least as its first content line, or as its indentation indicator says;
    its chomping indicator says what becomes of the final line breaks.
  * Anchors, aliases, tags and directives are names read up to the first
    character that cannot belong to them.

  Each reader starts at the token's first character and hands back the
  token with the lexer after it, or the fault that stops it.
-/
import TopicHub.Yaml.Token.State

set_option autoImplicit false

namespace TopicHub.Yaml

/-- The blanks and line breaks read between two runs of a scalar's text. -/
structure Folding where
  /-- the text so far -/
  text : String := ""
  /-- blanks after the last word, on its line -/
  spaces : String := ""
  /-- the break that ended the line of the last word -/
  firstBreak : String := ""
  /-- the breaks of the empty lines after it -/
  moreBreaks : String := ""

/-- Joins what stood between two words: the blanks, when no line break came
between them; else a space for a single break and the further breaks for
more. -/
def Folding.join (f : Folding) (broken : Bool) : Folding :=
  if broken then
    let text :=
      if f.firstBreak.isEmpty then f.text ++ f.moreBreaks
      else if f.moreBreaks.isEmpty then f.text.push ' '
      else f.text ++ f.moreBreaks
    { f with text, firstBreak := "", moreBreaks := "" }
  else { f with text := f.text ++ f.spaces, spaces := "" }

namespace Lexer

/-! ## Plain scalars -/

/-- A plain scalar may go on with `c` followed by `next`. -/
def plainGoesOn (inFlow : Bool) (c next : Char) : Bool :=
  if c == ':' && (isBlankOrEnd next || (inFlow && isFlowChar next)) then false
  else !(inFlow && isFlowChar c)

/-- Reads the characters of one word of a plain scalar. -/
def plainWord : Nat → Lexer → String → Lexer × String
  | 0, s, acc => (s, acc)
  | fuel + 1, s, acc =>
    if isBlankOrEnd s.peek || !plainGoesOn (s.flowLevel > 0) s.peek (s.peekAt 1) then (s, acc)
    else plainWord fuel s.skipChar (acc.push s.peek)

/-- Reads the blanks and line breaks after a word of a plain scalar. A tab
in the indentation of a line is allowed only on an empty line. -/
def plainBlanks (indent : Int) (start : Mark) : Nat → Lexer → Folding → Except Fault (Lexer × Folding)
  | 0, s, f => .ok (s, f)
  | fuel + 1, s, f =>
    let c := s.peek
    if isBlank c then
      if !s.lineStart then plainBlanks indent start fuel s.skipBlank { f with spaces := f.spaces.push c }
      else if (s.mark.col : Int) < indent && c == '\t' then do
        let (s, _, _) ← s.skipSpace true
        if isBreakOrEnd s.peek then plainBlanks indent start fuel s f
        else .error ⟨start, "while scanning a plain scalar, found a tab"⟩
      else plainBlanks indent start fuel s.skipBlank f
    else if isBreak c then
      if s.lineStart then
        plainBlanks indent start fuel s.skipLineBreak { f with moreBreaks := f.moreBreaks.push '\n' }
      else
        plainBlanks indent start fuel s.skipLineBreak { f with spaces := "", firstBreak := f.firstBreak.push '\n' }
    else .ok (s, f)

/-- Reads the words of a plain scalar and what stands between them. -/
def plainLoop (indent : Int) (start : Mark) : Nat → Lexer → Folding → Except Fault (Lexer × Folding)
  | 0, s, f => .ok (s, f)
  | fuel + 1, s, f =>
    if (s.lineStart && s.atDocumentIndicator) || s.peek == '#' then .ok (s, f)
    else if s.flowLevel > 0 && s.peek == '-' && isFlowChar (s.peekAt 1) then
      .error (s.fault "plain scalar cannot start with '-' followed by ,[]\x7b\x7d")
    else
      let (s, f) :=
        if !isBlankOrEnd s.peek && plainGoesOn (s.flowLevel > 0) s.peek (s.peekAt 1) then
          let f := f.join s.lineStart
          let (s, text) := plainWord s.fuel s f.text
          (s, { f with text })
        else (s, f)
      if !(isBlank s.peek || isBreak s.peek) then .ok (s, f)
      else do
        let (s, f) ← plainBlanks indent start s.fuel s f
        if s.flowLevel == 0 && (s.mark.col : Int) < indent then .ok (s, f)
        else plainLoop indent start fuel s f

/-- Reads a plain scalar. -/
def plainScalar (s : Lexer) : Except Fault (Lexer × Token) := do
  let s := s.unrollNonBlock
  let indent := s.indent + 1
  let start := s.mark
  if s.flowLevel > 0 && (start.col : Int) < indent then
    .error ⟨start, "invalid indentation in flow construct"⟩
  else
    let (s, f) ← plainLoop indent start s.fuel s {}
    let s := if s.lineStart then s.allowKey else s
    if f.text.isEmpty then .error ⟨start, "unexpected end of plain scalar"⟩
    else .ok (s, ⟨start, .scalar .plain f.text⟩)

/-! ## Quoted scalars -/

/-- A code point that is a character: below `0x110000` and no surrogate. -/
def isScalarValue (v : Nat) : Bool := v < 0xD800 || (0xDFFF < v && v < 0x110000)

/-- The value of the `n` hexadecimal digits ahead, if they are all there. -/
def hexAhead (s : Lexer) (n : Nat) : Option Nat :=
  (List.range n).foldl (fun acc i => acc.bind fun v =>
    if isHexChar (s.peekAt i) then some (v * 16 + hexValue (s.peekAt i)) else none) (some 0)

/-- Reads an escape of `n` hexadecimal digits after its letter. -/
def codeEscape (start : Mark) (s : Lexer) (n : Nat) : Except Fault (Lexer × Char) :=
  match hexAhead s n with
  | none => .error ⟨start, "while parsing a quoted scalar, did not find expected hexadecimal number"⟩
  | some v =>
    if isScalarValue v then .ok (s.skipChars n, Char.ofNat v)
    else .error ⟨start, "while parsing a quoted scalar, found invalid Unicode character escape code"⟩

/-- Reads the escape starting at a backslash in a double-quoted scalar. -/
def escapeChar (start : Mark) (s : Lexer) : Except Fault (Lexer × Char) :=
  let single (c : Char) : Except Fault (Lexer × Char) := .ok (s.skipChars 2, c)
  match s.peekAt 1 with
  | '0' => single (Char.ofNat 0)
  | 'a' => single (Char.ofNat 7)
  | 'b' => single (Char.ofNat 8)
  | 't' => single '\t'
  | '\t' => single '\t'
  | 'n' => single '\n'
  | 'v' => single (Char.ofNat 11)
  | 'f' => single (Char.ofNat 12)
  | 'r' => single '\r'
  | 'e' => single (Char.ofNat 27)
  | ' ' => single ' '
  | '"' => single '"'
  | '/' => single '/'
  | '\\' => single '\\'
  | 'N' => single (Char.ofNat 0x85)
  | '_' => single (Char.ofNat 0xA0)
  | 'L' => single (Char.ofNat 0x2028)
  | 'P' => single (Char.ofNat 0x2029)
  | 'x' => codeEscape start (s.skipChars 2) 2
  | 'u' => codeEscape start (s.skipChars 2) 4
  | 'U' => codeEscape start (s.skipChars 2) 8
  | _ => .error ⟨start, "while parsing a quoted scalar, found unknown escape character"⟩

/-- Reads the characters of a quoted scalar up to a blank, a break or its
closing quote; tells whether an escaped line break ended the run. -/
def quotedRun (single : Bool) (start : Mark) : Nat → Lexer → String → Except Fault (Lexer × String × Bool)
  | 0, s, acc => .ok (s, acc, false)
  | fuel + 1, s, acc =>
    let c := s.peek
    if isBlankOrEnd c then .ok (s, acc, false)
    else if single && c == '\'' && s.peekAt 1 == '\'' then quotedRun single start fuel (s.skipChars 2) (acc.push '\'')
    else if single && c == '\'' then .ok (s, acc, false)
    else if !single && c == '"' then .ok (s, acc, false)
    else if !single && c == '\\' && isBreak (s.peekAt 1) then .ok (s.skipChar.skipLineBreak, acc, true)
    else if !single && c == '\\' then do
      let (s, e) ← escapeChar start s
      quotedRun single start fuel s (acc.push e)
    else quotedRun single start fuel s.skipChar (acc.push c)

/-- Reads the blanks and breaks of a quoted scalar; a tab may not indent a
continuation line. -/
def quotedBlanks : Nat → Lexer → Folding → Bool → Except Fault (Lexer × Folding × Bool)
  | 0, s, f, broken => .ok (s, f, broken)
  | fuel + 1, s, f, broken =>
    let c := s.peek
    if isBlank c then
      if broken then
        if c == '\t' && (s.mark.col : Int) < s.indent then .error (s.fault "tab cannot be used as indentation")
        else quotedBlanks fuel s.skipBlank f broken
      else quotedBlanks fuel s.skipBlank { f with spaces := f.spaces.push c } broken
    else if isBreak c then
      if broken then quotedBlanks fuel s.skipLineBreak { f with moreBreaks := f.moreBreaks.push '\n' } broken
      else quotedBlanks fuel s.skipLineBreak { f with spaces := "", firstBreak := f.firstBreak.push '\n' } true
    else .ok (s, f, broken)

/-- Reads a quoted scalar after its opening quote, up to its closing one. -/
def quotedLoop (single : Bool) (start : Mark) : Nat → Lexer → Folding → Except Fault (Lexer × Folding)
  | 0, s, f => .ok (s, f)
  | fuel + 1, s, f =>
    if s.atDocumentIndicator then
      .error ⟨start, "while scanning a quoted scalar, found unexpected document indicator"⟩
    else if isEnd s.peek then
      .error ⟨start, "while scanning a quoted scalar, found unexpected end of stream"⟩
    else if (s.mark.col : Int) < s.indent then
      .error ⟨start, "invalid indentation in quoted scalar"⟩
    else do
      let (s, text, broken) ← quotedRun single start s.fuel s f.text
      let f := { f with text }
      if (single && s.peek == '\'') || (!single && s.peek == '"') then .ok (s, f)
      else
        let (s, f, broken) ← quotedBlanks s.fuel s f broken
        quotedLoop single start fuel s (f.join broken)

/-- Reads a quoted scalar; after it only a comment, a line break, a `:`
(on its own line, outside flow collections) or a flow indicator may follow. -/
def quotedScalar (s : Lexer) (single : Bool) : Except Fault (Lexer × Token) := do
  let start := s.mark
  let (s, f) ← quotedLoop single start s.fuel s.skipChar {}
  let (s, _, _) ← s.skipChar.skipSpace true
  let c := s.peek
  let fits := ((c == ',' || c == '}' || c == ']') && s.flowLevel > 0) || isBreakOrEnd c ||
    (c == ':' && (s.flowLevel > 0 || start.line == s.mark.line))
  if fits then .ok (s, ⟨start, .scalar (if single then .singleQuoted else .doubleQuoted) f.text⟩)
  else .error (s.fault "invalid trailing content after double-quoted scalar")

/-! ## Block scalars -/

/-- What becomes of the final line breaks of a block scalar. -/
inductive Chomping where
  /-- one is kept -/
  | clip
  /-- all are kept -/
  | keep
  /-- none is kept -/
  | strip
  deriving DecidableEq

/-- Passes over the indentation of the lines of a block scalar up to `indent`
columns, and the empty lines among them. -/
def blockIndent (indent : Nat) : Nat → Lexer → String → Lexer × String
  | 0, s, breaks => (s, breaks)
  | fuel + 1, s, breaks =>
    if s.mark.col < indent && s.peek == ' ' then blockIndent indent fuel s.skipBlank breaks
    else if isBreak s.peek then blockIndent indent fuel s.skipLineBreak (breaks.push '\n')
    else (s, breaks)

/-- Passes over the empty lines before the first content line of a block
scalar; tells the deepest indentation seen. -/
def firstIndent : Nat → Lexer → String → Nat → Lexer × String × Nat
  | 0, s, breaks, deepest => (s, breaks, deepest)
  | fuel + 1, s, breaks, deepest =>
    if s.peek == ' ' then firstIndent fuel s.skipBlank breaks deepest
    else
      let deepest := max deepest s.mark.col
      if isBreak s.peek then firstIndent fuel s.skipLineBreak (breaks.push '\n') deepest
      else (s, breaks, deepest)

/-- Reads the rest of a content line of a block scalar. -/
def blockLine (s : Lexer) : Lexer × String :=
  let line := s.rest.takeWhile fun c => !isBreakOrEnd c
  ({ s with rest := s.rest.drop line.length,
            mark := { s.mark with index := s.mark.index + line.length, col := s.mark.col + line.length } },
   String.ofList line)

/-- The text of a block scalar so far. -/
structure BlockText where
  text : String := ""
  lastBreak : String := ""
  breaks : String := ""
  indentedLine : Bool := false

/-- Reads the content lines of a block scalar at `indent`. Folding joins two
lines by a space unless either starts with a blank or an empty line stands
between them. -/
def blockLines (literal : Bool) (indent : Nat) : Nat → Lexer → BlockText → Lexer × BlockText
  | 0, s, b => (s, b)
  | fuel + 1, s, b =>
    if s.mark.col != indent || isEnd s.peek || (indent == 0 && s.atDocumentMarker '.') then (s, b)
    else
      let blankFirst := isBlank s.peek
      let text :=
        if !literal && !b.lastBreak.isEmpty && !b.indentedLine && !blankFirst then
          if b.breaks.isEmpty then (b.text ++ b.breaks).push ' ' else b.text ++ b.breaks
        else b.text ++ b.lastBreak ++ b.breaks
      let (s, line) := blockLine s
      let b := { text := text ++ line, lastBreak := "", breaks := "", indentedLine := blankFirst }
      if isEnd s.peek then (s, b)
      else
        let s' := s.skipLineBreak
        let (s', breaks) := blockIndent indent s'.fuel s' ""
        blockLines literal indent fuel s' { b with lastBreak := "\n", breaks }

/-- Reads the header of a block scalar after its `|` or `>`: the chomping
and indentation indicators, in either order. -/
def blockHeader (start : Mark) (s : Lexer) : Except Fault (Lexer × Chomping × Nat) :=
  let chompOf (c : Char) : Chomping := if c == '+' then .keep else .strip
  let zero : Fault := ⟨start, "while scanning a block scalar, found an indentation indicator equal to 0"⟩
  if s.peek == '+' || s.peek == '-' then
    let chomp := chompOf s.peek
    let s := s.skipChar
    if s.peek.isDigit then
      if s.peek == '0' then .error zero else .ok (s.skipChar, chomp, s.peek.toNat - '0'.toNat)
    else .ok (s, chomp, 0)
  else if s.peek.isDigit then
    if s.peek == '0' then .error zero
    else
      let n := s.peek.toNat - '0'.toNat
      let s := s.skipChar
      if s.peek == '+' || s.peek == '-' then .ok (s.skipChar, chompOf s.peek, n)
      else .ok (s, .clip, n)
  else .ok (s, .clip, 0)

/-- Reads a block scalar. -/
def blockScalar (s : Lexer) (literal : Bool) : Except Fault (Lexer × Token) := do
  let start := s.mark
  let style : ScalarStyle := if literal then .literal else .folded
  let s := s.skipChar.unrollNonBlock
  let (s, chomp, increment) ← blockHeader start s
  let (s, _, _) ← s.skipSpace true
  if !isBreakOrEnd s.peek then
    .error ⟨start, "while scanning a block scalar, did not find expected comment or line break"⟩
  else
    let (s, chompBreak) := if isBreak s.peek then (s.skipLineBreak, "\n") else (s, "")
    if s.peek == '\t' then .error ⟨start, "a block scalar content cannot start with a tab"⟩
    else
      let (s, breaks, indent) :=
        if increment > 0 then
          let indent := if s.indent ≥ 0 then (s.indent + increment).toNat else increment
          let (s, breaks) := blockIndent indent s.fuel s ""
          (s, breaks, indent)
        else
          let (s, breaks, deepest) := firstIndent s.fuel s "" 0
          let indent := max deepest (s.indent + 1).toNat
          (s, breaks, if s.indent > 0 then max indent 1 else indent)
      if isEnd s.peek then
        let text :=
          match chomp with
          | .strip => ""
          | .clip => if s.mark.line == start.line then "" else chompBreak
          | .keep =>
            if s.mark.line == start.line then ""
            else if breaks.isEmpty then chompBreak else breaks
        .ok (s, ⟨start, .scalar style text⟩)
      else if s.mark.col < indent && (s.mark.col : Int) > s.indent then
        .error (s.fault "wrongly indented line in block scalar")
      else
        let first := s.mark
        let (s, b) := blockLines literal indent s.fuel s { breaks }
        let text := if chomp != .strip then b.text ++ b.lastBreak else b.text
        let text := if chomp != .strip && isEnd s.peek && s.mark.col ≥ max indent 1 then text.push '\n' else text
        let text := if chomp == .keep then text ++ b.breaks else text
        .ok (s, ⟨first, .scalar style text⟩)

/-! ## Anchors, aliases and tags -/

/-- Reads an anchor `&name` or an alias `*name`. -/
def anchorToken (s : Lexer) (isAlias : Bool) : Except Fault (Lexer × Token) :=
  let start := s.mark
  let s := s.skipChar
  let name := s.rest.takeWhile isAnchorChar
  if name.isEmpty then
    .error ⟨start, "while scanning an anchor or alias, did not find expected alphabetic or numeric character"⟩
  else
    let name := String.ofList name
    .ok (s.skipChars name.length, ⟨start, if isAlias then .alias name else .anchor name⟩)

/-- Reads the bytes `%XX` of one character in a URI. The bytes are read as
one number, first byte highest, the way the tag reader joins them. -/
def uriEscapeLoop (start : Mark) : Nat → Lexer → Nat → Nat → Except Fault (Lexer × Nat)
  | 0, s, _, code => .ok (s, code)
  | fuel + 1, s, width, code =>
    let c := s.peekAt 1
    let nc := s.peekAt 2
    if !(s.peek == '%' && isHexChar c && isHexChar nc) then
      .error ⟨start, "while parsing a tag, found an invalid escape sequence"⟩
    else
      let byte := hexValue c * 16 + hexValue nc
      let next : Except Fault (Nat × Nat) :=
        if width == 0 then
          if byte &&& 0x80 == 0 then .ok (1, byte)
          else if byte &&& 0xE0 == 0xC0 then .ok (2, byte)
          else if byte &&& 0xF0 == 0xE0 then .ok (3, byte)
          else if byte &&& 0xF8 == 0xF0 then .ok (4, byte)
          else .error ⟨start, "while parsing a tag, found an incorrect leading UTF-8 byte"⟩
        else if byte &&& 0xC0 != 0x80 then
          .error ⟨start, "while parsing a tag, found an incorrect trailing UTF-8 byte"⟩
        else .ok (width, code * 256 + byte)
      match next with
      | .error e => .error e
      | .ok (w, code) =>
        if w ≤ 1 then .ok (s.skipChars 3, code) else uriEscapeLoop start fuel (s.skipChars 3) (w - 1) code

/-- Reads an escaped character of a URI. -/
def uriEscape (start : Mark) (s : Lexer) : Except Fault (Lexer × Char) := do
  let (s, code) ← uriEscapeLoop start 4 s 0 0
  if isScalarValue code then .ok (s, Char.ofNat code)
  else .error ⟨start, "while parsing a tag, found an invalid UTF-8 codepoint"⟩

/-- Reads URI characters, escapes decoded. -/
def uriLoop (start : Mark) (more : Char → Bool) : Nat → Lexer → String → Except Fault (Lexer × String × Nat)
  | 0, s, acc => .ok (s, acc, 0)
  | fuel + 1, s, acc =>
    if !more s.peek then .ok (s, acc, 0)
    else if s.peek == '%' then do
      let (s, c) ← uriEscape start s
      let (s, acc, n) ← uriLoop start more fuel s (acc.push c)
      .ok (s, acc, n + 1)
    else do
      let (s, acc, n) ← uriLoop start more fuel s.skipChar (acc.push s.peek)
      .ok (s, acc, n + 1)

/-- Reads a tag handle: `!`, `!!` or `!word!`; in a directive a handle must
end with `!` unless it is `!` alone. -/
def tagHandle (directive : Bool) (start : Mark) (s : Lexer) : Except Fault (Lexer × String) :=
  if s.peek != '!' then .error ⟨start, "while scanning a tag, did not find expected '!'"⟩
  else
    let s := s.skipChar
    let word := s.rest.takeWhile isWordChar
    let s := s.skipChars word.length
    let handle := "!" ++ String.ofList word
    if s.peek == '!' then .ok (s.skipChar, handle.push '!')
    else if directive && handle != "!" then
      .error ⟨start, "while parsing a tag directive, did not find expected '!'"⟩
    else .ok (s, handle)

/-- Reads the suffix of a tag after its handle; `head` is the part of a
handle that turned out to start the suffix. -/
def tagSuffix (start : Mark) (head : String) (s : Lexer) : Except Fault (Lexer × String) := do
  let first := if head.length > 1 then String.ofList (head.toList.drop 1) else ""
  let (s, suffix, n) ← uriLoop start isTagChar s.fuel s first
  if head.length + n == 0 then .error ⟨start, "while parsing a tag, did not find expected tag URI"⟩
  else .ok (s, suffix)

/-- Reads a verbatim tag `!<uri>`. -/
def verbatimTag (start : Mark) (s : Lexer) : Except Fault (Lexer × String) := do
  let (s, uri, _) ← uriLoop start isUriChar s.fuel (s.skipChars 2) ""
  if s.peek != '>' then .error ⟨start, "while scanning a verbatim tag, did not find the expected '>'"⟩
  else .ok (s.skipChar, uri)

/-- Reads a tag; a blank, a break, the end or, in a flow collection, a flow
indicator must follow it. -/
def tagToken (s : Lexer) : Except Fault (Lexer × Token) := do
  let start := s.mark
  let (s, handle, suffix) ←
    if s.peekAt 1 == '<' then do
      let (s, uri) ← verbatimTag start s
      pure (s, "", uri)
    else do
      let (s, handle) ← tagHandle false start s
      if handle.length ≥ 2 && handle.startsWith "!" && handle.endsWith "!" then do
        let (s, suffix) ← tagSuffix start "" s
        pure (s, handle, suffix)
      else do
        let (s, suffix) ← tagSuffix start handle s
        pure (if suffix.isEmpty then (s, "", "!") else (s, "!", suffix))
  if isBlankOrEnd s.peek || (s.flowLevel > 0 && isFlowChar s.peek) then .ok (s, ⟨start, .tag handle suffix⟩)
  else .error ⟨start, "while scanning a tag, did not find expected whitespace or line break"⟩

/-! ## Directives -/

/-- Passes over spaces and tabs. -/
def skipBlanks (s : Lexer) : Lexer :=
  let n := (s.rest.takeWhile isBlank).length
  { s with rest := s.rest.drop n, mark := { s.mark with index := s.mark.index + n, col := s.mark.col + n } }

/-- Reads a number of a version directive: one to nine digits. -/
def versionNumber (start : Mark) (s : Lexer) : Except Fault (Lexer × Nat) :=
  let ds := s.rest.takeWhile Char.isDigit
  if ds.length > 9 then .error ⟨start, "while scanning a YAML directive, found extremely long version number"⟩
  else if ds.isEmpty then .error ⟨start, "while scanning a YAML directive, did not find expected version number"⟩
  else .ok (s.skipChars ds.length, ds.foldl (fun n c => n * 10 + (c.toNat - '0'.toNat)) 0)

/-- Reads the value of a `%YAML` directive. -/
def versionValue (start : Mark) (s : Lexer) : Except Fault (Lexer × Token) := do
  let (s, major) ← versionNumber start s.skipBlanks
  if s.peek != '.' then
    .error ⟨start, "while scanning a YAML directive, did not find expected digit or '.' character"⟩
  else
    let (s, minor) ← versionNumber start s.skipChar
    .ok (s, ⟨start, .versionDirective major minor⟩)

/-- Reads the value of a `%TAG` directive: a handle and a prefix. -/
def tagDirectiveValue (start : Mark) (s : Lexer) : Except Fault (Lexer × Token) := do
  let (s, handle) ← tagHandle true start s.skipBlanks
  let s := s.skipBlanks
  let (s, first) ←
    if s.peek == '!' then pure (s.skipChar, "!")
    else if !isTagChar s.peek then .error ⟨start, "invalid global tag character"⟩
    else if s.peek == '%' then do
      let (s, c) ← uriEscape start s
      pure (s, String.singleton c)
    else pure (s.skipChar, String.singleton s.peek)
  let (s, pfx, _) ← uriLoop start isUriChar s.fuel s first
  if isBlankOrEnd s.peek then .ok (s, ⟨start, .tagDirective handle pfx⟩)
  else .error ⟨start, "while scanning TAG, did not find expected whitespace or line break"⟩

/-- Reads a directive line; an unknown directive is passed over. -/
def directiveToken (s : Lexer) : Except Fault (Lexer × Token) := do
  let start := s.mark
  let s := s.skipChar
  let nameMark := s.mark
  let name := s.rest.takeWhile isWordChar
  let s := s.skipChars name.length
  if name.isEmpty then
    .error ⟨nameMark, "while scanning a directive, could not find expected directive name"⟩
  else if !isBlankOrEnd s.peek then
    .error ⟨nameMark, "while scanning a directive, found unexpected non-alphabetical character"⟩
  else
    let (s, t) ← match String.ofList name with
      | "YAML" => versionValue start s
      | "TAG" => tagDirectiveValue start s
      | _ =>
        let n := (s.rest.takeWhile fun c => !isBreakOrEnd c).length
        pure (s.skipChars n, ⟨start, .tagDirective "" ""⟩)
    let (s, _, _) ← s.skipSpace true
    if isBreakOrEnd s.peek then .ok (s.skipLineBreak, t)
    else .error ⟨start, "while scanning a directive, did not find expected comment or line break"⟩

end Lexer

end TopicHub.Yaml
