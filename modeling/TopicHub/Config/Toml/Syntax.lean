/-
  Config/Toml/Syntax.lean --- the expressions of a TOML document, as written.

  The tokens of a document are read into expressions: assignments
  `key = value`, table headers `[key]` and array-of-tables headers `[[key]]`,
  each on a line of its own, where blanks and a comment may follow.  A key is
  parts joined by dots, blanks allowed around them; a value is a scalar, an
  array `[...]` or an inline table `{...}`.  Arrays and inline tables may
  span lines and hold comments, and both allow a comma after their last item.

  Nothing is decoded here: a key part or a scalar stays as written (a
  `Piece`), to be read later.  An unquoted scalar is an atom together with
  the atoms and dots after it, and an atom after a single blank, which is how
  a date and a time separated by a space stay one value.  A part or a value
  that is missing is an empty piece where it was expected.

  Faults found here come first, in the order of the text: a header without
  its closing bracket, an assignment without `=`, text after a value,
  brackets and commas out of place, and comments or line breaks that hold
  control characters or a carriage return alone.  Arrays and inline tables
  may nest 80 deep.
-/
import TopicHub.Config.Toml.Token

set_option autoImplicit false

namespace TopicHub.Config.Toml

/-- A fault and the bytes of the text it points at; an empty span points at
the place between two characters. -/
structure Fault where
  message : String
  start : Nat
  stop : Nat

/-- How a key part or a scalar is written. -/
inductive Encoding where
  | unquoted
  | literal
  | basic
  | mlLiteral
  | mlBasic
  deriving DecidableEq, Repr

/-- A key part or a scalar as written: its encoding, the bytes it spans and
its characters. -/
structure Piece where
  encoding : Encoding
  start : Nat
  stop : Nat
  text : List Char

/-- The piece of a token that is a string or an atom. -/
def Piece.ofToken (t : Token) : Piece :=
  let encoding := match t.kind with
    | .literal => .literal
    | .basic => .basic
    | .mlLiteral => .mlLiteral
    | .mlBasic => .mlBasic
    | _ => .unquoted
  ⟨encoding, t.start, t.stop, t.text⟩

/-- The empty piece at a byte: a part or value that is missing. -/
def Piece.missing (pos : Nat) : Piece := ⟨.unquoted, pos, pos, []⟩

/-- A value as written. -/
inductive Written where
  | scalar (p : Piece)
  | array (items : List Written)
  | inline (pairs : List (List Piece × Written))

/-- An expression of a document. -/
inductive Expression where
  | assign (key : List Piece) (value : Written)
  | table (key : List Piece)
  | arrayTable (key : List Piece)

/-- The kind is a string or an atom: what a key part or scalar is made of. -/
def TokenKind.isWord (k : TokenKind) : Bool :=
  k = .literal || k = .basic || k = .mlLiteral || k = .mlBasic || k = .atom

/-- The next token and the tokens after it; the end token is never used up. -/
def nextToken : List Token → Token × List Token
  | [] => (⟨.eof, 0, 0, []⟩, [])
  | [t] => (t, [t])
  | t :: rest => (t, rest)

/-- The tokens after a run of blanks. -/
def skipBlank : List Token → List Token
  | t :: rest => if t.kind = .whitespace then rest else t :: rest
  | [] => []

/-- The first control character of a comment other than a tab, with its byte. -/
def badCommentChar (pos : Nat) : List Char → Option Nat
  | [] => none
  | c :: rest =>
    if (c.toNat < 0x20 ∧ c ≠ '\t') ∨ c.toNat = 0x7F then some pos
    else badCommentChar (pos + c.utf8Size) rest

/-- A comment holds printable characters and tabs only. -/
def checkComment (t : Token) : Except Fault Unit :=
  match badCommentChar t.start t.text with
  | some pos => .error ⟨"invalid comment character, expected printable characters", pos, pos⟩
  | none => .ok ()

/-- A line break is not a carriage return alone. -/
def checkNewline (t : Token) : Except Fault Unit :=
  if t.text = ['\r'] then
    .error ⟨"carriage return must be followed by newline, expected newline", t.stop, t.stop⟩
  else .ok ()

/-- The tokens after a comment and the line break that ends it. -/
def afterComment (t : Token) (ts : List Token) : Except Fault (List Token) := do
  checkComment t
  match ts with
  | n :: rest =>
    if n.kind = .newline then do checkNewline n; .ok rest
    else .ok ts
  | [] => .ok ts

/-- The tokens after the rest of a line: blanks, a comment, and the line
break or the end of the text; anything else there is a fault. -/
def lineEnd : Nat → List Token → Except Fault (List Token)
  | 0, ts => .ok ts
  | fuel + 1, ts =>
    let (t, rest) := nextToken ts
    match t.kind with
    | .whitespace => lineEnd fuel rest
    | .comment => afterComment t rest
    | .newline => do checkNewline t; .ok rest
    | .eof => .ok ts
    | _ => .error ⟨"unexpected key or value, expected newline, `#`", t.start, t.start⟩

/-- The tokens after the rest of a line, taken without a look. -/
def skipLine : Nat → List Token → List Token
  | 0, ts => ts
  | fuel + 1, ts =>
    let (t, rest) := nextToken ts
    match t.kind with
    | .newline => rest
    | .eof => ts
    | _ => skipLine fuel rest

/-- Reads more parts of a key after its first ones: `.` and a part, blanks
allowed around the dot.  After a dot (`dotted`) a part must follow; when it
does not, an empty part stands for it and the key is not well formed. -/
def keyParts : Nat → Bool → List Token → List Piece → List Piece × List Token × Bool
  | 0, _, ts, acc => (acc, ts, true)
  | fuel + 1, false, ts, acc =>
    match ts with
    | t :: rest =>
      if t.kind = .whitespace then keyParts fuel false rest acc
      else if t.kind = .dot then keyParts fuel true rest acc
      else (acc, ts, true)
    | [] => (acc, ts, true)
  | fuel + 1, true, ts, acc =>
    let (t, rest) := nextToken ts
    if t.kind = .whitespace then keyParts fuel true rest acc
    else if t.kind.isWord then keyParts fuel false rest (acc ++ [Piece.ofToken t])
    else (acc ++ [Piece.missing t.start], ts, false)

/-- Reads the key of a table header; whether it is well formed. -/
def headerKey : Nat → List Token → List Piece → List Piece × List Token × Bool
  | 0, ts, acc => (acc, ts, false)
  | fuel + 1, ts, acc =>
    let (t, rest) := nextToken ts
    if t.kind = .whitespace then headerKey fuel rest acc
    else if t.kind = .dot then headerKey fuel rest (acc ++ [Piece.missing t.start])
    else if t.kind.isWord then keyParts fuel false rest (acc ++ [Piece.ofToken t])
    else (acc ++ [Piece.missing t.start], ts, false)

/-- The deepest arrays and inline tables may nest. -/
def nestingLimit : Nat := 80

/-- The fault of nesting deeper than `nestingLimit`. -/
def deepMessage : String := "cannot recurse further; max recursion depth met"

/-- The byte where the tokens go on: the end of those taken before. -/
def resumeAt (ts : List Token) : Nat := (nextToken ts).1.start

/-- An unquoted scalar: atoms and dots after its first token, and an atom
after a blank. -/
def scalarRun : List Token → List Token → List Token × List Token
  | taken, t :: rest =>
    if t.kind = .atom ∨ t.kind = .dot then scalarRun (t :: taken) rest
    else if t.kind = .whitespace then
      match rest with
      | a :: rest' => if a.kind = .atom then scalarRun (a :: t :: taken) rest' else (taken.reverse, t :: rest)
      | [] => (taken.reverse, t :: rest)
    else (taken.reverse, t :: rest)
  | taken, [] => (taken.reverse, [])

/-- The piece of an unquoted scalar made of tokens. -/
def Piece.ofRun (first : Token) (more : List Token) : Piece :=
  let stop := match more.getLast? with
    | some t => t.stop
    | none => first.stop
  ⟨.unquoted, first.start, stop, first.text ++ (more.map (·.text)).flatten⟩

/-- Where an inline table is: what it waits for next. -/
inductive InlineState where
  | key
  | equals
  | value
  | comma
  deriving DecidableEq

mutual
/-- Reads a value; `depth` counts the arrays and inline tables around it. -/
def readValue : Nat → Nat → List Token → Except Fault (Written × List Token)
  | 0, _, ts => .ok (.scalar (Piece.missing (nextToken ts).1.start), ts)
  | fuel + 1, depth, ts =>
    let (t, rest) := nextToken ts
    match t.kind with
    | .comment | .comma | .newline | .eof => .ok (.scalar (Piece.missing t.start), ts)
    | .whitespace => readValue fuel depth rest
    | .equals => .error ⟨"extra `=`, expected nothing", t.start, t.stop⟩
    | .openBrace =>
      if depth ≥ nestingLimit then .error ⟨deepMessage, t.start, t.stop⟩
      else readInline fuel (depth + 1) rest t.stop .key [] []
    | .closeBrace => .error ⟨"missing inline table opening, expected `\x7b`", t.start, t.start⟩
    | .openBracket =>
      if depth ≥ nestingLimit then .error ⟨deepMessage, t.start, t.stop⟩
      else readArray fuel (depth + 1) rest t.stop true []
    | .closeBracket => .error ⟨"missing array opening, expected `[`", t.start, t.start⟩
    | .atom | .dot =>
      let (more, rest') := scalarRun [] rest
      .ok (.scalar (Piece.ofRun t more), rest')
    | _ => .ok (.scalar (Piece.ofToken t), rest)

/-- Reads the items of an array after its opening bracket; `needValue` holds
before each item, and `last` is the end of the last bracket, item or comma
taken, where an array left open is reported. -/
def readArray : Nat → Nat → List Token → Nat → Bool → List Written → Except Fault (Written × List Token)
  | 0, _, ts, _, _, items => .ok (.array items, ts)
  | fuel + 1, depth, ts, last, needValue, items =>
    let (t, rest) := nextToken ts
    match t.kind with
    | .whitespace => readArray fuel depth rest last needValue items
    | .newline => do
      checkNewline t
      readArray fuel depth rest last needValue items
    | .comment => do
      let rest ← afterComment t rest
      readArray fuel depth rest last needValue items
    | .eof => .error ⟨"unclosed array, expected `]`", last, last⟩
    | .comma =>
      if needValue then .error ⟨"extra comma in array, expected value", t.start, t.stop⟩
      else readArray fuel depth rest t.stop true items
    | .closeBracket => .ok (.array items, rest)
    | .equals => .error ⟨"unexpected `=` in array, expected value, `]`", t.start, t.stop⟩
    | _ =>
      if needValue then do
        let (v, rest') ← readValue fuel depth ts
        readArray fuel depth rest' (resumeAt rest') false (items ++ [v])
      else .error ⟨"missing comma between array elements, expected `,`", t.start, t.start⟩

/-- What an inline table waits for, as faults name it. -/
def InlineState.expected : InlineState → String
  | .key => "key"
  | .equals => "`=`"
  | .value => "value"
  | .comma => "`,`"

/-- Reads the members of an inline table after its opening brace; `last` is
the end of the last token taken but blanks, line breaks and comments, where
a table left open is reported; `state` is what it waits for and `key` the
key read for the next value.  A key closed without a value gets an empty
literal string, which is not well formed. -/
def readInline : Nat → Nat → List Token → Nat → InlineState → List Piece → List (List Piece × Written) →
    Except Fault (Written × List Token)
  | 0, _, ts, _, _, _, pairs => .ok (.inline pairs, ts)
  | fuel + 1, depth, ts, last, state, key, pairs =>
    let (t, rest) := nextToken ts
    let fault (what : String) : Except Fault (Written × List Token) :=
      .error ⟨what ++ ", expected " ++ state.expected, t.start, t.start⟩
    let missingEquals := fault "missing assignment between key-value pairs"
    match t.kind with
    | .whitespace => readInline fuel depth rest last state key pairs
    | .newline => do
      checkNewline t
      readInline fuel depth rest last state key pairs
    | .comment => do
      let rest ← afterComment t rest
      readInline fuel depth rest last state key pairs
    | .eof => .error ⟨"unclosed inline table, expected `\x7d`", last, last⟩
    | .closeBrace =>
      match state with
      | .key | .comma => .ok (.inline pairs, rest)
      | .equals => .ok (.inline (pairs ++ [(key, .scalar ⟨.literal, t.start, t.start, []⟩)]), rest)
      | .value => .ok (.inline (pairs ++ [(key, .scalar (Piece.missing t.start))]), rest)
    | .comma =>
      match state with
      | .comma => readInline fuel depth rest t.stop .key [] pairs
      | _ => fault "extra comma in inline table"
    | .equals =>
      match state with
      | .key => readInline fuel depth rest t.stop .value [Piece.missing t.start] pairs
      | .equals => readInline fuel depth rest t.stop .value key pairs
      | _ => fault "extra assignment between key-value pairs"
    | .openBrace | .openBracket =>
      match state with
      | .key | .comma => fault "missing key for inline table element"
      | .equals => missingEquals
      | .value => do
        let (v, rest') ← readValue fuel depth ts
        readInline fuel depth rest' (resumeAt rest') .comma [] (pairs ++ [(key, v)])
    | .closeBracket =>
      match state with
      | .value => do
        let (v, rest') ← readValue fuel depth ts
        readInline fuel depth rest' (resumeAt rest') .comma [] (pairs ++ [(key, v)])
      | _ => fault "invalid inline table element"
    | kind =>
      match state with
      | .key =>
        let (k, rest', _) :=
          if kind = .dot then keyParts fuel false ts [Piece.missing t.start]
          else keyParts fuel false rest [Piece.ofToken t]
        let last := (k.getLast?.map (·.stop)).getD t.stop
        readInline fuel depth rest' last .equals k pairs
      | .equals => missingEquals
      | .value => do
        let (v, rest') ← readValue fuel depth ts
        readInline fuel depth rest' (resumeAt rest') .comma [] (pairs ++ [(key, v)])
      | .comma => fault "missing comma between key-value pairs"
end

/-- Reads a table header after its first bracket. -/
def readHeader (fuel : Nat) (ts : List Token) : Except Fault (Option Expression × List Token) :=
  let (isArray, ts) : Bool × List Token := match ts with
    | t :: rest => if t.kind = .openBracket then (true, rest) else (false, ts)
    | [] => (false, ts)
  let (key, ts, wellFormed) := headerKey fuel (skipBlank ts) []
  let expr := if isArray then Expression.arrayTable key else .table key
  let lastStop := (key.getLast?.map (·.stop)).getD 0
  match skipBlank ts with
  | c :: rest =>
    if c.kind = .closeBracket then
      if isArray then
        match rest with
        | c2 :: rest2 =>
          if c2.kind = .closeBracket then do
            let rest2 ← lineEnd fuel rest2
            .ok (some expr, rest2)
          else .error ⟨"unclosed array table, expected `]`", c.stop, c.stop⟩
        | [] => .error ⟨"unclosed array table, expected `]`", c.stop, c.stop⟩
      else do
        let rest ← lineEnd fuel rest
        .ok (some expr, rest)
    else if wellFormed then
      if isArray then .error ⟨"unclosed array table, expected `]]`", lastStop, lastStop⟩
      else .error ⟨"unclosed table, expected `]`", lastStop, lastStop⟩
    else .ok (some expr, skipLine fuel (c :: rest))
  | [] => .ok (some expr, [])

/-- Reads an assignment from the first parts of its key on; `noValue` names
the fault of a key that `=` does not follow. -/
def readAssignment (fuel : Nat) (noValue : String) (first : List Piece) (ts : List Token) :
    Except Fault (Expression × List Token) := do
  let (key, ts, _) := keyParts fuel false ts first
  match skipBlank ts with
  | e :: rest =>
    if e.kind = .equals then do
      let (v, rest) ← readValue fuel 0 (skipBlank rest)
      let rest ← lineEnd fuel rest
      .ok (.assign key v, rest)
    else .error ⟨noValue ++ ", expected `=`", e.start, e.start⟩
  | [] => .error ⟨noValue ++ ", expected `=`", 0, 0⟩

/-- Reads the expressions of a document. -/
def readExpressions : Nat → List Token → List Expression → Except Fault (List Expression)
  | 0, _, acc => .ok acc
  | fuel + 1, ts, acc =>
    let (t, rest) := nextToken ts
    match t.kind with
    | .eof => .ok acc
    | .whitespace => readExpressions fuel rest acc
    | .newline => do
      checkNewline t
      readExpressions fuel rest acc
    | .comment => do
      let rest ← afterComment t rest
      readExpressions fuel rest acc
    | .openBracket => do
      let (e, rest) ← readHeader fuel rest
      readExpressions fuel rest (acc ++ e.toList)
    | .closeBracket => .error ⟨"missing table open, expected `[`", t.start, t.start⟩
    | .equals => do
      let (v, rest) ← readValue fuel 0 (skipBlank rest)
      let rest ← lineEnd fuel rest
      readExpressions fuel rest (acc ++ [.assign [Piece.missing t.start] v])
    | .dot => do
      let (e, rest) ← readAssignment fuel "missing value for key" [Piece.missing t.start] ts
      readExpressions fuel rest (acc ++ [e])
    | .comma | .openBrace | .closeBrace => .error ⟨"invalid key-value pair, expected key", t.start, t.start⟩
    | _ => do
      let (e, rest) ← readAssignment fuel "key with no value" [Piece.ofToken t] rest
      readExpressions fuel rest (acc ++ [e])

/-- The expressions of a document's tokens, or the first fault in them. -/
def readSyntax (ts : List Token) : Except Fault (List Expression) :=
  readExpressions (2 * ts.length + 2) ts []

end TopicHub.Config.Toml
