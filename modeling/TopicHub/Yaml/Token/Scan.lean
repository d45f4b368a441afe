/-
  Yaml/Token/Scan.lean --- finding the tokens of a YAML text, one at a time.

  After blanks, breaks and comments the next character decides the token:
  a document marker or directive at the start of a line, a flow indicator,
  `- `, `? ` or `: `, an anchor, alias or tag, a block or quoted scalar, or
  a plain scalar.  Before it, the block levels deeper than its column are
  closed.

  Simple keys make the lexer look ahead: a token where a key may start is
  not handed out until it is known whether a `:` follows it, and a `:` puts
  the key token (and a block-mapping start, for a new block mapping) before
  it.  `Lexer.next` hands out one token after reading as far as that needs.
-/
import TopicHub.Yaml.Token.Scalar

set_option autoImplicit false

namespace TopicHub.Yaml

namespace Lexer

/-- Starts the stream. -/
def fetchStreamStart (s : Lexer) : Lexer :=
  let s := { s with indent := -1, started := true, simpleKeyAllowed := true,
                    simpleKeys := { mark := ⟨0, 0, 0⟩ } :: s.simpleKeys }
  s.push ⟨s.mark, .streamStart⟩

/-- Ends the stream, closing every block level; a key that had to be found
is missing. -/
def fetchStreamEnd (s : Lexer) : Except Fault Lexer := do
  let s := if s.mark.col != 0 then { s with mark := { s.mark with col := 0, line := s.mark.line + 1 } } else s
  if s.simpleKeys.any fun k => k.required && k.possible then .error (s.fault "simple key expected")
  else
    let s := { s with simpleKeys := s.simpleKeys.map fun (k : SimpleKey) => { k with possible := false } }
    let s := s.unrollIndent (-1)
    let s ← s.removeKey
    let s := s.disallowKey
    .ok (s.push ⟨s.mark, .streamEnd⟩)

/-- Reads `---` or `...`, closing every block level. -/
def fetchDocumentMarker (s : Lexer) (kind : TokenKind) : Except Fault Lexer := do
  let s := s.unrollIndent (-1)
  let s ← s.removeKey
  let s := s.disallowKey
  let mark := s.mark
  .ok ((s.skipChars 3).push ⟨mark, kind⟩)

/-- Reads a directive, closing every block level. -/
def fetchDirective (s : Lexer) : Except Fault Lexer := do
  let s := s.unrollIndent (-1)
  let s ← s.removeKey
  let (s, t) ← directiveToken s.disallowKey
  .ok (s.push t)

/-- Reads `[` or `{`; a flow collection may be a simple key. -/
def fetchFlowStart (s : Lexer) (kind : TokenKind) : Except Fault Lexer := do
  let s := s.saveKey.rollOneColumn
  let s ← s.enterFlow
  let s := s.allowKey
  let mark := s.mark
  let (s, _, _) ← s.skipChar.skipSpace true
  .ok (s.push ⟨mark, kind⟩)

/-- Reads `]` or `}`; a `:` right after it may start a value. -/
def fetchFlowEnd (s : Lexer) (kind : TokenKind) : Except Fault Lexer := do
  let s ← s.removeKey
  let s := s.leaveFlow.disallowKey
  let mark := s.mark
  let (s, _, _) ← s.skipChar.skipSpace true
  let s := if s.flowLevel > 0 then { s with adjacentValueAt := s.mark.index } else s
  .ok (s.push ⟨mark, kind⟩)

/-- Reads `,`. -/
def fetchFlowEntry (s : Lexer) : Except Fault Lexer := do
  let s ← s.removeKey
  let s := s.allowKey
  let mark := s.mark
  let (s, _, _) ← s.skipChar.skipSpace true
  .ok (s.push ⟨mark, .flowEntry⟩)

/-- Reads `- `, opening a block sequence at its column if none is open
there. Only in a block context, and only where a key could start. -/
def fetchBlockEntry (s : Lexer) : Except Fault Lexer := do
  if s.flowLevel > 0 then .error (s.fault "\"-\" is only valid inside a block")
  else if !s.simpleKeyAllowed then .error (s.fault "block sequence entries are not allowed in this context")
  else
    let misplaced : Option Mark :=
      match s.queue.getLast? with
      | some ⟨m, .anchor _⟩ | some ⟨m, .tag _ _⟩ =>
        if s.mark.col == 0 && m.col == 0 && s.indent > -1 then some m else none
      | _ => none
    match misplaced with
    | some m => .error ⟨m, "invalid indentation for anchor"⟩
    | none =>
      let mark := s.mark
      let s := s.skipChar.rollIndent mark.col none .blockSequenceStart mark
      let (s, tabs, _) ← s.skipSpace true
      if tabs && s.peek == '-' && isBlankOrEnd (s.peekAt 1) then
        .error (s.fault "'-' must be followed by a valid YAML whitespace")
      else
        let (s, _, _) ← s.skipSpace false
        let s := if isBreak s.peek || isFlowChar s.peek then s.rollOneColumn else s
        let s ← s.removeKey
        .ok (s.allowKey.push ⟨mark, .blockEntry⟩)

/-- Passes over spaces, breaks and comments after `?`; there must be some. -/
def afterKeyLoop : Nat → Lexer → Bool → Except Fault Lexer
  | 0, s, _ => .ok s
  | fuel + 1, s, need =>
    match s.peek with
    | ' ' => afterKeyLoop fuel s.skipBlank false
    | '\n' | '\r' =>
      let s := s.skipLineBreak
      afterKeyLoop fuel (if s.flowLevel == 0 then s.allowKey else s) false
    | '#' => afterKeyLoop fuel s.skipComment need
    | _ => if need then .error (s.fault "expected whitespace") else .ok s

/-- Reads `? `, opening a block mapping at its column if none is open there. -/
def fetchKey (s : Lexer) : Except Fault Lexer := do
  let mark := s.mark
  let s ←
    if s.flowLevel == 0 then
      if !s.simpleKeyAllowed then .error (s.fault "mapping keys are not allowed in this context")
      else pure (s.rollIndent mark.col none .blockMappingStart mark)
    else pure s
  let s ← s.removeKey
  let s := if s.flowLevel == 0 then s.allowKey else s.disallowKey
  let s ← afterKeyLoop s.fuel s.skipChar true
  if s.peek == '\t' then .error (s.fault "tabs disallowed in this context")
  else .ok (s.push ⟨mark, .key⟩)

/-- Reads `:`. After a possible simple key it puts the key token before the
key (and a block-mapping start, for a new block mapping); otherwise, in a
block context, it may follow only where a key could start. -/
def fetchValue (s : Lexer) : Except Fault Lexer := do
  let k : SimpleKey := s.simpleKeys.head?.getD {}
  let startMark := s.mark
  let s := s.skipChar
  let s ←
    if s.peek == '\t' then do
      let (s', _, spaced) ← s.skipSpace true
      if !spaced && (s'.peek == '-' || isWordChar s'.peek) then
        .error (s'.fault "':' must be followed by a valid YAML whitespace")
      else pure s'
    else pure s
  let s ←
    if k.possible then
      let s := s.insertAt (k.tokenNumber - s.handed) ⟨k.mark, .key⟩
      let s := (s.rollIndent k.mark.col (some k.tokenNumber) .blockMappingStart k.mark).rollOneColumn
      let s := { s with simpleKeys := { k with possible := false } :: s.simpleKeys.drop 1 }
      pure s.disallowKey
    else do
      let s ←
        if s.flowLevel == 0 then
          if !s.simpleKeyAllowed then .error ⟨startMark, "mapping values are not allowed in this context"⟩
          else pure (s.rollIndent startMark.col none .blockMappingStart startMark)
        else pure s
      let s := s.rollOneColumn
      pure (if s.flowLevel == 0 then s.allowKey else s.disallowKey)
  .ok (s.push ⟨startMark, .value⟩)

/-- Reads a token that may be a simple key: a scalar, anchor, alias or tag. -/
def fetchKeyable (s : Lexer) (read : Lexer → Except Fault (Lexer × Token)) : Except Fault Lexer := do
  let (s, t) ← read s.saveKey.disallowKey
  .ok (s.push t)

/-- Reads a quoted scalar; a `:` right after it, past blanks and breaks,
may start a value in a flow collection. -/
def fetchQuoted (s : Lexer) (single : Bool) : Except Fault Lexer := do
  let (s, t) ← s.saveKey.disallowKey.quotedScalar single
  let s ← s.skipToToken
  .ok ({ s with adjacentValueAt := s.mark.index }.push t)

/-- Reads a block scalar; a simple key may follow it. -/
def fetchBlockScalar (s : Lexer) (literal : Bool) : Except Fault Lexer := do
  let (s, t) ← s.saveKey.allowKey.blockScalar literal
  .ok (s.push t)

/-- Finds the next token, or the fault in the way. -/
def fetchNextToken (s : Lexer) : Except Fault Lexer := do
  if !s.started then .ok s.fetchStreamStart
  else
    let s ← s.skipToToken
    let s ← s.staleKeys
    let s := s.unrollIndent s.mark.col
    if isEnd s.peek then s.fetchStreamEnd
    else if s.mark.col == 0 && s.peek == '%' then s.fetchDirective
    else if s.atDocumentMarker '-' then s.fetchDocumentMarker .documentStart
    else if s.atDocumentMarker '.' then do
      let s ← s.fetchDocumentMarker .documentEnd
      let (s, _, _) ← s.skipSpace true
      if isBreakOrEnd s.peek then .ok s else .error (s.fault "invalid content after document end marker")
    else if (s.mark.col : Int) < s.indent then .error (s.fault "invalid indentation")
    else
      let c := s.peek
      let nc := s.peekAt 1
      let inFlow := s.flowLevel > 0
      if c == '[' then s.fetchFlowStart .flowSequenceStart
      else if c == '{' then s.fetchFlowStart .flowMappingStart
      else if c == ']' then s.fetchFlowEnd .flowSequenceEnd
      else if c == '}' then s.fetchFlowEnd .flowMappingEnd
      else if c == ',' then s.fetchFlowEntry
      else if c == '-' && isBlankOrEnd nc then s.fetchBlockEntry
      else if c == '?' && isBlankOrEnd nc then s.fetchKey
      else if c == ':' && isBlankOrEnd nc then s.fetchValue
      else if c == ':' && inFlow && (isFlowChar nc || s.mark.index == s.adjacentValueAt) then s.fetchValue
      else if c == '*' then s.fetchKeyable (·.anchorToken true)
      else if c == '&' then s.fetchKeyable (·.anchorToken false)
      else if c == '!' then s.fetchKeyable Lexer.tagToken
      else if c == '|' && !inFlow then s.fetchBlockScalar true
      else if c == '>' && !inFlow then s.fetchBlockScalar false
      else if c == '\'' then s.fetchQuoted true
      else if c == '"' then s.fetchQuoted false
      else if c == '%' || c == '@' || c == Char.ofNat 96 then
        .error (s.fault ("unexpected character: `" ++ String.singleton c ++ "'"))
      else s.fetchKeyable Lexer.plainScalar

/-- Finds tokens until the first one not handed out can be handed out: it
is no longer where a simple key may start. -/
def fetchMore : Nat → Lexer → Except Fault Lexer
  | 0, s => .ok s
  | fuel + 1, s => do
    let (s, more) ←
      if s.queue.isEmpty then pure (s, true)
      else do
        let s ← s.staleKeys
        pure (s, s.simpleKeys.any fun k => k.possible && k.tokenNumber == s.handed)
    if more then fetchMore fuel (← s.fetchNextToken) else .ok s

/-- Hands out the next token; nothing after the stream end. -/
def next (s : Lexer) : Except Fault (Option Token × Lexer) :=
  if s.finished then .ok (none, s)
  else do
    let s ← fetchMore s.fuel s
    match s.queue with
    | [] => .error (s.fault "did not find expected next token")
    | t :: q => .ok (some t, { s with queue := q, handed := s.handed + 1, finished := t.kind == .streamEnd })

end Lexer

end TopicHub.Yaml
