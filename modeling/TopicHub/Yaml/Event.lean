/-
  Yaml/Event.lean --- the events of a YAML stream, read from its tokens.

  The reader walks the grammar of YAML over the tokens, one event at a time:
  stream and document starts and ends, the start and end of each sequence
  and mapping, scalars and aliases.  Its state says where in the grammar it
  stands, with a stack of the states to come back to when a node ends.

  A key or value left out (`key:` with nothing after it, `- ` alone) is an
  empty scalar `~`; a node that has only an anchor or tag is the empty
  text.  Anchors get numbers from one in the order they are met; an alias
  names the number of its anchor, which must stand before it in the same
  document.
-/
import TopicHub.Yaml.Token.Scan

set_option autoImplicit false

namespace TopicHub.Yaml

/-- A tag with its handle replaced by the prefix it stands for. -/
structure Tag where
  handle : String
  suffix : String
  deriving Repr, DecidableEq

/-- An event of a YAML stream. -/
inductive Event where
  | streamStart
  | streamEnd
  | documentStart
  | documentEnd
  /-- a node written as `*name`: the number of its anchor -/
  | alias (id : Nat)
  /-- a scalar, with the number of its anchor (zero for none) and its tag -/
  | scalar (text : String) (style : ScalarStyle) (anchor : Nat) (tag : Option Tag)
  | sequenceStart (anchor : Nat) (tag : Option Tag)
  | sequenceEnd
  | mappingStart (anchor : Nat) (tag : Option Tag)
  | mappingEnd
  deriving Repr

/-- The scalar that stands for a node left out. -/
def Event.empty : Event := .scalar "~" .plain 0 none

/-- Where in the grammar the reader stands. -/
inductive Place where
  | streamStart
  | implicitDocumentStart
  | documentStart
  | documentContent
  | documentEnd
  | blockNode
  | blockSequenceFirstEntry
  | blockSequenceEntry
  | indentlessSequenceEntry
  | blockMappingFirstKey
  | blockMappingKey
  | blockMappingValue
  | flowSequenceFirstEntry
  | flowSequenceEntry
  | flowSequenceEntryMappingKey
  | flowSequenceEntryMappingValue
  | flowSequenceEntryMappingEnd
  | flowMappingFirstKey
  | flowMappingKey
  | flowMappingValue
  | flowMappingEmptyValue
  | finished
  deriving Repr, DecidableEq

/-- The state of the reader. -/
structure Reader where
  lexer : Lexer
  /-- the next token, once looked at -/
  peeked : Option Token := none
  place : Place := .streamStart
  /-- where to go on when the current node ends, innermost first -/
  returns : List Place := []
  /-- the anchors of the document, with their numbers -/
  anchors : List (String × Nat) := []
  nextAnchor : Nat := 1
  /-- the tag handles declared for the document, with their prefixes -/
  tags : List (String × String) := []

/-- What a step of the reader gives: an event and where it starts. -/
abbrev Emitted := Except Fault (Event × Mark × Reader)

namespace Reader

/-- Looks at the next token. -/
def peek (r : Reader) : Except Fault (Token × Reader) :=
  match r.peeked with
  | some t => .ok (t, r)
  | none => do
    let (t, lx) ← r.lexer.next
    match t with
    | some t => .ok (t, { r with lexer := lx, peeked := some t })
    | none => .error (lx.fault "unexpected eof")

/-- Passes over the token looked at. -/
def skip (r : Reader) : Reader := { r with peeked := none }

/-- Goes to `p`. -/
def goto (r : Reader) (p : Place) : Reader := { r with place := p }

/-- Remembers `p` as where to go when the node to come ends. -/
def pushReturn (r : Reader) (p : Place) : Reader := { r with returns := p :: r.returns }

/-- Goes where the node just ended says. -/
def popReturn (r : Reader) : Reader :=
  match r.returns with
  | p :: ps => { r with place := p, returns := ps }
  | [] => r

/-- Passes over the first token, already looked at. -/
def skipFirst (r : Reader) (first : Bool) : Except Fault Reader :=
  if first then do
    let (_, r) ← r.peek
    .ok r.skip
  else .ok r

/-- A fuel that outlasts every loop over the tokens still to come. -/
def budget (r : Reader) : Nat := r.lexer.fuel + r.lexer.queue.length

/-- Takes the directives before a document: one `%YAML` at most, and the
tag handles of the last `%TAG`. -/
def directivesLoop : Nat → Reader → Bool → Except Fault Reader
  | 0, r, _ => .ok r
  | fuel + 1, r, seen => do
    let (t, r) ← r.peek
    match t.kind with
    | .versionDirective _ _ =>
      if seen then .error ⟨t.mark, "duplicate version directive"⟩
      else directivesLoop fuel { r.skip with tags := [] } true
    | .tagDirective h p => directivesLoop fuel { r.skip with tags := [(h, p)] } seen
    | _ => .ok r

/-- Takes the directives before a document. -/
def directives (r : Reader) : Except Fault Reader := directivesLoop r.budget r false

/-- Passes over document-end markers. -/
def skipDocumentEnds : Nat → Reader → Except Fault (Token × Reader)
  | 0, r => r.peek
  | fuel + 1, r => do
    let (t, r) ← r.peek
    if t.kind == .documentEnd then skipDocumentEnds fuel r.skip else .ok (t, r)

/-- The stream's first token. -/
def streamStart (r : Reader) : Emitted := do
  let (t, r) ← r.peek
  match t.kind with
  | .streamStart => .ok (.streamStart, t.mark, (r.skip.goto .implicitDocumentStart))
  | _ => .error ⟨t.mark, "did not find expected <stream-start>"⟩

/-- A document started by directives or `---`. -/
def explicitDocumentStart (r : Reader) : Emitted := do
  let r ← r.directives
  let (t, r) ← r.peek
  match t.kind with
  | .documentStart => .ok (.documentStart, t.mark, ((r.pushReturn .documentEnd).goto .documentContent).skip)
  | _ => .error ⟨t.mark, "did not find expected <document start>"⟩

/-- The start of a document, or the end of the stream. Only the first
document, or one after `...`, may start without `---`. -/
def documentStart (r : Reader) (implicit : Bool) : Emitted := do
  let (t, r) ← skipDocumentEnds r.budget r
  match t.kind with
  | .streamEnd => .ok (.streamEnd, t.mark, (r.skip.goto .finished))
  | .versionDirective _ _ | .tagDirective _ _ | .documentStart => r.explicitDocumentStart
  | _ =>
    if implicit then do
      let r ← r.directives
      .ok (.documentStart, t.mark, ((r.pushReturn .documentEnd).goto .blockNode))
    else r.explicitDocumentStart

/-- The end of a document, with `...` or without. -/
def documentEnd (r : Reader) : Emitted := do
  let (t, r) ← r.peek
  let explicit := t.kind == .documentEnd
  let r := { (if explicit then r.skip else r) with tags := [] }
  if explicit then .ok (.documentEnd, t.mark, r.goto .implicitDocumentStart)
  else do
    let (t2, r) ← r.peek
    match t2.kind with
    | .versionDirective _ _ | .tagDirective _ _ =>
      .error ⟨t2.mark, "missing explicit document end marker before directive"⟩
    | _ => .ok (.documentEnd, t.mark, r.goto .documentStart)

/-- Gives an anchor name the next number. -/
def registerAnchor (r : Reader) (name : String) : Reader × Nat :=
  ({ r with anchors := (name, r.nextAnchor) :: r.anchors, nextAnchor := r.nextAnchor + 1 }, r.nextAnchor)

/-- Replaces a tag's handle by the prefix it stands for: `!!` by the YAML
tags unless declared otherwise; an undeclared `!name!` is a fault. -/
def resolveTag (r : Reader) (mark : Mark) (handle suffix : String) : Except Fault Tag :=
  if handle == "!!" then .ok ⟨(r.tags.lookup "!!").getD "tag:yaml.org,2002:", suffix⟩
  else if handle == "" && suffix == "!" then .ok ⟨(r.tags.lookup "").getD "", suffix⟩
  else
    match r.tags.lookup handle with
    | some p => .ok ⟨p, suffix⟩
    | none =>
      if handle.length ≥ 2 && handle.startsWith "!" && handle.endsWith "!" then
        .error ⟨mark, "the handle wasn't declared"⟩
      else .ok ⟨handle, suffix⟩

/-- Reads the anchor and tag before a node, in either order. -/
def properties (r : Reader) : Except Fault (Reader × Nat × Option Tag) := do
  let (t, r) ← r.peek
  match t.kind with
  | .anchor name => do
    let (r, id) := r.skip.registerAnchor name
    let (t2, r) ← r.peek
    match t2.kind with
    | .tag h s => do
      let tag ← r.resolveTag t.mark h s
      .ok (r.skip, id, some tag)
    | _ => .ok (r, id, none)
  | .tag h s => do
    let tag ← r.resolveTag t.mark h s
    let (t2, r) ← r.skip.peek
    match t2.kind with
    | .anchor name =>
      let (r, id) := r.skip.registerAnchor name
      .ok (r, id, some tag)
    | _ => .ok (r, 0, some tag)
  | _ => .ok (r, 0, none)

/-- A node: an alias, a scalar or the start of a collection. In a block
context a block collection may start here; in a mapping value a `-` starts a
sequence not indented past its key. -/
def node (r : Reader) (block indentless : Bool) : Emitted := do
  let (t, r) ← r.peek
  match t.kind with
  | .alias name =>
    match r.anchors.lookup name with
    | none => .error ⟨t.mark, "while parsing node, found unknown anchor"⟩
    | some id => .ok (.alias id, t.mark, r.popReturn.skip)
  | _ => do
    let (r, anchor, tag) ← r.properties
    let (t, r) ← r.peek
    let bare : Emitted :=
      if tag.isSome || anchor > 0 then .ok (.scalar "" .plain anchor tag, t.mark, r.popReturn)
      else .error ⟨t.mark, "while parsing a node, did not find expected node content"⟩
    match t.kind with
    | .blockEntry =>
      if indentless then .ok (.sequenceStart anchor tag, t.mark, r.goto .indentlessSequenceEntry) else bare
    | .scalar style text => .ok (.scalar text style anchor tag, t.mark, r.popReturn.skip)
    | .flowSequenceStart => .ok (.sequenceStart anchor tag, t.mark, r.goto .flowSequenceFirstEntry)
    | .flowMappingStart => .ok (.mappingStart anchor tag, t.mark, r.goto .flowMappingFirstKey)
    | .blockSequenceStart =>
      if block then .ok (.sequenceStart anchor tag, t.mark, r.goto .blockSequenceFirstEntry) else bare
    | .blockMappingStart =>
      if block then .ok (.mappingStart anchor tag, t.mark, r.goto .blockMappingFirstKey) else bare
    | _ => bare

/-- The content of a document started by `---`: empty when the document
ends at once. -/
def documentContent (r : Reader) : Emitted := do
  let (t, r) ← r.peek
  match t.kind with
  | .versionDirective _ _ | .tagDirective _ _ | .documentStart | .documentEnd | .streamEnd =>
    .ok (Event.empty, t.mark, r.popReturn)
  | _ => r.node true false

/-- A key of a block mapping, or its end. -/
def blockMappingKey (r : Reader) (first : Bool) : Emitted := do
  let r ← r.skipFirst first
  let (t, r) ← r.peek
  match t.kind with
  | .key =>
    let (t2, r) ← r.skip.peek
    match t2.kind with
    | .key | .value | .blockEnd => .ok (Event.empty, t2.mark, r.goto .blockMappingValue)
    | _ => (r.pushReturn .blockMappingValue).node true true
  | .value => .ok (Event.empty, t.mark, r.goto .blockMappingValue)
  | .blockEnd => .ok (.mappingEnd, t.mark, r.popReturn.skip)
  | _ => .error ⟨t.mark, "while parsing a block mapping, did not find expected key"⟩

/-- A value of a block mapping; empty when left out. -/
def blockMappingValue (r : Reader) : Emitted := do
  let (t, r) ← r.peek
  match t.kind with
  | .value =>
    let (t2, r) ← r.skip.peek
    match t2.kind with
    | .key | .value | .blockEnd => .ok (Event.empty, t2.mark, r.goto .blockMappingKey)
    | _ => (r.pushReturn .blockMappingKey).node true true
  | _ => .ok (Event.empty, t.mark, r.goto .blockMappingKey)

/-- An item of a block sequence, or its end. -/
def blockSequenceEntry (r : Reader) (first : Bool) : Emitted := do
  let r ← r.skipFirst first
  let (t, r) ← r.peek
  match t.kind with
  | .blockEnd => .ok (.sequenceEnd, t.mark, r.popReturn.skip)
  | .blockEntry =>
    let (t2, r) ← r.skip.peek
    match t2.kind with
    | .blockEntry | .blockEnd => .ok (Event.empty, t2.mark, r.goto .blockSequenceEntry)
    | _ => (r.pushReturn .blockSequenceEntry).node true false
  | _ => .error ⟨t.mark, "while parsing a block collection, did not find expected '-' indicator"⟩

/-- An item of a sequence not indented past its key; it ends at the first
token that is no `-`. -/
def indentlessSequenceEntry (r : Reader) : Emitted := do
  let (t, r) ← r.peek
  match t.kind with
  | .blockEntry =>
    let (t2, r) ← r.skip.peek
    match t2.kind with
    | .blockEntry | .key | .value | .blockEnd => .ok (Event.empty, t2.mark, r.goto .indentlessSequenceEntry)
    | _ => (r.pushReturn .indentlessSequenceEntry).node true false
  | _ => .ok (.sequenceEnd, t.mark, r.popReturn)

/-- An item of a flow sequence, or its end; items are separated by `,`,
and a `key: value` item is a mapping of one pair. -/
def flowSequenceEntry (r : Reader) (first : Bool) : Emitted := do
  let r ← r.skipFirst first
  let (t, r) ← r.peek
  match t.kind with
  | .flowSequenceEnd => .ok (.sequenceEnd, t.mark, r.popReturn.skip)
  | _ => do
    let r ←
      if first then pure r
      else if t.kind == .flowEntry then pure r.skip
      else .error ⟨t.mark, "while parsing a flow sequence, expected ',' or ']'"⟩
    let (t, r) ← r.peek
    match t.kind with
    | .flowSequenceEnd => .ok (.sequenceEnd, t.mark, r.popReturn.skip)
    | .key => .ok (.mappingStart 0 none, t.mark, (r.goto .flowSequenceEntryMappingKey).skip)
    | _ => (r.pushReturn .flowSequenceEntry).node false false

/-- The key of a one-pair mapping in a flow sequence. -/
def flowPairKey (r : Reader) : Emitted := do
  let (t, r) ← r.peek
  match t.kind with
  | .value | .flowEntry | .flowSequenceEnd => .ok (Event.empty, t.mark, r.goto .flowSequenceEntryMappingValue)
  | _ => (r.pushReturn .flowSequenceEntryMappingValue).node false false

/-- The value of a one-pair mapping in a flow sequence. -/
def flowPairValue (r : Reader) : Emitted := do
  let (t, r) ← r.peek
  match t.kind with
  | .value =>
    let (t2, r) ← r.skip.peek
    match t2.kind with
    | .flowEntry | .flowSequenceEnd => .ok (Event.empty, t2.mark, r.goto .flowSequenceEntryMappingEnd)
    | _ => (r.pushReturn .flowSequenceEntryMappingEnd).node false false
  | _ => .ok (Event.empty, t.mark, r.goto .flowSequenceEntryMappingEnd)

/-- A key of a flow mapping, or its end; pairs are separated by `,`. -/
def flowMappingKey (r : Reader) (first : Bool) : Emitted := do
  let r ← r.skipFirst first
  let (t, r) ← r.peek
  match t.kind with
  | .flowMappingEnd => .ok (.mappingEnd, t.mark, r.popReturn.skip)
  | _ => do
    let r ←
      if first then pure r
      else if t.kind == .flowEntry then pure r.skip
      else .error ⟨t.mark, "while parsing a flow mapping, did not find expected ',' or '\x7d'"⟩
    let (t2, r) ← r.peek
    match t2.kind with
    | .key =>
      let (t3, r) ← r.skip.peek
      match t3.kind with
      | .value | .flowEntry | .flowMappingEnd => .ok (Event.empty, t3.mark, r.goto .flowMappingValue)
      | _ => (r.pushReturn .flowMappingValue).node false false
    | .value => .ok (Event.empty, t2.mark, r.goto .flowMappingValue)
    | .flowMappingEnd => .ok (.mappingEnd, t.mark, r.popReturn.skip)
    | _ => (r.pushReturn .flowMappingEmptyValue).node false false

/-- A value of a flow mapping; empty when left out. -/
def flowMappingValue (r : Reader) (empty : Bool) : Emitted := do
  let (t, r) ← r.peek
  if empty then .ok (Event.empty, t.mark, r.goto .flowMappingKey)
  else
    match t.kind with
    | .value =>
      let (t2, r) ← r.skip.peek
      match t2.kind with
      | .flowEntry | .flowMappingEnd => .ok (Event.empty, t.mark, r.goto .flowMappingKey)
      | _ => (r.pushReturn .flowMappingKey).node false false
    | _ => .ok (Event.empty, t.mark, r.goto .flowMappingKey)

/-- The next event. -/
def step (r : Reader) : Emitted :=
  match r.place with
  | .streamStart => r.streamStart
  | .implicitDocumentStart => r.documentStart true
  | .documentStart => r.documentStart false
  | .documentContent => r.documentContent
  | .documentEnd => r.documentEnd
  | .blockNode => r.node true false
  | .blockSequenceFirstEntry => r.blockSequenceEntry true
  | .blockSequenceEntry => r.blockSequenceEntry false
  | .indentlessSequenceEntry => r.indentlessSequenceEntry
  | .blockMappingFirstKey => r.blockMappingKey true
  | .blockMappingKey => r.blockMappingKey false
  | .blockMappingValue => r.blockMappingValue
  | .flowSequenceFirstEntry => r.flowSequenceEntry true
  | .flowSequenceEntry => r.flowSequenceEntry false
  | .flowSequenceEntryMappingKey => r.flowPairKey
  | .flowSequenceEntryMappingValue => r.flowPairValue
  | .flowSequenceEntryMappingEnd => .ok (.mappingEnd, r.lexer.mark, r.goto .flowSequenceEntry)
  | .flowMappingFirstKey => r.flowMappingKey true
  | .flowMappingKey => r.flowMappingKey false
  | .flowMappingValue => r.flowMappingValue false
  | .flowMappingEmptyValue => r.flowMappingValue true
  | .finished => .error (r.lexer.fault "unexpected eof")

end Reader

end TopicHub.Yaml
