/-
  Yaml/Token.lean --- the tokens of a YAML text and the faults found in it.

  A YAML text is read in three stages, each handing its own data to the next:

      text ──lexer──▶ tokens ──reader──▶ events ──composer──▶ nodes

  This module holds what the first stage hands to the second: tokens, each
  with the mark where it starts, and the fault that stops a read, with the
  mark where it was found.  A mark counts the characters before it, its line
  from one and its column from zero; a fault names its column from one.
-/

set_option autoImplicit false

namespace TopicHub.Yaml

/-- A place in a text: how many characters come before it, its line (from
one) and its column (from zero). -/
structure Mark where
  index : Nat
  line : Nat
  col : Nat
  deriving Repr, DecidableEq, Inhabited

/-- The mark of the first character of a text. -/
def Mark.start : Mark := ⟨0, 1, 0⟩

/-- How a scalar is written. -/
inductive ScalarStyle where
  | plain
  | singleQuoted
  | doubleQuoted
  | literal
  | folded
  deriving Repr, DecidableEq, Inhabited

/-- What a token is. -/
inductive TokenKind where
  | streamStart
  | streamEnd
  /-- `%YAML major.minor` -/
  | versionDirective (major minor : Nat)
  /-- `%TAG handle prefix`; an unknown directive reads as one with both empty -/
  | tagDirective (handle pfx : String)
  /-- `---` -/
  | documentStart
  /-- `...` -/
  | documentEnd
  | blockSequenceStart
  | blockMappingStart
  | blockEnd
  /-- `[` -/
  | flowSequenceStart
  /-- `]` -/
  | flowSequenceEnd
  /-- `{` -/
  | flowMappingStart
  /-- `}` -/
  | flowMappingEnd
  /-- `-` starting a block sequence item -/
  | blockEntry
  /-- `,` -/
  | flowEntry
  /-- the start of a key, written `?` or found before a `:` -/
  | key
  /-- `:` -/
  | value
  /-- `*name` -/
  | alias (name : String)
  /-- `&name` -/
  | anchor (name : String)
  /-- `!handle!suffix`, `!suffix` or `!<verbatim>` -/
  | tag (handle suffix : String)
  | scalar (style : ScalarStyle) (text : String)
  deriving Repr, DecidableEq, Inhabited

/-- A token and the mark where it starts. -/
structure Token where
  mark : Mark
  kind : TokenKind
  deriving Repr, Inhabited

/-- Why a text is not a YAML stream, and where that was found. -/
structure Fault where
  mark : Mark
  info : String
  deriving Repr

/-- A fault as the reader reports it: what is wrong, then where. -/
def Fault.message (f : Fault) : String :=
  f.info ++ " at byte " ++ toString f.mark.index ++ " line " ++ toString f.mark.line ++
    " column " ++ toString (f.mark.col + 1)

end TopicHub.Yaml
