/-
  Json/Fault.lean --- what can go wrong when JSON text is read and decoded.

  Two kinds of fault.  A `TextFault` is found by the reader in the text
  itself; a `Mismatch` is found when a well-formed document does not have the
  shape a type expects.  An `Error` is either, with the line and column where
  the reader stood if the text was being read when it was found.  Each has one
  message function, and `Error.message` appends the position.
-/
import TopicHub.Json.Print
import TopicHub.Text.Debug

set_option autoImplicit false

namespace TopicHub.Json

/-- A fault in JSON text. -/
inductive TextFault where
  | endInArray
  | endInObject
  | endInString
  | endInValue
  | colonExpected
  | arrayCommaOrEndExpected
  | objectCommaOrEndExpected
  | identExpected
  | valueExpected
  | badEscape
  | badNumber
  | numberOutOfRange
  | controlInString
  | keyNotString
  | loneSurrogate
  | trailingComma
  | trailingCharacters
  | unfinishedSurrogatePair
  | tooDeep
  deriving Repr, DecidableEq

/-- The text of a syntax fault. -/
def TextFault.message : TextFault → String
  | .endInArray => "EOF while parsing a list"
  | .endInObject => "EOF while parsing an object"
  | .endInString => "EOF while parsing a string"
  | .endInValue => "EOF while parsing a value"
  | .colonExpected => "expected `:`"
  | .arrayCommaOrEndExpected => "expected `,` or `]`"
  | .objectCommaOrEndExpected => "expected `,` or `\x7d`"
  | .identExpected => "expected ident"
  | .valueExpected => "expected value"
  | .badEscape => "invalid escape"
  | .badNumber => "invalid number"
  | .numberOutOfRange => "number out of range"
  | .controlInString => "control character (\\u0000-\\u001F) found while parsing a string"
  | .keyNotString => "key must be a string"
  | .loneSurrogate => "lone leading surrogate in hex escape"
  | .trailingComma => "trailing comma"
  | .trailingCharacters => "trailing characters"
  | .unfinishedSurrogatePair => "unexpected end of hex escape"
  | .tooDeep => "recursion limit exceeded"

/-- The fault is the text ending too early. -/
def TextFault.isEnd : TextFault → Bool
  | .endInArray | .endInObject | .endInString | .endInValue => true
  | _ => false

/-- What a decoder found where it expected something else. -/
inductive Found where
  | bool (b : Bool)
  | unsigned (n : Nat)
  | signed (i : Int)
  | float (x : Float)
  | str (s : String)
  | null
  | seq
  | map

/-- How a found value is named in a message. -/
def Found.describe : Found → String
  | .bool b => s!"boolean `{b}`"
  | .unsigned n => s!"integer `{n}`"
  | .signed i => s!"integer `{i}`"
  | .float x => "floating point `" ++ (floatText? x).getD "NaN" ++ "`"
  | .str s => "string " ++ Text.debugQuote s
  | .null => "null"
  | .seq => "sequence"
  | .map => "map"

/-- What a document is, as a decoder names it. -/
def Found.ofJson : Json → Found
  | .null => .null
  | .bool b => .bool b
  | .num (.unsigned n) => .unsigned n
  | .num (.signed i) => .signed i
  | .num (.float x) => .float x
  | .str s => .str s
  | .arr _ => .seq
  | .obj _ => .map

/-- A well-formed document that does not have the expected shape. -/
inductive Mismatch where
  | invalidType (found : Found) (expected : String)
  | invalidValue (found : Found) (expected : String)
  | invalidLength (length : Nat) (expected : String)
  | missingField (name : String)
  | duplicateField (name : String)
  | unknownVariant (name : String) (variants : List String)
  /-- a message of the type's own -/
  | custom (text : String)

/-- The alternatives of an unknown variant, as a message lists them. -/
def oneOf : List String → String
  | [] => "there are no variants"
  | [a] => s!"`{a}`"
  | [a, b] => s!"`{a}` or `{b}`"
  | names => "one of " ++ ", ".intercalate (names.map fun n => s!"`{n}`")

/-- The text of a mismatch. -/
def Mismatch.message : Mismatch → String
  | .invalidType found expected => s!"invalid type: {found.describe}, expected {expected}"
  | .invalidValue found expected => s!"invalid value: {found.describe}, expected {expected}"
  | .invalidLength n expected => s!"invalid length {n}, expected {expected}"
  | .missingField name => s!"missing field `{name}`"
  | .duplicateField name => s!"duplicate field `{name}`"
  | .unknownVariant name [] => s!"unknown variant `{name}`, there are no variants"
  | .unknownVariant name variants => s!"unknown variant `{name}`, expected {oneOf variants}"
  | .custom text => text

/-- A place in a text: the line from 1, and the bytes before it on that line. -/
structure Pos where
  line : Nat
  column : Nat
  deriving Repr, DecidableEq

/-- A fault of either kind. -/
inductive Cause where
  | text (s : TextFault)
  | mismatch (m : Mismatch)

/-- A fault, with where the reader stood when it was found. -/
structure Error where
  cause : Cause
  pos? : Option Pos

/-- How an error is classed. -/
inductive Category where
  | malformed
  | data
  | eof
  deriving Repr, DecidableEq

/-- A mismatch found outside any text. -/
def Error.ofMismatch (m : Mismatch) : Error := ⟨.mismatch m, none⟩

/-- The class of an error: the text ending early, another fault of the text, or
a document of the wrong shape. -/
def Error.category (e : Error) : Category :=
  match e.cause with
  | .text s => if s.isEnd then .eof else .malformed
  | .mismatch _ => .data

/-- The name of an error's class. -/
def Category.name : Category → String
  | .malformed => "Syntax"
  | .data => "Data"
  | .eof => "Eof"

/-- The text of an error, with its position if it has one. -/
def Error.message (e : Error) : String :=
  let text := match e.cause with
    | .text s => s.message
    | .mismatch m => m.message
  match e.pos? with
  | some p => s!"{text} at line {p.line} column {p.column}"
  | none => text

end TopicHub.Json
