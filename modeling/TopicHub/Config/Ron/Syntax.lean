/-
  Config/Ron/Syntax.lean --- reading a RON document into a value.

  A value is tried in this order: the words `true`, `false`, `Some`, `None`,
  the unit `()`, the float words `inf` and `NaN` (with an optional `f32` or
  `f64`); then a type name, which is dropped; then by its first character a
  struct or tuple `(...)`, a list `[...]`, a map `{...}`, a number, a
  string, a byte string, or a character.  After a type name, or at a
  parenthesis, a look ahead decides the shape: no parenthesis is the unit,
  `()` an empty tuple, a name and a colon a struct (a map of names), and
  anything else a tuple (a list).  The look ahead winds back only the cursor.

  Items are separated by commas, and a comma may trail.  `Some(v)` may go
  without parentheses when the document enables `implicit_some`; with
  `unwrap_variant_newtypes` a struct or tuple inside `Some(...)` may go
  without its own.  Values nest at most 128 deep, counting each container
  and each item, key and value in it.

  A document may open with `#![enable(...)]` attributes naming extensions,
  and nothing but blanks and comments may follow its value.
-/
import TopicHub.Config.Ron.Scalar

set_option autoImplicit false

namespace TopicHub.Config.Ron

open TopicHub.Decimal

/-- The shape of what follows a type name or starts with a parenthesis. -/
inductive StructKind where
  | unit
  | emptyTuple
  | named
  | newtypeTuple
  | nonNewtypeTuple
  | anyTuple
  deriving DecidableEq

/-- Tries a step; when it fails the cursor goes back to where it was, and
the start of the last step stays where the failure left it.  Whether the
step succeeded, or the fault that stops the look ahead. -/
def attempt {α : Type} (x : Read α) (stops : String → Bool) : Read Bool := do
  let start ← cursor
  let ok ← tryCatch (do let _ ← x; pure true) fun e => if stops e then throw e else pure false
  if !ok then setCursor start
  return ok

/-- Looks ahead through a parenthesised value to a comma at its own level:
whether another item follows it.  Strings, characters and byte strings are
passed whole, so that brackets in them do not count. -/
def scanItems : Nat → Nat → Read Bool
  | 0, _ => return false
  | fuel + 1, braces => do
    skipWs
    let _ ← attempt readChar fun _ => false
    let _ ← attempt readString fun e => e = expectedStringEnd ∨ e = endOfInput
    let _ ← attempt readByteString fun e => e = expectedStringEnd ∨ e = endOfInput
    let c ← nextChar
    if c = '(' ∨ c = '[' ∨ c = '\x7b' then scanItems fuel (braces + 1)
    else if c = ')' ∨ c = ']' ∨ c = '\x7d' then
      if braces = 1 then return false else scanItems fuel (braces - 1)
    else if c = ',' ∧ braces = 1 then do
      skipWs
      return !(← check ")")
    else scanItems fuel braces

/-- Looks ahead at the shape of a struct or tuple.  `parensMeanUnit` reads a
missing parenthesis as the unit (after a type name) rather than as content
that goes without one; `precise` tells a newtype from a longer tuple by
scanning to a comma. -/
def structKindAhead (parensMeanUnit precise : Bool) : Read StructKind := do
  if parensMeanUnit then
    if !(← consume "(") then return .unit
  skipWs
  if parensMeanUnit then
    if ← check ")" then return .emptyTuple
  if (← skipIdentifier).isSome then
    skipWs
    match ← peek with
    | some ':' => return .named
    | some ',' =>
      let _ ← nextChar
      skipWs
      if ← check ")" then return .newtypeTuple else return .nonNewtypeTuple
    | some ')' => return .newtypeTuple
    | _ => pure ()
  if !precise then return .anyTuple
  let more ← scanItems ((← rest).length + 1) 1
  return if more then .nonNewtypeTuple else .newtypeTuple

/-- The shape of a struct or tuple ahead; the cursor is wound back after the
look, and stays where a fault in it was found. -/
def structKind (parensMeanUnit precise : Bool) : Read StructKind := do
  let start ← cursor
  let k ← structKindAhead parensMeanUnit precise
  setCursor start
  return k

/-- Whether another item comes before the closing character `close`; an
item without a comma before it is a fault. -/
def hasElement (close : Char) (hadComma : Bool) : Read Bool := do
  skipWs
  let more := !(← check (String.singleton close))
  if hadComma then return more
  else if more then throw expectedComma
  else return false

/-- The extensions a document may enable. -/
def extensionNames : List String :=
  ["unwrap_newtypes", "implicit_some", "unwrap_variant_newtypes", "explicit_struct_names"]

/-- Sets the newtype flag of the reader. -/
def setNewtype (b : Bool) : Read Unit := modify fun r => { r with newtypeVariant := b }

mutual
/-- Reads any value. -/
def readAny : Nat → Read Value
  | 0 => throw endOfInput
  | fuel + 1 => do
    let inside ← newtypeContent fuel
    match inside with
    | some v => return v
    | none => plainValue fuel

/-- Inside `Some(...)` with `unwrap_variant_newtypes`: a struct or tuple
without its own parentheses, or the unit before `)`; none when the content
is read as usual. -/
def newtypeContent : Nat → Read (Option Value)
  | 0 => throw endOfInput
  | fuel + 1 => do
    if !(← get).newtypeVariant then return none
    if ← check ")" then
      setNewtype false
      return some .unit
    match ← structKind false true with
    | .named => return some (← structBody fuel)
    | .emptyTuple | .nonNewtypeTuple => return some (← tupleBody fuel)
    | _ =>
      setNewtype false
      return none

/-- Reads a value by its words and first character. -/
def plainValue : Nat → Read Value
  | 0 => throw endOfInput
  | fuel + 1 => do
    if ← consumeIdent "true" then return .bool true
    if ← consumeIdent "false" then return .bool false
    if ← checkIdent "Some" then return ← readOption fuel
    if ← consumeIdent "None" then return .option none
    if ← consume "()" then return .unit
    if ← consumeIdent "inf" then return .number (.float true infinity)
    if ← consumeIdent "inff64" then return .number (.float true infinity)
    if ← consumeIdent "inff32" then return .number (.float false infinity)
    if ← consumeIdent "NaN" then return .number (.float true notANumber)
    if ← consumeIdent "NaNf64" then return .number (.float true notANumber)
    if ← consumeIdent "NaNf32" then return .number (.float false notANumber)
    if (← skipIdentifier).isSome then
      skipWs
      return ← anyStruct fuel
    let c ← peekOrEnd
    if c = '(' then anyStruct fuel
    else if c = '[' then readSeq fuel
    else if c = '\x7b' then readMap fuel
    else if c.isDigit ∨ c = '+' ∨ c = '-' ∨ c = '.' then return .number (← anyNumber)
    else if c = '"' ∨ c = 'r' then return .str (← readString)
    else if c = 'b' then
      if ← check "b'" then return .number (← anyNumber)
      else return .bytes (← readByteString)
    else if c = '\'' then return .char (← readChar)
    else throw (unexpectedChar c)

/-- What follows a type name or starts with a parenthesis. -/
def anyStruct : Nat → Read Value
  | 0 => throw endOfInput
  | fuel + 1 => do
    match ← structKind true false with
    | .unit => return .unit
    | .named => structBody fuel
    | _ => tupleBody fuel

/-- A struct: names and values in parentheses, read as a map. -/
def structBody : Nat → Read Value
  | 0 => throw endOfInput
  | fuel + 1 => do
    let bare := (← get).newtypeVariant
    let opened ← if bare then pure true else consume "("
    if !opened then throw expectedStructLike
    setNewtype false
    let entries ← nested (readEntries fuel ')' true true [])
    skipWs
    let closed ← if bare then pure true else consume ")"
    if closed then return .map entries else throw expectedStructLikeEnd

/-- A tuple: values in parentheses, read as a list. -/
def tupleBody : Nat → Read Value
  | 0 => throw endOfInput
  | fuel + 1 => do
    let bare := (← get).newtypeVariant
    let opened ← if bare then pure true else consume "("
    if !opened then throw expectedStructLike
    setNewtype false
    let items ← nested (readItems fuel ')' true [])
    skipWs
    let closed ← if bare then pure true else consume ")"
    if closed then return .seq items else throw expectedStructLikeEnd

/-- A list in brackets. -/
def readSeq : Nat → Read Value
  | 0 => throw endOfInput
  | fuel + 1 => do
    setNewtype false
    if !(← consume "[") then throw expectedArray
    let items ← nested (readItems fuel ']' true [])
    skipWs
    if ← consume "]" then return .seq items else throw expectedArrayEnd

/-- A map in braces. -/
def readMap : Nat → Read Value
  | 0 => throw endOfInput
  | fuel + 1 => do
    setNewtype false
    if !(← consume "\x7b") then throw expectedMap
    let entries ← nested (readEntries fuel '\x7d' false true [])
    skipWs
    if ← consume "\x7d" then return .map entries else throw expectedMapEnd

/-- `None`, `Some(v)`, or with `implicit_some` a value after `Some` or in its
place. -/
def readOption : Nat → Read Value
  | 0 => throw endOfInput
  | fuel + 1 => do
    if ← consumeIdent "None" then return .option none
    let explicit ←
      if ← consumeIdent "Some" then do
        skipWs
        consume "("
      else pure false
    if explicit then
      skipWs
      setNewtype (← get).unwrapVariantNewtypes
      let v ← nested (readAny fuel)
      setNewtype false
      let _ ← comma
      if ← consume ")" then return .option (some v) else throw expectedOptionEnd
    else if (← get).implicitSome then
      let v ← nested (readAny fuel)
      return .option (some v)
    else throw expectedOption

/-- The items of a list or tuple up to the closing character `close`;
`hadComma` says whether a comma (or the opening) came before. -/
def readItems : Nat → Char → Bool → List Value → Read (List Value)
  | 0, _, _, _ => throw endOfInput
  | fuel + 1, close, hadComma, acc => do
    if ← hasElement close hadComma then
      let v ← nested (readAny fuel)
      let more ← comma
      readItems fuel close more (v :: acc)
    else return acc.reverse

/-- The entries of a map or struct up to the closing character `close`; a
struct's keys are names, a map's keys are values. -/
def readEntries : Nat → Char → Bool → Bool → List (Value × Value) → Read (List (Value × Value))
  | 0, _, _, _, _ => throw endOfInput
  | fuel + 1, close, isStruct, hadComma, acc => do
    if ← hasElement close hadComma then
      let k ← nested (if isStruct then do return .str (← identifier) else readAny fuel)
      skipWs
      if !(← consume ":") then throw expectedMapColon
      skipWs
      let v ← nested (readAny fuel)
      let more ← comma
      readEntries fuel close isStruct more (insertEntry (compareFuel fuel) k v acc)
    else return acc
end

/-- Takes the text `s` and the blanks after it when it comes next. -/
def consumeThenWs (s : String) : Read Bool := do
  if ← consume s then
    skipWs
    return true
  else return false

/-- The names of an `enable(...)` attribute, separated by commas. -/
def readExtensionNames : Nat → List String → Read (List String)
  | 0, acc => return acc
  | fuel + 1, acc => do
    let name ← identifier
    if !extensionNames.contains name then
      throw ("No RON extension named " ++ identifierName name)
    let more ← comma
    let another ← continuesAt 0
    if !more ∧ another then throw expectedComma
    if !more ∨ !another then return name :: acc
    readExtensionNames fuel (name :: acc)

/-- One `#![enable(...)]` attribute, if one comes next: the extensions it
names.  Every part of its opening is tried before a missing one is a
fault. -/
def readAttribute : Read (List String) := do
  if !(← check "#") then return []
  let hash ← consumeThenWs "#"
  let bang ← consumeThenWs "!"
  let bracket ← consumeThenWs "["
  let enable ← consumeThenWs "enable"
  let paren ← consumeThenWs "("
  if !(hash && bang && bracket && enable && paren) then throw expectedAttribute
  skipWs
  let names ← readExtensionNames ((← rest).length + 1) []
  skipWs
  let closeParen ← consumeThenWs ")"
  let closeBracket ← consumeThenWs "]"
  if closeParen && closeBracket then return names else throw expectedAttributeEnd

/-- The attributes at the start of a document, each followed by blanks. -/
def readAttributes : Nat → Read Unit
  | 0 => return
  | fuel + 1 => do
    let names ← readAttribute
    if names.isEmpty then return
    modify fun r => { r with
      implicitSome := r.implicitSome || names.contains "implicit_some",
      unwrapVariantNewtypes := r.unwrapVariantNewtypes || names.contains "unwrap_variant_newtypes" }
    skipWs
    readAttributes fuel

/-- Reads a document: attributes, one value, and nothing after it but blanks
and comments. -/
def readDocument : Read Value := do
  skipWs
  readAttributes ((← rest).length + 1)
  let v ← readAny (4 * (← rest).length + 8)
  skipWs
  if !(← rest).isEmpty then throw trailingCharacters
  return v

/-- Reads a document from its text, or gives the rendered fault. -/
def Value.ofText (text : String) : Except String Value :=
  match readDocument (Reader.start text) with
  | .ok v _ => .ok v
  | .error e r => .error (r.render e)

end TopicHub.Config.Ron
