/-
  Config/DotEnv.lean --- variables from a `.env` file.

  Each line is blank, a comment starting with `#`, or `KEY=VALUE`, optionally
  after `export `.  A key starts with an ASCII letter or `_` and goes on with
  ASCII letters, digits, `_` and `.`.  In a value:

  * `'...'` keeps its text as it is, `"..."` allows the escapes `\\`, `\'`,
    `\"`, `\$`, `\ ` and `\n`, and the same escapes stand outside quotes;
  * `$NAME` and `$\x7bNAME\x7d` are replaced by the variable of that name, from
    the environment or an earlier line, and by nothing when it has none;
  * an unquoted blank ends the value, after which only blanks and a comment
    may follow.

  A line whose quotes are left open goes on over the next lines; a line is
  read without the white space at its end, and a byte order mark before the
  first line is passed over.  Loading
  stops at the first line that cannot be read; the variables of the lines
  before it are kept.  A variable already in the environment is never
  replaced.
-/
import TopicHub.Text.Case
import TopicHub.Text.Class

set_option autoImplicit false

namespace TopicHub.Config.DotEnv

/-- How far a value's text has been read. -/
inductive Quote where
  | none
  | strong
  | weak
  deriving DecidableEq

/-- What a `$` has started. -/
inductive Substitution where
  | none
  | plain
  | braced
  deriving DecidableEq

/-- The state of reading a value. -/
structure ValueState where
  quote : Quote := .none
  escaped : Bool := false
  expectingEnd : Bool := false
  output : List Char := []
  substitution : Substitution := .none
  name : List Char := []

/-- The value of a variable: from the environment, else from an earlier line. -/
def lookupVar (env earlier : List (String × String)) (name : String) : String :=
  match env.lookup name with
  | some v => v
  | none => (earlier.lookup name).getD ""

/-- A letter or digit in the Unicode sense, for the names of substitutions. -/
def isNameChar (c : Char) : Bool := Text.isAlphanumeric c

/-- Adds the value of the pending substitution to the output. -/
def ValueState.substitute (lookup : String → String) (st : ValueState) : ValueState :=
  { st with output := st.output ++ (lookup (String.ofList st.name)).toList, name := [] }

/-- Reads a value's characters from `index` on; a comment after the value
ends the reading. -/
def readChars (lookup : String → String) : Nat → List Char → ValueState → Except Nat ValueState
  | _, [], st => .ok st
  | index, c :: rest, st =>
    let go := readChars lookup (index + 1) rest
    if st.expectingEnd then
      if c = ' ' ∨ c = '\t' then go st
      else if c = '#' then .ok st
      else .error index
    else if st.escaped then
      if c = '\\' ∨ c = '\'' ∨ c = '"' ∨ c = '$' ∨ c = ' ' then go { st with output := st.output ++ [c], escaped := false }
      else if c = 'n' then go { st with output := st.output ++ ['\n'], escaped := false }
      else .error index
    else if st.quote = .strong then
      if c = '\'' then go { st with quote := .none } else go { st with output := st.output ++ [c] }
    else if st.substitution ≠ .none then
      if isNameChar c then go { st with name := st.name ++ [c] }
      else if st.substitution = .plain then
        if c = '\x7b' ∧ st.name.isEmpty then go { st with substitution := .braced }
        else
          let st := st.substitute lookup
          if c = '$' then go { st with substitution := .plain }
          else go { st with substitution := .none, output := st.output ++ [c] }
      else if c = '\x7d' then go { st.substitute lookup with substitution := .none }
      else go { st with name := st.name ++ [c] }
    else if c = '$' then go { st with substitution := .plain }
    else if st.quote = .weak then
      if c = '"' then go { st with quote := .none }
      else if c = '\\' then go { st with escaped := true }
      else go { st with output := st.output ++ [c] }
    else if c = '\'' then go { st with quote := .strong }
    else if c = '"' then go { st with quote := .weak }
    else if c = '\\' then go { st with escaped := true }
    else if c = ' ' ∨ c = '\t' then go { st with expectingEnd := true }
    else go { st with output := st.output ++ [c] }

/-- Reads a value: its text, or the index of the character that cannot be
read (the last one when a quote or a brace is left open). -/
def readValue (lookup : String → String) (input : List Char) : Except Nat String := do
  let st ← readChars lookup 0 input {}
  if st.substitution = .braced ∨ st.quote ≠ .none then
    .error (input.length - 1)
  else .ok (String.ofList (st.substitute lookup).output)

/-- Passes over white space. -/
def skipSpace (cs : List Char) : List Char := cs.dropWhile Text.isWhiteSpace

/-- Reads a key: an ASCII letter or `_`, then ASCII letters, digits, `_` and `.`. -/
def readKey (cs : List Char) : Option (String × List Char) :=
  match cs with
  | c :: _ =>
    if c.isAlpha ∨ c = '_' then
      let k := cs.takeWhile fun d => d.isAlphanum ∨ d = '_' ∨ d = '.'
      some (String.ofList k, cs.drop k.length)
    else none
  | [] => none

/-- Passes over the `=` after a key. -/
def expectEqual (cs : List Char) : Option (List Char) :=
  match cs with
  | '=' :: rest => some rest
  | _ => none

/-- Reads one line: nothing for a blank or comment line, a variable, or
`none` when the line cannot be read. -/
def parseLine (lookup : String → String) (line : String) : Option (Option (String × String)) := do
  let cs := skipSpace (line.toList.reverse.dropWhile Text.isWhiteSpace).reverse
  if cs.isEmpty ∨ cs.head? = some '#' then return none
  let (key, cs) ← readKey cs
  let cs := skipSpace cs
  let (key, cs) ← if key = "export" then
      match expectEqual cs with
      | some rest => some (key, rest)
      | none => do
        let (k, cs) ← readKey cs
        let rest ← expectEqual (skipSpace cs)
        some (k, rest)
    else do
      let rest ← expectEqual cs
      some (key, rest)
  let cs := skipSpace cs
  if cs.isEmpty ∨ cs.head? = some '#' then return some (key, "")
  match readValue lookup cs with
  | .ok v => return some (key, v)
  | .error _ => none

/-- Where a line leaves the quoting of a value. -/
inductive LineEnd where
  | complete
  | blank
  | escape
  | weakOpen
  | weakOpenEscape
  | strongOpen
  | strongOpenEscape
  | comment
  deriving DecidableEq

/-- The quoting after one more character; a `#` after a blank is handled by
`lineEnd`, since a comment ends the line. -/
def LineEnd.step : LineEnd → Char → LineEnd
  | .escape, _ => .complete
  | .weakOpen, c => if c = '\\' then .weakOpenEscape else if c = '"' then .complete else .weakOpen
  | .weakOpenEscape, _ => .weakOpen
  | .strongOpen, c => if c = '\\' then .strongOpenEscape else if c = '\'' then .complete else .strongOpen
  | .strongOpenEscape, _ => .strongOpen
  | .comment, _ => .comment
  | .blank, c =>
    if c = '\\' then .escape else if c = '"' then .weakOpen else if c = '\'' then .strongOpen
    else .complete
  | .complete, c =>
    if Text.isWhiteSpace c ∧ c ≠ '\n' ∧ c ≠ '\r' then .blank
    else if c = '\\' then .escape else if c = '"' then .weakOpen else if c = '\'' then .strongOpen
    else .complete

/-- The quoting after the characters of a line, from the state before it, and
the part of the line kept: all of it, or what stands before a comment. -/
def lineEnd : LineEnd → List Char → LineEnd × List Char
  | st, [] => (st, [])
  | st, c :: rest =>
    if st = .blank ∧ c = '#' then (.comment, [])
    else
      let (e, kept) := lineEnd (st.step c) rest
      (e, c :: kept)

/-- The lines of a text as they are read one by one: each with its line
break, the last one without when the text does not end in one. -/
def physicalLines (text : String) : List String :=
  let pieces := text.splitOn "\n"
  pieces.dropLast.map (· ++ "\n") ++ (match pieces.getLast? with
    | some "" | none => []
    | some last => [last])

/-- A line without its line break (`\n` or `\r\n`). -/
def stripBreak (s : String) : String :=
  if s.endsWith "\n" then
    let s := String.ofList s.toList.dropLast
    if s.endsWith "\r" then String.ofList s.toList.dropLast else s
  else s

/-- The logical lines of a file: lines joined until the quoting is complete,
a comment line as an empty line; `none` for text left at the end whose
quoting never completes. -/
def logicalLines (text : String) : List (Option String) :=
  let step (acc : List (Option String) × Option (String × LineEnd)) (line : String) :
      List (Option String) × Option (String × LineEnd) :=
    let (done, pending) := acc
    let (buf, st) := pending.getD ("", .complete)
    let joined := buf ++ line
    if (skipSpace joined.toList).head? = some '#' then (done ++ [some ""], none)
    else
      match lineEnd st line.toList with
      | (.complete, _) => (done ++ [some (stripBreak joined)], none)
      | (.comment, kept) => (done ++ [some (buf ++ String.ofList kept)], none)
      | (e, _) => (done, some (joined, e))
  let (done, pending) := (physicalLines text).foldl step ([], none)
  match pending with
  | some _ => done ++ [none]
  | none => done

/-- The environment after loading a `.env` file into it: each variable the
file gives is added unless the environment has it; loading stops at the
first line that cannot be read. -/
def load (env : List (String × String)) (text : String) : List (String × String) :=
  let step (acc : List (String × String) × List (String × String) × Bool) (line : Option String) :
      List (String × String) × List (String × String) × Bool :=
    let (env, earlier, stopped) := acc
    if stopped then acc else
    match line with
    | none => (env, earlier, true)
    | some l =>
      match parseLine (lookupVar env earlier) l with
      | none => (env, earlier, true)
      | some none => (env, earlier, false)
      | some (some (k, v)) =>
        let env := if (env.lookup k).isSome then env else env ++ [(k, v)]
        (env, (k, v) :: earlier.filter (·.1 ≠ k), false)
  let text := match text.toList with
    | '\uFEFF' :: rest => String.ofList rest
    | _ => text
  let (env, _, _) := (logicalLines text).foldl step (env, [], false)
  env

end TopicHub.Config.DotEnv
