/-
  Naming/CamelCase.lean --- renaming keys to camel case, and frames with
  renamed keys.

  A key with an underscore is split at underscores, empty words dropped; the
  first word is renamed as below and each later word gets its first character
  in upper case.  A key without one keeps everything from its first character
  that is not upper case; before that, upper-case characters are lowered,
  except that an upper-case character after the first that is followed by a
  lower-case one starts a word and is kept with the rest (`XMLHttpRequest`
  becomes `xmlHttpRequest`).  Case is Unicode's (`Text/Case`).

  `camelFrame` writes a map value as a frame: an object's top-level keys are
  renamed, in their sorted order, and two keys with one new name are refused,
  naming the later one; values below are written as they are.
  `camelCaseJson` takes a payload of any type, with the serializer that
  makes its map value.
-/
import TopicHub.Json.Print
import TopicHub.Json.Fault
import TopicHub.Text.Case

set_option autoImplicit false

namespace TopicHub.Naming

open TopicHub.Json

/-- Lowers the leading upper-case run of a word without underscores; `first`
says whether the next character is the word's first. -/
def lowerLead (first : Bool) : List Char → List Char
  | [] => []
  | c :: rest =>
    if !Text.isUpper c then c :: rest
    else
      let nextIsLower := match rest with
        | n :: _ => Text.isLower n
        | [] => false
      if !first && nextIsLower then c :: rest
      else Text.lower c ++ lowerLead false rest

/-- A later word of a snake-case key: its first character in upper case. -/
def capitalize : List Char → List Char
  | [] => []
  | c :: rest => Text.upper c ++ rest

/-- The camel-case form of a key. -/
def toCamelCase (key : String) : String :=
  if key.toList.contains '_' then
    let words := (key.splitOn "_").filter (· ≠ "")
    match words with
    | [] => ""
    | w :: ws =>
      String.ofList (lowerLead true w.toList ++ ws.flatMap (fun x => capitalize x.toList))
  else String.ofList (lowerLead true key.toList)

/-- The message for two keys with one camel-case name. -/
def collision (key renamed : String) : Mismatch :=
  .custom ("field `" ++ key ++ "` collides with another field named `" ++ renamed ++ "`")

/-- Renames sorted members, keeping the result sorted by the new names; a new
name given twice is refused. -/
def renameMembers : List (String × Json) → List (String × Json) → Except Mismatch (List (String × Json))
  | [], out => .ok out
  | (k, v) :: rest, out =>
    let r := toCamelCase k
    if out.any (·.1 == r) then .error (collision k r)
    else renameMembers rest (Json.insertSorted r v out)

/-- The text of a frame: a map value with its top-level keys in camel case. -/
def camelFrame (v : Json) : Except Mismatch String :=
  match v with
  | .obj fields => do
    let out ← renameMembers fields []
    .ok (Json.obj out).render
  | other => .ok other.render

/-- The frame of a payload of any type: `toValue` makes its map value and
`camelFrame` writes it; a payload that `toValue` refuses is refused with the
serializer's own fault. -/
def camelCaseJson {α : Type} (toValue : α → Except Mismatch Json) (payload : α) :
    Except Mismatch String := do
  camelFrame (← toValue payload)

end TopicHub.Naming
