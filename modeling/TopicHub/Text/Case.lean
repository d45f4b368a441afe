/-
  Text/Case.lean --- letter case of Unicode characters.

  `isUpper` and `isLower` are the derived properties Uppercase and Lowercase;
  as in the standard library, an ASCII character is decided by its range alone
  and only the others are looked up in the tables, which agree with those
  ranges below U+0080.
  `lower` and `upper` are the full case mappings of one character, without
  context, so a character may map to several (`İ` lowers to `i` and a combining
  dot, `ß` uppers to `SS`).  Their data is in `Text/CaseData`.
-/
import TopicHub.Text.Table
import TopicHub.Text.CaseData

set_option autoImplicit false

namespace TopicHub.Text

/-- A run of a case mapping: every `stride`-th code point from `lo` to `hi` maps
to itself plus `delta`. -/
structure CaseRun where
  lo : Nat
  hi : Nat
  stride : Nat
  delta : Int

/-- Reads runs written `lo.hi.stride.delta`, the delta signed. -/
def CaseRun.ofData (data : String) : Array CaseRun :=
  ((data.splitOn ",").filter (· ≠ "")).toArray.map fun item =>
    match item.splitOn "." with
    | [a, b, s, d] =>
      let mag : Int := hexValue (d.toList.drop 1)
      let delta := if d.toList.head? = some '-' then -mag else mag
      ⟨hexValue a.toList, hexValue b.toList, hexValue s.toList, delta⟩
    | _ => ⟨1, 0, 1, 0⟩

/-- Reads mappings to several characters, written `code:target target`. -/
def multiOfData (data : String) : List (Nat × List Nat) :=
  ((data.splitOn ",").filter (· ≠ "")).map fun item =>
    match item.splitOn ":" with
    | [a, b] => (hexValue a.toList, ((b.splitOn " ").filter (· ≠ "")).map (hexValue ·.toList))
    | _ => (0, [])

/-- The code points with the property Uppercase. -/
def uppercaseRanges : Ranges := Ranges.ofData uppercaseData

/-- The code points with the property Lowercase. -/
def lowercaseRanges : Ranges := Ranges.ofData lowercaseData

/-- The one-character lower-case mapping. -/
def lowerRuns : Array CaseRun := CaseRun.ofData lowerRunData

/-- The one-character upper-case mapping. -/
def upperRuns : Array CaseRun := CaseRun.ofData upperRunData

/-- Lower-case mappings to several characters. -/
def lowerMulti : List (Nat × List Nat) := multiOfData lowerMultiData

/-- Upper-case mappings to several characters. -/
def upperMulti : List (Nat × List Nat) := multiOfData upperMultiData

/-- The character has the property Uppercase. -/
def isUpper (c : Char) : Bool :=
  if c.toNat < 0x80 then decide ('A' ≤ c ∧ c ≤ 'Z') else uppercaseRanges.mem c.toNat

/-- The character has the property Lowercase. -/
def isLower (c : Char) : Bool :=
  if c.toNat < 0x80 then decide ('a' ≤ c ∧ c ≤ 'z') else lowercaseRanges.mem c.toNat

/-- A case mapping of one character: a mapping to several first, then the runs,
and the character itself where neither has it. -/
def mapCase (multi : List (Nat × List Nat)) (runs : Array CaseRun) (c : Char) : List Char :=
  let n := c.toNat
  match multi.find? (·.1 == n) with
  | some (_, targets) => targets.map Char.ofNat
  | none =>
    match runs.find? (fun r => r.lo ≤ n ∧ n ≤ r.hi ∧ (n - r.lo) % r.stride == 0) with
    | some r => [Char.ofNat ((n : Int) + r.delta).toNat]
    | none => [c]

/-- The full lower case of a character. -/
def lower (c : Char) : List Char := mapCase lowerMulti lowerRuns c

/-- The full upper case of a character. -/
def upper (c : Char) : List Char := mapCase upperMulti upperRuns c

/-- The character has the property White_Space. -/
def isWhiteSpace (c : Char) : Bool :=
  let n := c.toNat
  (0x09 ≤ n ∧ n ≤ 0x0D) ∨ n = 0x20 ∨ n = 0x85 ∨ n = 0xA0 ∨ n = 0x1680 ∨ (0x2000 ≤ n ∧ n ≤ 0x200A) ∨
    n = 0x2028 ∨ n = 0x2029 ∨ n = 0x202F ∨ n = 0x205F ∨ n = 0x3000

/-- The full lower case of a text, character by character. -/
def lowerText (s : String) : String := String.ofList (s.toList.flatMap lower)

end TopicHub.Text
