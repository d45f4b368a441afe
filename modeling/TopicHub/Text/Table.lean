/-
  Text/Table.lean --- reading the compact tables of character data.

  A table of ranges is text such as `41-5a,c0`: hexadecimal code points, a
  range written `lo-hi` and a single point alone, separated by commas, in
  increasing order.  `Ranges.mem` finds a code point by halving the table.
-/

set_option autoImplicit false

namespace TopicHub.Text

/-- The value of a hexadecimal numeral; a character that is no hex digit counts
as zero. -/
def hexValue (cs : List Char) : Nat :=
  cs.foldl (fun acc c =>
    let d :=
      if '0' ≤ c ∧ c ≤ '9' then c.toNat - '0'.toNat
      else if 'a' ≤ c ∧ c ≤ 'f' then c.toNat - 'a'.toNat + 10
      else if 'A' ≤ c ∧ c ≤ 'F' then c.toNat - 'A'.toNat + 10
      else 0
    acc * 16 + d) 0

/-- Closed ranges of code points, in increasing order. -/
abbrev Ranges := Array (Nat × Nat)

/-- Reads a table of ranges. -/
def Ranges.ofData (data : String) : Ranges :=
  ((data.splitOn ",").filter (· ≠ "")).toArray.map fun item =>
    match item.splitOn "-" with
    | [a, b] => (hexValue a.toList, hexValue b.toList)
    | _ => (hexValue item.toList, hexValue item.toList)

/-- Whether `c` lies in one of the ranges from index `lo` up to (excluding) `hi`. -/
def Ranges.memBetween (rs : Ranges) (c : Nat) (lo hi : Nat) : Bool :=
  if _h : lo < hi then
    let mid := (lo + hi) / 2
    match rs[mid]? with
    | none => false
    | some (a, b) =>
      if c < a then rs.memBetween c lo mid
      else if b < c then rs.memBetween c (mid + 1) hi
      else true
  else false
termination_by hi - lo

/-- Whether `c` lies in one of the ranges. -/
def Ranges.mem (rs : Ranges) (c : Nat) : Bool := rs.memBetween c 0 rs.size

end TopicHub.Text
