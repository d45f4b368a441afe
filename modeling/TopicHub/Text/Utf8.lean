/-
  Text/Utf8.lean --- bytes read as UTF-8, with replacement.

  `decodeLossy` reads bytes as UTF-8 and puts one U+FFFD in place of each
  maximal part of an ill-formed sequence: a byte that cannot start a
  character, or a start byte with the continuation bytes that were valid for
  it before one that was not.  The byte that was not valid is read again as a
  start.  Well-formed input is decoded exactly.
-/

set_option autoImplicit false

namespace TopicHub.Text

/-- The replacement character. -/
def replacement : Char := Char.ofNat 0xFFFD

/-- The ranges the continuation bytes after a start byte must lie in, or
`none` when the byte cannot start a character.  ASCII has none. -/
def continuationRanges (b : Nat) : Option (List (Nat × Nat)) :=
  if b < 0x80 then some []
  else if 0xC2 ≤ b ∧ b ≤ 0xDF then some [(0x80, 0xBF)]
  else if b = 0xE0 then some [(0xA0, 0xBF), (0x80, 0xBF)]
  else if b = 0xED then some [(0x80, 0x9F), (0x80, 0xBF)]
  else if 0xE1 ≤ b ∧ b ≤ 0xEF then some [(0x80, 0xBF), (0x80, 0xBF)]
  else if b = 0xF0 then some [(0x90, 0xBF), (0x80, 0xBF), (0x80, 0xBF)]
  else if 0xF1 ≤ b ∧ b ≤ 0xF3 then some [(0x80, 0xBF), (0x80, 0xBF), (0x80, 0xBF)]
  else if b = 0xF4 then some [(0x80, 0x8F), (0x80, 0xBF), (0x80, 0xBF)]
  else none

/-- The bits a start byte contributes. -/
def startBits (b : Nat) : Nat :=
  if b < 0x80 then b else if b < 0xE0 then b % 0x20 else if b < 0xF0 then b % 0x10 else b % 0x08

/-- Takes continuation bytes in their ranges: the code point built so far, or
`none` with the bytes left when one is out of range or missing. -/
def takeContinuations : List (Nat × Nat) → Nat → List Nat → Option Nat × List Nat
  | [], acc, bs => (some acc, bs)
  | (lo, hi) :: more, acc, b :: bs =>
    if lo ≤ b ∧ b ≤ hi then takeContinuations more (acc * 64 + b % 64) bs else (none, b :: bs)
  | _ :: _, _, [] => (none, [])

/-- Taking continuation bytes never leaves more bytes than it was given. -/
theorem takeContinuations_rest_length (ranges : List (Nat × Nat)) (acc : Nat) (bs : List Nat) :
    (takeContinuations ranges acc bs).2.length ≤ bs.length := by
  induction ranges generalizing acc bs with
  | nil => exact Nat.le_refl _
  | cons p more ih =>
    obtain ⟨lo, hi⟩ := p
    cases bs with
    | nil => exact Nat.le_refl _
    | cons b bs =>
      simp only [takeContinuations]
      split
      · exact Nat.le_succ_of_le (ih _ _)
      · exact Nat.le_refl _

/-- The bytes left after taking continuation bytes are no more than those given. -/
theorem takeContinuations_length {ranges : List (Nat × Nat)} {acc : Nat} {bs rest : List Nat}
    {r : Option Nat} (h : takeContinuations ranges acc bs = (r, rest)) :
    rest.length ≤ bs.length := by
  have bound := takeContinuations_rest_length ranges acc bs
  rw [h] at bound
  exact bound

/-- Decodes bytes as UTF-8, replacing ill-formed parts. -/
def decodeLossy : List Nat → List Char
  | [] => []
  | b :: bs =>
    match continuationRanges b with
    | none => replacement :: decodeLossy bs
    | some ranges =>
      match h : takeContinuations ranges (startBits b) bs with
      | (some cp, rest) =>
        have : rest.length ≤ bs.length := takeContinuations_length h
        Char.ofNat cp :: decodeLossy rest
      | (none, rest) =>
        have : rest.length ≤ bs.length := takeContinuations_length h
        replacement :: decodeLossy rest
termination_by bs => bs.length

/-- The UTF-8 bytes of a string. -/
def utf8Bytes (s : String) : List Nat := s.toUTF8.toList.map (·.toNat)

end TopicHub.Text
