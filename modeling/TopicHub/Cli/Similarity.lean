/-
  Cli/Similarity.lean --- how alike two words are, for suggestions.

  `jaro` is the Jaro similarity of two words: with `m` characters matching
  within half the longer length (less one) of their position, and `t` half
  the matches out of order, it is `(m/|a| + m/|b| + (m - t)/m) / 3`, and zero
  without matches, computed in doubles.  A word is
  suggested for another when their similarity is above 0.7; of several, the
  most similar comes last.
-/

set_option autoImplicit false

namespace TopicHub.Cli

/-- Marks, for each character of `a`, whether it matches a character of `b`
within `range` of its position not matched before; and the marks of `b`. -/
def matchMarks (a b : List Char) (range : Nat) : List Bool × List Bool :=
  let step (acc : List Bool × List Bool) (p : Char × Nat) : List Bool × List Bool :=
    let (aMarks, bMarks) := acc
    let (c, i) := p
    let lo := i - range
    let hi := min b.length (i + range + 1)
    let found := (b.zipIdx.take hi).find? fun (d, j) => lo ≤ j ∧ d = c ∧ bMarks[j]? = some false
    match found with
    | some (_, j) => (aMarks ++ [true], bMarks.set j true)
    | none => (aMarks ++ [false], bMarks)
  a.zipIdx.foldl step ([], List.replicate b.length false)

/-- The characters of two words that match, and half the matched pairs that
are out of order. -/
def matchCounts (a b : List Char) : Nat × Nat :=
  let range := max a.length b.length / 2 - 1
  let (aMarks, bMarks) := matchMarks a b range
  let aMatched := (a.zip aMarks).filterMap fun (c, m) => if m then some c else none
  let bMatched := (b.zip bMarks).filterMap fun (c, m) => if m then some c else none
  (aMatched.length, ((aMatched.zip bMatched).filter fun (x, y) => x ≠ y).length / 2)

/-- The Jaro similarity of two words, each step rounded to a double as the
score is kept in doubles: a score that is 0.7 in exact arithmetic may come
out just above it. -/
def jaro (a b : List Char) : Float :=
  if a.isEmpty ∧ b.isEmpty then 1
  else if a.isEmpty ∨ b.isEmpty then 0
  else
    let (m, t) := matchCounts a b
    if m = 0 then 0
    else
      let mf := m.toFloat
      (mf / a.length.toFloat + mf / b.length.toFloat + (m - t).toFloat / mf) / 3

/-- The similarity is above 0.7. -/
def similar (a b : String) : Bool := jaro a.toList b.toList > 0.7

/-- Inserts a candidate by similarity, after those not more similar. -/
def insertBySimilarity (c : Float × String) : List (Float × String) → List (Float × String)
  | [] => [c]
  | x :: rest =>
    -- x comes first when it is no more similar than c
    if x.1 ≤ c.1 then x :: insertBySimilarity c rest else c :: x :: rest

/-- The candidates similar to a word, from the least to the most similar;
equally similar ones keep their order. -/
def suggestions (word : String) (candidates : List String) : List String :=
  let scored := (candidates.filter (similar word)).map fun c => (jaro word.toList c.toList, c)
  (scored.foldl (fun acc c => insertBySimilarity c acc) []).map (·.2)

end TopicHub.Cli
