/-
  Decimal/Shortest.lean --- the fewest decimal digits that read back as a given
  binary64 value.

  A finite double stands for every real that rounds to it: the interval from
  halfway to its lower neighbour to halfway to its upper neighbour, both ends
  included exactly when the mantissa is even (rounding to nearest, ties to
  even).  `Binary.readsBack` is that test, done by cross-multiplying naturals.

  `Binary.shortest` searches the decimal grids 10^(k-1), 10^(k-2), ... below the
  value's scale `k` and returns the first grid point that reads back; of the
  value's two neighbours on a grid the nearer wins, and an exact tie goes as the
  caller's `Tie` says.  The search is the specification turned into a loop, over
  `Nat` and `Int` only, so every step is visible to proofs.
-/

set_option autoImplicit false

namespace TopicHub.Decimal

/-- A finite non-negative binary64 value, `m * 2^q`. -/
structure Binary where
  m : Nat
  q : Int
  /-- the gap to the value below is half the gap to the value above -/
  narrowBelow : Bool
  deriving Repr, DecidableEq

/-- The magnitude of a finite value, read from its bits. NaN and the infinities
are no such value: callers test for them first. -/
def Binary.ofBits (b : UInt64) : Binary :=
  let e := ((b >>> 52) &&& 0x7FF).toNat
  let f := (b &&& 0xFFFFFFFFFFFFF).toNat
  if e == 0 then ⟨f, -1074, false⟩ else ⟨Nat.pow 2 52 + f, (e : Int) - 1075, f == 0 && e > 1⟩

/-- A decimal `digits * 10^exp`. -/
structure Dec where
  digits : Nat
  exp : Int
  deriving Repr, DecidableEq

/-- How a value exactly halfway between two candidates of one grid is settled. -/
inductive Tie where
  /-- the candidate with the even last digit -/
  | toEven
  /-- the candidate of larger magnitude -/
  | awayFromZero
  /-- the even candidate when the tie is recognised as exact
  (`Binary.tiesExact`), the candidate of larger magnitude otherwise -/
  | toEvenWhenExact
  deriving Repr, DecidableEq

/-- Whether an exact tie of `x` is told from one just above it.  The digit
search works on `4m * 2^e` with `e = q - 2` and first drops a block of decimal
digits from it: `⌊e log10 2⌋`, one less past `e = 3`, for `e ≥ 0`, and
`⌊-e log10 5⌋`, one less past `-e = 1`, for `e < 0`.  Whether that block was
all zeros is kept only while it is at most 21 digits (for `e ≥ 0`) or under
63 (for `e < 0`); beyond, a last dropped digit of 5 always rounds up. -/
def Binary.tiesExact (x : Binary) : Bool :=
  let e := x.q - 2
  if 0 ≤ e then
    let n := e.toNat
    (n * 78913) / Nat.pow 2 18 - (if n > 3 then 1 else 0) ≤ 21
  else
    let n := (-e).toNat
    (n * 732923) / Nat.pow 2 20 - (if n > 1 then 1 else 0) < 63

/-- Compare `a * 10^i` with `n * 2^j`, exactly. -/
def cmpScaled (a : Nat) (i : Int) (n : Nat) (j : Int) : Ordering :=
  compare (a * Nat.pow 10 i.toNat * Nat.pow 2 (-j).toNat) (n * Nat.pow 2 j.toNat * Nat.pow 10 (-i).toNat)

/-- The specification: `d` lies among the reals that round to `x` (to nearest,
ties to even). -/
def Binary.readsBack (x : Binary) (d : Dec) : Bool :=
  let lo := if x.narrowBelow then 4 * x.m - 1 else 4 * x.m - 2
  let hi := 4 * x.m + 2
  let incl := x.m % 2 == 0
  let cl := cmpScaled d.digits d.exp lo (x.q - 2)
  let ch := cmpScaled d.digits d.exp hi (x.q - 2)
  (cl == .gt || (incl && cl == .eq)) && (ch == .lt || (incl && ch == .eq))

/-- `10^k` exceeds the value. -/
def Binary.below (x : Binary) (k : Int) : Bool :=
  cmpScaled 1 k x.m x.q == .gt

/-- The least `k` from `start` upwards with `10^k` above the value, trying at
most `fuel` exponents. -/
def Binary.scaleFrom (x : Binary) (start : Int) : Nat → Int
  | 0 => start
  | fuel + 1 => if x.below start then start else x.scaleFrom (start + 1) fuel

/-- The least `k` with `m * 2^q < 10^k`.  The start is two below an estimate
from the binary logarithm (log10 2 is just above 0.301029), so the few steps
upwards always reach it. -/
def Binary.scale (x : Binary) : Int :=
  let bits : Int := (x.m.log2 : Int) + x.q
  x.scaleFrom ((bits * 301029) / 1000000 - 2) 12

/-- The value's lower neighbour on the grid `10^e`: `⌊m * 2^q / 10^e⌋`. -/
def Binary.floorOnGrid (x : Binary) (e : Int) : Nat :=
  (x.m * Nat.pow 2 x.q.toNat * Nat.pow 10 (-e).toNat) / (Nat.pow 2 (-x.q).toNat * Nat.pow 10 e.toNat)

/-- Of the value's two neighbours on the grid `10^e`, the one that reads back;
of two, the nearer; of two equally near, the one `tie` names. -/
def Binary.onGrid (x : Binary) (tie : Tie) (e : Int) : Option Dec :=
  let lo := x.floorOnGrid e
  let a : Dec := ⟨lo, e⟩
  let b : Dec := ⟨lo + 1, e⟩
  match x.readsBack a, x.readsBack b with
  | true, true =>
    -- twice the value against the sum of the two candidates
    match cmpScaled (2 * lo + 1) e (2 * x.m) x.q with
    | .gt => some a
    | .lt => some b
    | .eq =>
      match tie with
      | .toEven => if lo % 2 == 0 then some a else some b
      | .awayFromZero => some b
      | .toEvenWhenExact => if x.tiesExact ∧ lo % 2 == 0 then some a else some b
  | true, false => some a
  | false, true => some b
  | false, false => none

/-- Moves trailing zeros of the digits into the exponent. -/
def Dec.strip (d : Dec) : Dec :=
  if h : d.digits ≠ 0 ∧ d.digits % 10 = 0 then
    Dec.strip ⟨d.digits / 10, d.exp + 1⟩
  else d
termination_by d.digits
decreasing_by exact Nat.div_lt_self (Nat.pos_of_ne_zero h.1) (by decide)

/-- The exact decimal value of `m * 2^q`. -/
def Binary.exact (x : Binary) : Dec :=
  if 0 ≤ x.q then ⟨x.m * Nat.pow 2 x.q.toNat, 0⟩ else ⟨x.m * Nat.pow 5 (-x.q).toNat, x.q⟩

/-- The fewest digits that read back as `x`, the nearest of those, trailing zeros
stripped.  Zero is `⟨0, 0⟩`.  Seventeen digits always read back, so the exact
value is only a bound on the search and is never reached. -/
def Binary.shortest (x : Binary) (tie : Tie) : Dec :=
  if x.m = 0 then ⟨0, 0⟩ else
    let k := x.scale
    match (List.range 17).findSome? (fun (i : Nat) => x.onGrid tie (k - ((i : Int) + 1))) with
    | some d => d.strip
    | none => x.exact.strip

end TopicHub.Decimal
