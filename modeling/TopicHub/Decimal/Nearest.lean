/-
  Decimal/Nearest.lean --- the double nearest to a decimal.

  `nearest m e` is the double closest to `m · 10^e`, a tie going to the even
  significand, computed with exact integer arithmetic: the value is the ratio
  `num / den`, the quantum `2^k` is chosen so that the significand has 53 bits
  (or the quantum is the smallest one, for subnormals), and the quotient is
  rounded by comparing twice the remainder with the divisor.  Values past the
  largest double are infinite.
-/

set_option autoImplicit false

namespace TopicHub.Decimal

/-- `⌊log₂ (num / den)⌋` for positive `num` and `den`. -/
def floorLog2Ratio (num den : Nat) : Int :=
  let l : Int := (Nat.log2 num : Int) - (Nat.log2 den : Int)
  if num * Nat.pow 2 (-l).toNat ≥ den * Nat.pow 2 l.toNat then l else l - 1

/-- The smallest exponent of a quantum: that of the least subnormal. -/
def minQuantum : Int := -1074

/-- The largest exponent of a quantum of a finite double. -/
def maxQuantum : Int := 971

/-- The bits of the double `q · 2^k`, where `q < 2^53` and `k` is at least the
smallest quantum, a significand below `2^52` only with the smallest quantum. -/
def packBits (q : Nat) (k : Int) : UInt64 :=
  if q < Nat.pow 2 52 then UInt64.ofNat q
  else UInt64.ofNat (((k + 1075).toNat <<< 52) + (q - Nat.pow 2 52))

/-- The double nearest to `num / den`, for positive `num` and `den`. -/
def nearestRatio (num den : Nat) : Float :=
  let k := max (floorLog2Ratio num den - 52) minQuantum
  let n := num * Nat.pow 2 (-k).toNat
  let d := den * Nat.pow 2 k.toNat
  let q := n / d
  let r := n % d
  let q := if 2 * r > d ∨ (2 * r = d ∧ q % 2 = 1) then q + 1 else q
  let (q, k) := if q = Nat.pow 2 53 then (Nat.pow 2 52, k + 1) else (q, k)
  if k > maxQuantum then Float.ofBits 0x7FF0000000000000 else Float.ofBits (packBits q k)

/-- The most decimal digits past which a value is surely infinite or zero. -/
def decimalReach : Int := 400

/-- The double nearest to `m · 10^e`, ties to even. -/
def nearest (m : Nat) (e : Int) : Float :=
  if m = 0 then 0.0
  else
    let width : Int := (Nat.repr m).length
    if width + e > decimalReach then Float.ofBits 0x7FF0000000000000
    else if width + e < -decimalReach then 0.0
    else nearestRatio (m * Nat.pow 10 e.toNat) (Nat.pow 10 (-e).toNat)

/-- A double with its sign flipped when `neg`. -/
def withSign (neg : Bool) (x : Float) : Float := if neg then -x else x

end TopicHub.Decimal
