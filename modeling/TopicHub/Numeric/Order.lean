/-
  Numeric/Order.lean --- the order of doubles, read from their bits.

  Two doubles compare as the reals they stand for: `-0.0` and `0.0` are equal,
  the infinities lie beyond every finite value, and NaN is unordered, so every
  comparison with it is false.  The order is computed on a key taken from the
  bits (the magnitude, negated when the sign bit is set), which keeps it in
  the logic where proofs can see it.
-/

set_option autoImplicit false

namespace TopicHub.Numeric

/-- The bits of a double that is NaN: all exponent bits set and a non-zero
fraction. -/
def isNaNBits (b : UInt64) : Bool :=
  (b >>> 52) &&& 0x7FF == 0x7FF && (b &&& 0xFFFFFFFFFFFFF) != 0

/-- The key of a double's bits: its magnitude bits, negated when negative.  On
values that are not NaN the keys are ordered as the values. -/
def orderKey (b : UInt64) : Int :=
  let magnitude : Int := (b &&& 0x7FFFFFFFFFFFFFFF).toNat
  if b >>> 63 == 1 then -magnitude else magnitude

/-- `x < y` for doubles; false when either is NaN. -/
def lt (x y : Float) : Bool :=
  !isNaNBits x.toBits && !isNaNBits y.toBits && decide (orderKey x.toBits < orderKey y.toBits)

/-- `x ≤ y` for doubles; false when either is NaN. -/
def le (x y : Float) : Bool :=
  !isNaNBits x.toBits && !isNaNBits y.toBits && decide (orderKey x.toBits ≤ orderKey y.toBits)

end TopicHub.Numeric
