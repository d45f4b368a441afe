/-
  Proofs/BandOrder.lean --- a higher reading never falls in a lower band.

  `Threshold.band` tries four tests in turn (below `warnMin`, below `goodMin`,
  up to `goodMax`, up to `warnMax`) and answers with the band of the first
  that passes, critically high when none does.  Nothing orders the bounds,
  and any of them may be NaN.  What makes the bands rise with the value
  anyway is that each test admits a set of values closed downwards
  (`Threshold.admits_of_le`): a NaN bound admits nothing, and a value at
  most an admitted one is admitted, by the transitivity of the order of
  doubles (`Numeric.lt_of_le_of_lt`, `Numeric.le_trans`).  A value passes
  the test of its own band (`Threshold.admits_band`), and its band is at
  most that of any test it passes, since the tests are tried from the
  lowest band (`Threshold.band_le_of_admits`).  Together:
  `Threshold.band_mono`.
-/
import Mathlib.Tactic.SplitIfs
import TopicHub.Telemetry.Threshold

set_option autoImplicit false

namespace TopicHub.Numeric

variable {x y z : Float}

/-- A value at most one below a bound is below it. -/
theorem lt_of_le_of_lt (hxy : le x y = true) (hyz : lt y z = true) : lt x z = true := by
  simp only [le, lt, Bool.and_eq_true, Bool.not_eq_eq_eq_not, Bool.not_true,
    decide_eq_true_eq] at hxy hyz ⊢
  obtain ⟨⟨hx, -⟩, hkxy⟩ := hxy
  obtain ⟨⟨-, hz⟩, hkyz⟩ := hyz
  exact ⟨⟨hx, hz⟩, Int.lt_of_le_of_lt hkxy hkyz⟩

/-- The order of doubles that are not NaN is transitive. -/
theorem le_trans (hxy : le x y = true) (hyz : le y z = true) : le x z = true := by
  simp only [le, Bool.and_eq_true, Bool.not_eq_eq_eq_not, Bool.not_true,
    decide_eq_true_eq] at hxy hyz ⊢
  obtain ⟨⟨hx, -⟩, hkxy⟩ := hxy
  obtain ⟨⟨-, hz⟩, hkyz⟩ := hyz
  exact ⟨⟨hx, hz⟩, Int.le_trans hkxy hkyz⟩

end TopicHub.Numeric

namespace TopicHub.Telemetry

/-- The place of a band in `Band.all`, from the lowest. -/
def Band.rank (b : Band) : Nat := Band.all.idxOf b

/-- Bands are ordered from critically low to critically high. -/
instance : LE Band := ⟨fun a b => a.rank ≤ b.rank⟩

instance (a b : Band) : Decidable (a ≤ b) := inferInstanceAs (Decidable (a.rank ≤ b.rank))

namespace Threshold

variable (t : Threshold) {v w : Float}

/-- The test that sends a value to a band: below `warnMin` for critically
low, below `goodMin` for low, up to `goodMax` for good and up to `warnMax`
for high.  Every value passes the test of critically high. -/
def admits : Band → Float → Bool
  | .criticalLow, v => Numeric.lt v t.warnMin
  | .warningLow, v => Numeric.lt v t.goodMin
  | .good, v => Numeric.le v t.goodMax
  | .warningHigh, v => Numeric.le v t.warnMax
  | .criticalHigh, _ => true

/-- A value passes the test of its own band. -/
theorem admits_band (v : Float) : t.admits (t.band v) v = true := by
  unfold band
  split_ifs <;> simp_all [admits]

/-- A value's band is at most any band whose test it passes: the tests are
tried from the lowest band up. -/
theorem band_le_of_admits {b : Band} (h : t.admits b v = true) : t.band v ≤ b := by
  cases b with
  | criticalLow =>
    simp only [admits] at h
    simp only [band, h, if_true]
    decide
  | warningLow =>
    simp only [admits] at h
    simp only [band, h, if_true]
    split <;> decide
  | good =>
    simp only [admits] at h
    simp only [band, h, if_true]
    split_ifs <;> decide
  | warningHigh =>
    simp only [admits] at h
    simp only [band, h, if_true]
    split_ifs <;> decide
  | criticalHigh =>
    unfold band
    split_ifs <;> decide

/-- Each test admits a set of values closed downwards, whatever the bounds. -/
theorem admits_of_le {b : Band} (hvw : Numeric.le v w = true) (h : t.admits b w = true) :
    t.admits b v = true := by
  cases b with
  | criticalLow => exact Numeric.lt_of_le_of_lt hvw h
  | warningLow => exact Numeric.lt_of_le_of_lt hvw h
  | good => exact Numeric.le_trans hvw h
  | warningHigh => exact Numeric.le_trans hvw h
  | criticalHigh => rfl

/-- Bands rise with the value: for any bounds, ordered or not and NaN
included, a value at most another (`Numeric.le`, so neither is NaN) falls in
a band at most the other's, and so does its evaluation. -/
theorem band_mono (hvw : Numeric.le v w = true) :
    t.band v ≤ t.band w ∧ (t.evaluate v).band ≤ (t.evaluate w).band := by
  have hband : t.band v ≤ t.band w :=
    t.band_le_of_admits (t.admits_of_le hvw (t.admits_band w))
  exact ⟨hband, hband⟩

/-- Bounds out of order and two of them NaN, so that no value is good: 5 is
low and 25 critically high (the bits of 5.0, 10.0, 20.0, 25.0 and a quiet
NaN). -/
theorem band_mono_unordered_bounds :
    let t : Threshold := ⟨"temperature", Float.ofBits 0x7FF8000000000000, Float.ofBits 0x4034000000000000,
      Float.ofBits 0x4024000000000000, Float.ofBits 0x7FF8000000000000⟩
    let v := Float.ofBits 0x4014000000000000
    let w := Float.ofBits 0x4039000000000000
    Numeric.le v w = true ∧ t.band v ≤ t.band w ∧ (t.evaluate v).band ≤ (t.evaluate w).band :=
  ⟨by decide, band_mono _ (by decide)⟩

end Threshold

end TopicHub.Telemetry
