import FrameScope.Verified.Checked

/-!
# Bilinear interpolation in fixed point

Four bytes at the corners of a cell, blended by fractions of `2 ^ 16` along
both axes and rounded to the nearest.  The weights of a blend add up to
`2 ^ 16`, so no blend leaves the range of its arguments, and the rounding
cannot leave it either.  All of it fits 64 bits.
-/

namespace FrameScope.Verified.Bilinear

open FrameScope.Verified.Checked

/-- Two values blended by a fraction of `2 ^ 16`. -/
def blend (first second fraction : Nat) : Nat := first * (65536 - fraction) + second * fraction

/-- Four values blended in both directions and rounded, as a byte. -/
def bilinear (p00 p10 p01 p11 fx fy : Nat) : Nat :=
  min ((blend (blend p00 p10 fx) (blend p01 p11 fx) fy + 2 ^ 31) / 2 ^ 32) 255

section Range

variable {first second fraction bound : Nat}

theorem blend_le (hFraction : fraction ≤ 65536) (hFirst : first ≤ bound)
    (hSecond : second ≤ bound) : blend first second fraction ≤ bound * 65536 := by
  calc blend first second fraction
      ≤ bound * (65536 - fraction) + bound * fraction :=
        Nat.add_le_add (Nat.mul_le_mul_right _ hFirst) (Nat.mul_le_mul_right _ hSecond)
    _ = bound * 65536 := by rw [← Nat.mul_add, Nat.sub_add_cancel hFraction]

theorem le_blend (hFraction : fraction ≤ 65536) (hFirst : bound ≤ first)
    (hSecond : bound ≤ second) : bound * 65536 ≤ blend first second fraction := by
  calc bound * 65536
      = bound * (65536 - fraction) + bound * fraction := by
        rw [← Nat.mul_add, Nat.sub_add_cancel hFraction]
    _ ≤ blend first second fraction :=
        Nat.add_le_add (Nat.mul_le_mul_right _ hFirst) (Nat.mul_le_mul_right _ hSecond)

variable {p00 p10 p01 p11 fx fy : Nat}

theorem bilinear_le (hFx : fx ≤ 65536) (hFy : fy ≤ 65536) (h00 : p00 ≤ bound) (h10 : p10 ≤ bound)
    (h01 : p01 ≤ bound) (h11 : p11 ≤ bound) : bilinear p00 p10 p01 p11 fx fy ≤ bound := by
  have hValue := blend_le hFy (blend_le hFx h00 h10) (blend_le hFx h01 h11)
  unfold bilinear
  omega

theorem le_bilinear (hFx : fx ≤ 65536) (hFy : fy ≤ 65536) (hBound : bound ≤ 255)
    (h00 : bound ≤ p00) (h10 : bound ≤ p10) (h01 : bound ≤ p01) (h11 : bound ≤ p11) :
    bound ≤ bilinear p00 p10 p01 p11 fx fy := by
  have hValue := le_blend hFy (le_blend hFx h00 h10) (le_blend hFx h01 h11)
  unfold bilinear
  omega

end Range

/-! ## On machine integers -/

/-- `blend` in 64 bits. -/
def checkedBlend (first second fraction : Nat) : Option Nat := do
  let rest ← sub 65536 fraction
  let firstPart ← mul 64 first rest
  let secondPart ← mul 64 second fraction
  add 64 firstPart secondPart

/-- `bilinear` in 64 bits. -/
def checkedBilinear (p00 p10 p01 p11 fx fy : Nat) : Option Nat := do
  let top ← checkedBlend p00 p10 fx
  let bottom ← checkedBlend p01 p11 fx
  let value ← checkedBlend top bottom fy
  let rounded ← add 64 value (2 ^ 31)
  some (min (rounded / 2 ^ 32) 255)

theorem checkedBlend_of {first second fraction bound : Nat} (hFraction : fraction ≤ 65536)
    (hFirst : first ≤ bound) (hSecond : second ≤ bound) (hBound : bound < 2 ^ 48) :
    checkedBlend first second fraction = some (blend first second fraction) := by
  have hSum := blend_le hFraction hFirst hSecond
  unfold blend at hSum ⊢
  apply bind_of (sub_of hFraction)
  apply bind_of (mul_of (by omega))
  apply bind_of (mul_of (by omega))
  exact add_of (by omega)

/-- On bytes the interpolation does not overflow. -/
theorem checkedBilinear_of {p00 p10 p01 p11 fx fy : Nat} (hFx : fx ≤ 65536) (hFy : fy ≤ 65536)
    (h00 : p00 ≤ 255) (h10 : p10 ≤ 255) (h01 : p01 ≤ 255) (h11 : p11 ≤ 255) :
    checkedBilinear p00 p10 p01 p11 fx fy = some (bilinear p00 p10 p01 p11 fx fy) := by
  have hTop := blend_le hFx h00 h10
  have hBottom := blend_le hFx h01 h11
  have hValue := blend_le hFy hTop hBottom
  apply bind_of (checkedBlend_of hFx h00 h10 (by decide))
  apply bind_of (checkedBlend_of hFx h01 h11 (by decide))
  apply bind_of (checkedBlend_of hFy hTop hBottom (by decide))
  exact bind_of (add_of (by omega)) rfl

end FrameScope.Verified.Bilinear
