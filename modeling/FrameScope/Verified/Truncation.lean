import Mathlib

/-!
# Truncation towards zero

The integer part of a number in an ordered field, rounded down when the number
is not negative and up when it is.  It keeps the order through the sign change,
and of a quotient of integers it is the machine's integer division.
-/

namespace FrameScope.Verified.Truncation

variable {K : Type} [Field K] [LinearOrder K] [IsStrictOrderedRing K] [FloorRing K]

/-- `x` without its fraction. -/
def truncate (x : K) : ℤ := if 0 ≤ x then ⌊x⌋ else ⌈x⌉

omit [IsStrictOrderedRing K] in
theorem truncate_of_nonneg {x : K} (h : 0 ≤ x) : truncate x = ⌊x⌋ := if_pos h

theorem truncate_of_nonpos {x : K} (h : x ≤ 0) : truncate x = ⌈x⌉ := by
  by_cases hZero : 0 ≤ x
  · have hIs : x = 0 := le_antisymm h hZero
    rw [truncate_of_nonneg hZero, hIs, Int.floor_zero, Int.ceil_zero]
  · exact if_neg hZero

theorem truncate_neg (x : K) : truncate (-x) = -truncate x := by
  rcases le_total 0 x with h | h
  · rw [truncate_of_nonpos (neg_nonpos.2 h), truncate_of_nonneg h, Int.ceil_neg]
  · rw [truncate_of_nonneg (neg_nonneg.2 h), truncate_of_nonpos h, Int.floor_neg]

/-- Truncation may merge two numbers but not swap them. -/
theorem truncate_mono : Monotone (truncate : K → ℤ) := by
  intro x y hLe
  rcases le_total 0 x with hX | hX
  · rw [truncate_of_nonneg hX, truncate_of_nonneg (hX.trans hLe)]
    exact Int.floor_mono hLe
  · rw [truncate_of_nonpos hX]
    rcases le_total 0 y with hY | hY
    · rw [truncate_of_nonneg hY]
      have hUp : ⌈x⌉ ≤ 0 := Int.ceil_le.2 (by simpa using hX)
      exact hUp.trans (Int.floor_nonneg.2 hY)
    · rw [truncate_of_nonpos hY]
      exact Int.ceil_mono hLe

private theorem floor_div {a b : ℤ} (hB : 0 < b) : ⌊(a : K) / b⌋ = a / b := by
  have hPos : (0 : K) < b := by exact_mod_cast hB
  have hBelow : a / b * b ≤ a := Int.ediv_mul_le a (by omega)
  have hAbove : a < (a / b + 1) * b := Int.lt_ediv_add_one_mul_self a hB
  rw [Int.floor_eq_iff, le_div_iff₀ hPos, div_lt_iff₀ hPos]
  exact ⟨by exact_mod_cast hBelow, by exact_mod_cast hAbove⟩

/-- Integer division truncates the quotient. -/
theorem truncate_div {a b : ℤ} (hB : 0 < b) : truncate ((a : K) / b) = a.tdiv b := by
  have hPos : (0 : K) ≤ b := by exact_mod_cast hB.le
  have hNonneg : ∀ a : ℤ, 0 ≤ a → truncate ((a : K) / b) = a.tdiv b := by
    intro a hA
    have hQuotient : (0 : K) ≤ (a : K) / b := div_nonneg (by exact_mod_cast hA) hPos
    rw [truncate_of_nonneg hQuotient, floor_div hB, Int.tdiv_eq_ediv_of_nonneg hA]
  rcases le_total 0 a with hA | hA
  · exact hNonneg a hA
  · have hMirror := hNonneg (-a) (by omega)
    rw [Int.cast_neg, neg_div, truncate_neg, Int.neg_tdiv] at hMirror
    exact neg_inj.1 hMirror

end FrameScope.Verified.Truncation
