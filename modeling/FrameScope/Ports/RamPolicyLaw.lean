import FrameScope.Ports.RamPolicy

/-!
# Budgets stay within the headroom

No step of the policy overflows: `resolve` returns the numbers `total` says, over
the integers (`resolve_eq`).  They are not negative, at most a gibibyte together,
and leave the reserve and as much again of what is available; they follow the
pressure scale and the available memory.
-/

namespace FrameScope.Ports.RamPolicyLaw

open FrameScope.Verified
open FrameScope.Ports.RamPolicy

/-! ## `Long` -/

section Long

variable {a b : Int}

theorem mulLong_of (h : 0 ≤ a * b) (hFits : a * b < 2 ^ 63) : mulLong a b = some (a * b) :=
  Checked.fitInt_of (by omega) (by omega)

theorem addLong_of (h : 0 ≤ a + b) (hFits : a + b < 2 ^ 63) : addLong a b = some (a + b) :=
  Checked.fitInt_of (by omega) (by omega)

theorem subLong_of (h : 0 ≤ a - b) (hFits : a - b < 2 ^ 63) : subLong a b = some (a - b) :=
  Checked.fitInt_of (by omega) (by omega)

theorem divLong_of (hb : 0 < b) (ha : 0 ≤ a) (hFits : a < 2 ^ 63) :
    divLong a b = some (a / b) := by
  have hNonneg : 0 ≤ a / b := Int.ediv_nonneg ha (by omega)
  have hLe : a / b ≤ a := Int.ediv_le_self b ha
  unfold divLong
  rw [if_neg (by omega), Int.tdiv_eq_ediv_of_nonneg ha]
  exact Checked.fitInt_of (by omega) (by omega)

theorem saturatingMultiply_of (h : 0 ≤ a * b) : saturatingMultiply a b = min (a * b) maxLong := by
  unfold saturatingMultiply maxLong
  by_cases hFits : a * b < 2 ^ 63
  · rw [mulLong_of h hFits, Option.getD_some]
    omega
  · unfold mulLong Checked.fitInt
    rw [if_neg (by omega), Option.getD_none]
    omega

end Long

/-! ## The numbers of a policy -/

section Numbers

variable (profile : RamAccelerationDeviceProfile)

/-- The largest of the reserves. -/
def reserve : Int :=
  max (max profile.totalRamBytes.toInt 0 / 8)
    (max (2 * max profile.lowMemoryThresholdBytes.toInt 0)
      (2 * mib * max profile.memoryClassMb.toInt 0))

/-- A part of what is available above the reserve, where that is known. -/
def headroom (divisor : Int) : Int :=
  if profile.availableRamBytes.toInt ≤ 0 then maxLong
  else max (profile.availableRamBytes.toInt - reserve profile) 0 / divisor

/-- A share of the physical memory up to a cap, or what is taken where it is low
or not known. -/
def physicalTarget (lowRam divisor cap unknown : Int) : Int :=
  if profile.lowRamDevice then lowRam * mib
  else if 0 < profile.totalRamBytes.toInt then
    min (profile.totalRamBytes.toInt / divisor) (cap * mib)
  else unknown * mib

def recommended : Int := max (min (physicalTarget profile 32 16 768 16) (headroom profile 3)) 0

def aggressive : Int := max (min (physicalTarget profile 64 12 1024 32) (headroom profile 2)) 0

def customMaximum : Int :=
  if profile.lowRamDevice then 128 * mib
  else if profile.totalRamBytes.toInt ≤ 0 then 128 * mib
  else max (min (profile.totalRamBytes.toInt / 8) (1024 * mib)) (16 * mib)

def requested (mode : RamAccelerationMode) (custom : Int32) : Int :=
  match mode with
  | .off => 0
  | .automatic => recommended profile
  | .aggressive => aggressive profile
  | .custom => min (coerceIn custom.toInt 16 1024 * mib) (customMaximum profile)

def headroomCap (mode : RamAccelerationMode) : Int :=
  match mode with
  | .off => 0
  | .automatic => maxLong
  | .aggressive => maxLong
  | .custom => headroom profile 2

/-- What a mode allows before the pressure. -/
def adjusted (mode : RamAccelerationMode) (custom : Int32) : Int :=
  max (min (requested profile mode custom) (headroomCap profile mode)) 0

/-- The pressure scale. -/
def pressureScale (scale : Int32) : Int :=
  if profile.systemLowMemory then 25 else coerceIn scale.toInt 25 100

/-- What is left of it under the pressure. -/
def total (mode : RamAccelerationMode) (custom scale : Int32) : Int :=
  adjusted profile mode custom * pressureScale profile scale / 100

/-- The budget of a request. -/
def budgetOf (mode : RamAccelerationMode) (custom scale : Int32) : RamAccelerationBudget where
  mode := mode
  requestedTotalBytes := requested profile mode custom
  sourceCacheBytes := total profile mode custom scale * 30 / 100
  previewCacheBytes :=
    total profile mode custom scale - total profile mode custom scale * 30 / 100
  recommendedTotalBytes := recommended profile
  aggressiveTotalBytes := aggressive profile
  customMaximumTotalBytes := customMaximum profile
  headroomLimited := decide (adjusted profile mode custom < requested profile mode custom)
  pressureReductionPercent :=
    if 0 < requested profile mode custom then 100 - pressureScale profile scale else 0

end Numbers

/-! ## The program computes them -/

section Values

variable (profile : RamAccelerationDeviceProfile)

theorem mib_eq : mib = 1048576 := rfl

theorem saturatingSubtract_of {this other : Int} (hThis : this < 2 ^ 63) (hOther : 0 ≤ other) :
    saturatingSubtract this other = some (max (this - other) 0) := by
  unfold saturatingSubtract
  split_ifs with h
  · rw [max_eq_right (by omega)]
  · rw [max_eq_left (by omega)]
    exact subLong_of (by omega) (by omega)

theorem physicalReserve_of {bytes : Int} (h : bytes < 2 ^ 63) :
    (if 0 < bytes then divLong bytes 8 else some 0) = some (max bytes 0 / 8) := by
  split_ifs with hPositive
  · rw [divLong_of (by omega) (by omega) h, max_eq_left (by omega)]
  · rw [max_eq_right (by omega)]
    rfl

theorem availableHeadroomBudget_eq {divisor : Int} (hDivisor : 0 < divisor) :
    availableHeadroomBudget profile divisor = some (headroom profile divisor) := by
  have hAvailable := profile.availableRamBytes.toInt_lt
  have hTotal := profile.totalRamBytes.toInt_lt
  unfold availableHeadroomBudget headroom
  by_cases hUnknown : profile.availableRamBytes.toInt ≤ 0
  · rw [if_pos hUnknown, if_pos hUnknown]
  · rw [if_neg hUnknown, if_neg hUnknown]
    have hPerClass : mulLong 2 mib = some (2 * mib) := rfl
    have hReserve : max (profile.availableRamBytes.toInt -
        max (max profile.totalRamBytes.toInt 0 / 8)
          (max (min (max profile.lowMemoryThresholdBytes.toInt 0 * 2) maxLong)
            (min (max profile.memoryClassMb.toInt 0 * (2 * mib)) maxLong))) 0 =
        max (profile.availableRamBytes.toInt - reserve profile) 0 := by
      unfold reserve maxLong
      rw [mib_eq]
      omega
    apply Checked.bind_of hPerClass
    apply Checked.bind_of (physicalReserve_of hTotal)
    rw [saturatingMultiply_of (by omega), saturatingMultiply_of (by rw [mib_eq]; omega)]
    apply Checked.bind_of (saturatingSubtract_of hAvailable (by omega))
    rw [hReserve, max_eq_left (le_max_right _ _)]
    apply divLong_of hDivisor (by omega)
    unfold reserve
    rw [mib_eq]
    omega

theorem headroom_nonneg {divisor : Int} (hDivisor : 0 < divisor) : 0 ≤ headroom profile divisor := by
  unfold headroom maxLong
  split_ifs
  · decide
  · exact Int.ediv_nonneg (le_max_right _ _) (by omega)

theorem recommendedTotalBytes_eq : recommendedTotalBytes profile = some (recommended profile) := by
  have hTotal := profile.totalRamBytes.toInt_lt
  unfold recommendedTotalBytes recommended physicalTarget
  rw [availableHeadroomBudget_eq profile (by decide)]
  cases hLow : profile.lowRamDevice with
  | true => rfl
  | false =>
      by_cases hKnown : 0 < profile.totalRamBytes.toInt
      · simp only [Bool.false_eq_true, if_false, if_pos hKnown]
        rw [divLong_of (by decide) (by omega) hTotal]
        rfl
      · simp only [Bool.false_eq_true, if_false, if_neg hKnown]
        rfl

theorem aggressiveTotalBytes_eq : aggressiveTotalBytes profile = some (aggressive profile) := by
  have hTotal := profile.totalRamBytes.toInt_lt
  unfold aggressiveTotalBytes aggressive physicalTarget
  rw [availableHeadroomBudget_eq profile (by decide)]
  cases hLow : profile.lowRamDevice with
  | true => rfl
  | false =>
      by_cases hKnown : 0 < profile.totalRamBytes.toInt
      · simp only [Bool.false_eq_true, if_false, if_pos hKnown]
        rw [divLong_of (by decide) (by omega) hTotal]
        rfl
      · simp only [Bool.false_eq_true, if_false, if_neg hKnown]
        rfl

theorem customMaximumTotalBytes_eq :
    customMaximumTotalBytes profile = some (customMaximum profile) := by
  have hTotal := profile.totalRamBytes.toInt_lt
  unfold customMaximumTotalBytes customMaximum
  cases hLow : profile.lowRamDevice with
  | true => rfl
  | false =>
      by_cases hUnknown : profile.totalRamBytes.toInt ≤ 0
      · simp only [Bool.false_eq_true, if_false, if_pos hUnknown]
        rfl
      · simp only [Bool.false_eq_true, if_false, if_neg hUnknown]
        rw [divLong_of (by decide) (by omega) hTotal]
        rfl

theorem physicalTarget_bounds {lowRam divisor cap unknown : Int} (hDivisor : 0 < divisor)
    (hLow : 0 ≤ lowRam ∧ lowRam ≤ cap) (hUnknown : 0 ≤ unknown ∧ unknown ≤ cap) :
    0 ≤ physicalTarget profile lowRam divisor cap unknown ∧
      physicalTarget profile lowRam divisor cap unknown ≤ cap * mib := by
  unfold physicalTarget
  rw [mib_eq]
  split_ifs with hIsLow hKnown
  · omega
  · have hShare : 0 ≤ profile.totalRamBytes.toInt / divisor :=
      Int.ediv_nonneg (by omega) (by omega)
    omega
  · omega

theorem recommended_bounds : 0 ≤ recommended profile ∧ recommended profile ≤ 768 * mib := by
  have hTarget : 0 ≤ physicalTarget profile 32 16 768 16 ∧
      physicalTarget profile 32 16 768 16 ≤ 768 * mib :=
    physicalTarget_bounds profile (by decide) (by decide) (by decide)
  unfold recommended
  rw [mib_eq] at hTarget ⊢
  omega

theorem aggressive_bounds : 0 ≤ aggressive profile ∧ aggressive profile ≤ 1024 * mib := by
  have hTarget : 0 ≤ physicalTarget profile 64 12 1024 32 ∧
      physicalTarget profile 64 12 1024 32 ≤ 1024 * mib :=
    physicalTarget_bounds profile (by decide) (by decide) (by decide)
  unfold aggressive
  rw [mib_eq] at hTarget ⊢
  omega

theorem customMaximum_bounds : 0 ≤ customMaximum profile := by
  unfold customMaximum
  rw [mib_eq]
  split_ifs
  · decide
  · decide
  · omega

theorem requested_le (mode : RamAccelerationMode) (custom : Int32) :
    requested profile mode custom ≤ 1024 * mib := by
  have hRecommended := recommended_bounds profile
  have hAggressive := aggressive_bounds profile
  rw [mib_eq] at hRecommended hAggressive ⊢
  cases mode with
  | off =>
      show (0 : Int) ≤ 1024 * 1048576
      decide
  | automatic =>
      show recommended profile ≤ 1024 * 1048576
      omega
  | aggressive =>
      show aggressive profile ≤ 1024 * 1048576
      omega
  | custom =>
      unfold requested coerceIn
      rw [mib_eq]
      simp only
      omega

theorem adjusted_bounds (mode : RamAccelerationMode) (custom : Int32) :
    0 ≤ adjusted profile mode custom ∧ adjusted profile mode custom ≤ 1024 * mib := by
  have hRequested := requested_le profile mode custom
  unfold adjusted
  rw [mib_eq] at hRequested ⊢
  omega

theorem pressureScale_bounds (scale : Int32) :
    25 ≤ pressureScale profile scale ∧ pressureScale profile scale ≤ 100 := by
  unfold pressureScale coerceIn
  split_ifs
  · omega
  · omega

theorem total_bounds (mode : RamAccelerationMode) (custom scale : Int32) :
    0 ≤ total profile mode custom scale ∧
      total profile mode custom scale ≤ adjusted profile mode custom := by
  obtain ⟨hNonneg, -⟩ := adjusted_bounds profile mode custom
  obtain ⟨hScale, hScale'⟩ := pressureScale_bounds profile scale
  have hProduct : 0 ≤ adjusted profile mode custom * pressureScale profile scale :=
    Int.mul_nonneg hNonneg (by omega)
  have hLe : adjusted profile mode custom * pressureScale profile scale ≤
      adjusted profile mode custom * 100 := Int.mul_le_mul_of_nonneg_left hScale' hNonneg
  unfold total
  omega

theorem requested_eq (mode : RamAccelerationMode) (custom : Int32) :
    (match mode with
      | .off => some 0
      | .automatic => some (recommended profile)
      | .aggressive => some (aggressive profile)
      | .custom => do
          let wanted ← mulLong (coerceIn custom.toInt minCustomMib maxCustomMib) mib
          some (min wanted (customMaximum profile))) = some (requested profile mode custom) := by
  cases mode with
  | off => rfl
  | automatic => rfl
  | aggressive => rfl
  | custom =>
      have hWanted : 0 ≤ coerceIn custom.toInt minCustomMib maxCustomMib * mib ∧
          coerceIn custom.toInt minCustomMib maxCustomMib * mib < 2 ^ 63 := by
        unfold coerceIn minCustomMib maxCustomMib
        rw [mib_eq]
        omega
      exact Checked.bind_of (mulLong_of hWanted.1 hWanted.2) rfl

theorem headroomCap_eq (mode : RamAccelerationMode) :
    (match mode with
      | .off => some 0
      | .automatic => some maxLong
      | .aggressive => some maxLong
      | .custom => availableHeadroomBudget profile 2) = some (headroomCap profile mode) := by
  cases mode with
  | off => rfl
  | automatic => rfl
  | aggressive => rfl
  | custom => exact availableHeadroomBudget_eq profile (by decide)

theorem pressureAdjusted_eq (mode : RamAccelerationMode) (custom scale : Int32) :
    (if adjusted profile mode custom = 0 then some 0
      else do
        let scaled ← mulLong (adjusted profile mode custom) (pressureScale profile scale)
        divLong scaled 100) = some (total profile mode custom scale) := by
  obtain ⟨hNonneg, hLe⟩ := adjusted_bounds profile mode custom
  obtain ⟨hScale, hScale'⟩ := pressureScale_bounds profile scale
  have hProduct : 0 ≤ adjusted profile mode custom * pressureScale profile scale :=
    Int.mul_nonneg hNonneg (by omega)
  have hFits : adjusted profile mode custom * pressureScale profile scale ≤
      adjusted profile mode custom * 100 := Int.mul_le_mul_of_nonneg_left hScale' hNonneg
  rw [mib_eq] at hLe
  unfold total
  split_ifs with hZero
  · rw [hZero, Int.zero_mul]
    rfl
  · apply Checked.bind_of (mulLong_of hProduct (by omega))
    exact divLong_of (by decide) hProduct (by omega)

/-- The budget is reached without an overflow on the way. -/
theorem resolve_eq (mode : RamAccelerationMode) (custom scale : Int32) :
    resolve profile mode custom scale = some (budgetOf profile mode custom scale) := by
  obtain ⟨hNonneg, hLe⟩ := total_bounds profile mode custom scale
  obtain ⟨-, hBound⟩ := adjusted_bounds profile mode custom
  rw [mib_eq] at hBound
  have hShare : mulLong (total profile mode custom scale) sourceSharePercent =
      some (total profile mode custom scale * 30) :=
    mulLong_of (by unfold sourceSharePercent; omega) (by unfold sourceSharePercent; omega)
  have hSource : divLong (total profile mode custom scale * 30) 100 =
      some (total profile mode custom scale * 30 / 100) :=
    divLong_of (by decide) (by omega) (by omega)
  have hPreview : subLong (total profile mode custom scale)
        (total profile mode custom scale * 30 / 100) =
      some (total profile mode custom scale - total profile mode custom scale * 30 / 100) :=
    subLong_of (by omega) (by omega)
  unfold resolve
  apply Checked.bind_of (recommendedTotalBytes_eq profile)
  apply Checked.bind_of (aggressiveTotalBytes_eq profile)
  apply Checked.bind_of (customMaximumTotalBytes_eq profile)
  apply Checked.bind_of (requested_eq profile mode custom)
  apply Checked.bind_of (headroomCap_eq profile mode)
  apply Checked.bind_of (pressureAdjusted_eq profile mode custom scale)
  apply Checked.bind_of hShare
  apply Checked.bind_of hSource
  exact Checked.bind_of hPreview rfl

theorem totalBytes_budgetOf (mode : RamAccelerationMode) (custom scale : Int32) :
    (budgetOf profile mode custom scale).totalBytes = some (total profile mode custom scale) := by
  obtain ⟨hNonneg, hLe⟩ := total_bounds profile mode custom scale
  obtain ⟨-, hBound⟩ := adjusted_bounds profile mode custom
  rw [mib_eq] at hBound
  have hSum : total profile mode custom scale * 30 / 100 +
      (total profile mode custom scale - total profile mode custom scale * 30 / 100) =
      total profile mode custom scale := by omega
  unfold RamAccelerationBudget.totalBytes budgetOf
  simp only
  rw [addLong_of (by omega) (by omega), hSum]

end Values

/-! ## The budgets -/

section Budgets

variable (profile : RamAccelerationDeviceProfile)

/-- The native side takes every budget. -/
theorem acceptedBudgets_of {source preview : Int} (hSource : 0 ≤ source) (hPreview : 0 ≤ preview)
    (hTotal : source + preview ≤ 1024 * mib) :
    acceptedBudgets source preview = some (source.toNat, preview.toNat) := by
  rw [mib_eq] at hTotal
  have hParsed : ∀ value : Int, 0 ≤ value → value ≤ 1024 * 1048576 →
      parseRamBudget value = some value.toNat := by
    intro value hNonneg hLe
    have hFits : value.toNat < 2 ^ 64 := by omega
    unfold parseRamBudget
    rw [if_neg (by omega)]
    exact Checked.fit_of hFits
  have hSum : source.toNat + preview.toNat < 2 ^ 64 := by omega
  have hLimit : ¬ maxConfiguredRamBudgetBytes < source.toNat + preview.toNat := by
    unfold maxConfiguredRamBudgetBytes
    omega
  unfold acceptedBudgets
  apply Checked.bind_of (hParsed source hSource (by omega))
  apply Checked.bind_of (hParsed preview hPreview (by omega))
  apply Checked.bind_of (Checked.add_of hSum)
  exact if_neg hLimit

theorem headroom_third_le : headroom profile 3 ≤ headroom profile 2 := by
  unfold headroom
  split_ifs
  · exact le_rfl
  · omega

/-- Where the available memory is known, half of what is above the reserve is the
most that any mode takes. -/
theorem adjusted_le_headroom (mode : RamAccelerationMode) (custom : Int32) :
    adjusted profile mode custom ≤ headroom profile 2 := by
  have hHeadroom : 0 ≤ headroom profile 2 := headroom_nonneg profile (by decide)
  have hThird := headroom_third_le profile
  cases mode with
  | off =>
      show max (min (0 : Int) 0) 0 ≤ headroom profile 2
      omega
  | automatic =>
      have hThirdNonneg : 0 ≤ headroom profile 3 := headroom_nonneg profile (by decide)
      show max (min (recommended profile) maxLong) 0 ≤ headroom profile 2
      unfold recommended
      omega
  | aggressive =>
      show max (min (aggressive profile) maxLong) 0 ≤ headroom profile 2
      unfold aggressive
      omega
  | custom =>
      show max (min (requested profile .custom custom) (headroom profile 2)) 0 ≤
        headroom profile 2
      omega

theorem recommended_le_aggressive : recommended profile ≤ aggressive profile := by
  have hThird := headroom_third_le profile
  have hTarget : physicalTarget profile 32 16 768 16 ≤ physicalTarget profile 64 12 1024 32 := by
    unfold physicalTarget
    rw [mib_eq]
    split_ifs
    · decide
    · omega
    · decide
  unfold recommended aggressive
  omega

theorem total_mono {mode mode' : RamAccelerationMode} {custom custom' scale scale' : Int32}
    {profile profile' : RamAccelerationDeviceProfile}
    (hAdjusted : adjusted profile mode custom ≤ adjusted profile' mode' custom')
    (hScale : pressureScale profile scale ≤ pressureScale profile' scale') :
    total profile mode custom scale ≤ total profile' mode' custom' scale' := by
  obtain ⟨hNonneg, -⟩ := adjusted_bounds profile mode custom
  obtain ⟨hLow, -⟩ := pressureScale_bounds profile' scale'
  have hProduct : adjusted profile mode custom * pressureScale profile scale ≤
      adjusted profile' mode' custom' * pressureScale profile' scale' :=
    calc adjusted profile mode custom * pressureScale profile scale
        ≤ adjusted profile mode custom * pressureScale profile' scale' :=
          Int.mul_le_mul_of_nonneg_left hScale hNonneg
      _ ≤ adjusted profile' mode' custom' * pressureScale profile' scale' :=
          Int.mul_le_mul_of_nonneg_right hAdjusted (by omega)
  exact Int.ediv_le_ediv (by decide) hProduct

theorem pressureScale_mono {scale scale' : Int32} (h : scale.toInt ≤ scale'.toInt) :
    pressureScale profile scale ≤ pressureScale profile scale' := by
  unfold pressureScale coerceIn
  split_ifs
  · exact le_rfl
  · omega

/-- The profile with other available memory. -/
def withAvailable (available : Int64) : RamAccelerationDeviceProfile :=
  { profile with availableRamBytes := available }

theorem headroom_mono {divisor : Int} (hDivisor : 0 < divisor) {available available' : Int64}
    (hPositive : 0 < available.toInt) (h : available.toInt ≤ available'.toInt) :
    headroom (withAvailable profile available) divisor ≤
      headroom (withAvailable profile available') divisor := by
  have hReserve : ∀ a, reserve (withAvailable profile a) = reserve profile := fun _ => rfl
  unfold headroom
  rw [hReserve, hReserve]
  show (if available.toInt ≤ 0 then maxLong else _) ≤
    if available'.toInt ≤ 0 then maxLong else _
  rw [if_neg (by omega), if_neg (by omega)]
  apply Int.ediv_le_ediv hDivisor
  show max (available.toInt - reserve profile) 0 ≤ max (available'.toInt - reserve profile) 0
  omega

theorem adjusted_mono (mode : RamAccelerationMode) (custom : Int32) {available available' : Int64}
    (hPositive : 0 < available.toInt) (h : available.toInt ≤ available'.toInt) :
    adjusted (withAvailable profile available) mode custom ≤
      adjusted (withAvailable profile available') mode custom := by
  have hHalf : headroom (withAvailable profile available) 2 ≤
      headroom (withAvailable profile available') 2 :=
    headroom_mono profile (by decide) hPositive h
  have hThird : headroom (withAvailable profile available) 3 ≤
      headroom (withAvailable profile available') 3 :=
    headroom_mono profile (by decide) hPositive h
  have hTarget : ∀ a lowRam divisor cap unknown,
      physicalTarget (withAvailable profile a) lowRam divisor cap unknown =
        physicalTarget profile lowRam divisor cap unknown := fun _ _ _ _ _ => rfl
  have hMaximum : ∀ a, customMaximum (withAvailable profile a) = customMaximum profile :=
    fun _ => rfl
  unfold adjusted
  cases mode with
  | off => exact le_rfl
  | automatic =>
      unfold requested headroomCap recommended
      simp only [hTarget]
      omega
  | aggressive =>
      unfold requested headroomCap aggressive
      simp only [hTarget]
      omega
  | custom =>
      unfold requested headroomCap
      simp only [hMaximum]
      omega

/-- The sum of the two budgets. -/
def totalOf (mode : RamAccelerationMode) (custom scale : Int32) : Option Int :=
  (resolve profile mode custom scale).bind RamAccelerationBudget.totalBytes

theorem totalOf_eq (mode : RamAccelerationMode) (custom scale : Int32) :
    totalOf profile mode custom scale = some (total profile mode custom scale) := by
  unfold totalOf
  rw [resolve_eq]
  exact totalBytes_budgetOf profile mode custom scale

/-- What the policy says for a device. -/
structure WithinHeadroom : Prop where
  /-- No step overflows, and the native side takes the budgets. -/
  accepted : ∀ mode custom scale, ∃ budget, resolve profile mode custom scale = some budget ∧
    0 ≤ budget.sourceCacheBytes ∧ 0 ≤ budget.previewCacheBytes ∧
    budget.totalBytes = some (budget.sourceCacheBytes + budget.previewCacheBytes) ∧
    budget.sourceCacheBytes + budget.previewCacheBytes ≤ 1024 * mib ∧
    acceptedBudgets budget.sourceCacheBytes budget.previewCacheBytes =
      some (budget.sourceCacheBytes.toNat, budget.previewCacheBytes.toNat)
  /-- At least the reserve, and as much again of the rest, stay free. -/
  reserved : 0 < profile.availableRamBytes.toInt → ∀ mode custom scale total,
    totalOf profile mode custom scale = some total →
    total ≤ max (profile.availableRamBytes.toInt - reserve profile) 0 / 2
  ordered : ∀ custom custom' scale total total',
    totalOf profile .automatic custom scale = some total →
    totalOf profile .aggressive custom' scale = some total' → total ≤ total'
  scale_mono : ∀ mode custom scale scale' total total', scale.toInt ≤ scale'.toInt →
    totalOf profile mode custom scale = some total →
    totalOf profile mode custom scale' = some total' → total ≤ total'
  available_mono : ∀ mode custom scale available available' total total',
    0 < available.toInt → available.toInt ≤ available'.toInt →
    totalOf (withAvailable profile available) mode custom scale = some total →
    totalOf (withAvailable profile available') mode custom scale = some total' → total ≤ total'

/-- The policy stays within the headroom of every device. -/
theorem resolve_within_headroom : WithinHeadroom profile where
  accepted mode custom scale := by
    obtain ⟨hNonneg, hLe⟩ := total_bounds profile mode custom scale
    obtain ⟨-, hBound⟩ := adjusted_bounds profile mode custom
    have hTotal := totalBytes_budgetOf profile mode custom scale
    have hSum : (budgetOf profile mode custom scale).sourceCacheBytes +
        (budgetOf profile mode custom scale).previewCacheBytes = total profile mode custom scale := by
      show total profile mode custom scale * 30 / 100 + (total profile mode custom scale -
        total profile mode custom scale * 30 / 100) = total profile mode custom scale
      omega
    have hSource : 0 ≤ (budgetOf profile mode custom scale).sourceCacheBytes := by
      show 0 ≤ total profile mode custom scale * 30 / 100
      omega
    have hPreview : 0 ≤ (budgetOf profile mode custom scale).previewCacheBytes := by
      show 0 ≤ total profile mode custom scale - total profile mode custom scale * 30 / 100
      omega
    have hGibibyte : (budgetOf profile mode custom scale).sourceCacheBytes +
        (budgetOf profile mode custom scale).previewCacheBytes ≤ 1024 * mib := by
      rw [hSum]
      exact le_trans hLe hBound
    refine ⟨budgetOf profile mode custom scale, resolve_eq profile mode custom scale, hSource,
      hPreview, ?_, hGibibyte, acceptedBudgets_of hSource hPreview hGibibyte⟩
    rw [hTotal, hSum]
  reserved hKnown mode custom scale sum hSum := by
    obtain ⟨-, hLe⟩ := total_bounds profile mode custom scale
    have hHeadroom := adjusted_le_headroom profile mode custom
    rw [totalOf_eq] at hSum
    rw [← Option.some.inj hSum]
    unfold headroom at hHeadroom
    rw [if_neg (by omega)] at hHeadroom
    exact le_trans hLe hHeadroom
  ordered custom custom' scale sum sum' hSum hSum' := by
    rw [totalOf_eq] at hSum hSum'
    rw [← Option.some.inj hSum, ← Option.some.inj hSum']
    apply total_mono _ le_rfl
    have hOrder := recommended_le_aggressive profile
    show max (min (recommended profile) maxLong) 0 ≤ max (min (aggressive profile) maxLong) 0
    omega
  scale_mono mode custom scale scale' sum sum' hScale hSum hSum' := by
    rw [totalOf_eq] at hSum hSum'
    rw [← Option.some.inj hSum, ← Option.some.inj hSum']
    exact total_mono le_rfl (pressureScale_mono profile hScale)
  available_mono mode custom scale available available' sum sum' hPositive h hSum hSum' := by
    rw [totalOf_eq] at hSum hSum'
    rw [← Option.some.inj hSum, ← Option.some.inj hSum']
    exact total_mono (adjusted_mono profile mode custom hPositive h) le_rfl

end Budgets

/-- A device with a gibibyte of which one byte is available. -/
def exhausted : RamAccelerationDeviceProfile := ⟨1073741824, 1, 0, 0, false, false⟩

/-- The budget is nothing there, and so not below what is left, which is negative. -/
theorem resolve_above_negative_headroom :
    0 < exhausted.availableRamBytes.toInt ∧ totalOf exhausted .automatic 16 100 = some 0 ∧
      (exhausted.availableRamBytes.toInt - reserve exhausted) / 2 < 0 := by decide

end FrameScope.Ports.RamPolicyLaw
