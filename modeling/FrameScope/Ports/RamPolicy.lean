import FrameScope.Verified.Checked

/-!
# The RAM acceleration policy

Port of `RamAccelerationPolicy` of the Android app, and of the checks that
`nativeConfigureRamAcceleration` makes on a budget.  Every operation on `Long`
is checked: `none` is where it would overflow or divide by zero.  Saturating
operations are so in the source.
-/

namespace FrameScope.Ports.RamPolicy

open FrameScope.Verified

inductive RamAccelerationMode
  | off
  | automatic
  | aggressive
  | custom
  deriving DecidableEq, Repr

structure RamAccelerationDeviceProfile where
  totalRamBytes : Int64
  availableRamBytes : Int64
  lowMemoryThresholdBytes : Int64
  memoryClassMb : Int32
  lowRamDevice : Bool
  systemLowMemory : Bool
  deriving DecidableEq, Repr

structure RamAccelerationBudget where
  mode : RamAccelerationMode
  requestedTotalBytes : Int
  sourceCacheBytes : Int
  previewCacheBytes : Int
  recommendedTotalBytes : Int
  aggressiveTotalBytes : Int
  customMaximumTotalBytes : Int
  headroomLimited : Bool
  pressureReductionPercent : Int
  deriving DecidableEq, Repr

/-! ## `Long` -/

/-- `Long.MAX_VALUE`. -/
def maxLong : Int := 2 ^ 63 - 1

def addLong (a b : Int) : Option Int := Checked.fitInt 64 (a + b)

def subLong (a b : Int) : Option Int := Checked.fitInt 64 (a - b)

def mulLong (a b : Int) : Option Int := Checked.fitInt 64 (a * b)

def divLong (a b : Int) : Option Int := if b = 0 then none else Checked.fitInt 64 (a.tdiv b)

/-- `coerceIn`. -/
def coerceIn (value low high : Int) : Int := max low (min value high)

/-- `saturatingMultiply`. -/
def saturatingMultiply (left right : Int) : Int := (mulLong left right).getD maxLong

/-- `saturatingSubtract`. -/
def saturatingSubtract (this other : Int) : Option Int :=
  if this ≤ other then some 0 else subLong this other

/-! ## The policy -/

/-- `MIB`. -/
def mib : Int := 1024 * 1024

/-- `MIN_CUSTOM_MIB`. -/
def minCustomMib : Int := 16

/-- `MAX_CUSTOM_MIB`. -/
def maxCustomMib : Int := 1024

def automaticMaxTotalMib : Int := 768
def aggressiveMaxTotalMib : Int := 1024
def lowRamAutomaticMib : Int := 32
def lowRamAggressiveMib : Int := 64
def lowRamCustomMaxMib : Int := 128
def sourceSharePercent : Int := 30
def minPressureScalePercent : Int := 25
def maxPressureScalePercent : Int := 100

section Policy

variable (profile : RamAccelerationDeviceProfile)

/-- `availableHeadroomBudget`. -/
def availableHeadroomBudget (divisor : Int) : Option Int :=
  if profile.availableRamBytes.toInt ≤ 0 then some maxLong
  else do
    let thresholdReserve := saturatingMultiply (max profile.lowMemoryThresholdBytes.toInt 0) 2
    let perClass ← mulLong 2 mib
    let managedHeapReserve := saturatingMultiply (max profile.memoryClassMb.toInt 0) perClass
    let physicalReserve ←
      (if 0 < profile.totalRamBytes.toInt then divLong profile.totalRamBytes.toInt 8 else some 0)
    let reserve := max physicalReserve (max thresholdReserve managedHeapReserve)
    let rest ← saturatingSubtract profile.availableRamBytes.toInt reserve
    divLong (max rest 0) divisor

/-- `recommendedTotalBytes`. -/
def recommendedTotalBytes : Option Int := do
  let physicalTarget ←
    (if profile.lowRamDevice then mulLong lowRamAutomaticMib mib
    else if 0 < profile.totalRamBytes.toInt then do
      let share ← divLong profile.totalRamBytes.toInt 16
      let cap ← mulLong automaticMaxTotalMib mib
      some (min share cap)
    else mulLong minCustomMib mib)
  let headroom ← availableHeadroomBudget profile 3
  some (max (min physicalTarget headroom) 0)

/-- `aggressiveTotalBytes`. -/
def aggressiveTotalBytes : Option Int := do
  let physicalTarget ←
    (if profile.lowRamDevice then mulLong lowRamAggressiveMib mib
    else if 0 < profile.totalRamBytes.toInt then do
      let share ← divLong profile.totalRamBytes.toInt 12
      let cap ← mulLong aggressiveMaxTotalMib mib
      some (min share cap)
    else do
      let twice ← mulLong 2 minCustomMib
      mulLong twice mib)
  let headroom ← availableHeadroomBudget profile 2
  some (max (min physicalTarget headroom) 0)

/-- `customMaximumTotalBytes`. -/
def customMaximumTotalBytes : Option Int :=
  if profile.lowRamDevice then mulLong lowRamCustomMaxMib mib
  else if profile.totalRamBytes.toInt ≤ 0 then mulLong 128 mib
  else do
    let share ← divLong profile.totalRamBytes.toInt 8
    let cap ← mulLong maxCustomMib mib
    let floor ← mulLong minCustomMib mib
    some (max (min share cap) floor)

/-- `resolve`. -/
def resolve (mode : RamAccelerationMode) (customTotalMiB memoryPressureScalePercent : Int32) :
    Option RamAccelerationBudget := do
  let recommended ← recommendedTotalBytes profile
  let aggressive ← aggressiveTotalBytes profile
  let customMaximum ← customMaximumTotalBytes profile
  let requested ← (match mode with
    | .off => some 0
    | .automatic => some recommended
    | .aggressive => some aggressive
    | .custom => do
        let wanted ← mulLong (coerceIn customTotalMiB.toInt minCustomMib maxCustomMib) mib
        some (min wanted customMaximum))
  let headroomCap ← (match mode with
    | .off => some 0
    | .automatic => some maxLong
    | .aggressive => some maxLong
    | .custom => availableHeadroomBudget profile 2)
  let headroomAdjusted := max (min requested headroomCap) 0
  let pressureScale :=
    if profile.systemLowMemory then minPressureScalePercent
    else coerceIn memoryPressureScalePercent.toInt minPressureScalePercent maxPressureScalePercent
  let pressureAdjusted ←
    (if headroomAdjusted = 0 then some 0
    else do
      let scaled ← mulLong headroomAdjusted pressureScale
      divLong scaled 100)
  let share ← mulLong pressureAdjusted sourceSharePercent
  let source ← divLong share 100
  let preview ← subLong pressureAdjusted source
  some
    { mode
      requestedTotalBytes := requested
      sourceCacheBytes := source
      previewCacheBytes := preview
      recommendedTotalBytes := recommended
      aggressiveTotalBytes := aggressive
      customMaximumTotalBytes := customMaximum
      headroomLimited := decide (headroomAdjusted < requested)
      pressureReductionPercent := if 0 < requested then 100 - pressureScale else 0 }

end Policy

/-- `totalBytes`. -/
def RamAccelerationBudget.totalBytes (budget : RamAccelerationBudget) : Option Int :=
  addLong budget.sourceCacheBytes budget.previewCacheBytes

/-! ## The native side -/

/-- `MAX_CONFIGURED_RAM_BUDGET_BYTES`. -/
def maxConfiguredRamBudgetBytes : Nat := 1024 * 1024 * 1024

/-- `parse_ram_budget`. -/
def parseRamBudget (value : Int) : Option Nat :=
  if value < 0 then none else Checked.fit 64 value.toNat

/-- The checks of `nativeConfigureRamAcceleration`. -/
def acceptedBudgets (sourceCacheBytes previewCacheBytes : Int) : Option (Nat × Nat) := do
  let source ← parseRamBudget sourceCacheBytes
  let preview ← parseRamBudget previewCacheBytes
  let total ← Checked.add 64 source preview
  if maxConfiguredRamBudgetBytes < total then none else some (source, preview)

end FrameScope.Ports.RamPolicy
