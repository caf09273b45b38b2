import FrameScope.Ports.Navigation

/-!
# Microscope targets and presentations

Port of `framescope-video/src/microscope.rs` and `microscope_presentation.rs`:
a target is an entry of a complete index, found by its id, by a step from
another or by a timestamp, and a presentation puts the pixels of a navigation
under the target they were asked for.  The navigation is the caller's.
-/

namespace FrameScope.Ports.Microscope

open FrameScope.Ports.Core
open FrameScope.Ports.FrameIndexModel
open FrameScope.Ports.FrameIndexStore
open FrameScope.Ports.FrameTimeline (loadEntry_ok)
open FrameScope.Ports.FrameCache
open FrameScope.Ports.Navigation

inductive MicroscopeTimestampSelection where
  | atOrBefore | atOrAfter | nearest
  deriving DecidableEq, Repr

inductive MicroscopeStep where
  | previous | next
  deriving DecidableEq, Repr

structure MicroscopeTarget where
  entry : FrameIndexEntry
  frameCount : Nat
  deriving DecidableEq, Repr

namespace MicroscopeTarget

variable (target : MicroscopeTarget)

def frameId : Nat := target.entry.frameId

def hasPrevious : Bool := target.entry.frameId ≠ 0

def hasNext : Bool := (checkedAddU64 target.entry.frameId 1).any (· < target.frameCount)

end MicroscopeTarget

inductive MicroscopeNavigationError where
  | index (error : FrameIndexError)
  | incompleteIndex
  | emptyIndex
  | frameNotIndexed
  | timestampNotIndexed
  | atFirstFrame
  | atLastFrame
  | timestampOverflow
  deriving DecidableEq, Repr

def MicroscopeNavigationError.toText : MicroscopeNavigationError → String
  | .index error => "frame-index lookup failed: " ++ error.toText
  | .incompleteIndex => "frame microscope requires a complete frame index"
  | .emptyIndex => "complete frame index contains no frames"
  | .frameNotIndexed => "requested frame is outside the complete frame index"
  | .timestampNotIndexed => "requested timestamp does not resolve to an indexed frame"
  | .atFirstFrame => "already at the first frame"
  | .atLastFrame => "already at the last frame"
  | .timestampOverflow => "indexed frame timestamp cannot be normalized to microseconds"

section Targets

variable (index : FrameIndex)

def completeFrameCount : Except MicroscopeNavigationError Nat := do
  let status ← index.status.mapError .index
  ensure (status.lifecycle = .complete) .incompleteIndex
  let count ← okOr status.frameCount .emptyIndex
  ensure (count ≠ 0) .emptyIndex
  return count

def microscopeTarget (frameId : Nat) : Except MicroscopeNavigationError MicroscopeTarget := do
  let frameCount ← completeFrameCount index
  ensure (frameId < frameCount) .frameNotIndexed
  let found ← (index.entry frameId).mapError .index
  let entry ← okOr found .frameNotIndexed
  return ⟨entry, frameCount⟩

/-- The id that the step leads to. -/
def steppedFrame (frameCount current : Nat) :
    MicroscopeStep → Except MicroscopeNavigationError Nat
  | .previous => if current = 0 then .error .atFirstFrame else .ok (current - 1)
  | .next =>
      match checkedAddU64 current 1 with
      | none => .error .atLastFrame
      | some value => if frameCount ≤ value then .error .atLastFrame else .ok value

def microscopeStep (current : Nat) (step : MicroscopeStep) :
    Except MicroscopeNavigationError MicroscopeTarget := do
  let frameCount ← completeFrameCount index
  let next ← steppedFrame frameCount current step
  microscopeTarget index next

/-- `checked_sub` and the conversion to `u64`. -/
def distanceUs (later earlier : Int) : Option Nat :=
  if InI64 (later - earlier) ∧ 0 ≤ later - earlier then some (later - earlier).toNat else none

/-- The closer of two entries around a timestamp; the earlier one when both are
as close, unless the later one is exact. -/
def nearerEntry (timestampUs : Int) (before after : FrameIndexEntry) :
    Except MicroscopeNavigationError FrameIndexEntry := do
  let beforeUs ← okOr before.timestampUs .timestampOverflow
  let afterUs ← okOr after.timestampUs .timestampOverflow
  let beforeDistance ← okOr (distanceUs timestampUs beforeUs) .timestampOverflow
  let afterDistance ← okOr (distanceUs afterUs timestampUs) .timestampOverflow
  if afterDistance = 0 then .ok after
  else if beforeDistance ≤ afterDistance then .ok before
  else .ok after

def nearestTimestampUs (timestampUs : Int) :
    Except MicroscopeNavigationError (Option FrameIndexEntry) := do
  let before ← (index.frameAtOrBeforeUs timestampUs).mapError .index
  let after ← (index.frameAtOrAfterUs timestampUs).mapError .index
  match before, after with
  | none, none => .ok none
  | some entry, none => .ok (some entry)
  | none, some entry => .ok (some entry)
  | some before, some after => (nearerEntry timestampUs before after).map some

/-- The entry that the selection finds. -/
def selectedEntry (timestampUs : Int) :
    MicroscopeTimestampSelection → Except MicroscopeNavigationError (Option FrameIndexEntry)
  | .atOrBefore => (index.frameAtOrBeforeUs timestampUs).mapError .index
  | .atOrAfter => (index.frameAtOrAfterUs timestampUs).mapError .index
  | .nearest => nearestTimestampUs index timestampUs

def microscopeTimestampUs (timestampUs : Int) (selection : MicroscopeTimestampSelection) :
    Except MicroscopeNavigationError MicroscopeTarget := do
  let _ ← completeFrameCount index
  let found ← selectedEntry index timestampUs selection
  let entry ← okOr found .timestampNotIndexed
  microscopeTarget index entry.frameId

end Targets

/-! ## Presentations -/

structure MicroscopeFramePresentation where
  target : MicroscopeTarget
  pixels : OwnedRgbaFrame
  source : CachedFrameSource
  decodedFrames : Nat
  usedKeyframeSeek : Bool
  fellBackToStreamStart : Bool
  cacheInsertResult : Option RamInsertResult
  deriving DecidableEq, Repr

def MicroscopeFramePresentation.frameId (presentation : MicroscopeFramePresentation) : Nat :=
  presentation.target.frameId

inductive MicroscopePresentationError where
  | target (error : MicroscopeNavigationError)
  | navigation (error : NavigationError)
  | identityMismatch
  deriving DecidableEq, Repr

def presentationFromNavigation (target : MicroscopeTarget) (navigation : CachedNavigationResult) :
    Except MicroscopePresentationError MicroscopeFramePresentation :=
  if navigation.frameId ≠ target.frameId ∨ navigation.indexEntry ≠ target.entry then
    .error .identityMismatch
  else
    .ok
      { target
        pixels := navigation.pixels
        source := navigation.source
        decodedFrames := navigation.decodedFrames
        usedKeyframeSeek := navigation.usedKeyframeSeek
        fellBackToStreamStart := navigation.fellBackToStreamStart
        cacheInsertResult := navigation.cacheInsertResult }

/-- `present_microscope_frame_with_cursor` over the navigation of its cache,
cursor and decoder. -/
def presentMicroscopeFrame (index : FrameIndex)
    (navigate : Nat → Except NavigationError CachedNavigationResult) (frameId : Nat) :
    Except MicroscopePresentationError MicroscopeFramePresentation := do
  let target ← (microscopeTarget index frameId).mapError .target
  let navigation ← (navigate frameId).mapError .navigation
  presentationFromNavigation target navigation

section Laws

variable {index : FrameIndex}

/-- A row that is read back has the id it was looked up by. -/
theorem entry_frameId {frameId : Nat} {entry : FrameIndexEntry}
    (h : index.entry frameId = .ok (some entry)) : entry.frameId = frameId := by
  unfold FrameIndex.entry at h
  obtain ⟨id, hId, h⟩ := bind_eq_ok.1 h
  obtain ⟨-, rfl⟩ := toSqlU64_eq_ok.1 hId
  cases hRow : index.connection.frameIndex.find? (·.frameIndex == (frameId : Int)) with
  | none => simp [hRow] at h
  | some row =>
      have hIndex : row.frameIndex = frameId := by simpa using List.find?_some hRow
      simp only [hRow] at h
      cases hLoad : index.loadEntry row with
      | error error =>
          rw [hLoad] at h
          cases h
      | ok loaded =>
          rw [hLoad] at h
          cases h
          have hFrame := (loadEntry_ok hLoad).1
          omega

theorem microscopeTarget_frameId {frameId : Nat} {target : MicroscopeTarget}
    (h : microscopeTarget index frameId = .ok target) : target.frameId = frameId := by
  unfold microscopeTarget at h
  obtain ⟨frameCount, -, h⟩ := bind_eq_ok.1 h
  obtain ⟨-, -, h⟩ := bind_eq_ok.1 h
  obtain ⟨found, hFound, h⟩ := bind_eq_ok.1 h
  obtain ⟨entry, hEntry, h⟩ := bind_eq_ok.1 h
  cases h
  rw [okOr_eq_ok] at hEntry
  rw [mapError_eq_ok, hEntry] at hFound
  exact entry_frameId hFound

/-- What is found by a step or by a timestamp is found again by its own id. -/
theorem microscopeStep_target {current : Nat} {step : MicroscopeStep} {target : MicroscopeTarget}
    (h : microscopeStep index current step = .ok target) :
    microscopeTarget index target.frameId = .ok target := by
  unfold microscopeStep at h
  obtain ⟨frameCount, -, h⟩ := bind_eq_ok.1 h
  obtain ⟨next, -, h⟩ := bind_eq_ok.1 h
  rwa [microscopeTarget_frameId h]

theorem microscopeTimestampUs_target {timestampUs : Int} {selection : MicroscopeTimestampSelection}
    {target : MicroscopeTarget} (h : microscopeTimestampUs index timestampUs selection = .ok target) :
    microscopeTarget index target.frameId = .ok target := by
  unfold microscopeTimestampUs at h
  obtain ⟨frameCount, -, h⟩ := bind_eq_ok.1 h
  obtain ⟨found, -, h⟩ := bind_eq_ok.1 h
  obtain ⟨entry, -, h⟩ := bind_eq_ok.1 h
  rwa [microscopeTarget_frameId h]

/-- A presentation is of the frame that was asked for, with the pixels that the
navigation to it returned. -/
theorem presentMicroscopeFrame_ok {navigate : Nat → Except NavigationError CachedNavigationResult}
    {frameId : Nat} {presentation : MicroscopeFramePresentation}
    (h : presentMicroscopeFrame index navigate frameId = .ok presentation) :
    presentation.frameId = frameId ∧ ∃ navigation, navigate frameId = .ok navigation ∧
      presentation.pixels = navigation.pixels := by
  unfold presentMicroscopeFrame at h
  obtain ⟨target, hTarget, h⟩ := bind_eq_ok.1 h
  obtain ⟨navigation, hNavigation, h⟩ := bind_eq_ok.1 h
  rw [mapError_eq_ok] at hTarget hNavigation
  unfold presentationFromNavigation at h
  by_cases hOther : navigation.frameId ≠ target.frameId ∨ navigation.indexEntry ≠ target.entry
  · rw [if_pos hOther] at h
    cases h
  · rw [if_neg hOther] at h
    cases h
    exact ⟨microscopeTarget_frameId hTarget, navigation, hNavigation, rfl⟩

end Laws

end FrameScope.Ports.Microscope
