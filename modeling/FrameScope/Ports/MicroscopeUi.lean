import FrameScope.Verified.Fallible
import FrameScope.Verified.Runs
import FrameScope.Ports.LiveScrubGate

/-!
# The published state of the microscope

Port of the microscope half of `MainViewModel.kt`: the calls of the user, the
coroutines that they launch, the live scrub worker and the indexing progress.
A segment of the main thread between two suspension points is one program; it
ends early where the source returns or where the scrub gate throws.  A coroutine
is kept under the number it was launched with, at the call it waits for, and
every result that the call may bring is a step.  A cancelled coroutine may stop
at its suspension point or go on; what stops it otherwise is the pair of
generations it remembers.

The progress callback runs on another thread.  Its `update` reads the state in
one step and compares and sets it in a later one.

`engineStatus` and `videoState`, on which no other field depends, are left out,
and so are cancellations of jobs and of native work, the speculative prefetch
and the coroutines that only close or forget a session: none of them touches the
state.  Pixels and the presented progress are whatever the caller takes them for.
-/

namespace FrameScope.Ports.MicroscopeUi

open FrameScope.Verified.Fallible
open FrameScope.Ports.Core
open FrameScope.Ports.LiveScrubGate

/-! ## What is published -/

structure FrameDetails where
  frameId : Int
  timestampUs : Option Int
  deriving DecidableEq, Repr

structure MicroscopeSessionSnapshot where
  sessionId : Int
  frameCount : Int
  currentFrame : Option FrameDetails
  deriving DecidableEq, Repr

/-- A frame with the identity of its descriptor. -/
structure MicroscopeFrame (π : Type) where
  sessionId : Int
  frameId : Int
  rgba : π
  deriving DecidableEq, Repr

/-- A preview with the identity of its descriptor. -/
structure MicroscopeScrubPreview (π : Type) where
  sessionId : Int
  frameId : Int
  rgba : π
  deriving DecidableEq, Repr

/-- `MicroscopeTimelineMath.durationUs`. -/
def durationUs (startUs endUs : Int) : Option Int :=
  if endUs < startUs then none
  else if endUs - startUs < 2 ^ 63 then some (endUs - startUs) else none

structure IndexedTimelineBounds where
  sessionId : Int
  startUs : Int
  endUs : Int
  deriving DecidableEq, Repr

def IndexedTimelineBounds.isSane (bounds : IndexedTimelineBounds) : Bool :=
  0 < bounds.sessionId && bounds.startUs ≤ bounds.endUs &&
    (durationUs bounds.startUs bounds.endUs).isSome

structure TimelineRangeSelection where
  sessionId : Int
  startUs : Int
  endUs : Int
  deriving DecidableEq, Repr

def TimelineRangeSelection.isSaneFor (selection : TimelineRangeSelection)
    (bounds : IndexedTimelineBounds) : Bool :=
  bounds.isSane && selection.sessionId = bounds.sessionId &&
    (bounds.startUs ≤ selection.startUs && selection.startUs ≤ bounds.endUs) &&
    (bounds.startUs ≤ selection.endUs && selection.endUs ≤ bounds.endUs) &&
    selection.startUs ≤ selection.endUs &&
    (durationUs selection.startUs selection.endUs).isSome

inductive MicroscopeUiState (π : Type) where
  | idle
  | opening
  | loadingFrame (session : MicroscopeSessionSnapshot)
  | navigating (session : MicroscopeSessionSnapshot) (previousFrame : Option (MicroscopeFrame π))
  | ready (session : MicroscopeSessionSnapshot) (frame : MicroscopeFrame π)
  | empty (session : MicroscopeSessionSnapshot)
  | error (message : String) (code : Option String) (session : Option MicroscopeSessionSnapshot)
  deriving DecidableEq, Repr

namespace MicroscopeUiState

variable {π : Type}

/-- `currentMicroscopeSessionId`. -/
def currentSessionId : MicroscopeUiState π → Option Int
  | .idle => none
  | .opening => none
  | .loadingFrame session => some session.sessionId
  | .navigating session _ => some session.sessionId
  | .ready session _ => some session.sessionId
  | .empty session => some session.sessionId
  | .error _ _ session => session.map (·.sessionId)

/-- The session whose frame is shown, if one is or was. -/
def shownSessionId : MicroscopeUiState π → Option Int
  | .navigating session _ => some session.sessionId
  | .ready session _ => some session.sessionId
  | _ => none

def isError : MicroscopeUiState π → Bool
  | .error _ _ _ => true
  | _ => false

def isNavigating : MicroscopeUiState π → Bool
  | .navigating _ _ => true
  | _ => false

end MicroscopeUiState

structure FrameScopeUiState (π ρ : Type) where
  microscopeState : MicroscopeUiState π
  indexingProgress : Option ρ
  timelineBounds : Option IndexedTimelineBounds
  timelineRange : Option TimelineRangeSelection
  scrubPreview : Option (MicroscopeScrubPreview π)
  deriving DecidableEq, Repr

/-- The fields that `FrameScopeUiState()` has, and that leaving a source sets. -/
def FrameScopeUiState.blank {π ρ : Type} : FrameScopeUiState π ρ := ⟨.idle, none, none, none, none⟩

/-! ## Coroutines -/

/-- The coroutine of `onVideoSelected`, at the call it waits for. -/
inductive InspectJob where
  | closing
  | inspecting
  deriving DecidableEq, Repr

/-- A coroutine of `microscopeJob`, at the call it waits for. -/
inductive MicroscopeWork (π : Type) where
  /-- `openMicroscope`, before its first check. -/
  | launched
  | opening
  /-- `resolveIndexedTimelineBounds`, at the jump to the last frame. -/
  | jumping (session : MicroscopeSessionSnapshot)
  /-- The same, at the jump back to the first frame. -/
  | restoring (session lastSession : MicroscopeSessionSnapshot)
  | loading (session : MicroscopeSessionSnapshot)
  | navigating (session : MicroscopeSessionSnapshot)
  /-- `closeMicroscopeErrorBeforeClearing`. -/
  | closing (error : MicroscopeUiState π)
  deriving DecidableEq, Repr

structure MicroscopeJob (π : Type) where
  inspectionRevision : Nat
  work : MicroscopeWork π
  deriving DecidableEq, Repr

/-- What a failed call of the repository says. -/
structure Failure where
  message : Option String
  code : Option String
  deriving DecidableEq, Repr

/-- `published` records every value of `uiState`, and `progressUpdate` what the
progress callback has read with what it is about to set. -/
structure ViewModel (π ρ : Type) where
  ui : FrameScopeUiState π ρ
  published : List (FrameScopeUiState π ρ)
  inspectionGeneration : Nat
  microscopeGeneration : Nat
  scrubGate : LiveScrubRequestGate
  inspectJobs : Nat → Option InspectJob
  microscopeJobs : Nat → Option (MicroscopeJob π)
  rendering : Option LiveScrubRequest
  progressUpdate : Option (FrameScopeUiState π ρ × FrameScopeUiState π ρ)

namespace ViewModel

variable {π ρ : Type}

def initial : ViewModel π ρ :=
  ⟨.blank, [.blank], 0, 0, .initial, fun _ => none, fun _ => none, none, none⟩

variable (vm : ViewModel π ρ)

def publish (ui : FrameScopeUiState π ρ) : ViewModel π ρ :=
  { vm with ui, published := ui :: vm.published }

def setInspectJob (generation : Nat) (job : Option InspectJob) : ViewModel π ρ :=
  { vm with inspectJobs := Function.update vm.inspectJobs generation job }

def setMicroscopeJob (revision : Nat) (job : Option (MicroscopeJob π)) : ViewModel π ρ :=
  { vm with microscopeJobs := Function.update vm.microscopeJobs revision job }

/-- `isCurrent`. -/
def isCurrent (inspectionRevision microscopeRevision : Nat) : Bool :=
  inspectionRevision = vm.inspectionGeneration && microscopeRevision = vm.microscopeGeneration

end ViewModel

/-! ## Segments -/

section Segments

variable {π ρ : Type}

/-- A segment of the main thread. -/
abbrev Segment (π ρ : Type) := EStateM LiveScrubGateError (ViewModel π ρ)

/-- `_uiState.update`. -/
def update (f : FrameScopeUiState π ρ → FrameScopeUiState π ρ) : Segment π ρ PUnit :=
  modify fun vm => vm.publish (f vm.ui)

/-- `inspectionGeneration.incrementAndGet()`. -/
def advanceInspection : Segment π ρ Nat := do
  modify fun vm => { vm with inspectionGeneration := vm.inspectionGeneration + 1 }
  let vm ← get
  pure vm.inspectionGeneration

/-- `microscopeGeneration.incrementAndGet()`. -/
def advanceMicroscope : Segment π ρ Nat := do
  modify fun vm => { vm with microscopeGeneration := vm.microscopeGeneration + 1 }
  let vm ← get
  pure vm.microscopeGeneration

def launchMicroscope (revision : Nat) (job : MicroscopeJob π) : Segment π ρ PUnit :=
  modify fun vm => vm.setMicroscopeJob revision (some job)

def endMicroscope (revision : Nat) : Segment π ρ PUnit :=
  modify fun vm => vm.setMicroscopeJob revision none

def endInspect (generation : Nat) : Segment π ρ PUnit :=
  modify fun vm => vm.setInspectJob generation none

def invalidateLiveScrub (clearPreview : Bool) : Segment π ρ PUnit := do
  let vm ← get
  let invalidated ← ofExcept id vm.scrubGate.invalidate
  modify fun vm => { vm with scrubGate := invalidated.2 }
  if clearPreview then update fun ui => { ui with scrubPreview := none } else pure ⟨⟩

/-! ### Publications -/

def publishMicroscopeIfCurrent (inspectionRevision microscopeRevision : Nat)
    (state : MicroscopeUiState π) : Segment π ρ PUnit := do
  let vm ← get
  if vm.isCurrent inspectionRevision microscopeRevision then
    update fun current =>
      { current with
        microscopeState := state
        indexingProgress := match state with
          | .opening => current.indexingProgress
          | _ => none
        scrubPreview := match state with
          | .navigating _ _ => current.scrubPreview
          | _ => none }
  else pure ⟨⟩

def publishMicroscopeFailure (inspectionRevision microscopeRevision : Nat) (error : Failure)
    (session : Option MicroscopeSessionSnapshot) : Segment π ρ PUnit := do
  let vm ← get
  if vm.isCurrent inspectionRevision microscopeRevision then
    update fun current =>
      { current with
        microscopeState :=
          .error (error.message.getD "Microscope operation failed.") error.code session
        indexingProgress := none
        scrubPreview := none }
  else pure ⟨⟩

def publishAuthoritativeFrameIfCurrent (inspectionRevision microscopeRevision : Nat)
    (session : MicroscopeSessionSnapshot) (frame : MicroscopeFrame π) : Segment π ρ PUnit := do
  let vm ← get
  if vm.isCurrent inspectionRevision microscopeRevision then
    update fun current =>
      { current with
        microscopeState := .ready session frame
        indexingProgress := none
        scrubPreview := none }
  else pure ⟨⟩

def publishTimelineBoundsIfCurrent (inspectionRevision microscopeRevision : Nat)
    (bounds : Option IndexedTimelineBounds) : Segment π ρ PUnit := do
  let vm ← get
  if vm.isCurrent inspectionRevision microscopeRevision then
    update fun current => { current with timelineBounds := bounds, timelineRange := none }
  else pure ⟨⟩

/-! ### Leaving and selecting a source -/

/-- `onPickerStarted`, `cancelInspection` and `onPickerCancelled` differ in `videoState`. -/
def leaveSource : Segment π ρ PUnit := do
  let _ ← advanceInspection
  invalidateLiveScrub true
  let _ ← advanceMicroscope
  update fun _ => .blank

def onPickerStarted : Segment π ρ PUnit := leaveSource

def cancelInspection : Segment π ρ PUnit := leaveSource

def onPickerCancelled : Segment π ρ PUnit := leaveSource

def onVideoSelected : Segment π ρ PUnit := do
  let generation ← advanceInspection
  invalidateLiveScrub true
  let _ ← advanceMicroscope
  update fun _ => .blank
  modify fun vm => vm.setInspectJob generation (some .closing)

/-- `onCleared`: nothing is published any more. -/
def onCleared : Segment π ρ PUnit := do
  let _ ← advanceInspection
  let _ ← advanceMicroscope
  let vm ← get
  let invalidated ← ofExcept id vm.scrubGate.invalidate
  modify fun vm => { vm with scrubGate := invalidated.2 }

def openMicroscope (inspectionGenerationAtStart : Nat) : Segment π ρ PUnit := do
  let microscopeRevision ← advanceMicroscope
  invalidateLiveScrub true
  launchMicroscope microscopeRevision ⟨inspectionGenerationAtStart, .launched⟩

/-- `closeMicroscope` has returned to the coroutine of `onVideoSelected`. -/
def sourceClosed (generation : Nat) : Segment π ρ PUnit := do
  let vm ← get
  match vm.inspectJobs generation with
  | some .closing =>
      if generation = vm.inspectionGeneration then
        modify fun vm => vm.setInspectJob generation (some .inspecting)
      else endInspect generation
  | _ => pure ⟨⟩

/-- `inspect` has returned to it, with a video or a failure. -/
def inspected (generation : Nat) (success : Bool) : Segment π ρ PUnit := do
  let vm ← get
  match vm.inspectJobs generation with
  | some .inspecting =>
      endInspect generation
      if generation = vm.inspectionGeneration then
        if success then
          update fun ui => { ui with indexingProgress := none }
          openMicroscope generation
        else update fun _ => .blank
      else pure ⟨⟩
  | _ => pure ⟨⟩

/-! ### Opening the microscope -/

/-- `loadFrameForSession`, up to its call of the repository. -/
def loadFrameForSession (session : MicroscopeSessionSnapshot)
    (inspectionGenerationAtStart microscopeRevision : Nat) (publishLoadingState : Bool) :
    Segment π ρ PUnit := do
  (if publishLoadingState then
    publishMicroscopeIfCurrent inspectionGenerationAtStart microscopeRevision
      (.loadingFrame session)
  else pure ⟨⟩)
  launchMicroscope microscopeRevision ⟨inspectionGenerationAtStart, .loading session⟩

/-- The bounds of a timeline of one frame. -/
def singleBounds (session : MicroscopeSessionSnapshot) (first : FrameDetails) :
    Option IndexedTimelineBounds :=
  (first.timestampUs.map fun us => ⟨session.sessionId, us, us⟩).filter
    IndexedTimelineBounds.isSane

/-- The bounds between the two ends of a timeline. -/
def endpointBounds (session : MicroscopeSessionSnapshot) (first last : FrameDetails) :
    Option IndexedTimelineBounds :=
  match first.timestampUs, last.timestampUs with
  | some startUs, some endUs =>
      (some ⟨session.sessionId, startUs, endUs⟩ : Option IndexedTimelineBounds).filter
        IndexedTimelineBounds.isSane
  | _, _ => none

/-- The error of a timeline whose ends are not the frames that were asked for. -/
def identityMismatch (message : String) (session : MicroscopeSessionSnapshot) :
    MicroscopeUiState π := .error message (some "timeline_identity_mismatch") (some session)

/-- `resolveIndexedTimelineBounds`, up to its first call of the repository. -/
def resolveIndexedTimelineBounds (session : MicroscopeSessionSnapshot) (first : FrameDetails)
    (inspectionRevision microscopeRevision : Nat) : Segment π ρ PUnit :=
  if first.frameId ≠ 0 ∨ session.frameCount ≤ 0 then
    publishMicroscopeIfCurrent inspectionRevision microscopeRevision (identityMismatch
      "The complete microscope index did not open on its first presentation frame." session)
  else if session.frameCount = 1 then do
    publishTimelineBoundsIfCurrent inspectionRevision microscopeRevision
      (singleBounds session first)
    loadFrameForSession session inspectionRevision microscopeRevision true
  else launchMicroscope microscopeRevision ⟨inspectionRevision, .jumping session⟩

/-- The coroutine of `openMicroscope` starts. -/
def openStarted (revision inspectionRevision : Nat) : Segment π ρ PUnit := do
  let vm ← get
  if vm.isCurrent inspectionRevision revision then
    publishMicroscopeIfCurrent inspectionRevision revision .opening
    launchMicroscope revision ⟨inspectionRevision, .opening⟩
  else endMicroscope revision

/-- `repository.openMicroscope` has returned. -/
def opened (revision inspectionRevision : Nat)
    (result : Except Failure MicroscopeSessionSnapshot) : Segment π ρ PUnit := do
  endMicroscope revision
  match result with
  | .error error => publishMicroscopeFailure inspectionRevision revision error none
  | .ok openedSession =>
      let vm ← get
      if vm.isCurrent inspectionRevision revision then
        match openedSession.currentFrame with
        | none => do
            publishTimelineBoundsIfCurrent inspectionRevision revision none
            publishMicroscopeIfCurrent inspectionRevision revision (.empty openedSession)
        | some first =>
            resolveIndexedTimelineBounds openedSession first inspectionRevision revision
      else pure ⟨⟩

/-- The jump to the last frame has returned. -/
def jumpedLast (revision inspectionRevision : Nat) (session : MicroscopeSessionSnapshot)
    (lastResult : Except Failure MicroscopeSessionSnapshot) : Segment π ρ PUnit := do
  endMicroscope revision
  let vm ← get
  if vm.isCurrent inspectionRevision revision then
    match lastResult with
    | .error error => publishMicroscopeFailure inspectionRevision revision error (some session)
    | .ok lastSession =>
        if lastSession.sessionId ≠ session.sessionId ∨
            lastSession.frameCount ≠ session.frameCount ∨
            lastSession.currentFrame.map (·.frameId) ≠ some (session.frameCount - 1) then
          publishMicroscopeIfCurrent inspectionRevision revision (identityMismatch
            "FrameScope could not verify the indexed timeline endpoint identity." lastSession)
        else launchMicroscope revision ⟨inspectionRevision, .restoring session lastSession⟩
  else pure ⟨⟩

/-- The jump back to the first frame has returned. -/
def restored (revision inspectionRevision : Nat) (session lastSession : MicroscopeSessionSnapshot)
    (restoreResult : Except Failure MicroscopeSessionSnapshot) : Segment π ρ PUnit := do
  endMicroscope revision
  let vm ← get
  if vm.isCurrent inspectionRevision revision then
    match restoreResult with
    | .error error => publishMicroscopeFailure inspectionRevision revision error (some lastSession)
    | .ok restored =>
        if restored.sessionId ≠ session.sessionId ∨ restored.frameCount ≠ session.frameCount ∨
            restored.currentFrame.map (·.frameId) ≠ session.currentFrame.map (·.frameId) then
          publishMicroscopeIfCurrent inspectionRevision revision (identityMismatch
            ("FrameScope could not restore the first indexed frame after resolving timeline " ++
              "bounds.") restored)
        else do
          publishTimelineBoundsIfCurrent inspectionRevision revision
            (do
              let first ← session.currentFrame
              let last ← lastSession.currentFrame
              endpointBounds session first last)
          loadFrameForSession restored inspectionRevision revision true
  else pure ⟨⟩

/-! ### Frames and navigation -/

/-- `loadMicroscopeFrame` has returned. -/
def frameLoaded (revision inspectionRevision : Nat) (session : MicroscopeSessionSnapshot)
    (result : Except Failure (MicroscopeFrame π)) : Segment π ρ PUnit := do
  endMicroscope revision
  match result with
  | .error error => publishMicroscopeFailure inspectionRevision revision error (some session)
  | .ok frame =>
      let vm ← get
      if vm.isCurrent inspectionRevision revision then
        if frame.sessionId ≠ session.sessionId ∨
            session.currentFrame.map (·.frameId) ≠ some frame.frameId then
          publishMicroscopeIfCurrent inspectionRevision revision
            (.error "FrameScope received pixels for a different microscope frame."
              (some "presentation_identity_mismatch") (some session))
        else publishAuthoritativeFrameIfCurrent inspectionRevision revision session frame
      else pure ⟨⟩

/-- A navigation has returned. -/
def navigated (revision inspectionRevision : Nat) (session : MicroscopeSessionSnapshot)
    (result : Except Failure MicroscopeSessionSnapshot) : Segment π ρ PUnit := do
  endMicroscope revision
  match result with
  | .error error => publishMicroscopeFailure inspectionRevision revision error (some session)
  | .ok updated =>
      let vm ← get
      if vm.isCurrent inspectionRevision revision then
        match updated.currentFrame with
        | none => publishMicroscopeIfCurrent inspectionRevision revision (.empty updated)
        | some _ => loadFrameForSession updated inspectionRevision revision false
      else pure ⟨⟩

/-- The end of `navigateMicroscope`, once the session is known. -/
def launchNavigation (session : MicroscopeSessionSnapshot)
    (previousFrame : Option (MicroscopeFrame π)) : Segment π ρ PUnit := do
  let vm ← get
  let microscopeRevision ← advanceMicroscope
  publishMicroscopeIfCurrent vm.inspectionGeneration microscopeRevision
    (.navigating session previousFrame)
  launchMicroscope microscopeRevision ⟨vm.inspectionGeneration, .navigating session⟩

def navigateMicroscope : Segment π ρ PUnit := do
  let vm ← get
  match vm.ui.microscopeState with
  | .ready session frame => launchNavigation session (some frame)
  | .empty session => launchNavigation session none
  | .navigating session previousFrame => launchNavigation session previousFrame
  | _ => pure ⟨⟩

def stepMicroscope (delta : Int) : Segment π ρ PUnit :=
  if delta = -1 ∨ delta = 1 then do
    invalidateLiveScrub true
    navigateMicroscope
  else pure ⟨⟩

def jumpMicroscopeFrame (frameId : Int) : Segment π ρ PUnit :=
  if frameId < 0 then pure ⟨⟩
  else do
    invalidateLiveScrub true
    navigateMicroscope

def jumpMicroscopeTimestampUs : Segment π ρ PUnit := do
  invalidateLiveScrub true
  navigateMicroscope

def finishMicroscopeScrubTimestampUs : Segment π ρ PUnit := do
  invalidateLiveScrub false
  navigateMicroscope

def finishMicroscopeScrubFrame (frameId : Int) : Segment π ρ PUnit :=
  if frameId < 0 then pure ⟨⟩
  else do
    invalidateLiveScrub false
    navigateMicroscope

/-! ### Errors and the timeline range -/

def closeMicroscopeErrorBeforeClearing (error : MicroscopeUiState π) : Segment π ρ PUnit := do
  let vm ← get
  let microscopeRevision ← advanceMicroscope
  invalidateLiveScrub true
  launchMicroscope microscopeRevision ⟨vm.inspectionGeneration, .closing error⟩

def clearError : Segment π ρ PUnit := do
  let vm ← get
  match vm.ui.microscopeState with
  | .error _ _ (some _) => closeMicroscopeErrorBeforeClearing vm.ui.microscopeState
  | _ => update fun current => if current.microscopeState.isError then .blank else current

/-- `closeMicroscope` has returned to the coroutine that clears an error. -/
def errorClosed [DecidableEq π] (revision inspectionRevision : Nat) (error : MicroscopeUiState π) :
    Segment π ρ PUnit := do
  endMicroscope revision
  let vm ← get
  if vm.isCurrent inspectionRevision revision then
    update fun current => if current.microscopeState = error then .blank else current
  else pure ⟨⟩

/-- The update of `commitTimelineRange`, for the bounds it has read. -/
def withRange (bounds : IndexedTimelineBounds) (selection : TimelineRangeSelection)
    (current : FrameScopeUiState π ρ) : FrameScopeUiState π ρ :=
  match current.microscopeState with
  | .ready session _ =>
      if session.sessionId = selection.sessionId ∧ current.timelineBounds = some bounds then
        { current with timelineRange := some selection }
      else current
  | _ => current

def commitTimelineRange (startUs endUs : Int) : Segment π ρ PUnit := do
  let vm ← get
  match vm.ui.microscopeState with
  | .ready session _ =>
      match vm.ui.timelineBounds.filter fun bounds =>
          bounds.sessionId = session.sessionId && bounds.isSane with
      | none => pure ⟨⟩
      | some bounds =>
          let selection : TimelineRangeSelection := ⟨session.sessionId, startUs, endUs⟩
          if selection.isSaneFor bounds then update (withRange bounds selection) else pure ⟨⟩
  | _ => pure ⟨⟩

def clearTimelineRange : Segment π ρ PUnit := update fun ui => { ui with timelineRange := none }

/-! ### Live scrubbing -/

def enqueueLiveScrub (target : LiveScrubTarget) (nanoTime : Int) : Segment π ρ PUnit := do
  let vm ← get
  match vm.ui.microscopeState with
  | .ready session _ =>
      let submitted ← ofExcept id (vm.scrubGate.submit session.sessionId target nanoTime)
      modify fun vm => { vm with scrubGate := submitted.2 }
  | _ => pure ⟨⟩

def previewMicroscopeTimestampUs (timestampUs nanoTime : Int) : Segment π ρ PUnit :=
  enqueueLiveScrub (.timestamp timestampUs) nanoTime

def previewMicroscopeFrame (frameId nanoTime : Int) : Segment π ρ PUnit :=
  if frameId < 0 then pure ⟨⟩ else enqueueLiveScrub (.frame frameId) nanoTime

/-- The worker takes up the next request. -/
def beginScrub : Segment π ρ PUnit :=
  modify fun vm =>
    match vm.rendering with
    | some _ => vm
    | none => { vm with scrubGate := vm.scrubGate.beginNext.2, rendering := vm.scrubGate.beginNext.1 }

/-- The update of the worker, for the session of its request. -/
def withPreview (request : LiveScrubRequest) (preview : MicroscopeScrubPreview π)
    (current : FrameScopeUiState π ρ) : FrameScopeUiState π ρ :=
  match current.microscopeState with
  | .ready session _ =>
      if session.sessionId = request.sessionId then { current with scrubPreview := some preview }
      else current
  | _ => current

/-- The worker has a preview, or a failure. -/
def scrubRendered (result : Except Failure (MicroscopeScrubPreview π)) : Segment π ρ PUnit := do
  let vm ← get
  match vm.rendering with
  | none => pure ⟨⟩
  | some request =>
      modify fun vm => { vm with scrubGate := (vm.scrubGate.finish request).2, rendering := none }
      match (vm.scrubGate.finish request).1, result with
      | true, .ok preview =>
          if preview.sessionId = request.sessionId then update (withPreview request preview)
          else pure ⟨⟩
      | _, _ => pure ⟨⟩

/-- The worker is cancelled while it renders. -/
def scrubCancelled : Segment π ρ PUnit :=
  modify fun vm =>
    match vm.rendering with
    | none => vm
    | some request =>
        { vm with scrubGate := (vm.scrubGate.finish request).2, rendering := none }

/-! ### Indexing progress -/

/-- The callback reads the state, for a progress to present. -/
def progressRead (revision inspectionRevision : Nat) (presented : ρ) : Segment π ρ PUnit :=
  modify fun vm =>
    match vm.ui.microscopeState with
    | .opening =>
        if vm.isCurrent inspectionRevision revision then
          { vm with
            progressUpdate := some (vm.ui, { vm.ui with indexingProgress := some presented }) }
        else vm
    | _ => vm

/-- The callback sets the state, unless it is no longer the one it has read. -/
def progressSet [DecidableEq π] [DecidableEq ρ] : Segment π ρ PUnit := do
  let vm ← get
  match vm.progressUpdate with
  | none => pure ⟨⟩
  | some (expected, next) =>
      modify fun vm => { vm with progressUpdate := none }
      if vm.ui = expected then update fun _ => next else pure ⟨⟩

end Segments

/-! ## Steps -/

/-- What the user, the repository, the preview source and the other threads do. -/
inductive UiEvent (π ρ : Type) where
  | onPickerStarted
  | onVideoSelected
  | cancelInspection
  | onPickerCancelled
  | onCleared
  | clearError
  | stepMicroscope (delta : Int)
  | jumpMicroscopeFrame (frameId : Int)
  | jumpMicroscopeTimestampUs
  | finishMicroscopeScrubTimestampUs
  | finishMicroscopeScrubFrame (frameId : Int)
  | commitTimelineRange (startUs endUs : Int)
  | clearTimelineRange
  | previewMicroscopeTimestampUs (timestampUs nanoTime : Int)
  | previewMicroscopeFrame (frameId nanoTime : Int)
  | sourceClosed (generation : Nat)
  | inspected (generation : Nat) (success : Bool)
  | inspectEnded (generation : Nat)
  | started (revision : Nat)
  | opened (revision : Nat) (result : Except Failure MicroscopeSessionSnapshot)
  /-- A jump or a step of a coroutine has returned. -/
  | moved (revision : Nat) (result : Except Failure MicroscopeSessionSnapshot)
  | frameLoaded (revision : Nat) (result : Except Failure (MicroscopeFrame π))
  | errorClosed (revision : Nat)
  | microscopeEnded (revision : Nat)
  | beginScrub
  | scrubRendered (result : Except Failure (MicroscopeScrubPreview π))
  | scrubCancelled
  | progressRead (revision : Nat) (presented : ρ)
  | progressSet

section Steps

variable {π ρ : Type} [DecidableEq π]

/-- A coroutine goes on, with what the event brings it. -/
def resume (job : MicroscopeJob π) (revision : Nat) : UiEvent π ρ → Segment π ρ PUnit
  | .started _ =>
      match job.work with
      | .launched => openStarted revision job.inspectionRevision
      | _ => pure ⟨⟩
  | .opened _ result =>
      match job.work with
      | .opening => opened revision job.inspectionRevision result
      | _ => pure ⟨⟩
  | .moved _ result =>
      match job.work with
      | .jumping session => jumpedLast revision job.inspectionRevision session result
      | .restoring session lastSession =>
          restored revision job.inspectionRevision session lastSession result
      | .navigating session => navigated revision job.inspectionRevision session result
      | _ => pure ⟨⟩
  | .frameLoaded _ result =>
      match job.work with
      | .loading session => frameLoaded revision job.inspectionRevision session result
      | _ => pure ⟨⟩
  | .errorClosed _ =>
      match job.work with
      | .closing error => errorClosed revision job.inspectionRevision error
      | _ => pure ⟨⟩
  | .progressRead _ presented =>
      match job.work with
      | .opening => progressRead revision job.inspectionRevision presented
      | _ => pure ⟨⟩
  | _ => pure ⟨⟩

/-- The coroutine of an event goes on, if there is one. -/
def resumeAt (revision : Nat) (event : UiEvent π ρ) : Segment π ρ PUnit := do
  let vm ← get
  match vm.microscopeJobs revision with
  | none => pure ⟨⟩
  | some job => resume job revision event

variable [DecidableEq ρ]

def segment (event : UiEvent π ρ) : Segment π ρ PUnit :=
  match event with
  | .onPickerStarted => onPickerStarted
  | .onVideoSelected => onVideoSelected
  | .cancelInspection => cancelInspection
  | .onPickerCancelled => onPickerCancelled
  | .onCleared => onCleared
  | .clearError => clearError
  | .stepMicroscope delta => stepMicroscope delta
  | .jumpMicroscopeFrame frameId => jumpMicroscopeFrame frameId
  | .jumpMicroscopeTimestampUs => jumpMicroscopeTimestampUs
  | .finishMicroscopeScrubTimestampUs => finishMicroscopeScrubTimestampUs
  | .finishMicroscopeScrubFrame frameId => finishMicroscopeScrubFrame frameId
  | .commitTimelineRange startUs endUs => commitTimelineRange startUs endUs
  | .clearTimelineRange => clearTimelineRange
  | .previewMicroscopeTimestampUs timestampUs nanoTime =>
      previewMicroscopeTimestampUs timestampUs nanoTime
  | .previewMicroscopeFrame frameId nanoTime => previewMicroscopeFrame frameId nanoTime
  | .sourceClosed generation => sourceClosed generation
  | .inspected generation success => inspected generation success
  | .inspectEnded generation => endInspect generation
  | .started revision => resumeAt revision event
  | .opened revision _ => resumeAt revision event
  | .moved revision _ => resumeAt revision event
  | .frameLoaded revision _ => resumeAt revision event
  | .errorClosed revision => resumeAt revision event
  | .microscopeEnded revision => endMicroscope revision
  | .beginScrub => beginScrub
  | .scrubRendered result => scrubRendered result
  | .scrubCancelled => scrubCancelled
  | .progressRead revision _ => resumeAt revision event
  | .progressSet => progressSet

def step (vm : ViewModel π ρ) (event : UiEvent π ρ) : ViewModel π ρ :=
  finalState (segment event vm)

end Steps

/-! ## Coherence -/

/-- What a published state promises its readers. -/
structure Coherent {π ρ : Type} (ui : FrameScopeUiState π ρ) : Prop where
  /-- The frame that is shown is the one that the session stands on. -/
  frame : ∀ session frame, ui.microscopeState = .ready session frame →
    frame.sessionId = session.sessionId ∧
      session.currentFrame.map (·.frameId) = some frame.frameId
  preview : ∀ preview, ui.scrubPreview = some preview →
    ui.microscopeState.shownSessionId = some preview.sessionId
  bounds : ∀ bounds, ui.timelineBounds = some bounds →
    ui.microscopeState = .opening ∨ ui.microscopeState.currentSessionId = some bounds.sessionId
  range : ∀ range, ui.timelineRange = some range → ∃ bounds, ui.timelineBounds = some bounds ∧
    range.isSaneFor bounds = true
  progress : ui.indexingProgress ≠ none → ui.microscopeState = .opening

end FrameScope.Ports.MicroscopeUi
