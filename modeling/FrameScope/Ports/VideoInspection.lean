import Mathlib

/-!
# Inspecting the selected video

Port of the inspection of `MainViewModel.kt` and of `inspect` of
`FrameScopeRepository.kt`.  The calls of the main thread advance
`inspectionGeneration` and later update the state; an inspection runs on the IO
thread, and its progress callbacks, `publishIfCurrent`, read the generation in
one step and update the state in another.  Every interleaving of these steps is
a run.  An inspection is named by the generation it was started in.

Cancellation may stop an inspection wherever it looks for it, or not at all.
-/

namespace FrameScope.Ports.VideoInspection

section Model

variable {ν : Type}

/-! ## States -/

inductive VideoInspectionState (ν : Type) where
  | idle
  | picking
  | opening
  | inspecting
  | ready (video : ν)
  | error (message : String) (diagnostic : Option String)
  | cancelled
  deriving DecidableEq, Repr

def VideoInspectionState.isError : VideoInspectionState ν → Bool
  | .error _ _ => true
  | _ => false

inductive InspectionProgress where
  | opening
  | inspecting
  deriving DecidableEq, Repr

/-- The state that a progress callback publishes. -/
def InspectionProgress.nextState : InspectionProgress → VideoInspectionState ν
  | .opening => .opening
  | .inspecting => .inspecting

/-- What `inspect` returns: a video, or the message and diagnostic of a failure. -/
inductive InspectResult (ν : Type) where
  | success (video : ν)
  | failure (message : Option String) (diagnostic : Option String)
  deriving DecidableEq, Repr

def InspectResult.nextState : InspectResult ν → VideoInspectionState ν
  | .success video => .ready video
  | .failure message diagnostic =>
      .error (message.getD "Could not inspect this video.") diagnostic

/-- Where an inspection is between two of its steps. -/
inductive InspectPhase (ν : Type) where
  | absent
  /-- `repository.closeMicroscope()` is awaited. -/
  | closing
  /-- `inspect`, before `onProgress(Opening)`. -/
  | started
  /-- `publishIfCurrent`, before it reads the generation. -/
  | checking (progress : InspectionProgress)
  /-- `publishIfCurrent`, before it updates the state. -/
  | publishing (progress : InspectionProgress)
  /-- The descriptor is opened. -/
  | opened
  /-- The native inspection. -/
  | native
  /-- The result is on its way to the main thread. -/
  | returned (result : InspectResult ν)
  | ended
  deriving DecidableEq, Repr

/-- The phase after a progress callback. -/
def InspectionProgress.after : InspectionProgress → InspectPhase ν
  | .opening => .opened
  | .inspecting => .native

/-- The calls that advance the generation. -/
inductive MainCall where
  | onPickerStarted
  | onVideoSelected
  | cancelInspection
  | onPickerCancelled
  | onCleared
  deriving DecidableEq, Repr

/-- Where the main thread is between two of its steps. -/
inductive MainPhase (ν : Type) where
  | idle
  /-- The generation is advanced, the state is not updated. -/
  | advanced (call : MainCall)
  /-- The result of a current inspection is not published. -/
  | delivering (generation : Nat) (result : InspectResult ν)
  /-- `clearError` has seen an error. -/
  | clearing
  deriving DecidableEq, Repr

/-- An update of the state by an inspection, with the generation at the time. -/
structure Publication where
  inspection : Nat
  generation : Nat
  deriving DecidableEq, Repr

/-- `publications` and `cancelled` record what happened: the updates of the
inspections, and that an inspection was cancelled with no selection since. -/
structure InspectionState (ν : Type) where
  inspectionGeneration : Nat
  videoState : VideoInspectionState ν
  main : MainPhase ν
  inspections : Nat → InspectPhase ν
  publications : List Publication
  cancelled : Bool

def initial : InspectionState ν := ⟨0, .idle, .idle, fun _ => .absent, [], false⟩

inductive InspectionEvent (ν : Type) where
  | call (call : MainCall)
  /-- The main thread updates the state, if its call does. -/
  | update
  /-- `clearError`, when the microscope is in an error with a session, or not. -/
  | clearError (sessionError : Bool)
  /-- `closeMicroscope` is over. -/
  | resume (inspection : Nat)
  /-- A result arrives at the main thread. -/
  | deliver (inspection : Nat)
  /-- The next step of an inspection on the IO thread. -/
  | advance (inspection : Nat)
  /-- `inspect` returns. -/
  | finish (inspection : Nat) (result : InspectResult ν)
  /-- The inspection ends because it was cancelled. -/
  | stop (inspection : Nat)
  deriving DecidableEq, Repr

namespace InspectionState

variable (s : InspectionState ν)

def setInspection (inspection : Nat) (phase : InspectPhase ν) : InspectionState ν :=
  { s with inspections := Function.update s.inspections inspection phase }

/-- An inspection updates the state. -/
def publish (inspection : Nat) (state : VideoInspectionState ν) : InspectionState ν :=
  { s with
    videoState := state
    publications := ⟨inspection, s.inspectionGeneration⟩ :: s.publications }

/-- A call starts: whether a cancellation is still in force is known by then. -/
def startCall (call : MainCall) : InspectionState ν :=
  { s with
    inspectionGeneration := s.inspectionGeneration + 1
    main := .advanced call
    cancelled := s.cancelled && (call != .onPickerStarted && call != .onVideoSelected) }

/-- The update of a call. -/
def finishCall (call : MainCall) : InspectionState ν :=
  match call with
  | .onPickerStarted => { s with videoState := .picking, main := .idle }
  | .onVideoSelected =>
      { s.setInspection s.inspectionGeneration .closing with videoState := .opening, main := .idle }
  | .cancelInspection => { s with videoState := .cancelled, main := .idle, cancelled := true }
  | .onPickerCancelled => { s with videoState := .cancelled, main := .idle, cancelled := true }
  | .onCleared => { s with main := .idle }

/-- The main thread goes on after its check. -/
def update : InspectionState ν :=
  match s.main with
  | .idle => s
  | .advanced call => s.finishCall call
  | .delivering generation result =>
      { (s.publish generation result.nextState).setInspection generation .ended with main := .idle }
  | .clearing => { s with videoState := .idle, main := .idle }

/-- `clearError`: with a session error it looks at the state and updates it later. -/
def clearError (sessionError : Bool) : InspectionState ν :=
  if s.videoState.isError = false then s
  else if sessionError = true then { s with main := .clearing }
  else { s with videoState := .idle }

/-- The next step on the IO thread. -/
def advance (inspection : Nat) : InspectionState ν :=
  match s.inspections inspection with
  | .started => s.setInspection inspection (.checking .opening)
  | .opened => s.setInspection inspection (.checking .inspecting)
  | .checking progress =>
      s.setInspection inspection
        (if inspection = s.inspectionGeneration then .publishing progress else progress.after)
  | .publishing progress =>
      (s.publish inspection progress.nextState).setInspection inspection progress.after
  | _ => s

/-- `inspect` returns: a failure from wherever it is, a success from the native call only. -/
def finish (inspection : Nat) (result : InspectResult ν) : InspectionState ν :=
  match s.inspections inspection, result with
  | .started, .failure _ _ => s.setInspection inspection (.returned result)
  | .opened, .failure _ _ => s.setInspection inspection (.returned result)
  | .native, _ => s.setInspection inspection (.returned result)
  | _, _ => s

/-- The checks for a cancellation, and the suspension points. -/
def stop (inspection : Nat) : InspectionState ν :=
  match s.inspections inspection with
  | .closing => s.setInspection inspection .ended
  | .started => s.setInspection inspection .ended
  | .opened => s.setInspection inspection .ended
  | .native => s.setInspection inspection .ended
  | .returned _ => s.setInspection inspection .ended
  | _ => s

/-- The main thread takes up the inspection after `closeMicroscope`. -/
def resume (inspection : Nat) : InspectionState ν :=
  match s.inspections inspection with
  | .closing =>
      s.setInspection inspection
        (if inspection = s.inspectionGeneration then .started else .ended)
  | _ => s

/-- The main thread takes up the result. -/
def deliver (inspection : Nat) : InspectionState ν :=
  match s.inspections inspection with
  | .returned result =>
      if inspection = s.inspectionGeneration then { s with main := .delivering inspection result }
      else s.setInspection inspection .ended
  | _ => s

/-- A step.  The main thread does one thing at a time. -/
def step (event : InspectionEvent ν) : InspectionState ν :=
  match event with
  | .call call =>
      match s.main with
      | .idle => s.startCall call
      | _ => s
  | .update => s.update
  | .clearError sessionError =>
      match s.main with
      | .idle => s.clearError sessionError
      | _ => s
  | .resume inspection =>
      match s.main with
      | .idle => s.resume inspection
      | _ => s
  | .deliver inspection =>
      match s.main with
      | .idle => s.deliver inspection
      | _ => s
  | .advance inspection => s.advance inspection
  | .finish inspection result => s.finish inspection result
  | .stop inspection => s.stop inspection

end InspectionState

end Model

end FrameScope.Ports.VideoInspection
