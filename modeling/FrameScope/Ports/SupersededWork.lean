import Mathlib

/-!
# Superseding a request

Port of how `MainViewModel.kt` and `MicroscopeSimilarityViewModel.kt` supersede
a request, and of the bodies of `inspect`, `openMicroscope` and
`findSimilarFrames` that run for one.  A superseding call reads the recorded
operation id, requests the cancellation of it and cancels the coroutine, one
step after the other; a body checks its coroutine, records its id and enters the
native function.  Every interleaving of these steps is a run.

A request is named by the order of its launch, and its native operation is named
after it.  The two view models have a repository each, with a recorded id of its
own.  A search does not wait here for the one before it to end.
-/

namespace FrameScope.Ports.SupersededWork

inductive WorkKind where
  | inspect
  | openMicroscope
  | findSimilarFrames
  deriving DecidableEq, Repr

/-- The repository that a body runs in. -/
inductive Lane where
  | frameScope
  | similarity
  deriving DecidableEq, Repr

def WorkKind.lane : WorkKind → Lane
  | .inspect => .frameScope
  | .openMicroscope => .frameScope
  | .findSimilarFrames => .similarity

/-- Where a body is between two of its steps. -/
inductive WorkPhase where
  /-- Before `ensureActive`. -/
  | launched
  /-- Before the operation id is recorded. -/
  | checked
  /-- Recorded, before the second `ensureActive`. -/
  | recorded
  /-- Nothing is left to check before the native function. -/
  | admitted
  | native
  /-- Before the id is cleared. -/
  | returned
  | ended
  deriving DecidableEq, Repr

/-- A request: whether its coroutine is cancelled, and whether the cancellation of
its native operation has been requested. -/
structure Request where
  kind : WorkKind
  phase : WorkPhase
  cancelled : Bool
  requested : Bool
  deriving DecidableEq, Repr

/-- A step of the main thread. -/
inductive MainStep where
  /-- `cancelActiveInspection` or `cancelActiveSearch`, up to the read of the id. -/
  | cancelActive (lane : Lane)
  /-- The cancellation of the id that was read, if it is one. -/
  | requestCancellation (operation : Option Nat)
  /-- `job?.cancel()`, and the job is forgotten. -/
  | cancelJob (kind : WorkKind)
  /-- The job is cancelled by a call that supersedes nothing. -/
  | replaceJob (kind : WorkKind)
  | launch (kind : WorkKind)
  deriving DecidableEq, Repr

/-- The calls of the main thread. -/
inductive MainCall where
  | cancelInspection
  | onPickerStarted
  | onVideoSelected
  /-- `openMicroscope` of the view model, after an inspection. -/
  | openMicroscope
  | findSimilarFrames
  | cancelSearch
  deriving DecidableEq, Repr

def cancelRunningInspection : List MainStep := [.cancelActive .frameScope, .cancelJob .inspect]

def invalidateMicroscopeWork : List MainStep := [.cancelActive .frameScope, .cancelJob .openMicroscope]

def MainCall.steps : MainCall → List MainStep
  | .cancelInspection => cancelRunningInspection ++ invalidateMicroscopeWork
  | .onPickerStarted => cancelRunningInspection ++ invalidateMicroscopeWork
  | .onVideoSelected => cancelRunningInspection ++ invalidateMicroscopeWork ++ [.launch .inspect]
  | .openMicroscope => [.replaceJob .openMicroscope, .launch .openMicroscope]
  | .findSimilarFrames =>
      [.cancelActive .similarity, .cancelJob .findSimilarFrames, .launch .findSimilarFrames]
  | .cancelSearch => [.cancelActive .similarity, .cancelJob .findSimilarFrames]

/-- `superseding` are the requests that the running call has superseded so far, and
`superseded` those of the calls that have returned. -/
structure WorkState where
  activeOperation : Lane → Option Nat
  jobs : WorkKind → Option Nat
  requests : Nat → Option Request
  launches : Nat
  program : List MainStep
  superseding : Nat → Bool
  superseded : Nat → Bool

def initial : WorkState :=
  ⟨fun _ => none, fun _ => none, fun _ => none, 0, [], fun _ => false, fun _ => false⟩

inductive WorkEvent where
  | call (call : MainCall)
  /-- The next step of the main thread. -/
  | continueMain
  /-- The next step of a body. -/
  | advance (request : Nat)
  /-- A body throws before it records an id. -/
  | fail (request : Nat)
  deriving DecidableEq, Repr

namespace WorkState

variable (s : WorkState)

def setRequest (r : Nat) (request : Request) : WorkState :=
  { s with requests := Function.update s.requests r (some request) }

def setPhase (r : Nat) (request : Request) (phase : WorkPhase) : WorkState :=
  s.setRequest r { request with phase := phase }

/-! ## The main thread -/

def requestCancellation (operation : Option Nat) : WorkState :=
  match operation with
  | none => s
  | some r =>
      match s.requests r with
      | none => s
      | some request => s.setRequest r { request with requested := true }

def cancelCoroutine (r : Nat) : WorkState :=
  match s.requests r with
  | none => s
  | some request => s.setRequest r { request with cancelled := true }

/-- The job of a kind is cancelled and forgotten. -/
def dropJob (kind : WorkKind) : WorkState :=
  match s.jobs kind with
  | none => s
  | some r => { s.cancelCoroutine r with jobs := Function.update s.jobs kind none }

/-- What the running call supersedes with the job of a kind. -/
def supersede (kind : WorkKind) : Nat → Bool :=
  match s.jobs kind with
  | none => s.superseding
  | some r => Function.update s.superseding r true

def launch (kind : WorkKind) : WorkState :=
  { s.setRequest s.launches ⟨kind, .launched, false, false⟩ with
    jobs := Function.update s.jobs kind (some s.launches)
    launches := s.launches + 1 }

/-- One step, with the steps that remain. -/
def mainStep (instruction : MainStep) (rest : List MainStep) : WorkState :=
  match instruction with
  | .cancelActive lane =>
      { s with program := .requestCancellation (s.activeOperation lane) :: rest }
  | .requestCancellation operation => { s.requestCancellation operation with program := rest }
  | .cancelJob kind => { s.dropJob kind with program := rest, superseding := s.supersede kind }
  | .replaceJob kind => { s.dropJob kind with program := rest }
  | .launch kind => { s.launch kind with program := rest }

/-- The call has returned. -/
def settle : WorkState :=
  match s.program with
  | [] =>
      { s with
        superseding := fun _ => false
        superseded := fun r => s.superseded r || s.superseding r }
  | _ => s

def continueMain : WorkState :=
  match s.program with
  | [] => s
  | instruction :: rest => (s.mainStep instruction rest).settle

def startCall (call : MainCall) : WorkState :=
  match s.program with
  | [] => { s with program := call.steps }
  | _ => s

/-! ## The bodies -/

/-- The id is recorded: `inspect` and `openMicroscope` set it, whatever it was; a
search claims it only when it is free, and else is busy. -/
def record (r : Nat) (request : Request) : WorkState :=
  match request.kind with
  | .inspect =>
      { s.setPhase r request .recorded with
        activeOperation := Function.update s.activeOperation .frameScope (some r) }
  | .openMicroscope =>
      { s.setPhase r request .admitted with
        activeOperation := Function.update s.activeOperation .frameScope (some r) }
  | .findSimilarFrames =>
      if s.activeOperation .similarity = none then
        { s.setPhase r request .recorded with
          activeOperation := Function.update s.activeOperation .similarity (some r) }
      else s.setPhase r request .ended

/-- `compareAndSet(operationId, NO_OPERATION)`. -/
def clear (r : Nat) (request : Request) : WorkState :=
  { s.setPhase r request .ended with
    activeOperation := Function.update s.activeOperation request.kind.lane
      (if s.activeOperation request.kind.lane = some r then none
        else s.activeOperation request.kind.lane) }

def advance (r : Nat) : WorkState :=
  match s.requests r with
  | none => s
  | some request =>
      match request.phase with
      | .launched => s.setPhase r request (if request.cancelled then .ended else .checked)
      | .checked => s.record r request
      | .recorded => s.setPhase r request (if request.cancelled then .returned else .admitted)
      | .admitted => s.setPhase r request .native
      | .native => s.setPhase r request .returned
      | .returned => s.clear r request
      | .ended => s

def fail (r : Nat) : WorkState :=
  match s.requests r with
  | some ⟨kind, .checked, cancelled, requested⟩ =>
      s.setRequest r ⟨kind, .ended, cancelled, requested⟩
  | _ => s

def step (event : WorkEvent) : WorkState :=
  match event with
  | .call call => s.startCall call
  | .continueMain => s.continueMain
  | .advance r => s.advance r
  | .fail r => s.fail r

end WorkState

end FrameScope.Ports.SupersededWork
