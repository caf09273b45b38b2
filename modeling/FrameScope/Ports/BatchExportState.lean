import Mathlib

/-!
# The state of a batch export

Port of `BatchExportViewModel.kt`.  A call of the main thread looks at the
state, advances `generation` and writes the state, one after the other; an
export runs on the IO thread, and its progress callbacks read the generation in
one step and write the state in another.  Every interleaving of these steps is
a run.  An export is named by the generation it was started in.

An export may be cancelled at any moment, or run on to its end: what cancels the
native operation is not looked at here.
-/

namespace FrameScope.Ports.BatchExportState

/-! ## Requests -/

inductive FrameExportFormat where
  | png
  | jpeg
  | webPLossless
  deriving DecidableEq, Repr

inductive BatchExportSelection where
  | currentFrame (frameId : Int)
  | frameRangeInclusive (startFrameId endFrameId : Int)
  | timestampRangeUsInclusive (startUs endUs : Int)
  | allFrames
  | uniqueGroups
  deriving DecidableEq, Repr

def BatchExportSelection.isSane : BatchExportSelection → Bool
  | .currentFrame frameId => decide (0 ≤ frameId)
  | .frameRangeInclusive startFrameId endFrameId =>
      decide (0 ≤ startFrameId) && decide (startFrameId ≤ endFrameId)
  | .timestampRangeUsInclusive startUs endUs => decide (startUs ≤ endUs)
  | .allFrames => true
  | .uniqueGroups => true

structure BatchExportRequest where
  selection : BatchExportSelection
  everyNFrames : Int
  format : FrameExportFormat
  jpegQuality : Int
  deriving DecidableEq, Repr

def BatchExportRequest.isSane (request : BatchExportRequest) : Bool :=
  request.selection.isSane && decide (0 < request.everyNFrames) &&
    (request.selection != .uniqueGroups || request.everyNFrames == 1) &&
    (request.format != .jpeg || (decide (1 ≤ request.jpegQuality) && decide (request.jpegQuality ≤ 100)))

structure PendingBatchExport where
  sessionId : Int
  currentFrameIdAtRequest : Option Int
  request : BatchExportRequest
  deriving DecidableEq, Repr

/-- The guards of `beginBatchExport`: the export that it asks for, if they pass. -/
def requested (sessionId : Int) (currentFrameId : Option Int) (request : BatchExportRequest) :
    Option PendingBatchExport :=
  if sessionId ≤ 0 ∨ request.isSane = false then none
  else
    match request.selection with
    | .currentFrame frameId =>
        if currentFrameId = some frameId then some ⟨sessionId, currentFrameId, request⟩ else none
    | _ => some ⟨sessionId, currentFrameId, request⟩

def matchesCurrentMicroscope (pending : PendingBatchExport) (currentSessionId currentFrameId : Option Int) :
    Bool :=
  if currentSessionId = some pending.sessionId then
    match pending.request.selection with
    | .currentFrame frameId => decide (currentFrameId = some frameId)
    | _ => true
  else false

/-! ## Results -/

structure BatchExportProgress where
  frameId : Int
  ordinal : Int
  total : Int
  deriving DecidableEq, Repr

structure BatchExportResult where
  sessionId : Int
  expectedFrames : Int
  committedFrames : Int
  encodedBytes : Int
  decodedFrames : Int
  usedKeyframeSeek : Bool
  fellBackToStreamStart : Bool
  format : FrameExportFormat
  mimeType : String
  deriving DecidableEq, Repr

structure ExportedBatchDocument where
  manifestUri : String
  manifestDisplayName : String
  «export» : BatchExportResult
  workspaceUri : Option String
  deriving DecidableEq, Repr

/-- A failure: its message, its code when it is a `FrameExportException`, and the
message and code that `ExportStorageFailureClassifier` finds for it. -/
structure ExportFailure where
  message : Option String
  code : Option String
  storageFailure : Option (String × String)
  deriving DecidableEq, Repr

/-- How `exportFrames` ends. -/
inductive ExportOutcome where
  | success (document : ExportedBatchDocument)
  | failure (error : ExportFailure)
  | cancelled
  deriving DecidableEq, Repr

inductive BatchExportUiState where
  | idle
  | awaitingDestination (pending : PendingBatchExport)
  | exporting (pending : PendingBatchExport) (progress : Option BatchExportProgress)
  | success (document : ExportedBatchDocument)
  | error (message : String) (code : Option String)
  deriving DecidableEq, Repr

/-- The state that the end of a current export is shown as. -/
def ExportOutcome.uiState (pending : PendingBatchExport) : ExportOutcome → BatchExportUiState
  | .success document =>
      if document.export.sessionId = pending.sessionId ∧
          document.export.format = pending.request.format then .success document
      else .error "The completed batch does not match the requested microscope session."
        (some "export_identity_mismatch")
  | .failure error =>
      .error ((error.storageFailure.map Prod.fst).getD
          (error.message.getD "Could not export the selected frames."))
        ((error.storageFailure.map Prod.snd).or error.code)
  | .cancelled => .idle

/-! ## The view model -/

/-- Where an export is between two of its steps. -/
inductive ExportPhase where
  /-- On the IO thread, in no callback. -/
  | running
  /-- In a callback, before it reads the generation. -/
  | checking (progress : BatchExportProgress)
  /-- In a callback, before it writes the state. -/
  | publishing (progress : BatchExportProgress)
  /-- Over on the IO thread, the outcome on its way to the main thread. -/
  | completed (outcome : ExportOutcome)
  /-- `exportFrames` has returned to the main thread. -/
  | returned (outcome : ExportOutcome)
  deriving DecidableEq, Repr

/-- `exportFrames` has not returned. -/
def ExportPhase.isLive : ExportPhase → Bool
  | .returned _ => false
  | _ => true

/-- An export with what it was started for. -/
structure Export where
  pending : PendingBatchExport
  phase : ExportPhase
  deriving DecidableEq, Repr

/-- The calls that advance the generation, their guards passed. -/
inductive MainCall where
  | beginBatchExport (pending : PendingBatchExport)
  | onDestinationSelected (pending : PendingBatchExport)
  /-- `onDestinationSelected` when the microscope has changed. -/
  | staleDestination
  | onDestinationPickerCancelled
  | cancelForMicroscopeChange
  deriving DecidableEq, Repr

/-- Where the main thread is between two of its steps. -/
inductive MainPhase where
  | idle
  /-- The guards have passed, the generation is not advanced. -/
  | entered (call : MainCall)
  /-- The generation is advanced, the state is not written. -/
  | advanced (call : MainCall)
  /-- The outcome of a current export is not shown. -/
  | delivering (state : BatchExportUiState)
  /-- `dismissStatus` has seen a success or an error. -/
  | dismissing
  deriving DecidableEq, Repr

/-- `cancelled` records that the export was cancelled for a change of the
microscope, with no `beginBatchExport` since. -/
structure ViewModel where
  state : BatchExportUiState
  generation : Nat
  main : MainPhase
  exports : Nat → Option Export
  cancelled : Bool

def initial : ViewModel := ⟨.idle, 0, .idle, fun _ => none, false⟩

inductive ViewModelEvent where
  | beginBatchExport (sessionId : Int) (currentFrameId : Option Int) (request : BatchExportRequest)
  | onDestinationSelected (currentSessionId currentFrameId : Option Int)
  | onDestinationPickerCancelled
  | cancelForMicroscopeChange
  | dismissStatus
  /-- The next step of the main thread. -/
  | continueMain
  /-- An export calls back. -/
  | callback («export» : Nat) (progress : BatchExportProgress)
  /-- The next step of a callback. -/
  | advance («export» : Nat)
  /-- An export ends on the IO thread, or its end is replaced by a cancellation. -/
  | finish («export» : Nat) (outcome : ExportOutcome)
  /-- The main thread takes up the end of an export. -/
  | deliver («export» : Nat)
  deriving DecidableEq, Repr

namespace ViewModel

variable (m : ViewModel)

def setExport (g : Nat) (value : Export) : ViewModel :=
  { m with exports := Function.update m.exports g (some value) }

def beginBatchExport (sessionId : Int) (currentFrameId : Option Int) (request : BatchExportRequest) :
    ViewModel :=
  match requested sessionId currentFrameId request with
  | none => m
  | some pending => { m with main := .entered (.beginBatchExport pending), cancelled := false }

def onDestinationSelected (currentSessionId currentFrameId : Option Int) : ViewModel :=
  match m.state with
  | .awaitingDestination pending =>
      if matchesCurrentMicroscope pending currentSessionId currentFrameId = true then
        { m with main := .entered (.onDestinationSelected pending) }
      else { m with main := .entered .staleDestination }
  | _ => m

def onDestinationPickerCancelled : ViewModel :=
  match m.state with
  | .awaitingDestination _ => { m with main := .entered .onDestinationPickerCancelled }
  | _ => m

def dismissStatus : ViewModel :=
  match m.state with
  | .success _ => { m with main := .dismissing }
  | .error _ _ => { m with main := .dismissing }
  | _ => m

/-- The write of a call, and the launch of the export. -/
def write (call : MainCall) : ViewModel :=
  match call with
  | .beginBatchExport pending => { m with state := .awaitingDestination pending, main := .idle }
  | .onDestinationSelected pending =>
      { m.setExport m.generation ⟨pending, .running⟩ with
        state := .exporting pending none, main := .idle }
  | .staleDestination =>
      { m with
        state := .error "The microscope changed while the export folder was being selected."
          (some "stale_result")
        main := .idle }
  | .onDestinationPickerCancelled => { m with state := .idle, main := .idle }
  | .cancelForMicroscopeChange => { m with state := .idle, main := .idle, cancelled := true }

def continueMain : ViewModel :=
  match m.main with
  | .idle => m
  | .entered call => { m with generation := m.generation + 1, main := .advanced call }
  | .advanced call => m.write call
  | .delivering state => { m with state := state, main := .idle }
  | .dismissing => { m with state := .idle, main := .idle }

def callback (g : Nat) (progress : BatchExportProgress) : ViewModel :=
  match m.exports g with
  | some ⟨pending, .running⟩ => m.setExport g ⟨pending, .checking progress⟩
  | _ => m

def advance (g : Nat) : ViewModel :=
  match m.exports g with
  | some ⟨pending, .checking progress⟩ =>
      m.setExport g ⟨pending, if g = m.generation then .publishing progress else .running⟩
  | some ⟨pending, .publishing progress⟩ =>
      { m.setExport g ⟨pending, .running⟩ with state := .exporting pending (some progress) }
  | _ => m

def finish (g : Nat) (outcome : ExportOutcome) : ViewModel :=
  match m.exports g, outcome with
  | some ⟨pending, .running⟩, _ => m.setExport g ⟨pending, .completed outcome⟩
  | some ⟨pending, .completed _⟩, .cancelled => m.setExport g ⟨pending, .completed .cancelled⟩
  | _, _ => m

def deliver (g : Nat) : ViewModel :=
  match m.exports g with
  | some ⟨pending, .completed outcome⟩ =>
      if g = m.generation then
        { m.setExport g ⟨pending, .returned outcome⟩ with
          main := .delivering (outcome.uiState pending) }
      else m.setExport g ⟨pending, .returned outcome⟩
  | _ => m

/-- What the main thread takes up when it is idle. -/
def startMain (event : ViewModelEvent) : ViewModel :=
  match event with
  | .beginBatchExport sessionId currentFrameId request =>
      m.beginBatchExport sessionId currentFrameId request
  | .onDestinationSelected currentSessionId currentFrameId =>
      m.onDestinationSelected currentSessionId currentFrameId
  | .onDestinationPickerCancelled => m.onDestinationPickerCancelled
  | .cancelForMicroscopeChange => { m with main := .entered .cancelForMicroscopeChange }
  | .dismissStatus => m.dismissStatus
  | .deliver g => m.deliver g
  | _ => m

/-- A step.  The main thread does one thing at a time. -/
def step (event : ViewModelEvent) : ViewModel :=
  match event with
  | .continueMain => m.continueMain
  | .callback g progress => m.callback g progress
  | .advance g => m.advance g
  | .finish g outcome => m.finish g outcome
  | event => if m.main = .idle then m.startMain event else m

end ViewModel

end FrameScope.Ports.BatchExportState
