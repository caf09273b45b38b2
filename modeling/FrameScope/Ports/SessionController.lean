import FrameScope.Verified.Runs

/-!
# The Android session controller

Port of `MicroscopeSessionController.kt` and `MicroscopeStorageGate.kt`: the
calls that the repository makes on one controller, each split where it leaves a
lock or waits for a native call.

Every section under `stateLock` is one step.  The revision is an atomic that is
also moved outside that lock, but a section reads it once and nothing it writes
can be seen before it ends, so the section takes effect where it reads the
revision.  Native calls take effect in one step, with the answer they return.
-/

namespace FrameScope.Ports.SessionController

open FrameScope.Verified.Runs

/-- `Long.MAX_VALUE`. -/
def LONG_MAX : Int := 2 ^ 63 - 1

/-- `Long.MIN_VALUE`. -/
def TERMINAL_REVISION : Int := -2 ^ 63

structure MicroscopeSessionSnapshot where
  sessionId : Int
  currentFrame : Option Int
  deriving DecidableEq, Repr

inductive NativeMicroscope where
  | success (session : MicroscopeSessionSnapshot) (engine : String)
  | failure (code message : String) (engine : Option String)
  deriving DecidableEq, Repr

structure ExactNavigationDiagnostics where
  requestedExactFrames : Int
  randomSeeks : Int
  forwardDecodes : Int
  decoderReopenCount : Int
  decodedFrames : Int
  warmNavigationHits : Int
  ramNavigationHits : Int
  lastSeekDistanceFrames : Int
  totalSeekDistanceFrames : Int
  lastFramesDecoded : Int
  lastDecoderReopens : Int
  lastRandomSeek : Bool
  lastWarmNavigationHit : Bool
  deriving DecidableEq, Repr

structure PreparedMicroscopeFrame where
  sessionId : Int
  frameId : Int
  generation : Int
  width : Int
  height : Int
  strideBytes : Int
  byteLen : Int
  navigation : Option ExactNavigationDiagnostics
  deriving DecidableEq, Repr

inductive NativeFramePreparation where
  | success (frame : PreparedMicroscopeFrame) (engine : String)
  | failure (code message : String) (engine : Option String)
  deriving DecidableEq, Repr

inductive NativeFrameCopy where
  | success (frame : PreparedMicroscopeFrame) (rgba : List UInt8)
  | failure (code message : String)
  deriving DecidableEq, Repr

def staleFailure (engine : Option String) : NativeMicroscope :=
  .failure "stale_result" "A newer microscope request superseded this native result." engine

def sessionIdentityFailure (engine : Option String) : NativeMicroscope :=
  .failure "session_identity_mismatch" "Native navigation returned a different microscope session."
    engine

def noSessionFrameFailure : NativeFrameCopy :=
  .failure "session_not_found" "No microscope session is currently open."

def noFramesFailure : NativeFrameCopy :=
  .failure "no_frames" "The current microscope session contains no indexed frames."

def staleFrameFailure : NativeFrameCopy :=
  .failure "stale_result" "A newer microscope request superseded this frame result."

def presentationIdentityFailure : NativeFrameCopy :=
  .failure "presentation_identity_mismatch"
    "Prepared or copied RGBA metadata does not match the authoritative microscope target."

/-- What a call is refused with before it reaches native code. -/
inductive Refusal where
  | noSession | revisionExhausted
  deriving DecidableEq, Repr

/-- `noSessionFailure` and `revisionExhaustedFailure`. -/
def Refusal.failure (refusal : Refusal) (engine : Option String) : NativeMicroscope :=
  match refusal with
  | .noSession => .failure "session_not_found" "No microscope session is currently open." engine
  | .revisionExhausted =>
      .failure "request_revision_exhausted"
        "Microscope request ordering space is exhausted for this controller." engine

/-! ## The storage gate -/

structure MicroscopeStorageGate where
  sessionTransitions : Nat
  activeSession : Bool
  storageOperationActive : Bool
  deriving DecidableEq, Repr

namespace MicroscopeStorageGate

def initial : MicroscopeStorageGate := ⟨0, false, false⟩

variable (gate : MicroscopeStorageGate)

/-- `none` while the thread waits for `storageFinished`. -/
def beginSessionTransition : Option MicroscopeStorageGate :=
  if gate.storageOperationActive then none
  else some { gate with sessionTransitions := gate.sessionTransitions + 1 }

/-- `none` where the check fails. -/
def endSessionTransition (hasActiveSession : Bool) : Option MicroscopeStorageGate :=
  if 0 < gate.sessionTransitions then
    some { gate with
      sessionTransitions := gate.sessionTransitions - 1
      activeSession := hasActiveSession }
  else none

/-- The first section of `runStorageIfIdle`: `none` is `Busy`. -/
def beginStorage : Option MicroscopeStorageGate :=
  if gate.activeSession || decide (0 < gate.sessionTransitions) || gate.storageOperationActive then
    none
  else some { gate with storageOperationActive := true }

/-- The section of the `finally` block. -/
def endStorage : MicroscopeStorageGate := { gate with storageOperationActive := false }

end MicroscopeStorageGate

inductive StoragePhase where
  | idle | running
  | returned (available : Bool)
  deriving DecidableEq, Repr

/-! ## Calls -/

inductive CallResult where
  | microscope (result : NativeMicroscope)
  | closed (result : Bool)
  | frameCopy (result : NativeFrameCopy)
  | illegalState (message : String)
  deriving DecidableEq, Repr

/-- The public functions; `navigate` stands for a step and both jumps. -/
inductive Call where
  | openSession
  | navigate
  | loadCurrentFrame
  | closeCurrent
  | closeIfCurrent (sessionId : Int)
  deriving DecidableEq, Repr

/-- Where a call stands.  `refused` reads the engine next, `leaving` and `ending`
are the `finally` block of a session transition; `ending` has what
`currentSnapshot() != null` gave and, for the statements, how often a session
had come or gone by then. -/
inductive CallPhase where
  | idle
  | opening
  | openIssued (revision : Int)
  | opened (revision : Int) (result : NativeMicroscope)
  | discarding (sessionId : Int) (result : NativeMicroscope)
  | closing
  | invalidated
  | closingIf (sessionId : Int)
  | closingNative (sessionId : Int)
  | leaving (result : CallResult)
  | ending (hasActiveSession : Bool) (changes : Nat) (result : CallResult)
  | refused (transition : Bool) (refusal : Refusal)
  | targeted (sessionId : Int)
  | navigating (sessionId revision : Int)
  | navigated (sessionId revision : Int) (result : NativeMicroscope)
  | loading (target : MicroscopeSessionSnapshot)
  | preparing (sessionId frameId revision : Int)
  | prepared (sessionId frameId revision : Int) (result : NativeFramePreparation)
  | copying (sessionId frameId revision : Int) (frame : PreparedMicroscopeFrame)
  | copied (sessionId frameId revision : Int) (frame : PreparedMicroscopeFrame)
      (result : NativeFrameCopy)
  | returned (result : CallResult)
  deriving DecidableEq, Repr

/-- The open sessions of the native library with the current frame of each. -/
structure NativeSessions where
  current : Int → Option (Option Int)
  nextSessionId : Int

/-- `shownBy` is the call whose result the snapshot is and `changes` counts how
often a session came or went; no code reads them. -/
structure ControllerState where
  revision : Int
  snapshot : Option MicroscopeSessionSnapshot
  engine : Option String
  gate : MicroscopeStorageGate
  native : NativeSessions
  calls : Nat → CallPhase
  storage : Nat → StoragePhase
  shownBy : Option Nat
  changes : Nat

/-- How the native open ends: with a session at a first frame, or with a failure. -/
inductive OpenAnswer where
  | built (currentFrame : Option Int) (engine : String)
  | failed (code message : String) (engine : Option String)
  deriving DecidableEq, Repr

inductive ControllerEvent where
  | start (k : Nat) (call : Call)
  | advance (k : Nat)
  | openReturns (k : Nat) (answer : OpenAnswer)
  | navigationReturns (k : Nat) (answer : NativeMicroscope)
  | prepareReturns (k : Nat) (answer : NativeFramePreparation)
  | copyReturns (k : Nat) (answer : NativeFrameCopy)
  | startStorage (j : Nat)
  | finishStorage (j : Nat)
  deriving DecidableEq, Repr

def nextRevision (current : Int) : Option Int :=
  if current < 0 ∨ current = LONG_MAX then none else some (current + 1)

def invalidateRevision (current : Int) : Int :=
  if current < 0 then current
  else if current = LONG_MAX then TERMINAL_REVISION
  else current + 1

namespace NativeSessions

def initial : NativeSessions := ⟨fun _ => none, 1⟩

variable (native : NativeSessions)

def openSession (currentFrame : Option Int) : NativeSessions where
  current := Function.update native.current native.nextSessionId (some currentFrame)
  nextSessionId := native.nextSessionId + 1

def close (sessionId : Int) : NativeSessions :=
  { native with current := Function.update native.current sessionId none }

def move (sessionId : Int) (currentFrame : Option Int) : NativeSessions :=
  { native with current := Function.update native.current sessionId (some currentFrame) }

end NativeSessions

namespace ControllerState

def initial : ControllerState where
  revision := 0
  snapshot := none
  engine := none
  gate := .initial
  native := .initial
  calls := fun _ => .idle
  storage := fun _ => .idle
  shownBy := none
  changes := 0

variable (s : ControllerState)

def setCall (k : Nat) (phase : CallPhase) : ControllerState :=
  { s with calls := Function.update s.calls k phase }

/-- The session id of the snapshot. -/
def shownSession : Option Int := s.snapshot.map (·.sessionId)

def isRequestCurrent (requestRevision sessionId : Int) : Bool :=
  decide (s.revision = requestRevision) && decide (s.shownSession = some sessionId)

def isStillCurrent (requestRevision sessionId frameId : Int) : Bool :=
  decide (s.revision = requestRevision) && decide (s.shownSession = some sessionId) &&
    decide (s.snapshot.bind (·.currentFrame) = some frameId)

/-- `snapshot = session; engine = engine`, for call `k`. -/
def publish (k : Nat) (session : MicroscopeSessionSnapshot) (engine : String) : ControllerState :=
  { s with
    snapshot := some session
    engine := some engine
    shownBy := some k
    changes := if s.snapshot.isSome then s.changes else s.changes + 1 }

/-- `snapshot = null; engine = null`. -/
def detach : ControllerState :=
  { s with
    snapshot := none
    engine := none
    shownBy := none
    changes := if s.snapshot.isSome then s.changes + 1 else s.changes }

/-! ### Session transitions -/

/-- `open`, `closeCurrent` and `closeIfCurrent` up to their first section. -/
def beginTransition (k : Nat) (phase : CallPhase) : ControllerState :=
  match s.gate.beginSessionTransition with
  | none => s
  | some gate => { s with gate := gate }.setCall k phase

/-- `nextRevision() ?: return revisionExhaustedFailure(..)`. -/
def takeRevision (k : Nat) (transition : Bool) (issued : Int → CallPhase) : ControllerState :=
  match nextRevision s.revision with
  | none => s.setCall k (.refused transition .revisionExhausted)
  | some next => { s with revision := next }.setCall k (issued next)

/-- `nativeBridge.openMicroscopeSession`. -/
def openReturns (k : Nat) (requestRevision : Int) : OpenAnswer → ControllerState
  | .built currentFrame engine =>
      { s with native := s.native.openSession currentFrame }.setCall k
        (.opened requestRevision (.success ⟨s.native.nextSessionId, currentFrame⟩ engine))
  | .failed code message engine =>
      s.setCall k (.opened requestRevision (.failure code message engine))

/-- The close that follows the commit of an open: of the session that the new
one replaced, if there was another. -/
def afterCommit (previousSessionId : Option Int) (session : MicroscopeSessionSnapshot)
    (result : NativeMicroscope) : CallPhase :=
  match previousSessionId with
  | some previous =>
      if previous ≠ session.sessionId then .discarding previous result
      else .leaving (.microscope result)
  | none => .leaving (.microscope result)

/-- `open` from the native result on. -/
def concludeOpen (k : Nat) (requestRevision : Int) : NativeMicroscope → ControllerState
  | .failure code message engine =>
      s.setCall k (.leaving (.microscope
        (if s.revision = requestRevision then .failure code message engine
          else staleFailure engine)))
  | .success session engine =>
      if s.revision ≠ requestRevision then
        s.setCall k (.discarding session.sessionId (staleFailure (some engine)))
      else
        (s.publish k session engine).setCall k
          (afterCommit s.shownSession session (.success session engine))

/-- The close by which `open` ends; its result is not read. -/
def discard (k : Nat) (sessionId : Int) (result : NativeMicroscope) : ControllerState :=
  { s with native := s.native.close sessionId }.setCall k (.leaving (.microscope result))

/-- `invalidateRevision()`. -/
def invalidate (k : Nat) : ControllerState :=
  { s with revision := invalidateRevision s.revision }.setCall k .invalidated

/-- The locked section of `closeCurrent`. -/
def detachCurrent (k : Nat) : ControllerState :=
  s.detach.setCall k
    (match s.shownSession with
    | some sessionId => .closingNative sessionId
    | none => .leaving (.closed true))

/-- `closeIfCurrent` up to the native close. -/
def detachIfCurrent (k : Nat) (sessionId : Int) : ControllerState :=
  if sessionId ≤ 0 then s.setCall k (.leaving (.closed false))
  else if s.shownSession = some sessionId then s.detach.setCall k (.closingNative sessionId)
  else s.setCall k (.leaving (.closed true))

/-- `nativeBridge.closeMicroscopeSession`: whether the session was open. -/
def closeNative (k : Nat) (sessionId : Int) : ControllerState :=
  { s with native := s.native.close sessionId }.setCall k
    (.leaving (.closed (s.native.current sessionId).isSome))

/-- `storageGate.endSessionTransition`. -/
def endTransition (k : Nat) (hasActiveSession : Bool) (result : CallResult) : ControllerState :=
  match s.gate.endSessionTransition hasActiveSession with
  | none => s.setCall k (.returned (.illegalState "unbalanced microscope storage transition"))
  | some gate => { s with gate := gate }.setCall k (.returned result)

/-- The engine is read last for a call that is refused. -/
def refuse (k : Nat) (transition : Bool) (refusal : Refusal) : ControllerState :=
  let result := CallResult.microscope (refusal.failure s.engine)
  s.setCall k (if transition then .leaving result else .returned result)

/-! ### Navigation -/

def startNavigate (k : Nat) : ControllerState :=
  match s.snapshot with
  | none => s.setCall k (.refused false .noSession)
  | some target => s.setCall k (.targeted target.sessionId)

/-- The native navigation.  A session that is not open cannot answer that it
moved. -/
def navigationReturns (k : Nat) (sessionId requestRevision : Int) :
    NativeMicroscope → ControllerState
  | .failure code message engine =>
      s.setCall k (.navigated sessionId requestRevision (.failure code message engine))
  | .success session engine =>
      if session.sessionId ≠ sessionId then
        s.setCall k (.navigated sessionId requestRevision (.success session engine))
      else if (s.native.current sessionId).isSome then
        { s with native := s.native.move sessionId session.currentFrame }.setCall k
          (.navigated sessionId requestRevision (.success session engine))
      else s

/-- `navigate` from the native result on. -/
def concludeNavigation (k : Nat) (sessionId requestRevision : Int) :
    NativeMicroscope → ControllerState
  | .failure code message engine =>
      s.setCall k (.returned (.microscope
        (if s.isRequestCurrent requestRevision sessionId then .failure code message engine
          else staleFailure engine)))
  | .success session engine =>
      if session.sessionId ≠ sessionId then
        s.setCall k (.returned (.microscope
          (if s.isRequestCurrent requestRevision sessionId then sessionIdentityFailure (some engine)
            else staleFailure (some engine))))
      else if s.revision ≠ requestRevision ∨ s.shownSession ≠ some sessionId then
        s.setCall k (.returned (.microscope (staleFailure (some engine))))
      else
        (s.publish k session engine).setCall k (.returned (.microscope (.success session engine)))

/-! ### Loading the current frame -/

def startLoad (k : Nat) : ControllerState :=
  match s.snapshot with
  | none => s.setCall k (.returned (.frameCopy noSessionFrameFailure))
  | some target => s.setCall k (.loading target)

/-- The revision is read after the target, outside the lock. -/
def readRevision (k : Nat) (target : MicroscopeSessionSnapshot) : ControllerState :=
  s.setCall k
    (match target.currentFrame with
    | none => .returned (.frameCopy noFramesFailure)
    | some expectedFrameId => .preparing target.sessionId expectedFrameId s.revision)

/-- `if (isStillCurrent(..)) result else staleFrameFailure()`. -/
def unlessStale (requestRevision sessionId frameId : Int) (result : NativeFrameCopy) : CallPhase :=
  .returned (.frameCopy
    (if s.isStillCurrent requestRevision sessionId frameId then result else staleFrameFailure))

/-- From the preparation to the copy. -/
def checkPrepared (k : Nat) (sessionId frameId requestRevision : Int) :
    NativeFramePreparation → ControllerState
  | .failure code message _ =>
      s.setCall k (s.unlessStale requestRevision sessionId frameId (.failure code message))
  | .success frame _ =>
      if frame.sessionId ≠ sessionId ∨ frame.frameId ≠ frameId then
        s.setCall k (s.unlessStale requestRevision sessionId frameId presentationIdentityFailure)
      else if s.isStillCurrent requestRevision sessionId frameId then
        s.setCall k (.copying sessionId frameId requestRevision frame)
      else s.setCall k (.returned (.frameCopy staleFrameFailure))

/-- From the copy to the result. -/
def checkCopied (k : Nat) (sessionId frameId requestRevision : Int)
    (frame : PreparedMicroscopeFrame) : NativeFrameCopy → ControllerState
  | .failure code message =>
      s.setCall k (s.unlessStale requestRevision sessionId frameId (.failure code message))
  | .success copied rgba =>
      s.setCall k (s.unlessStale requestRevision sessionId frameId
        (if copied ≠ frame then presentationIdentityFailure else .success copied rgba))

/-! ### Steps -/

def start (k : Nat) (call : Call) : ControllerState :=
  match s.calls k with
  | .idle =>
      match call with
      | .openSession => s.beginTransition k .opening
      | .closeCurrent => s.beginTransition k .closing
      | .closeIfCurrent sessionId => s.beginTransition k (.closingIf sessionId)
      | .navigate => s.startNavigate k
      | .loadCurrentFrame => s.startLoad k
  | _ => s

/-- The next section of a call that waits for no native answer. -/
def advance (k : Nat) : ControllerState :=
  match s.calls k with
  | .opening => s.takeRevision k true .openIssued
  | .opened revision result => s.concludeOpen k revision result
  | .discarding sessionId result => s.discard k sessionId result
  | .closing => s.invalidate k
  | .invalidated => s.detachCurrent k
  | .closingIf sessionId => s.detachIfCurrent k sessionId
  | .closingNative sessionId => s.closeNative k sessionId
  | .leaving result => s.setCall k (.ending s.snapshot.isSome s.changes result)
  | .ending hasActiveSession _ result => s.endTransition k hasActiveSession result
  | .refused transition refusal => s.refuse k transition refusal
  | .targeted sessionId => s.takeRevision k false (.navigating sessionId)
  | .navigated sessionId revision result => s.concludeNavigation k sessionId revision result
  | .loading target => s.readRevision k target
  | .prepared sessionId frameId revision result =>
      s.checkPrepared k sessionId frameId revision result
  | .copied sessionId frameId revision frame result =>
      s.checkCopied k sessionId frameId revision frame result
  | _ => s

/-- `runStorageIfIdle`. -/
def startStorage (j : Nat) : ControllerState :=
  match s.storage j with
  | .idle =>
      match s.gate.beginStorage with
      | none => { s with storage := Function.update s.storage j (.returned false) }
      | some gate => { s with gate := gate, storage := Function.update s.storage j .running }
  | _ => s

def finishStorage (j : Nat) : ControllerState :=
  match s.storage j with
  | .running =>
      { s with gate := s.gate.endStorage, storage := Function.update s.storage j (.returned true) }
  | _ => s

end ControllerState

/-- A native answer reaches the call only while it waits for that answer. -/
def applyEvent (s : ControllerState) : ControllerEvent → ControllerState
  | .start k call => s.start k call
  | .advance k => s.advance k
  | .openReturns k answer =>
      match s.calls k with
      | .openIssued revision => s.openReturns k revision answer
      | _ => s
  | .navigationReturns k answer =>
      match s.calls k with
      | .navigating sessionId revision => s.navigationReturns k sessionId revision answer
      | _ => s
  | .prepareReturns k answer =>
      match s.calls k with
      | .preparing sessionId frameId revision =>
          s.setCall k (.prepared sessionId frameId revision answer)
      | _ => s
  | .copyReturns k answer =>
      match s.calls k with
      | .copying sessionId frameId revision frame =>
          s.setCall k (.copied sessionId frameId revision frame answer)
      | _ => s
  | .startStorage j => s.startStorage j
  | .finishStorage j => s.finishStorage j

def reached (events : List ControllerEvent) : ControllerState :=
  events.foldl applyEvent .initial

/-- No call is in flight. -/
def ControllerState.Quiet (s : ControllerState) : Prop :=
  ∀ k, s.calls k = .idle ∨ ∃ result, s.calls k = .returned result

/-! ## What is claimed -/

namespace CallPhase

/-- The revision of a request whose result may still be shown. -/
@[simp] def heldRevision : CallPhase → Option Int
  | .openIssued revision => some revision
  | .opened revision _ => some revision
  | .navigating _ revision => some revision
  | .navigated _ revision _ => some revision
  | _ => none

/-- The call takes its revision in a later step, if it takes one. -/
@[simp] def beforeRevision : CallPhase → Bool
  | .idle => true
  | .opening => true
  | .targeted _ => true
  | _ => false

end CallPhase

/-- Request `k` holds the newest revision: the current one, above all others held. -/
structure HoldsNewest (s : ControllerState) (k : Nat) : Prop where
  current : (s.calls k).heldRevision = some s.revision
  above : ∀ j revision, j ≠ k → (s.calls j).heldRevision = some revision → revision < s.revision

/-- Sessions are neither resurrected nor leaked in the run of `events`. -/
structure SessionLifetimes (events : List ControllerEvent) : Prop where
  newest : ∀ event session, (applyEvent (reached events) event).snapshot = some session →
    (reached events).snapshot = some session ∨ ∃ k engine, HoldsNewest (reached events) k ∧
      ((reached events).calls k = .opened (reached events).revision (.success session engine) ∨
        ∃ sessionId, (reached events).calls k =
          .navigated sessionId (reached events).revision (.success session engine))
  afterClose : ∀ before after c k, events = before ++ .advance c :: after →
    (reached before).calls c = .closing → ((reached before).calls k).beforeRevision = false →
      (reached events).calls c ≠ .invalidated → (reached events).shownBy ≠ some k
  loaded : ∀ event k frame rgba,
    (applyEvent (reached events) event).calls k = .returned (.frameCopy (.success frame rgba)) →
      (reached events).calls k = .returned (.frameCopy (.success frame rgba)) ∨
        (reached events).shownSession = some frame.sessionId ∧
          (reached events).snapshot.bind (·.currentFrame) = some frame.frameId
  noneLeaked : (reached events).Quiet → ∀ sessionId,
    ((reached events).native.current sessionId).isSome ↔
      (reached events).shownSession = some sessionId

end FrameScope.Ports.SessionController
