import FrameScope.Verified.Runs
import FrameScope.Ports.FramePreparation

/-!
# Storage clears and session lifecycles

Port of the lifecycle lock of `framescope-ffi/src/lib.rs`, of the guard that
`storage_admin.rs` puts before destructive operations, and of the registry that
`microscope.rs` keeps.  An open and a clear hold the lock while they work, so
each is a begin and an end; a close is one locked section.  A call that finds
the lock taken waits, and a panic while it is held poisons it.

Operations on a session look its handle up in the registry and keep it alive
until they end, without the lifecycle lock.
-/

namespace FrameScope.Ports.StorageLifecycle

open FrameScope.Verified.Runs
open FrameScope.Ports.Core
open FrameScope.Ports.FramePreparation (MicroscopeFailure nextPositiveI64)

def MAX_MICROSCOPE_SESSIONS : Nat := 4

inductive LockOwner where
  | opening | clearing
  deriving DecidableEq, Repr

/-- How the work of an open ends: with a session to register, with an error, or
with a panic. -/
inductive OpenOutcome where
  | built | failed | panicked
  deriving DecidableEq, Repr

/-- The error response of a storage call. -/
structure StorageFailure where
  code : String
  message : String
  deriving DecidableEq, Repr

/-- `operations` holds the session whose handle an operation keeps. -/
structure LifecycleState where
  owner : Option LockOwner
  poisoned : Bool
  activeMicroscopeSessions : Nat
  sessions : Finset Int
  nextSessionId : Int
  operations : Nat → Option Int

inductive LifecycleEvent where
  | beginOpen
  | finishOpen (outcome : OpenOutcome)
  | close (sessionId : Int)
  | lookup (j : Nat) (sessionId : Int)
  | endOperation (j : Nat)
  | beginClear
  | endClear (panicked : Bool)
  deriving DecidableEq, Repr

namespace LifecycleState

def initial : LifecycleState := ⟨none, false, 0, ∅, 1, fun _ => none⟩

variable (s : LifecycleState)

/-- The lock is free and `lock()` gives a guard. -/
def lockable : Bool := s.owner.isNone && !s.poisoned

/-- `fetch_add(1)`. -/
def countUp : Nat := (s.activeMicroscopeSessions + 1) % 2 ^ 64

/-- `fetch_sub(1)`. -/
def countDown : Nat := (s.activeMicroscopeSessions + (2 ^ 64 - 1)) % 2 ^ 64

/-- `nativeOpenMicroscopeSession` up to `open_response`. -/
def beginOpen : LifecycleState :=
  if s.lockable then
    { s with owner := some .opening, activeMicroscopeSessions := s.countUp }
  else s

/-- The registry section of `open_session`. -/
def register : Except MicroscopeFailure Int × LifecycleState :=
  match nextPositiveI64 s.nextSessionId with
  | none => (.error ⟨"bridge_error", "microscope session id space exhausted"⟩, s)
  | some next =>
      if MAX_MICROSCOPE_SESSIONS ≤ s.sessions.card then
        (.error ⟨"too_many_sessions", "too many microscope sessions are already open"⟩,
          { s with nextSessionId := next })
      else
        (.ok s.nextSessionId,
          { s with sessions := insert s.nextSessionId s.sessions, nextSessionId := next })

/-- An open that returns an error takes its count back. -/
def openFailed : LifecycleState :=
  { s with owner := none, activeMicroscopeSessions := s.countDown }

/-- The rest of `nativeOpenMicroscopeSession`.  A panic unwinds through the
guard of the lock and past the count. -/
def finishOpen (outcome : OpenOutcome) : LifecycleState :=
  if s.owner = some .opening then
    match outcome with
    | .built =>
        match s.register with
        | (.ok _, registered) => { registered with owner := none }
        | (.error _, registered) => registered.openFailed
    | .failed => s.openFailed
    | .panicked => { s with owner := none, poisoned := true }
  else s

/-- `nativeCloseMicroscopeSession` under the lock. -/
def close (sessionId : Int) : LifecycleState :=
  if s.lockable && decide (0 < sessionId) && decide (sessionId ∈ s.sessions) then
    { s with
      sessions := s.sessions.erase sessionId
      activeMicroscopeSessions := s.activeMicroscopeSessions - 1 }
  else s

/-- The handle that `with_session_mut` clones. -/
def sessionHandle (sessionId : Int) : Except MicroscopeFailure Int :=
  if sessionId ≤ 0 then .error ⟨"invalid_request", "microscope session id must be positive"⟩
  else if sessionId ∈ s.sessions then .ok sessionId
  else .error ⟨"session_not_found", "microscope session is not open"⟩

def lookup (j : Nat) (sessionId : Int) : LifecycleState :=
  match s.operations j, s.sessionHandle sessionId with
  | none, .ok handle => { s with operations := Function.update s.operations j (some handle) }
  | _, _ => s

def endOperation (j : Nat) : LifecycleState :=
  { s with operations := Function.update s.operations j none }

/-- `with_destructive_access` up to the operation: the guard that it takes. -/
def destructiveAccess : Except StorageFailure LockOwner :=
  if s.poisoned then
    .error ⟨"storage_busy", "FrameScope storage/session lifecycle state is unavailable"⟩
  else if 0 < s.activeMicroscopeSessions then
    .error ⟨"active_session",
      "Close the current video before clearing FrameScope index or cache data"⟩
  else .ok .clearing

def beginClear : LifecycleState :=
  if s.owner.isNone then
    match s.destructiveAccess with
    | .ok owner => { s with owner := some owner }
    | .error _ => s
  else s

def endClear (panicked : Bool) : LifecycleState :=
  if s.owner = some .clearing then { s with owner := none, poisoned := panicked } else s

/-- A `NavigationSession` value lives while the registry or an operation has a
handle to it. -/
def Alive (sessionId : Int) : Prop :=
  sessionId ∈ s.sessions ∨ ∃ j, s.operations j = some sessionId

/-- The opens in progress. -/
def opensInProgress : Nat := if s.owner = some .opening then 1 else 0

end LifecycleState

def applyEvent (s : LifecycleState) : LifecycleEvent → LifecycleState
  | .beginOpen => s.beginOpen
  | .finishOpen outcome => s.finishOpen outcome
  | .close sessionId => s.close sessionId
  | .lookup j sessionId => s.lookup j sessionId
  | .endOperation j => s.endOperation j
  | .beginClear => s.beginClear
  | .endClear panicked => s.endClear panicked

/-! ## What is claimed, and when it holds -/

structure ClearExcludesSessions (s : LifecycleState) : Prop where
  exclusive : s.owner = some .clearing → ∀ sessionId, ¬ s.Alive sessionId
  counted : s.activeMicroscopeSessions = s.sessions.card + s.opensInProgress

/-- A clear starts when no operation has a handle any more, and no open panics. -/
def NoneHeld (s : LifecycleState) : LifecycleEvent → Prop
  | .beginClear => s.lockable = true → s.activeMicroscopeSessions = 0 →
      ∀ j, s.operations j = none
  | .finishOpen outcome => s.owner = some .opening → outcome ≠ .panicked
  | _ => True

end FrameScope.Ports.StorageLifecycle
