import FrameScope.Ports.OperationTokens

/-!
# Live previews and the exact-navigation barrier

Port of `PreviewCancellationRegistry` of `framescope-ffi/src/scrub_handoff.rs`:
one registered preview for each session, which a newer one cancels and
replaces, and a count of the exact navigations in flight, which cancel the
registered preview and keep new ones out.

`begin_preview_operation_with_token` looks at its token before it takes the
registry lock, so it is two steps in a run.  The count is a `u32` and saturates.
-/

namespace FrameScope.Ports.PreviewCancellation

open FrameScope.Verified.Runs
open FrameScope.Ports.Core
open FrameScope.Ports.OperationTokens (CancellationTokens)

structure PreviewFailure where
  code : String
  message : String
  deriving DecidableEq, Repr

structure ActivePreviewOperation where
  generation : Nat
  cancellation : Nat
  deriving DecidableEq, Repr

structure PreviewCancellationRegistry where
  nextGeneration : Nat
  active : Int → Option ActivePreviewOperation
  exactInFlight : Int → Option Nat

structure PreviewOperationGuard where
  sessionId : Int
  generation : Nat
  deriving DecidableEq, Repr

structure ExactNavigationGuard where
  sessionId : Int
  registered : Bool
  deriving DecidableEq, Repr

/-- `u32::saturating_add`. -/
def saturatingAddU32 (a b : Nat) : Nat := min (a + b) (2 ^ 32 - 1)

/-- `PREVIEW_CANCELLATIONS` and the tokens it refers to. -/
structure PreviewCancellations where
  registry : PreviewCancellationRegistry
  tokens : CancellationTokens

namespace PreviewCancellations

def initial : PreviewCancellations := ⟨⟨0, fun _ => none, fun _ => none⟩, .initial⟩

section

variable (p : PreviewCancellations) (sessionId : Int)

def setActive (active : Option ActivePreviewOperation) : PreviewCancellations :=
  { p with registry := { p.registry with
      active := Function.update p.registry.active sessionId active } }

def setExactInFlight (count : Option Nat) : PreviewCancellations :=
  { p with registry := { p.registry with
      exactInFlight := Function.update p.registry.exactInFlight sessionId count } }

/-- The registered preview of the session is cancelled. -/
def cancelActive : PreviewCancellations :=
  match p.registry.active sessionId with
  | none => p
  | some operation => { p with tokens := p.tokens.cancel operation.cancellation }

/-- The registered preview is taken out and cancelled. -/
def removeActive : PreviewCancellations := (p.cancelActive sessionId).setActive sessionId none

/-- `is_some_and(|count| *count > 0)`. -/
def exactNavigationInFlight : Bool :=
  match p.registry.exactInFlight sessionId with
  | none => false
  | some count => decide (0 < count)

/-- A registration under the next generation. -/
def register (cancellation : Nat) : Except PreviewFailure PreviewOperationGuard × PreviewCancellations :=
  match checkedAddU64 p.registry.nextGeneration 1 with
  | none => (.error ⟨"bridge_error", "Preview generation space exhausted."⟩, p)
  | some generation =>
      (.ok ⟨sessionId, generation⟩,
        { p with registry := { p.registry with
            nextGeneration := generation
            active := Function.update p.registry.active sessionId
              (some ⟨generation, cancellation⟩) } })

/-- `begin_preview_operation_with_token` under the lock.  The registered preview
is gone even if no generation is left for the new one. -/
def beginPreviewLocked (cancellation : Nat) :
    Except PreviewFailure PreviewOperationGuard × PreviewCancellations :=
  if p.exactNavigationInFlight sessionId then
    (.error ⟨"cancelled", "Live preview was superseded by authoritative microscope navigation."⟩, p)
  else (p.removeActive sessionId).register sessionId cancellation

/-- `begin_preview_operation_with_token` when nothing comes in between. -/
def beginPreviewOperationWithToken (cancellation : Nat) :
    Except PreviewFailure PreviewOperationGuard × PreviewCancellations :=
  if p.tokens.isCancelled cancellation then
    (.error ⟨"cancelled", "Live preview decoder cursor was already cancelled."⟩, p)
  else p.beginPreviewLocked sessionId cancellation

/-- `begin_exact_navigation`. -/
def beginExactNavigation : ExactNavigationGuard × PreviewCancellations :=
  if sessionId ≤ 0 then (⟨sessionId, false⟩, p)
  else
    let count := (p.registry.exactInFlight sessionId).getD 0
    (⟨sessionId, true⟩,
      (p.setExactInFlight sessionId (some (saturatingAddU32 count 1))).cancelActive sessionId)

/-- `cancel_session_preview`. -/
def cancelSessionPreview : Bool × PreviewCancellations :=
  if sessionId ≤ 0 then (false, p)
  else ((p.registry.active sessionId).isSome, p.cancelActive sessionId)

/-- The registry section of `forget_session_after_close`. -/
def forgetRegistrations : PreviewCancellations :=
  (p.removeActive sessionId).setExactInFlight sessionId none

end

/-- The drop of a `PreviewOperationGuard`. -/
def dropPreview (p : PreviewCancellations) (guard : PreviewOperationGuard) :
    PreviewCancellations :=
  match p.registry.active guard.sessionId with
  | none => p
  | some operation =>
      if operation.generation = guard.generation then p.setActive guard.sessionId none else p

/-- The drop of an `ExactNavigationGuard`. -/
def dropExact (p : PreviewCancellations) (guard : ExactNavigationGuard) : PreviewCancellations :=
  if !guard.registered then p
  else
    match p.registry.exactInFlight guard.sessionId with
    | none => p
    | some count =>
        if count ≤ 1 then p.setExactInFlight guard.sessionId none
        else p.setExactInFlight guard.sessionId (some (count - 1))

end PreviewCancellations

/-! ## Guards in flight -/

/-- A begin that has found its token uncancelled and not yet taken the lock. -/
structure PendingBegin where
  sessionId : Int
  cancellation : Nat
  deriving DecidableEq, Repr

/-- The registry with the begins in flight and the guards that are alive, in
the order in which they were handed out. -/
structure BarrierState where
  previews : PreviewCancellations
  begins : List PendingBegin
  previewGuards : List PreviewOperationGuard
  exactGuards : List ExactNavigationGuard

def BarrierState.initial : BarrierState := ⟨.initial, [], [], []⟩

/-- The guards of a list are named by their position. -/
inductive BarrierEvent where
  | newToken
  | beginPreview (sessionId : Int) (cancellation : Nat)
  | lockPreview (i : Nat)
  | beginExact (sessionId : Int)
  | cancelPreview (sessionId : Int)
  | dropPreview (i : Nat)
  | dropExact (i : Nat)
  deriving DecidableEq, Repr

namespace BarrierState

variable (s : BarrierState)

/-- A caller makes a token for its preview. -/
def newToken : BarrierState :=
  { s with previews := { s.previews with tokens := s.previews.tokens.new } }

/-- A caller begins with a token that it or another one has made. -/
def beginPreview (sessionId : Int) (cancellation : Nat) : BarrierState :=
  if s.previews.tokens.next ≤ cancellation || s.previews.tokens.isCancelled cancellation then s
  else { s with begins := s.begins ++ [⟨sessionId, cancellation⟩] }

def lockPreview (i : Nat) : BarrierState :=
  match s.begins[i]? with
  | none => s
  | some pending =>
      match s.previews.beginPreviewLocked pending.sessionId pending.cancellation with
      | (.error _, previews) => { s with previews := previews, begins := s.begins.eraseIdx i }
      | (.ok guard, previews) =>
          { s with
            previews := previews
            begins := s.begins.eraseIdx i
            previewGuards := s.previewGuards ++ [guard] }

def beginExact (sessionId : Int) : BarrierState :=
  let (guard, previews) := s.previews.beginExactNavigation sessionId
  { s with previews := previews, exactGuards := s.exactGuards ++ [guard] }

def cancelPreview (sessionId : Int) : BarrierState :=
  { s with previews := (s.previews.cancelSessionPreview sessionId).2 }

def dropPreview (i : Nat) : BarrierState :=
  match s.previewGuards[i]? with
  | none => s
  | some guard =>
      { s with
        previews := s.previews.dropPreview guard
        previewGuards := s.previewGuards.eraseIdx i }

def dropExact (i : Nat) : BarrierState :=
  match s.exactGuards[i]? with
  | none => s
  | some guard =>
      { s with
        previews := s.previews.dropExact guard
        exactGuards := s.exactGuards.eraseIdx i }

/-- The exact navigations of the session that are in flight. -/
def liveExact (sessionId : Int) : Nat := s.exactGuards.countP (·.sessionId = sessionId)

end BarrierState

def applyEvent (s : BarrierState) : BarrierEvent → BarrierState
  | .newToken => s.newToken
  | .beginPreview sessionId cancellation => s.beginPreview sessionId cancellation
  | .lockPreview i => s.lockPreview i
  | .beginExact sessionId => s.beginExact sessionId
  | .cancelPreview sessionId => s.cancelPreview sessionId
  | .dropPreview i => s.dropPreview i
  | .dropExact i => s.dropExact i

/-! ## What is claimed, and when it holds -/

/-- The barrier of one session. -/
structure BarrierLaw (s : BarrierState) (sessionId : Int) : Prop where
  /-- Every live guard is counted once. -/
  counted : (s.previews.registry.exactInFlight sessionId).getD 0 = s.liveExact sessionId
  /-- Behind the barrier no preview begins, whether or not it had looked at its
  token before, and the registered one is cancelled. -/
  refused : 0 < s.liveExact sessionId → ∀ cancellation,
    (∃ failure, (s.previews.beginPreviewOperationWithToken sessionId cancellation).1 =
      .error failure) ∧
    ∃ failure, (s.previews.beginPreviewLocked sessionId cancellation).1 = .error failure
  cancelled : 0 < s.liveExact sessionId →
    ∀ operation, s.previews.registry.active sessionId = some operation →
      s.previews.tokens.isCancelled operation.cancellation = true
  /-- The drop of a guard keeps the registration that is another guard's. -/
  kept : ∀ (i j : Nat) (guard newer : PreviewOperationGuard), i ≠ j →
    s.previewGuards[i]? = some guard → s.previewGuards[j]? = some newer →
    ∀ operation, s.previews.registry.active newer.sessionId = some operation →
      operation.generation = newer.generation →
      (s.previews.dropPreview guard).registry.active newer.sessionId = some operation
  /-- Without a guard nothing is left. -/
  emptied : (∀ guard ∈ s.previewGuards, guard.sessionId ≠ sessionId) →
    s.liveExact sessionId = 0 → s.previews.registry.active sessionId = none ∧
      s.previews.registry.exactInFlight sessionId = none

/-- The count of the session is below the largest `u32`. -/
def HasRoom (sessionId : Int) (s : BarrierState) : BarrierEvent → Prop
  | .beginExact other => other = sessionId → s.liveExact sessionId < 2 ^ 32 - 1
  | _ => True

end FrameScope.Ports.PreviewCancellation
