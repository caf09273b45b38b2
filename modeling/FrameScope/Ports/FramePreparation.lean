import FrameScope.Ports.OperationTokens

/-!
# Supersession of frame preparations

Port of `FramePreparationRegistry` of `framescope-ffi/src/microscope.rs` and of
the use that `prepare_current_frame` makes of it.  A preparation registers its
own request token, and while it runs it may adopt the token of the decoder that
works for it: that of the decoder its session retains, or its own for a decoder
it opens.  The decoder may then be retained, and its token outlive the request.

`adopt_work_cancellation` looks at the tokens before it takes the registry
lock, so it is two steps here.  The session lock is left out, which only allows
more interleavings.  `newest`, `owner` and the flags of a live preparation
record what happened; no step reads them.
-/

namespace FrameScope.Ports.FramePreparation

open FrameScope.Verified.Runs
open FrameScope.Ports.Core
open FrameScope.Ports.OperationTokens (CancellationTokens)

/-- `checked_add(1)` and the filter for positive values. -/
def nextPositiveI64 (current : Int) : Option Int :=
  if InI64 (current + 1) ∧ 0 < current + 1 then some (current + 1) else none

structure MicroscopeFailure where
  code : String
  message : String
  deriving DecidableEq, Repr

structure ActiveFramePreparation where
  generation : Int
  requestCancellation : Nat
  workCancellation : Nat
  deriving DecidableEq, Repr

structure FramePreparationRegistry where
  nextGeneration : Int
  active : Int → Option ActiveFramePreparation

structure FramePreparationGuard where
  sessionId : Int
  generation : Int
  requestCancellation : Nat
  deriving DecidableEq, Repr

/-- `FRAME_PREPARATIONS` and the tokens it refers to. -/
structure FramePreparations where
  registry : FramePreparationRegistry
  tokens : CancellationTokens

namespace FramePreparations

def initial : FramePreparations := ⟨⟨0, fun _ => none⟩, .initial⟩

section

variable (p : FramePreparations)

def setActive (sessionId : Int) (active : Option ActiveFramePreparation) : FramePreparations :=
  { p with registry := { p.registry with
      active := Function.update p.registry.active sessionId active } }

/-- Both tokens of a registration are cancelled. -/
def cancelBoth (active : ActiveFramePreparation) : FramePreparations :=
  { p with
    tokens := (p.tokens.cancel active.requestCancellation).cancel active.workCancellation }

/-- `registry.active.remove(&session_id)`, and the end of what was there. -/
def supersede (sessionId : Int) : FramePreparations :=
  match p.registry.active sessionId with
  | none => p
  | some previous => (p.setActive sessionId none).cancelBoth previous

/-- A registration under `generation`, with a new token for request and work. -/
def register (sessionId generation : Int) : FramePreparationGuard × FramePreparations :=
  let request := p.tokens.next
  (⟨sessionId, generation, request⟩,
    { registry :=
        ⟨generation, Function.update p.registry.active sessionId
          (some ⟨generation, request, request⟩)⟩
      tokens := p.tokens.new })

/-- `begin_frame_preparation`.  The previous preparation is over even if no
generation is left for this one. -/
def beginFramePreparation (sessionId : Int) :
    Except MicroscopeFailure FramePreparationGuard × FramePreparations :=
  if sessionId ≤ 0 then
    (.error ⟨"invalid_request", "microscope session id must be positive"⟩, p)
  else
    let p := p.supersede sessionId
    match nextPositiveI64 p.registry.nextGeneration with
    | none => (.error ⟨"bridge_error", "frame preparation generation exhausted"⟩, p)
    | some generation =>
        let (guard, p) := p.register sessionId generation
        (.ok guard, p)

variable (guard : FramePreparationGuard) (work : Nat)

/-- `adopt_work_cancellation` before it takes the lock. -/
def mayAdopt : Bool :=
  !(p.tokens.isCancelled guard.requestCancellation || p.tokens.isCancelled work)

/-- `adopt_work_cancellation` under the lock. -/
def adoptLocked : Bool × FramePreparations :=
  match p.registry.active guard.sessionId with
  | none => (false, p)
  | some active =>
      if active.generation ≠ guard.generation ||
          p.tokens.isCancelled active.requestCancellation then (false, p)
      else (true, p.setActive guard.sessionId (some { active with workCancellation := work }))

/-- `adopt_work_cancellation` when nothing comes in between. -/
def adoptWorkCancellation : Bool × FramePreparations :=
  if p.mayAdopt guard work then p.adoptLocked guard work else (false, p)

/-- The drop of a `FramePreparationGuard`.  It cancels nothing. -/
def dropGuard : FramePreparations :=
  match p.registry.active guard.sessionId with
  | none => p
  | some active =>
      if active.generation = guard.generation then p.setActive guard.sessionId none else p

/-- `cancel_active_frame_preparation`. -/
def cancelActiveFramePreparation (sessionId : Int) : Bool × FramePreparations :=
  if sessionId ≤ 0 then (false, p)
  else
    match p.registry.active sessionId with
    | none => (false, p)
    | some active => (true, p.cancelBoth active)

end

end FramePreparations

/-! ## Preparations in flight -/

/-- A preparation whose guard is alive: the work token it adopted last, and the
one it has looked at and is about to adopt.  `disturbed` says that since its
begin its session saw another begin, or a cancellation. -/
structure LivePreparation where
  guard : FramePreparationGuard
  adopted : Option Nat
  checked : Option Nat
  disturbed : Bool
  deriving DecidableEq, Repr

inductive PreparationPhase where
  | idle
  | live (preparation : LivePreparation)
  | ended
  deriving DecidableEq, Repr

/-- The registry, the token of the decoder that each session retains, and the
calls of `prepare_current_frame` by number. -/
structure PreparationState where
  preparations : FramePreparations
  decoderCursor : Int → Option Nat
  calls : Nat → PreparationPhase
  newest : Int → Option Nat
  owner : Nat → Int

def PreparationState.initial : PreparationState :=
  ⟨.initial, fun _ => none, fun _ => .idle, fun _ => none, fun _ => 0⟩

/-- Where a work token comes from: the retained decoder, or a decoder that is
opened for the request. -/
inductive WorkSource where
  | retained | opened
  deriving DecidableEq, Repr

inductive PreparationEvent where
  | start (call : Nat) (sessionId : Int)
  | check (call : Nat) (source : WorkSource)
  | adopt (call : Nat)
  | retainDecoder (call : Nat)
  | releaseDecoder (sessionId : Int)
  | cancelActive (sessionId : Int)
  | finish (call : Nat)
  deriving DecidableEq, Repr

namespace PreparationState

variable (s : PreparationState)

def setCall (call : Nat) (phase : PreparationPhase) : PreparationState :=
  { s with calls := Function.update s.calls call phase }

/-- What a begin or a cancellation on the session leaves recorded. -/
def disturb (sessionId : Int) : PreparationState :=
  { s with calls := fun call =>
      match s.calls call with
      | .live preparation =>
          .live { preparation with
            disturbed := preparation.disturbed || preparation.guard.sessionId == sessionId }
      | phase => phase }

def start (call : Nat) (sessionId : Int) : PreparationState :=
  match s.calls call with
  | .idle =>
      match s.preparations.beginFramePreparation sessionId with
      | (.error _, preparations) =>
          { (s.disturb sessionId).setCall call .ended with preparations := preparations }
      | (.ok guard, preparations) =>
          { (s.disturb sessionId).setCall call (.live ⟨guard, none, none, false⟩) with
            preparations := preparations
            newest := Function.update s.newest sessionId (some call)
            owner := Function.update s.owner guard.requestCancellation sessionId }
  | _ => s

/-- The token that the source stands for. -/
def workToken (guard : FramePreparationGuard) : WorkSource → Option Nat
  | .retained => s.decoderCursor guard.sessionId
  | .opened => some guard.requestCancellation

def check (call : Nat) (source : WorkSource) : PreparationState :=
  match s.calls call with
  | .live preparation =>
      let checked := (s.workToken preparation.guard source).filter
        fun work => s.preparations.mayAdopt preparation.guard work
      s.setCall call (.live { preparation with checked := checked })
  | _ => s

def adopt (call : Nat) : PreparationState :=
  match s.calls call with
  | .live preparation =>
      match preparation.checked with
      | none => s
      | some work =>
          match s.preparations.adoptLocked preparation.guard work with
          | (false, _) => s.setCall call (.live { preparation with checked := none })
          | (true, preparations) =>
              { s.setCall call (.live { preparation with adopted := some work, checked := none })
                with preparations := preparations }
  | _ => s

/-- The decoder that was opened for the request stays with the session. -/
def retainDecoder (call : Nat) : PreparationState :=
  match s.calls call with
  | .live preparation =>
      { s with
        decoderCursor := Function.update s.decoderCursor preparation.guard.sessionId
          (some preparation.guard.requestCancellation) }
  | _ => s

def releaseDecoder (sessionId : Int) : PreparationState :=
  { s with decoderCursor := Function.update s.decoderCursor sessionId none }

def cancelActive (sessionId : Int) : PreparationState :=
  { s.disturb sessionId with
    preparations := (s.preparations.cancelActiveFramePreparation sessionId).2 }

def finish (call : Nat) : PreparationState :=
  match s.calls call with
  | .live preparation =>
      { s.setCall call .ended with
        preparations := s.preparations.dropGuard preparation.guard }
  | _ => s

end PreparationState

def applyEvent (s : PreparationState) : PreparationEvent → PreparationState
  | .start call sessionId => s.start call sessionId
  | .check call source => s.check call source
  | .adopt call => s.adopt call
  | .retainDecoder call => s.retainDecoder call
  | .releaseDecoder sessionId => s.releaseDecoder sessionId
  | .cancelActive sessionId => s.cancelActive sessionId
  | .finish call => s.finish call

/-- The session whose registration or decoder an event is about. -/
def PreparationState.sessionOf (s : PreparationState) : PreparationEvent → Option Int
  | .start _ sessionId => some sessionId
  | .releaseDecoder sessionId => some sessionId
  | .cancelActive sessionId => some sessionId
  | .check call _ | .adopt call | .retainDecoder call | .finish call =>
      match s.calls call with
      | .live preparation => some preparation.guard.sessionId
      | _ => none

/-! ## What is claimed -/

/-- The preparation is alive and a later one has begun in its session. -/
def Superseded (s : PreparationState) (call : Nat) (preparation : LivePreparation) : Prop :=
  s.calls call = .live preparation ∧ s.newest preparation.guard.sessionId ≠ some call

/-- The tokens a live preparation works with: its own, and the one it adopted
last. -/
def LivePreparation.tokens (preparation : LivePreparation) : List Nat :=
  preparation.guard.requestCancellation :: preparation.adopted.toList

structure PreparationLaw (s : PreparationState) : Prop where
  /-- A preparation that is not the newest of its session is cancelled. -/
  superseded_cancelled : ∀ call preparation, Superseded s call preparation →
    ∀ token ∈ preparation.tokens, s.preparations.tokens.isCancelled token = true
  /-- It adopts nothing, whether or not it had looked at the token before. -/
  superseded_adopts_nothing : ∀ call preparation, Superseded s call preparation →
    ∀ work, s.preparations.adoptWorkCancellation preparation.guard work = (false, s.preparations) ∧
      s.preparations.adoptLocked preparation.guard work = (false, s.preparations)
  /-- Its drop leaves the newer registration alone. -/
  superseded_drop : ∀ call preparation, Superseded s call preparation →
    s.preparations.dropGuard preparation.guard = s.preparations
  /-- Nothing cancels the work of another session, or the decoder it retains. -/
  others_untouched : ∀ event, ∀ token < s.preparations.tokens.next,
    s.sessionOf event ≠ some (s.owner token) →
    (applyEvent s event).preparations.tokens.isCancelled token =
      s.preparations.tokens.isCancelled token
  owns_work : ∀ call preparation, s.calls call = .live preparation →
    ∀ token ∈ preparation.tokens, s.owner token = preparation.guard.sessionId
  owns_decoder : ∀ sessionId token, s.decoderCursor sessionId = some token →
    s.owner token = sessionId
  /-- A preparation that ends undisturbed leaves its tokens as they were. -/
  completes_warm : ∀ call preparation, s.calls call = .live preparation →
    preparation.disturbed = false → ∀ token ∈ preparation.tokens,
      (applyEvent s (.finish call)).preparations.tokens.isCancelled token = false

end FrameScope.Ports.FramePreparation
