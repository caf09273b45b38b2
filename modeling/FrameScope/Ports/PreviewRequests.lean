import FrameScope.Ports.ScrubHandoff

/-!
# Preview requests, exact navigations and closes

Port of the locked sections of `render_preview`, `prefetch_frame_response`,
`forget_session` and `nativeCloseMicroscopeSession`, in the order in which each
call takes them.  A request looks its session up, gets the scrub state of the
session, takes a cancellation token from it, registers the token and decodes;
it can return after each of these.

Calls are numbered.  `causes` remembers for a token what cancelled it first; no
step reads it.
-/

namespace FrameScope.Ports.PreviewRequests

open FrameScope.Ports.Core
open FrameScope.Ports.OperationTokens (CancellationTokens)
open FrameScope.Ports.PreviewCancellation
open FrameScope.Ports.ScrubHandoff

/-- A request that has taken a token.  `state` is the scrub state it refers to. -/
structure PreviewCall where
  sessionId : Int
  frameId : Nat
  state : Nat
  cancellation : Nat
  deriving DecidableEq, Repr

inductive RequestPhase where
  | idle
  /-- The target was resolved while the session was open. -/
  | resolved (sessionId : Int) (frameId : Nat) (cacheRoot : String)
  | attached (sessionId : Int) (frameId : Nat) (state : Nat)
  | holding (call : PreviewCall)
  /-- The token was found uncancelled. -/
  | checked (call : PreviewCall)
  | running (call : PreviewCall) (guard : PreviewOperationGuard)
  | returned
  deriving DecidableEq, Repr

inductive ClosePhase where
  | idle
  /-- The exact-navigation guard is held. -/
  | barred (sessionId : Int)
  | unlinked (sessionId : Int)
  | previewCancelled (sessionId : Int)
  | forgotten (sessionId : Int)
  | leaving (sessionId : Int)
  | returned
  deriving DecidableEq, Repr

/-- What can cancel a token: an exact navigation, a cancel or a forget of a
session, the registration of a preview under a generation, or a begin that finds
no generation left. -/
inductive CancelCause where
  | interrupted (sessionId : Int)
  | superseded (sessionId : Int) (generation : Nat)
  | exhausted (sessionId : Int)
  deriving DecidableEq, Repr

/-- How a decode ends: before it looks at the cursor, with source pixels from the
cache, by decoding on, by opening the decoder again, or with an error. -/
inductive DecodeOutcome where
  | rejected | cached | decoded | reopened | failed
  deriving DecidableEq, Repr

structure PreviewRequestsState where
  previews : PreviewCancellations
  scrub : ScrubSessions
  previewBudget : UInt64
  openSessions : Int → Bool
  nextSessionId : Int
  requests : Nat → RequestPhase
  closes : Nat → ClosePhase
  exactGuards : List ExactNavigationGuard
  causes : Nat → Option CancelCause

/-- `exactGuards` are named by their position. -/
inductive PreviewEvent where
  | openSession
  | resolve (i : Nat) (sessionId : Int) (frameId : Nat) (cacheRoot : String)
  | attach (i : Nat) (sourceCache : Nat)
  | take (i : Nat)
  | check (i : Nat)
  | register (i : Nat)
  | decode (i : Nat) (outcome : DecodeOutcome)
  | finish (i : Nat)
  | beginExact (sessionId : Int)
  | dropExact (i : Nat)
  | cancelPreview (sessionId : Int)
  | forget (sessionId : Int)
  | beginClose (c : Nat) (sessionId : Int)
  | close (c : Nat)
  deriving DecidableEq, Repr

/-- `cancellation_for_scrub_target`: the cursor's own token while the cursor can
go on to the frame and nothing cancelled it, else a new one. -/
def cancellationForScrubTarget (tokens : CancellationTokens) (state : ScrubSessionState)
    (frameId : Nat) : Nat × CancellationTokens × ScrubSessionState :=
  let reusable := state.decoderCursor.filter fun cursor =>
    cursor.canContinueTo frameId MAX_FORWARD_CURSOR_REUSE_FRAMES &&
      !tokens.isCancelled cursor.cancellation
  match reusable with
  | some cursor => (cursor.cancellation, tokens, state)
  | none => (tokens.next, tokens.new, { state with decoderCursor := none })

/-- What a decode leaves of the cursor. -/
def navigateCursor (cursor : Option DecoderCursor) (frameId cancellation : Nat) :
    DecodeOutcome → Option DecoderCursor
  | .rejected => cursor
  | .cached => cursor.filter (·.canContinueTo frameId MAX_FORWARD_CURSOR_REUSE_FRAMES)
  | .decoded =>
      match cursor.filter (·.canContinueTo frameId MAX_FORWARD_CURSOR_REUSE_FRAMES) with
      | some kept => some { kept with frameId := frameId }
      | none => some ⟨cancellation, frameId⟩
  | .reopened => some ⟨cancellation, frameId⟩
  | .failed => none

/-- A token that a step cancels gets the cause of the step. -/
def blame (before after : CancellationTokens) (cause : CancelCause)
    (causes : Nat → Option CancelCause) : Nat → Option CancelCause := fun token =>
  if after.isCancelled token && !before.isCancelled token then some cause else causes token

namespace PreviewRequestsState

def initial (previewBudget : UInt64) : PreviewRequestsState where
  previews := .initial
  scrub := .initial
  previewBudget := previewBudget
  openSessions := fun _ => false
  nextSessionId := 1
  requests := fun _ => .idle
  closes := fun _ => .idle
  exactGuards := []
  causes := fun _ => none

variable (s : PreviewRequestsState)

def setRequest (i : Nat) (phase : RequestPhase) : PreviewRequestsState :=
  { s with requests := Function.update s.requests i phase }

def setClose (c : Nat) (phase : ClosePhase) : PreviewRequestsState :=
  { s with closes := Function.update s.closes c phase }

/-- The registry of previews changes for a cause. -/
def setPreviews (previews : PreviewCancellations) (cause : CancelCause) : PreviewRequestsState :=
  { s with
    previews := previews
    causes := blame s.previews.tokens previews.tokens cause s.causes }

/-- Session ids are never given out again. -/
def openSession : PreviewRequestsState :=
  { s with
    openSessions := Function.update s.openSessions s.nextSessionId true
    nextSessionId := s.nextSessionId + 1 }

/-- `with_extraction_context` finds the session and the target is resolved. -/
def resolve (i : Nat) (sessionId : Int) (frameId : Nat) (cacheRoot : String) :
    PreviewRequestsState :=
  match s.requests i with
  | .idle =>
      if s.openSessions sessionId then s.setRequest i (.resolved sessionId frameId cacheRoot)
      else s.setRequest i .returned
  | _ => s

def attach (i sourceCache : Nat) : PreviewRequestsState :=
  match s.requests i with
  | .resolved sessionId frameId cacheRoot =>
      let (result, scrub) := s.scrub.sessionState s.previewBudget sessionId cacheRoot sourceCache
      match result with
      | .ok state =>
          { s with scrub := scrub }.setRequest i (.attached sessionId frameId state)
      | .error _ => { s with scrub := scrub }.setRequest i .returned
  | _ => s

def take (i : Nat) : PreviewRequestsState :=
  match s.requests i with
  | .attached sessionId frameId state =>
      let (cancellation, tokens, taken) :=
        cancellationForScrubTarget s.previews.tokens (s.scrub.states state) frameId
      { s with
        previews := { s.previews with tokens := tokens }
        scrub := s.scrub.updateState state fun _ => taken }.setRequest i
          (.holding ⟨sessionId, frameId, state, cancellation⟩)
  | _ => s

/-- The first lines of `begin_preview_operation_with_token`. -/
def check (i : Nat) : PreviewRequestsState :=
  match s.requests i with
  | .holding call =>
      if s.previews.tokens.isCancelled call.cancellation then s.setRequest i .returned
      else s.setRequest i (.checked call)
  | _ => s

/-- The locked section of `begin_preview_operation_with_token`. -/
def register (i : Nat) : PreviewRequestsState :=
  match s.requests i with
  | .checked call =>
      match s.previews.beginPreviewLocked call.sessionId call.cancellation with
      | (.ok guard, previews) =>
          (s.setPreviews previews (.superseded call.sessionId guard.generation)).setRequest i
            (.running call guard)
      | (.error _, previews) =>
          (s.setPreviews previews (.exhausted call.sessionId)).setRequest i .returned
  | _ => s

/-- The decode section.  The session was open when the section looked it up. -/
def decode (i : Nat) (outcome : DecodeOutcome) : PreviewRequestsState :=
  match s.requests i with
  | .running call _ =>
      { s with scrub := s.scrub.updateState call.state fun old =>
          { old with decoderCursor :=
              navigateCursor old.decoderCursor call.frameId call.cancellation outcome } }
  | _ => s

/-- A request returns, and drops its guard if it has one. -/
def finish (i : Nat) : PreviewRequestsState :=
  match s.requests i with
  | .running _ guard =>
      { s with previews := s.previews.dropPreview guard }.setRequest i .returned
  | _ => s.setRequest i .returned

def beginExact (sessionId : Int) : PreviewRequestsState :=
  let (guard, previews) := s.previews.beginExactNavigation sessionId
  { s.setPreviews previews (.interrupted sessionId) with
    exactGuards := s.exactGuards ++ [guard] }

def dropExact (i : Nat) : PreviewRequestsState :=
  match s.exactGuards[i]? with
  | none => s
  | some guard =>
      { s with
        previews := s.previews.dropExact guard
        exactGuards := s.exactGuards.eraseIdx i }

def cancelPreview (sessionId : Int) : PreviewRequestsState :=
  s.setPreviews (s.previews.cancelSessionPreview sessionId).2 (.interrupted sessionId)

/-- The registry section of `forget_session`. -/
def forget (sessionId : Int) : PreviewRequestsState :=
  { s with scrub := (s.scrub.forgetSection s.previewBudget sessionId).2 }

/-- `nativeCloseMicroscopeSession` up to the lifecycle lock. -/
def beginClose (c : Nat) (sessionId : Int) : PreviewRequestsState :=
  match s.closes c with
  | .idle => (s.beginExact sessionId).setClose c (.barred sessionId)
  | _ => s

/-- The next section of a close. -/
def close (c : Nat) : PreviewRequestsState :=
  match s.closes c with
  | .barred sessionId =>
      if s.openSessions sessionId then
        { s with openSessions := Function.update s.openSessions sessionId false }.setClose c
          (.unlinked sessionId)
      else s.setClose c (.leaving sessionId)
  | .unlinked sessionId => (s.cancelPreview sessionId).setClose c (.previewCancelled sessionId)
  | .previewCancelled sessionId => (s.forget sessionId).setClose c (.forgotten sessionId)
  | .forgotten sessionId =>
      (s.setPreviews (s.previews.forgetRegistrations sessionId)
        (.interrupted sessionId)).setClose c (.leaving sessionId)
  | .leaving sessionId =>
      let guard : ExactNavigationGuard := ⟨sessionId, decide (0 < sessionId)⟩
      { s with
        previews := s.previews.dropExact guard
        exactGuards := s.exactGuards.erase guard }.setClose c .returned
  | _ => s

end PreviewRequestsState

def applyEvent (s : PreviewRequestsState) : PreviewEvent → PreviewRequestsState
  | .openSession => s.openSession
  | .resolve i sessionId frameId cacheRoot => s.resolve i sessionId frameId cacheRoot
  | .attach i sourceCache => s.attach i sourceCache
  | .take i => s.take i
  | .check i => s.check i
  | .register i => s.register i
  | .decode i outcome => s.decode i outcome
  | .finish i => s.finish i
  | .beginExact sessionId => s.beginExact sessionId
  | .dropExact i => s.dropExact i
  | .cancelPreview sessionId => s.cancelPreview sessionId
  | .forget sessionId => s.forget sessionId
  | .beginClose c sessionId => s.beginClose c sessionId
  | .close c => s.close c

/-! ## What is claimed, and when it holds -/

/-- A registered preview whose token is cancelled was interrupted or superseded
by a later registration of its session. -/
def StartedAlive (s : PreviewRequestsState) : Prop :=
  ∀ i call guard, s.requests i = .running call guard →
    s.previews.tokens.isCancelled call.cancellation = true →
    s.causes call.cancellation = some (.interrupted call.sessionId) ∨
      ∃ generation, guard.generation < generation ∧
        s.causes call.cancellation = some (.superseded call.sessionId generation)

/-- A registration that supersedes a preview finds a generation left, and the
superseded token is not one that a request is about to register. -/
def TokenApart (s : PreviewRequestsState) : PreviewEvent → Prop
  | .register i => ∀ call, s.requests i = .checked call →
      s.previews.exactNavigationInFlight call.sessionId = false →
      ∀ operation, s.previews.registry.active call.sessionId = some operation →
        s.previews.registry.nextGeneration + 1 < 2 ^ 64 ∧
          ∀ j other, s.requests j = .checked other → other.cancellation ≠ operation.cancellation
  | _ => True

/-- The session of a request in flight. -/
def RequestPhase.session? : RequestPhase → Option Int
  | .idle => none
  | .resolved sessionId _ _ => some sessionId
  | .attached sessionId _ _ => some sessionId
  | .holding call => some call.sessionId
  | .checked call => some call.sessionId
  | .running call _ => some call.sessionId
  | .returned => none

/-- The session of a close in flight. -/
def ClosePhase.session? : ClosePhase → Option Int
  | .idle => none
  | .barred sessionId => some sessionId
  | .unlinked sessionId => some sessionId
  | .previewCancelled sessionId => some sessionId
  | .forgotten sessionId => some sessionId
  | .leaving sessionId => some sessionId
  | .returned => none

/-- The session is not open, and no call on it is in flight. -/
structure ClosedAndQuiet (s : PreviewRequestsState) (sessionId : Int) : Prop where
  closed : s.openSessions sessionId = false
  requests : ∀ i, (s.requests i).session? ≠ some sessionId
  closes : ∀ c, (s.closes c).session? ≠ some sessionId
  exact : ∀ guard ∈ s.exactGuards, guard.sessionId ≠ sessionId

/-- Closed sessions leave nothing behind. -/
structure LeavesNothing (s : PreviewRequestsState) : Prop where
  entry : ∀ sessionId, ClosedAndQuiet s sessionId → s.scrub.handle? sessionId = none
  registration : ∀ sessionId, ClosedAndQuiet s sessionId →
    s.previews.registry.active sessionId = none ∧
      s.previews.registry.exactInFlight sessionId = none
  /-- A state with a share of the budget is the state of a retained session, and
  the shares of the retained sessions add up to the budget. -/
  share : ∀ state, 0 < (s.scrub.states state).previewBudgetBytes →
    ∃ sessionId handle, s.scrub.handle? sessionId = some handle ∧ handle.state = state ∧
      ¬ ClosedAndQuiet s sessionId
  divided : s.scrub.registry.sessions ≠ [] →
    (s.scrub.registry.sessions.map fun entry =>
      (s.scrub.states entry.2.state).previewBudgetBytes).sum = s.previewBudget.toNat

/-- A close of the session has yet to remove its scrub state. -/
def Closing (s : PreviewRequestsState) (sessionId : Int) : Prop :=
  ∃ c, s.closes c = .unlinked sessionId ∨ s.closes c = .previewCancelled sessionId

/-- A request asks for the scrub state of a session that is open, or whose close
has yet to remove it. -/
def BeforeForget (s : PreviewRequestsState) : PreviewEvent → Prop
  | .attach i _ => ∀ sessionId frameId cacheRoot,
      s.requests i = .resolved sessionId frameId cacheRoot →
      s.openSessions sessionId = true ∨ Closing s sessionId
  | _ => True

end FrameScope.Ports.PreviewRequests
