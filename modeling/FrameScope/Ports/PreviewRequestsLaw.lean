import FrameScope.Ports.PreviewCancellationLaw
import FrameScope.Ports.ScrubHandoffLaw
import FrameScope.Ports.PreviewRequests

/-!
# Which previews a registration cancels

A token belongs to the session it was made for, and so does a scrub state
(`Owned`); a cause therefore names the session of the call that it hits.  In a
run whose registrations keep clear of tokens about to be registered
(`TokenApart`) a running preview is only ever cancelled from outside.
-/

namespace FrameScope.Ports.PreviewRequestsLaw

open FrameScope.Verified.Runs
open FrameScope.Ports.Core
open FrameScope.Ports.OperationTokens (CancellationTokens)
open FrameScope.Ports.OperationTokens.CancellationTokens
open FrameScope.Ports.PreviewCancellation hiding applyEvent
open FrameScope.Ports.PreviewCancellationLaw
open FrameScope.Ports.ScrubHandoff
open FrameScope.Ports.ScrubHandoffLaw
open FrameScope.Ports.PreviewRequests

/-! ## Sections that cancel one session's preview -/

/-- `q` is `p` with at most the registered preview of the session cancelled, and
some registrations gone. -/
structure CancelsOnly (p q : PreviewCancellations) (sessionId : Int) : Prop where
  next : q.tokens.next = p.tokens.next
  cancelled : ∀ token, q.tokens.isCancelled token = true →
    p.tokens.isCancelled token = true ∨
      ∃ operation, p.registry.active sessionId = some operation ∧ operation.cancellation = token
  active : ∀ other operation, q.registry.active other = some operation →
    p.registry.active other = some operation
  generation : q.registry.nextGeneration = p.registry.nextGeneration

section CancelsOnly

variable {p q : PreviewCancellations} {sessionId : Int}

theorem CancelsOnly.refl (p : PreviewCancellations) (sessionId : Int) :
    CancelsOnly p p sessionId :=
  ⟨rfl, fun _ h => .inl h, fun _ _ h => h, rfl⟩

/-- Only the tokens, the registered previews and the generation matter. -/
theorem CancelsOnly.congr {r : PreviewCancellations} (h : CancelsOnly p q sessionId)
    (hTokens : r.tokens = q.tokens)
    (hActive : ∀ other operation, r.registry.active other = some operation →
      q.registry.active other = some operation)
    (hGeneration : r.registry.nextGeneration = q.registry.nextGeneration) :
    CancelsOnly p r sessionId where
  next := by
    rw [hTokens]
    exact h.next
  cancelled := by
    rw [hTokens]
    exact h.cancelled
  active := fun other operation hIs => h.active other operation (hActive other operation hIs)
  generation := hGeneration.trans h.generation

theorem cancelActive_only : CancelsOnly p (p.cancelActive sessionId) sessionId where
  next := next_cancelActive
  cancelled := by
    intro token hCancelled
    unfold PreviewCancellations.cancelActive at hCancelled
    cases hActive : p.registry.active sessionId with
    | none =>
        rw [hActive] at hCancelled
        exact .inl hCancelled
    | some operation =>
        rw [hActive] at hCancelled
        by_cases hToken : token = operation.cancellation
        · exact .inr ⟨operation, rfl, hToken.symm⟩
        · left
          rwa [isCancelled_cancel_of_ne hToken] at hCancelled
  active := by
    rw [registry_cancelActive]
    exact fun _ _ h => h
  generation := by
    rw [registry_cancelActive]

theorem removeActive_only : CancelsOnly p (p.removeActive sessionId) sessionId := by
  have h : CancelsOnly p (p.cancelActive sessionId) sessionId := cancelActive_only
  refine h.congr rfl ?_ ?_
  · intro other operation hActive
    rw [registry_cancelActive]
    exact (active_removeActive.1 hActive).2
  · rfl

theorem beginExactNavigation_only :
    CancelsOnly p (p.beginExactNavigation sessionId).2 sessionId := by
  unfold PreviewCancellations.beginExactNavigation
  by_cases hId : sessionId ≤ 0
  · rw [if_pos hId]
    exact .refl p sessionId
  · rw [if_neg hId]
    let counted := p.setExactInFlight sessionId
      (some (saturatingAddU32 ((p.registry.exactInFlight sessionId).getD 0) 1))
    have h : CancelsOnly counted (counted.cancelActive sessionId) sessionId := cancelActive_only
    exact ⟨h.next, h.cancelled, h.active, h.generation⟩

theorem cancelSessionPreview_only :
    CancelsOnly p (p.cancelSessionPreview sessionId).2 sessionId := by
  unfold PreviewCancellations.cancelSessionPreview
  by_cases hId : sessionId ≤ 0
  · rw [if_pos hId]
    exact .refl p sessionId
  · rw [if_neg hId]
    exact cancelActive_only

theorem forgetRegistrations_only :
    CancelsOnly p (p.forgetRegistrations sessionId) sessionId := by
  have h : CancelsOnly p (p.removeActive sessionId) sessionId := removeActive_only
  exact h.congr rfl (fun _ _ hActive => hActive) rfl

theorem dropPreview_only {guard : PreviewOperationGuard} :
    CancelsOnly p (p.dropPreview guard) sessionId := by
  apply (CancelsOnly.refl p sessionId).congr tokens_dropPreview _ nextGeneration_dropPreview
  intro other operation hActive
  exact (active_dropPreview.1 hActive).1

theorem dropExact_same (p : PreviewCancellations) (guard : ExactNavigationGuard) :
    (p.dropExact guard).tokens = p.tokens ∧
      (p.dropExact guard).registry.active = p.registry.active ∧
      (p.dropExact guard).registry.nextGeneration = p.registry.nextGeneration := by
  unfold PreviewCancellations.dropExact
  cases guard.registered with
  | false => exact ⟨rfl, rfl, rfl⟩
  | true =>
      cases p.registry.exactInFlight guard.sessionId with
      | none => exact ⟨rfl, rfl, rfl⟩
      | some count =>
          by_cases hLast : count ≤ 1
          · simp [hLast, PreviewCancellations.setExactInFlight]
          · simp [hLast, PreviewCancellations.setExactInFlight]

theorem dropExact_only {guard : ExactNavigationGuard} :
    CancelsOnly p (p.dropExact guard) sessionId := by
  obtain ⟨hTokens, hActive, hGeneration⟩ := dropExact_same p guard
  apply (CancelsOnly.refl p sessionId).congr hTokens _ hGeneration
  rw [hActive]
  exact fun _ _ h => h

end CancelsOnly

/-! ## Who a token and a state belong to -/

/-- What a request holds belongs to its session. -/
def RequestOwned (tokenOwner stateOwner : Nat → Int) (nextToken nextState : Nat) :
    RequestPhase → Prop
  | .attached sessionId _ state => state < nextState ∧ stateOwner state = sessionId
  | .holding call | .checked call | .running call _ =>
      call.state < nextState ∧ stateOwner call.state = call.sessionId ∧
        call.cancellation < nextToken ∧ tokenOwner call.cancellation = call.sessionId
  | _ => True

structure Owned (tokenOwner stateOwner : Nat → Int) (s : PreviewRequestsState) : Prop where
  retained : Retained s.scrub
  active : ∀ sessionId operation, s.previews.registry.active sessionId = some operation →
    operation.cancellation < s.previews.tokens.next ∧
      tokenOwner operation.cancellation = sessionId
  cursor : ∀ state cursor, (s.scrub.states state).decoderCursor = some cursor →
    state < s.scrub.nextState ∧ cursor.cancellation < s.previews.tokens.next ∧
      tokenOwner cursor.cancellation = stateOwner state
  entry : ∀ entry ∈ s.scrub.registry.sessions, stateOwner entry.2.state = entry.1
  request : ∀ i, RequestOwned tokenOwner stateOwner s.previews.tokens.next s.scrub.nextState
    (s.requests i)

section Owned

variable {tokenOwner stateOwner : Nat → Int} {s t : PreviewRequestsState} {sessionId : Int}
  {i : Nat} {phase : RequestPhase}

theorem owned_initial (previewBudget : UInt64) :
    Owned (fun _ => 0) (fun _ => 0) (.initial previewBudget) where
  retained := retained_initial
  active := fun _ _ h => by cases h
  cursor := fun _ _ h => by cases h
  entry := fun _ h => by cases h
  request := fun _ => trivial

theorem Owned.setRequest (h : Owned tokenOwner stateOwner s) (i : Nat) (phase : RequestPhase)
    (hPhase : RequestOwned tokenOwner stateOwner s.previews.tokens.next s.scrub.nextState phase) :
    Owned tokenOwner stateOwner (s.setRequest i phase) := by
  refine ⟨h.retained, h.active, h.cursor, h.entry, ?_⟩
  intro j
  show RequestOwned _ _ _ _ (Function.update s.requests i phase j)
  by_cases hj : j = i
  · rw [hj, Function.update_self]
    exact hPhase
  · rw [Function.update_of_ne hj]
    exact h.request j

/-- Cancelling and forgetting registrations changes no owner. -/
theorem Owned.of_previews (h : Owned tokenOwner stateOwner s)
    (hOnly : CancelsOnly s.previews t.previews sessionId) (hScrub : t.scrub = s.scrub)
    (hRequests : t.requests = s.requests) : Owned tokenOwner stateOwner t := by
  constructor
  · rw [hScrub]
    exact h.retained
  · rw [hOnly.next]
    exact fun other operation hActive => h.active other operation (hOnly.active _ _ hActive)
  · rw [hOnly.next, hScrub]
    exact h.cursor
  · rw [hScrub]
    exact h.entry
  · rw [hOnly.next, hScrub, hRequests]
    exact h.request

/-- A request keeps what it holds when more tokens and states are made and the
old ones keep their owners. -/
theorem RequestOwned.mono {nextToken nextToken' nextState nextState' : Nat}
    {tokenOwner' stateOwner' : Nat → Int}
    (h : RequestOwned tokenOwner stateOwner nextToken nextState phase)
    (hToken : nextToken ≤ nextToken') (hState : nextState ≤ nextState')
    (hTokens : ∀ token, token < nextToken → tokenOwner' token = tokenOwner token)
    (hStates : ∀ state, state < nextState → stateOwner' state = stateOwner state) :
    RequestOwned tokenOwner' stateOwner' nextToken' nextState' phase := by
  have hCall : ∀ call : PreviewCall,
      (call.state < nextState ∧ stateOwner call.state = call.sessionId ∧
        call.cancellation < nextToken ∧ tokenOwner call.cancellation = call.sessionId) →
      call.state < nextState' ∧ stateOwner' call.state = call.sessionId ∧
        call.cancellation < nextToken' ∧ tokenOwner' call.cancellation = call.sessionId := by
    intro call hOld
    obtain ⟨hMade, hOwner, hToken', hTokenOwner⟩ := hOld
    exact ⟨hMade.trans_le hState, (hStates _ hMade).trans hOwner, hToken'.trans_le hToken,
      (hTokens _ hToken').trans hTokenOwner⟩
  cases phase with
  | idle => trivial
  | resolved sessionId frameId cacheRoot => trivial
  | attached sessionId frameId state => exact ⟨h.1.trans_le hState, (hStates _ h.1).trans h.2⟩
  | holding call => exact hCall call h
  | checked call => exact hCall call h
  | running call guard => exact hCall call h
  | returned => trivial

/-- `forget_session` changes no owner. -/
theorem Owned.forget (h : Owned tokenOwner stateOwner s) :
    Owned tokenOwner stateOwner (s.forget sessionId) := by
  obtain ⟨hEntries, hNext, hCursors⟩ := forgetSection_sub s.scrub s.previewBudget sessionId
  constructor
  · exact h.retained.forgetSection
  · exact h.active
  · intro state cursor hCursor
    show state < (s.scrub.forgetSection s.previewBudget sessionId).2.nextState ∧ _
    rw [hNext]
    exact h.cursor state cursor (hCursors state cursor hCursor)
  · exact fun entry hEntry => h.entry entry (hEntries entry hEntry).1
  · intro i
    show RequestOwned _ _ _ (s.scrub.forgetSection s.previewBudget sessionId).2.nextState _
    rw [hNext]
    exact h.request i

/-- `session_state` hands out a state of the session; a new one gets its owner. -/
theorem Owned.attach (h : Owned tokenOwner stateOwner s) (i sourceCache : Nat) :
    ∃ stateOwner', Owned tokenOwner stateOwner' (s.attach i sourceCache) := by
  unfold PreviewRequestsState.attach
  cases hPhase : s.requests i with
  | resolved sessionId frameId cacheRoot =>
      obtain ⟨hEntries, hNext, hOk, hCursors⟩ :=
        sessionState_sub h.retained s.previewBudget sessionId cacheRoot sourceCache
      have hRetained : Retained
          (s.scrub.sessionState s.previewBudget sessionId cacheRoot sourceCache).2 :=
        h.retained.sessionState
      let owner := Function.update stateOwner s.scrub.nextState sessionId
      have hKept : ∀ state, state < s.scrub.nextState → owner state = stateOwner state :=
        fun state hState => Function.update_of_ne hState.ne _ _
      have hOwned : Owned tokenOwner owner { s with scrub :=
          (s.scrub.sessionState s.previewBudget sessionId cacheRoot sourceCache).2 } := by
        constructor
        · exact hRetained
        · exact h.active
        · intro state cursor hCursor
          obtain ⟨hMade, hToken, hOwner⟩ := h.cursor state cursor (hCursors state cursor hCursor)
          exact ⟨hMade.trans_le hNext, hToken, hOwner.trans (hKept state hMade).symm⟩
        · intro entry hEntry
          rcases hEntries entry hEntry with ⟨old, hOld, hId, hState⟩ | ⟨hId, hState⟩
          · rw [← hState, hKept _ (h.retained.made old hOld), h.entry old hOld, hId]
          · rw [hId, hState]
            exact Function.update_self ..
        · intro j
          exact (h.request j).mono le_rfl hNext (fun _ _ => rfl) hKept
      refine ⟨owner, ?_⟩
      rcases hCall : s.scrub.sessionState s.previewBudget sessionId cacheRoot sourceCache with
        ⟨result, scrub⟩
      rw [hCall] at hOk hOwned hRetained
      cases result with
      | error failure =>
          simp only [hCall]
          exact hOwned.setRequest i .returned trivial
      | ok state =>
          obtain ⟨access, hEntry⟩ := hOk state rfl
          simp only [hCall]
          exact hOwned.setRequest i (.attached sessionId frameId state)
            ⟨hRetained.made _ hEntry, hOwned.entry _ hEntry⟩
  | _ => exact ⟨stateOwner, h⟩

/-- A token that a request takes is the cursor's, or it gets its owner. -/
theorem Owned.take (h : Owned tokenOwner stateOwner s) (i : Nat) :
    ∃ tokenOwner', Owned tokenOwner' stateOwner (s.take i) := by
  unfold PreviewRequestsState.take cancellationForScrubTarget
  cases hPhase : s.requests i with
  | attached sessionId frameId state =>
      have hRequest := h.request i
      rw [hPhase] at hRequest
      obtain ⟨hMade, hState⟩ := hRequest
      cases hReusable : (s.scrub.states state).decoderCursor.filter fun cursor =>
          cursor.canContinueTo frameId MAX_FORWARD_CURSOR_REUSE_FRAMES &&
            !s.previews.tokens.isCancelled cursor.cancellation with
      | some cursor =>
          obtain ⟨hCursor, -⟩ := Option.filter_eq_some_iff.1 hReusable
          obtain ⟨-, hToken, hOwner⟩ := h.cursor state cursor hCursor
          have hSame : s.scrub.updateState state (fun _ => s.scrub.states state) = s.scrub := by
            unfold ScrubSessions.updateState
            rw [Function.update_eq_self]
          simp only [hReusable, hSame]
          refine ⟨tokenOwner, h.setRequest _ _ ?_⟩
          exact ⟨hMade, hState, hToken, hOwner.trans hState⟩
      | none =>
          simp only [hReusable]
          let owner := Function.update tokenOwner s.previews.tokens.next sessionId
          have hKept : ∀ token, token < s.previews.tokens.next → owner token = tokenOwner token :=
            fun token hToken => Function.update_of_ne hToken.ne _ _
          have hOwned : Owned owner stateOwner { s with
              previews := { s.previews with tokens := s.previews.tokens.new }
              scrub := s.scrub.updateState state fun _ =>
                { s.scrub.states state with decoderCursor := none } } := by
            constructor
            · have hTrimmed : Retained (s.scrub.updateState state fun _ =>
                  { s.scrub.states state with decoderCursor := none }) :=
                h.retained.updateState rfl
              exact hTrimmed
            · intro other operation hActive
              obtain ⟨hToken, hOwner⟩ := h.active other operation hActive
              exact ⟨hToken.trans (Nat.lt_succ_self _), (hKept _ hToken).trans hOwner⟩
            · intro other cursor hCursor
              by_cases hIs : other = state
              · simp [ScrubSessions.updateState, hIs] at hCursor
              · have hOld : (s.scrub.states other).decoderCursor = some cursor := by
                  simpa [ScrubSessions.updateState, hIs] using hCursor
                obtain ⟨hOther, hToken, hOwner⟩ := h.cursor other cursor hOld
                exact ⟨hOther, hToken.trans (Nat.lt_succ_self _), (hKept _ hToken).trans hOwner⟩
            · exact h.entry
            · intro j
              exact (h.request j).mono (Nat.le_succ _) le_rfl hKept (fun _ _ => rfl)
          refine ⟨owner, hOwned.setRequest _ _ ?_⟩
          exact ⟨hMade, hState, Nat.lt_succ_self _, Function.update_self ..⟩
  | _ => exact ⟨tokenOwner, h⟩

/-- A decode leaves the cursor with its token, or opens one with the request's. -/
theorem navigateCursor_token {cursor : Option DecoderCursor} {frameId cancellation : Nat}
    {outcome : DecodeOutcome} {after : DecoderCursor}
    (h : navigateCursor cursor frameId cancellation outcome = some after) :
    after.cancellation = cancellation ∨
      ∃ before, cursor = some before ∧ after.cancellation = before.cancellation := by
  cases outcome with
  | rejected => exact .inr ⟨after, h, rfl⟩
  | cached => exact .inr ⟨after, (Option.filter_eq_some_iff.1 h).1, rfl⟩
  | decoded =>
      unfold navigateCursor at h
      cases hKept : cursor.filter fun c =>
          c.canContinueTo frameId MAX_FORWARD_CURSOR_REUSE_FRAMES with
      | none =>
          simp only [hKept, Option.some.injEq] at h
          left
          rw [← h]
      | some kept =>
          simp only [hKept, Option.some.injEq] at h
          right
          exact ⟨kept, (Option.filter_eq_some_iff.1 hKept).1, by rw [← h]⟩
  | reopened =>
      left
      rw [← Option.some.inj h]
  | failed => cases h

theorem Owned.decode (h : Owned tokenOwner stateOwner s) (i : Nat) (outcome : DecodeOutcome) :
    Owned tokenOwner stateOwner (s.decode i outcome) := by
  unfold PreviewRequestsState.decode
  cases hPhase : s.requests i with
  | running call guard =>
      have hRequest := h.request i
      rw [hPhase] at hRequest
      obtain ⟨hMade, hState, hToken, hOwner⟩ := hRequest
      constructor
      · have hNavigated : Retained (s.scrub.updateState call.state fun old =>
            { old with decoderCursor :=
                navigateCursor old.decoderCursor call.frameId call.cancellation outcome }) :=
          h.retained.updateState rfl
        exact hNavigated
      · exact h.active
      · intro other cursor hCursor
        by_cases hIs : other = call.state
        · subst hIs
          have hNavigated : navigateCursor (s.scrub.states call.state).decoderCursor call.frameId
              call.cancellation outcome = some cursor := by
            simpa [ScrubSessions.updateState] using hCursor
          rcases navigateCursor_token hNavigated with hMine | ⟨before, hBefore, hSame⟩
          · rw [hMine]
            exact ⟨hMade, hToken, hOwner.trans hState.symm⟩
          · rw [hSame]
            exact h.cursor call.state before hBefore
        · apply h.cursor other cursor
          simpa [ScrubSessions.updateState, hIs] using hCursor
      · exact h.entry
      · exact h.request
  | _ => exact h

theorem Owned.register (h : Owned tokenOwner stateOwner s) (i : Nat) :
    Owned tokenOwner stateOwner (s.register i) := by
  unfold PreviewRequestsState.register
  cases hPhase : s.requests i with
  | checked call =>
      have hRequest := h.request i
      rw [hPhase] at hRequest
      have hRemoved : CancelsOnly s.previews (s.previews.removeActive call.sessionId)
        call.sessionId := removeActive_only
      rcases beginPreviewLocked_cases s.previews call.sessionId call.cancellation with
        ⟨-, failure, hBegin⟩ | ⟨-, ⟨-, failure, hBegin⟩ | hBegin⟩
      · simp only [hBegin]
        have hSame : Owned tokenOwner stateOwner
            (s.setPreviews s.previews (.exhausted call.sessionId)) :=
          h.of_previews (.refl _ call.sessionId) rfl rfl
        exact hSame.setRequest _ _ trivial
      · simp only [hBegin]
        have hGone : Owned tokenOwner stateOwner (s.setPreviews
            (s.previews.removeActive call.sessionId) (.exhausted call.sessionId)) :=
          h.of_previews hRemoved rfl rfl
        exact hGone.setRequest _ _ trivial
      · simp only [hBegin]
        apply Owned.setRequest _ _ _ (by rw [← hRemoved.next] at hRequest; exact hRequest)
        constructor
        · exact h.retained
        · intro other operation hActive
          show operation.cancellation < (s.previews.removeActive call.sessionId).tokens.next ∧ _
          rw [hRemoved.next]
          by_cases hOther : other = call.sessionId
          · have hIs : operation = ⟨s.previews.registry.nextGeneration + 1, call.cancellation⟩ := by
              subst hOther
              simpa [PreviewRequestsState.setPreviews] using hActive.symm
            rw [hIs, hOther]
            exact ⟨hRequest.2.2.1, hRequest.2.2.2⟩
          · apply h.active other operation
            apply hRemoved.active other operation
            simpa [PreviewRequestsState.setPreviews, hOther] using hActive
        · show ∀ state cursor, _ → _ ∧ _ < (s.previews.removeActive call.sessionId).tokens.next ∧ _
          rw [hRemoved.next]
          exact h.cursor
        · exact h.entry
        · show ∀ j, RequestOwned _ _ (s.previews.removeActive call.sessionId).tokens.next _ _
          rw [hRemoved.next]
          exact h.request
  | _ => exact h

end Owned

/-! ## Why a token is cancelled -/

/-- A token about to be registered is cancelled from outside alone, and one that
is registered also by a later registration. -/
def Excused (s : PreviewRequestsState) : RequestPhase → Prop
  | .checked call => s.previews.tokens.isCancelled call.cancellation = true →
      s.causes call.cancellation = some (.interrupted call.sessionId)
  | .running call guard => guard.generation ≤ s.previews.registry.nextGeneration ∧
      (s.previews.tokens.isCancelled call.cancellation = true →
        s.causes call.cancellation = some (.interrupted call.sessionId) ∨
          ∃ generation, guard.generation < generation ∧
            s.causes call.cancellation = some (.superseded call.sessionId generation))
  | _ => True

section Excused

variable {tokenOwner stateOwner : Nat → Int} {s t : PreviewRequestsState} {sessionId : Int}
  {q : PreviewCancellations} {i : Nat} {phase : RequestPhase}

/-- A cancelled token was cancelled before, for the same cause, or it is the
registered one and has the cause of the step. -/
theorem blame_cases (cause : CancelCause) (hOnly : CancelsOnly s.previews q sessionId) {token : Nat}
    (hCancelled : q.tokens.isCancelled token = true) :
    (s.previews.tokens.isCancelled token = true ∧
        (s.setPreviews q cause).causes token = s.causes token) ∨
      ((s.setPreviews q cause).causes token = some cause ∧
        ∃ operation, s.previews.registry.active sessionId = some operation ∧
          operation.cancellation = token) := by
  show _ ∧ blame _ _ _ _ token = _ ∨ blame _ _ _ _ token = _ ∧ _
  unfold blame
  cases hBefore : s.previews.tokens.isCancelled token with
  | true => simp
  | false =>
      right
      rw [hCancelled]
      refine ⟨rfl, ?_⟩
      rcases hOnly.cancelled token hCancelled with hOld | hMine
      · rw [hBefore] at hOld
        cases hOld
      · exact hMine

/-- The session whose preview has the token of a call is the call's. -/
theorem Owned.session_eq (h : Owned tokenOwner stateOwner s) {call : PreviewCall}
    {operation : ActivePreviewOperation}
    (hCall : call.state < s.scrub.nextState ∧ stateOwner call.state = call.sessionId ∧
      call.cancellation < s.previews.tokens.next ∧
      tokenOwner call.cancellation = call.sessionId)
    (hActive : s.previews.registry.active sessionId = some operation)
    (hToken : operation.cancellation = call.cancellation) : sessionId = call.sessionId := by
  have hOwner := (h.active sessionId operation hActive).2
  rw [hToken] at hOwner
  exact hOwner.symm.trans hCall.2.2.2

/-- A section that interrupts a session excuses every call that it hits. -/
theorem Excused.interrupt (hOwned : Owned tokenOwner stateOwner s)
    (hOnly : CancelsOnly s.previews q sessionId) (h : Excused s (s.requests i)) :
    Excused (s.setPreviews q (.interrupted sessionId)) (s.requests i) := by
  have hRequest := hOwned.request i
  cases hPhase : s.requests i with
  | checked call =>
      rw [hPhase] at h hRequest
      intro hCancelled
      rcases blame_cases _ hOnly hCancelled with ⟨hBefore, hSame⟩ | ⟨hCause, operation, hActive, hToken⟩
      · rw [hSame]
        exact h hBefore
      · rw [hCause, hOwned.session_eq hRequest hActive hToken]
  | running call guard =>
      rw [hPhase] at h hRequest
      refine ⟨h.1.trans_eq hOnly.generation.symm, fun hCancelled => ?_⟩
      rcases blame_cases _ hOnly hCancelled with ⟨hBefore, hSame⟩ | ⟨hCause, operation, hActive, hToken⟩
      · rw [hSame]
        exact h.2 hBefore
      · left
        rw [hCause, hOwned.session_eq hRequest hActive hToken]
  | _ => trivial

/-- A step that cancels nothing excuses what was excused. -/
theorem Excused.mono (h : Excused s phase)
    (hCancelled : ∀ token, t.previews.tokens.isCancelled token = true →
      s.previews.tokens.isCancelled token = true ∧ t.causes token = s.causes token)
    (hGeneration : s.previews.registry.nextGeneration ≤ t.previews.registry.nextGeneration) :
    Excused t phase := by
  cases phase with
  | checked call =>
      intro hNow
      obtain ⟨hBefore, hSame⟩ := hCancelled _ hNow
      rw [hSame]
      exact h hBefore
  | running call guard =>
      refine ⟨h.1.trans hGeneration, fun hNow => ?_⟩
      obtain ⟨hBefore, hSame⟩ := hCancelled _ hNow
      rw [hSame]
      exact h.2 hBefore
  | _ => trivial

/-- Setting one request leaves the excuses of the others. -/
theorem excused_setRequest (h : ∀ j, Excused s (s.requests j)) (i : Nat) (phase : RequestPhase)
    (hPhase : Excused s phase) :
    ∀ j, Excused (s.setRequest i phase) ((s.setRequest i phase).requests j) := by
  intro j
  show Excused s (Function.update s.requests i phase j)
  by_cases hj : j = i
  · rw [hj, Function.update_self]
    exact hPhase
  · rw [Function.update_of_ne hj]
    exact h j

/-- A registration that keeps clear of the tokens about to be registered. -/
theorem excused_register (hOwned : Owned tokenOwner stateOwner s)
    (h : ∀ j, Excused s (s.requests j)) (i : Nat) (hApart : TokenApart s (.register i)) :
    ∀ j, Excused (s.register i) ((s.register i).requests j) := by
  unfold PreviewRequestsState.register
  cases hPhase : s.requests i with
  | checked call =>
      have hMine := h i
      rw [hPhase] at hMine
      have hRemoved : CancelsOnly s.previews (s.previews.removeActive call.sessionId)
        call.sessionId := removeActive_only
      rcases beginPreviewLocked_cases s.previews call.sessionId call.cancellation with
        ⟨-, failure, hBegin⟩ | ⟨hFree, ⟨hFull, failure, hBegin⟩ | hBegin⟩
      · -- refused: nothing is cancelled
        simp only [hBegin]
        refine excused_setRequest ?_ i .returned trivial
        intro j
        show Excused _ (s.requests j)
        refine (h j).mono ?_ le_rfl
        intro token hCancelled
        exact ⟨hCancelled, by simp [PreviewRequestsState.setPreviews, blame]⟩
      · -- no generation left: then no preview is registered
        simp only [hBegin]
        refine excused_setRequest ?_ i .returned trivial
        intro j
        show Excused _ (s.requests j)
        refine (h j).mono ?_ (le_of_eq hRemoved.generation.symm)
        intro token hCancelled
        rcases blame_cases _ hRemoved hCancelled with hOld | ⟨-, operation, hActive, -⟩
        · exact hOld
        · have hRoom := (hApart call hPhase hFree operation hActive).1
          omega
      · simp only [hBegin]
        have hBlame : ∀ token,
            (s.previews.removeActive call.sessionId).tokens.isCancelled token = true → _ :=
          fun _ hCancelled => blame_cases
            (.superseded call.sessionId (s.previews.registry.nextGeneration + 1)) hRemoved hCancelled
        apply excused_setRequest
        · intro j
          have hRequest := hOwned.request j
          have hOld := h j
          show Excused _ (s.requests j)
          cases hOther : s.requests j with
          | checked other =>
              rw [hOther] at hOld
              intro hCancelled
              rcases hBlame _ hCancelled with ⟨hBefore, hSame⟩ | ⟨-, operation, hActive, hToken⟩
              · exact hSame.trans (hOld hBefore)
              · exact absurd hToken.symm ((hApart call hPhase hFree operation hActive).2 j other hOther)
          | running other guard =>
              rw [hOther] at hOld hRequest
              refine ⟨hOld.1.trans (Nat.le_succ _), fun hCancelled => ?_⟩
              rcases hBlame _ hCancelled with ⟨hBefore, hSame⟩ | ⟨hCause, operation, hActive, hToken⟩
              · rcases hOld.2 hBefore with hOut | ⟨generation, hLater, hCause⟩
                · exact .inl (hSame.trans hOut)
                · exact .inr ⟨generation, hLater, hSame.trans hCause⟩
              · right
                refine ⟨_, Nat.lt_succ_of_le hOld.1, ?_⟩
                rw [← hOwned.session_eq hRequest hActive hToken]
                exact hCause
          | _ => trivial
        · refine ⟨le_rfl, fun hCancelled => ?_⟩
          rcases hBlame _ hCancelled with ⟨hBefore, hSame⟩ | ⟨-, operation, hActive, hToken⟩
          · left
            exact hSame.trans (hMine hBefore)
          · exact absurd hToken.symm ((hApart call hPhase hFree operation hActive).2 i call hPhase)
  | _ => exact h

end Excused

/-! ## Every step -/

structure Watched (s : PreviewRequestsState) : Prop where
  owned : ∃ tokenOwner stateOwner, Owned tokenOwner stateOwner s
  excused : ∀ i, Excused s (s.requests i)

section Watched

variable {s t : PreviewRequestsState} {sessionId : Int} {q : PreviewCancellations}

theorem watched_initial (previewBudget : UInt64) : Watched (.initial previewBudget) :=
  ⟨⟨_, _, owned_initial previewBudget⟩, fun _ => trivial⟩

/-- Open sessions, closes and exact guards are of no concern. -/
theorem Watched.congr (h : Watched s) (hPreviews : t.previews = s.previews)
    (hScrub : t.scrub = s.scrub) (hRequests : t.requests = s.requests)
    (hCauses : t.causes = s.causes) : Watched t := by
  obtain ⟨⟨tokenOwner, stateOwner, hOwned⟩, hExcused⟩ := h
  constructor
  · have hOnly : CancelsOnly s.previews t.previews 0 := by
      rw [hPreviews]
      exact .refl _ _
    exact ⟨tokenOwner, stateOwner, hOwned.of_previews hOnly hScrub hRequests⟩
  · intro i
    rw [hRequests]
    refine (hExcused i).mono ?_ ?_
    · rw [hPreviews, hCauses]
      exact fun token hCancelled => ⟨hCancelled, rfl⟩
    · rw [hPreviews]

theorem Watched.interrupt (h : Watched s) (hOnly : CancelsOnly s.previews q sessionId) :
    Watched (s.setPreviews q (.interrupted sessionId)) := by
  obtain ⟨⟨tokenOwner, stateOwner, hOwned⟩, hExcused⟩ := h
  exact ⟨⟨tokenOwner, stateOwner, hOwned.of_previews hOnly rfl rfl⟩,
    fun i => (hExcused i).interrupt hOwned hOnly⟩

/-- Guards go without cancelling anything. -/
theorem Watched.drop (h : Watched s) (hTokens : q.tokens = s.previews.tokens)
    (hOnly : CancelsOnly s.previews q sessionId) : Watched { s with previews := q } := by
  obtain ⟨⟨tokenOwner, stateOwner, hOwned⟩, hExcused⟩ := h
  refine ⟨⟨tokenOwner, stateOwner, hOwned.of_previews hOnly rfl rfl⟩, fun i => ?_⟩
  refine (hExcused i).mono ?_ (le_of_eq hOnly.generation.symm)
  show ∀ token, q.tokens.isCancelled token = true → _
  rw [hTokens]
  exact fun token hCancelled => ⟨hCancelled, rfl⟩

theorem Watched.setRequest (h : Watched s) (i : Nat) (phase : RequestPhase)
    (hIdle : phase.session? = none ∨ ∃ sessionId frameId cacheRoot,
      phase = .resolved sessionId frameId cacheRoot) : Watched (s.setRequest i phase) := by
  obtain ⟨⟨tokenOwner, stateOwner, hOwned⟩, hExcused⟩ := h
  have hFree : (∀ nextToken nextState, RequestOwned tokenOwner stateOwner nextToken nextState phase) ∧
      Excused s phase := by
    cases phase with
    | idle => exact ⟨fun _ _ => trivial, trivial⟩
    | resolved sessionId frameId cacheRoot => exact ⟨fun _ _ => trivial, trivial⟩
    | returned => exact ⟨fun _ _ => trivial, trivial⟩
    | _ => simp [RequestPhase.session?] at hIdle
  exact ⟨⟨tokenOwner, stateOwner, hOwned.setRequest i phase (hFree.1 _ _)⟩,
    excused_setRequest hExcused i phase hFree.2⟩

/-- A step that cancels nothing and changes one request, which has nothing to be
excused for. -/
theorem Watched.of_owned (h : Watched s) (hOwned : ∃ tokenOwner stateOwner,
      Owned tokenOwner stateOwner t)
    (hTokens : ∀ token, token < s.previews.tokens.next → t.previews.tokens.isCancelled token =
      s.previews.tokens.isCancelled token) (hCauses : t.causes = s.causes)
    (hGeneration : t.previews.registry.nextGeneration = s.previews.registry.nextGeneration)
    (hRequests : ∀ i, t.requests i = s.requests i ∨ Excused t (t.requests i)) : Watched t := by
  refine ⟨hOwned, fun i => ?_⟩
  rcases hRequests i with hSame | hNew
  · obtain ⟨⟨tokenOwner, stateOwner, hOld⟩, hExcused⟩ := h
    have hRequest := hOld.request i
    have hBefore := hExcused i
    rw [hSame]
    cases hPhase : s.requests i with
    | checked call =>
        rw [hPhase] at hBefore hRequest
        intro hCancelled
        rw [hTokens _ hRequest.2.2.1] at hCancelled
        rw [hCauses]
        exact hBefore hCancelled
    | running call guard =>
        rw [hPhase] at hBefore hRequest
        refine ⟨hBefore.1.trans_eq hGeneration.symm, fun hCancelled => ?_⟩
        rw [hTokens _ hRequest.2.2.1] at hCancelled
        rw [hCauses]
        exact hBefore.2 hCancelled
    | _ => trivial
  · exact hNew

theorem Watched.attach (h : Watched s) (i sourceCache : Nat) : Watched (s.attach i sourceCache) := by
  obtain ⟨tokenOwner, stateOwner, hOwned⟩ := h.owned
  obtain ⟨stateOwner', hAttached⟩ := hOwned.attach i sourceCache
  have hFrame : (s.attach i sourceCache).previews = s.previews ∧
      (s.attach i sourceCache).causes = s.causes ∧
      ∀ j, (s.attach i sourceCache).requests j = s.requests j ∨
        Excused (s.attach i sourceCache) ((s.attach i sourceCache).requests j) := by
    unfold PreviewRequestsState.attach
    cases hPhase : s.requests i with
    | resolved sessionId frameId cacheRoot =>
        rcases hCall : s.scrub.sessionState s.previewBudget sessionId cacheRoot sourceCache with
          ⟨failure | state, scrub⟩
        all_goals
          simp only [hCall]
          refine ⟨rfl, rfl, fun j => ?_⟩
          by_cases hj : j = i
          · right
            simp [PreviewRequestsState.setRequest, hj, Excused]
          · left
            exact Function.update_of_ne hj _ _
    | _ => exact ⟨rfl, rfl, fun _ => .inl rfl⟩
  obtain ⟨hPreviews, hCauses, hRequests⟩ := hFrame
  apply h.of_owned ⟨tokenOwner, stateOwner', hAttached⟩ _ hCauses (by rw [hPreviews]) hRequests
  rw [hPreviews]
  exact fun _ _ => rfl

theorem Watched.take (h : Watched s) (i : Nat) : Watched (s.take i) := by
  obtain ⟨tokenOwner, stateOwner, hOwned⟩ := h.owned
  obtain ⟨tokenOwner', hTaken⟩ := hOwned.take i
  have hFrame : (∀ token, token < s.previews.tokens.next →
        (s.take i).previews.tokens.isCancelled token = s.previews.tokens.isCancelled token) ∧
      (s.take i).causes = s.causes ∧
      (s.take i).previews.registry = s.previews.registry ∧
      ∀ j, (s.take i).requests j = s.requests j ∨ Excused (s.take i) ((s.take i).requests j) := by
    unfold PreviewRequestsState.take cancellationForScrubTarget
    cases hPhase : s.requests i with
    | attached sessionId frameId state =>
        cases hReusable : (s.scrub.states state).decoderCursor.filter fun cursor =>
            cursor.canContinueTo frameId MAX_FORWARD_CURSOR_REUSE_FRAMES &&
              !s.previews.tokens.isCancelled cursor.cancellation with
        | some cursor =>
            simp only [hReusable]
            refine ⟨fun _ _ => rfl, rfl, rfl, fun j => ?_⟩
            by_cases hj : j = i
            · right
              simp [PreviewRequestsState.setRequest, hj, Excused]
            · left
              exact Function.update_of_ne hj _ _
        | none =>
            simp only [hReusable]
            refine ⟨fun token hToken => isCancelled_new hToken, rfl, rfl, fun j => ?_⟩
            by_cases hj : j = i
            · right
              simp [PreviewRequestsState.setRequest, hj, Excused]
            · left
              exact Function.update_of_ne hj _ _
    | _ => exact ⟨fun _ _ => rfl, rfl, rfl, fun _ => .inl rfl⟩
  obtain ⟨hTokens, hCauses, hRegistry, hRequests⟩ := hFrame
  exact h.of_owned ⟨tokenOwner', stateOwner, hTaken⟩ hTokens hCauses (by rw [hRegistry]) hRequests

/-- A token that is found uncancelled has nothing to be excused for. -/
theorem Watched.check (h : Watched s) (i : Nat) : Watched (s.check i) := by
  unfold PreviewRequestsState.check
  cases hPhase : s.requests i with
  | holding call =>
      by_cases hCancelled : s.previews.tokens.isCancelled call.cancellation = true
      · simp only [hCancelled, if_true]
        exact h.setRequest i .returned (.inl rfl)
      · simp only [hCancelled]
        obtain ⟨⟨tokenOwner, stateOwner, hOwned⟩, hExcused⟩ := h
        have hRequest := hOwned.request i
        rw [hPhase] at hRequest
        exact ⟨⟨tokenOwner, stateOwner, hOwned.setRequest i (.checked call) hRequest⟩,
          excused_setRequest hExcused i (.checked call) fun hNow => absurd hNow hCancelled⟩
  | _ => exact h

theorem Watched.decode (h : Watched s) (i : Nat) (outcome : DecodeOutcome) :
    Watched (s.decode i outcome) := by
  obtain ⟨tokenOwner, stateOwner, hOwned⟩ := h.owned
  have hFrame : (s.decode i outcome).previews = s.previews ∧
      (s.decode i outcome).causes = s.causes ∧ (s.decode i outcome).requests = s.requests := by
    unfold PreviewRequestsState.decode
    cases s.requests i with
    | running call guard => exact ⟨rfl, rfl, rfl⟩
    | _ => exact ⟨rfl, rfl, rfl⟩
  obtain ⟨hPreviews, hCauses, hRequests⟩ := hFrame
  apply h.of_owned ⟨tokenOwner, stateOwner, hOwned.decode i outcome⟩ _ hCauses (by rw [hPreviews])
  · rw [hRequests]
    exact fun _ => .inl rfl
  · rw [hPreviews]
    exact fun _ _ => rfl

theorem Watched.finish (h : Watched s) (i : Nat) : Watched (s.finish i) := by
  unfold PreviewRequestsState.finish
  cases hPhase : s.requests i with
  | running call guard =>
      have hOnly : CancelsOnly s.previews (s.previews.dropPreview guard) call.sessionId :=
        dropPreview_only
      exact (h.drop tokens_dropPreview hOnly).setRequest i .returned (.inl rfl)
  | _ => exact h.setRequest i .returned (.inl rfl)

theorem Watched.beginExact (h : Watched s) (sessionId : Int) : Watched (s.beginExact sessionId) := by
  have hOnly : CancelsOnly s.previews (s.previews.beginExactNavigation sessionId).2 sessionId :=
    beginExactNavigation_only
  exact (h.interrupt hOnly).congr rfl rfl rfl rfl

theorem Watched.cancelPreview (h : Watched s) (sessionId : Int) :
    Watched (s.cancelPreview sessionId) :=
  h.interrupt cancelSessionPreview_only

theorem Watched.forget (h : Watched s) (sessionId : Int) : Watched (s.forget sessionId) := by
  obtain ⟨⟨tokenOwner, stateOwner, hOwned⟩, hExcused⟩ := h
  exact ⟨⟨tokenOwner, stateOwner, hOwned.forget⟩, hExcused⟩

theorem Watched.close (h : Watched s) (c : Nat) : Watched (s.close c) := by
  unfold PreviewRequestsState.close
  cases hPhase : s.closes c with
  | barred sessionId =>
      by_cases hOpen : s.openSessions sessionId = true
      · simp only [hOpen, if_true]
        exact h.congr rfl rfl rfl rfl
      · simp only [hOpen]
        exact h.congr rfl rfl rfl rfl
  | unlinked sessionId => exact (h.cancelPreview sessionId).congr rfl rfl rfl rfl
  | previewCancelled sessionId => exact (h.forget sessionId).congr rfl rfl rfl rfl
  | forgotten sessionId =>
      have hOnly : CancelsOnly s.previews (s.previews.forgetRegistrations sessionId) sessionId :=
        forgetRegistrations_only
      exact (h.interrupt hOnly).congr rfl rfl rfl rfl
  | leaving sessionId =>
      have hOnly : CancelsOnly s.previews
          (s.previews.dropExact ⟨sessionId, decide (0 < sessionId)⟩) sessionId := dropExact_only
      exact (h.drop (dropExact_same _ _).1 hOnly).congr rfl rfl rfl rfl
  | _ => exact h

theorem Watched.apply (h : Watched s) (event : PreviewEvent) (hApart : TokenApart s event) :
    Watched (applyEvent s event) := by
  cases event with
  | openSession => exact h.congr rfl rfl rfl rfl
  | resolve i sessionId frameId cacheRoot =>
      show Watched (s.resolve i sessionId frameId cacheRoot)
      unfold PreviewRequestsState.resolve
      cases s.requests i with
      | idle =>
          by_cases hOpen : s.openSessions sessionId = true
          · simp only [hOpen, if_true]
            exact h.setRequest i _ (.inr ⟨sessionId, frameId, cacheRoot, rfl⟩)
          · simp only [hOpen]
            exact h.setRequest i .returned (.inl rfl)
      | _ => exact h
  | attach i sourceCache => exact h.attach i sourceCache
  | take i => exact h.take i
  | check i => exact h.check i
  | register i =>
      obtain ⟨tokenOwner, stateOwner, hOwned⟩ := h.owned
      exact ⟨⟨tokenOwner, stateOwner, hOwned.register i⟩,
        excused_register hOwned h.excused i hApart⟩
  | decode i outcome => exact h.decode i outcome
  | finish i => exact h.finish i
  | beginExact sessionId => exact h.beginExact sessionId
  | dropExact i =>
      show Watched (s.dropExact i)
      unfold PreviewRequestsState.dropExact
      cases s.exactGuards[i]? with
      | none => exact h
      | some guard =>
          have hOnly : CancelsOnly s.previews (s.previews.dropExact guard) guard.sessionId :=
            dropExact_only
          exact (h.drop (dropExact_same _ _).1 hOnly).congr rfl rfl rfl rfl
  | cancelPreview sessionId => exact h.cancelPreview sessionId
  | forget sessionId => exact h.forget sessionId
  | beginClose c sessionId =>
      show Watched (s.beginClose c sessionId)
      unfold PreviewRequestsState.beginClose
      cases s.closes c with
      | idle => exact (h.beginExact sessionId).congr rfl rfl rfl rfl
      | _ => exact h
  | close c => exact h.close c

end Watched

theorem Watched.startedAlive {s : PreviewRequestsState} (h : Watched s) : StartedAlive s := by
  intro i call guard hRunning hCancelled
  have hExcused := h.excused i
  rw [hRunning] at hExcused
  exact hExcused.2 hCancelled

/-- A run in which no registration supersedes a token that a request is about to
register: every running preview whose token is cancelled was interrupted or
superseded by a later one. -/
theorem newest_preview_alive (previewBudget : UInt64) (events : List PreviewEvent)
    (h : Meets applyEvent TokenApart (.initial previewBudget) events) :
    StartedAlive (events.foldl applyEvent (.initial previewBudget)) :=
  (run_invariant (fun _ event hInv hApart => hInv.apply event hApart)
    (watched_initial previewBudget) h).startedAlive

/-- A preview opens the decoder at frame 10 and returns; the next one goes on to
frame 11 with the token of the cursor. -/
def reusedAfterReturn : List PreviewEvent :=
  [.openSession, .resolve 0 1 10 "cache", .attach 0 0, .take 0, .check 0, .register 0,
    .decode 0 .decoded, .finish 0, .resolve 1 1 11 "cache", .attach 1 0, .take 1, .check 1,
    .register 1]

theorem newest_preview_alive_reused :
    StartedAlive (reusedAfterReturn.foldl applyEvent (.initial 8388608)) := by
  apply newest_preview_alive
  refine ⟨trivial, trivial, trivial, trivial, trivial, ?_, trivial, trivial, trivial, trivial,
    trivial, trivial, ?_, trivial⟩
  · intro call _ _ operation hActive
    cases hActive
  · intro call hCall _ operation hActive
    have hIs : ((reusedAfterReturn.take 12).foldl applyEvent (.initial 8388608)).requests 1 =
        .checked ⟨1, 11, 0, 0⟩ := by
      decide
    have hNone : ((reusedAfterReturn.take 12).foldl applyEvent
        (.initial 8388608)).previews.registry.active 1 = none := by
      decide
    have hSession : call = ⟨1, 11, 0, 0⟩ := by
      injection hCall.symm.trans hIs
    rw [hSession] at hActive
    cases hNone.symm.trans hActive

/-! ## A preview that cancels itself -/

/-- The first preview still holds its guard when the second one takes the token
of the cursor and registers it. -/
def ownStart : List PreviewEvent :=
  [.openSession, .resolve 0 1 10 "cache", .attach 0 0, .take 0, .check 0, .register 0,
    .decode 0 .decoded, .resolve 1 1 11 "cache", .attach 1 0, .take 1, .check 1, .register 1]

/-- The second preview is registered with a token that its own registration
cancelled. -/
theorem ownStart_cancelled :
    ¬ StartedAlive (ownStart.foldl applyEvent (.initial 8388608)) := by
  intro h
  have hRunning : (ownStart.foldl applyEvent (.initial 8388608)).requests 1 =
      .running ⟨1, 11, 0, 0⟩ ⟨1, 2⟩ := by
    decide
  have hCause : (ownStart.foldl applyEvent (.initial 8388608)).causes 0 =
      some (.superseded 1 2) := by
    decide
  rcases h 1 _ _ hRunning (by decide) with hOut | ⟨generation, hLater, hSuperseded⟩
  · cases hCause.symm.trans hOut
  · cases hCause.symm.trans hSuperseded
    exact absurd hLater (by decide)

end FrameScope.Ports.PreviewRequestsLaw
