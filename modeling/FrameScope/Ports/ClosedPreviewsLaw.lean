import FrameScope.Ports.PreviewRequestsLaw

/-!
# What a closed session leaves behind

Three invariants that do not need each other.  The retained sessions are open or
about to be forgotten (`EntriesOpen`); a registered preview has a request that
holds its guard (`Guarded`); an exact-navigation count is at most the number of
guards alive (`Counted`).  Only the first one needs a condition on the run.
-/

namespace FrameScope.Ports.ClosedPreviewsLaw

open FrameScope.Verified.KeyedTable (eraseIdx_split)
open FrameScope.Verified.Runs
open FrameScope.Ports.Core
open FrameScope.Ports.PreviewCancellation hiding applyEvent
open FrameScope.Ports.PreviewCancellationLaw hiding Counted
open FrameScope.Ports.ScrubHandoff
open FrameScope.Ports.ScrubHandoffLaw
open FrameScope.Ports.PreviewRequests
open FrameScope.Ports.PreviewRequestsLaw

/-! ## Retained sessions -/

structure EntriesOpen (s : PreviewRequestsState) : Prop where
  retained : Retained s.scrub
  balanced : Balanced s.previewBudget s.scrub
  entry : ∀ entry ∈ s.scrub.registry.sessions,
    s.openSessions entry.1 = true ∨ Closing s entry.1

section EntriesOpen

variable {s t : PreviewRequestsState} {sessionId : Int}

theorem entriesOpen_initial (previewBudget : UInt64) : EntriesOpen (.initial previewBudget) where
  retained := retained_initial
  balanced := fun h => absurd rfl h
  entry := fun _ h => by cases h

/-- Steps that change cursors at most. -/
theorem EntriesOpen.congr (h : EntriesOpen s) (hRegistry : t.scrub.registry = s.scrub.registry)
    (hNext : t.scrub.nextState = s.scrub.nextState)
    (hBudgets : ∀ state, (t.scrub.states state).previewBudgetBytes =
      (s.scrub.states state).previewBudgetBytes)
    (hBudget : t.previewBudget = s.previewBudget)
    (hOpen : ∀ sessionId, s.openSessions sessionId = true ∨ Closing s sessionId →
      t.openSessions sessionId = true ∨ Closing t sessionId) : EntriesOpen t where
  retained := h.retained.of_budgets hRegistry hNext hBudgets
  balanced := by
    rw [hBudget]
    exact h.balanced.of_budgets hRegistry hBudgets
  entry := by
    rw [hRegistry]
    exact fun entry hEntry => hOpen _ (h.entry entry hEntry)

/-- A close that goes on keeps every session that is still to be forgotten, its
own one perhaps not. -/
theorem closing_update {c : Nat} {phase : ClosePhase} (h : Closing s sessionId)
    (hCloses : t.closes = Function.update s.closes c phase)
    (hPhase : (s.closes c = .unlinked sessionId ∨ s.closes c = .previewCancelled sessionId) →
      phase = .unlinked sessionId ∨ phase = .previewCancelled sessionId) : Closing t sessionId := by
  obtain ⟨c', hc'⟩ := h
  refine ⟨c', ?_⟩
  rw [hCloses]
  by_cases hSame : c' = c
  · subst hSame
    rw [Function.update_self]
    exact hPhase hc'
  · rwa [Function.update_of_ne hSame]

theorem EntriesOpen.attach (h : EntriesOpen s) (i sourceCache : Nat)
    (hOpen : BeforeForget s (.attach i sourceCache)) : EntriesOpen (s.attach i sourceCache) := by
  unfold PreviewRequestsState.attach
  cases hPhase : s.requests i with
  | resolved sessionId frameId cacheRoot =>
      obtain ⟨hEntries, -⟩ :=
        sessionState_sub h.retained s.previewBudget sessionId cacheRoot sourceCache
      have hScrub : EntriesOpen { s with scrub :=
          (s.scrub.sessionState s.previewBudget sessionId cacheRoot sourceCache).2 } := by
        constructor
        · exact h.retained.sessionState
        · exact h.balanced.sessionState h.retained
        · intro entry hEntry
          rcases hEntries entry hEntry with ⟨old, hOld, hId, -⟩ | ⟨hId, -⟩
          · rw [← hId]
            exact h.entry old hOld
          · rw [hId]
            exact hOpen sessionId frameId cacheRoot hPhase
      rcases hCall : s.scrub.sessionState s.previewBudget sessionId cacheRoot sourceCache with
        ⟨failure | state, scrub⟩
      all_goals
        rw [hCall] at hScrub
        simp only [hCall]
        exact hScrub.congr rfl rfl (fun _ => rfl) rfl fun _ hOpen => hOpen
  | _ => exact h

theorem EntriesOpen.forget (h : EntriesOpen s) (sessionId : Int) :
    EntriesOpen (s.forget sessionId) ∧
      ∀ entry ∈ (s.forget sessionId).scrub.registry.sessions, entry.1 ≠ sessionId := by
  obtain ⟨hEntries, -⟩ := forgetSection_sub s.scrub s.previewBudget sessionId
  refine ⟨?_, fun entry hEntry => (hEntries entry hEntry).2⟩
  constructor
  · exact h.retained.forgetSection
  · exact h.balanced.forgetSection h.retained
  · exact fun entry hEntry => h.entry entry (hEntries entry hEntry).1

theorem EntriesOpen.close (h : EntriesOpen s) (c : Nat) : EntriesOpen (s.close c) := by
  unfold PreviewRequestsState.close
  -- open sessions stay open but for the one that is unlinked
  have hKeep : ∀ {t : PreviewRequestsState} {phase : ClosePhase},
      t.openSessions = s.openSessions → t.closes = Function.update s.closes c phase →
      (∀ other, (s.closes c = .unlinked other ∨ s.closes c = .previewCancelled other) →
        phase = .unlinked other ∨ phase = .previewCancelled other) →
      ∀ other, s.openSessions other = true ∨ Closing s other →
        t.openSessions other = true ∨ Closing t other := by
    intro t phase hOpen hCloses hPhase other hOther
    rw [hOpen]
    exact hOther.imp_right fun hClosing => closing_update hClosing hCloses (hPhase other)
  cases hPhase : s.closes c with
  | barred sessionId =>
      by_cases hOpen : s.openSessions sessionId = true
      · simp only [hOpen, if_true]
        refine h.congr rfl rfl (fun _ => rfl) rfl ?_
        intro other hOther
        by_cases hSame : other = sessionId
        · right
          exact ⟨c, .inl (by simp [PreviewRequestsState.setClose, hSame])⟩
        · rcases hOther with hStill | hClosing
          · left
            simpa [PreviewRequestsState.setClose, hSame] using hStill
          · right
            apply closing_update hClosing rfl
            simp [hPhase]
      · simp only [hOpen]
        exact h.congr rfl rfl (fun _ => rfl) rfl (hKeep rfl rfl (by simp [hPhase]))
  | unlinked sessionId =>
      exact h.congr rfl rfl (fun _ => rfl) rfl (hKeep rfl rfl (by simp [hPhase]))
  | previewCancelled sessionId =>
      obtain ⟨hForgot, hGone⟩ := h.forget sessionId
      refine ⟨hForgot.retained, hForgot.balanced, ?_⟩
      intro entry hEntry
      apply (hForgot.entry entry hEntry).imp_right
      intro hClosing
      apply closing_update hClosing rfl
      have hId : sessionId ≠ entry.1 := (hGone entry hEntry).symm
      simp [PreviewRequestsState.forget, hPhase, hId]
  | forgotten sessionId =>
      exact h.congr rfl rfl (fun _ => rfl) rfl (hKeep rfl rfl (by simp [hPhase]))
  | leaving sessionId =>
      exact h.congr rfl rfl (fun _ => rfl) rfl (hKeep rfl rfl (by simp [hPhase]))
  | _ => exact h

/-- The requests, the previews and the guards are of no concern. -/
theorem EntriesOpen.same (h : EntriesOpen s) (hScrub : t.scrub = s.scrub)
    (hBudget : t.previewBudget = s.previewBudget) (hOpen : t.openSessions = s.openSessions)
    (hCloses : t.closes = s.closes) : EntriesOpen t := by
  apply h.congr _ _ _ hBudget
  · intro sessionId hOld
    rw [hOpen]
    unfold Closing
    rw [hCloses]
    exact hOld
  · rw [hScrub]
  · rw [hScrub]
  · rw [hScrub]
    exact fun _ => rfl

theorem EntriesOpen.updateState (h : EntriesOpen s) (state : Nat)
    (f : ScrubSessionState → ScrubSessionState)
    (hBudget : (f (s.scrub.states state)).previewBudgetBytes =
      (s.scrub.states state).previewBudgetBytes) :
    EntriesOpen { s with scrub := s.scrub.updateState state f } :=
  h.congr rfl rfl (budget_updateState hBudget) rfl fun _ hOld => hOld

theorem EntriesOpen.apply (h : EntriesOpen s) (event : PreviewEvent)
    (hOpen : BeforeForget s event) : EntriesOpen (applyEvent s event) := by
  cases event with
  | openSession =>
      refine h.congr rfl rfl (fun _ => rfl) rfl ?_
      intro other hOther
      refine hOther.imp_left fun hStill => ?_
      show Function.update s.openSessions s.nextSessionId true other = true
      by_cases hSame : other = s.nextSessionId
      · rw [hSame, Function.update_self]
      · rwa [Function.update_of_ne hSame]
  | resolve i sessionId frameId cacheRoot =>
      show EntriesOpen (s.resolve i sessionId frameId cacheRoot)
      unfold PreviewRequestsState.resolve
      cases s.requests i with
      | idle =>
          by_cases hIs : s.openSessions sessionId = true
          · simp only [hIs, if_true]
            exact h.same rfl rfl rfl rfl
          · simp only [hIs]
            exact h.same rfl rfl rfl rfl
      | _ => exact h
  | attach i sourceCache => exact h.attach i sourceCache hOpen
  | take i =>
      show EntriesOpen (s.take i)
      unfold PreviewRequestsState.take cancellationForScrubTarget
      cases s.requests i with
      | attached sessionId frameId state =>
          cases hReusable : (s.scrub.states state).decoderCursor.filter fun cursor =>
              cursor.canContinueTo frameId MAX_FORWARD_CURSOR_REUSE_FRAMES &&
                !s.previews.tokens.isCancelled cursor.cancellation with
          | some cursor =>
              simp only [hReusable]
              exact (h.updateState state (fun _ => s.scrub.states state) rfl).same rfl rfl rfl rfl
          | none =>
              simp only [hReusable]
              exact (h.updateState state (fun _ =>
                { s.scrub.states state with decoderCursor := none }) rfl).same rfl rfl rfl rfl
      | _ => exact h
  | check i =>
      show EntriesOpen (s.check i)
      unfold PreviewRequestsState.check
      cases s.requests i with
      | holding call =>
          by_cases hCancelled : s.previews.tokens.isCancelled call.cancellation = true
          · simp only [hCancelled, if_true]
            exact h.same rfl rfl rfl rfl
          · simp only [hCancelled]
            exact h.same rfl rfl rfl rfl
      | _ => exact h
  | register i =>
      show EntriesOpen (s.register i)
      unfold PreviewRequestsState.register
      cases s.requests i with
      | checked call =>
          rcases hBegin : s.previews.beginPreviewLocked call.sessionId call.cancellation with
            ⟨failure | guard, previews⟩
          all_goals
            simp only [hBegin]
            exact h.same rfl rfl rfl rfl
      | _ => exact h
  | decode i outcome =>
      show EntriesOpen (s.decode i outcome)
      unfold PreviewRequestsState.decode
      cases s.requests i with
      | running call guard =>
          let after := navigateCursor (s.scrub.states call.state).decoderCursor call.frameId
            call.cancellation outcome
          exact (h.updateState call.state (fun _ =>
            { s.scrub.states call.state with decoderCursor := after }) rfl).same rfl rfl rfl rfl
      | _ => exact h
  | finish i =>
      show EntriesOpen (s.finish i)
      unfold PreviewRequestsState.finish
      cases s.requests i with
      | running call guard => exact h.same rfl rfl rfl rfl
      | _ => exact h.same rfl rfl rfl rfl
  | beginExact sessionId => exact h.same rfl rfl rfl rfl
  | dropExact i =>
      show EntriesOpen (s.dropExact i)
      unfold PreviewRequestsState.dropExact
      cases s.exactGuards[i]? with
      | none => exact h
      | some guard => exact h.same rfl rfl rfl rfl
  | cancelPreview sessionId => exact h.same rfl rfl rfl rfl
  | forget sessionId => exact (h.forget sessionId).1
  | beginClose c sessionId =>
      show EntriesOpen (s.beginClose c sessionId)
      unfold PreviewRequestsState.beginClose
      cases hPhase : s.closes c with
      | idle =>
          refine h.congr rfl rfl (fun _ => rfl) rfl ?_
          intro other hOther
          refine hOther.imp_right fun hClosing => ?_
          apply closing_update hClosing rfl
          simp [hPhase]
      | _ => exact h
  | close c => exact h.close c

end EntriesOpen

/-! ## Registered previews -/

/-- A registration belongs to a request that still runs. -/
def Guarded (s : PreviewRequestsState) : Prop :=
  ∀ sessionId operation, s.previews.registry.active sessionId = some operation →
    ∃ i call, s.requests i = .running call ⟨sessionId, operation.generation⟩ ∧
      call.sessionId = sessionId

section Guarded

variable {s t : PreviewRequestsState} {sessionId : Int}

/-- Registrations only go and running requests go on. -/
theorem Guarded.mono (h : Guarded s)
    (hActive : ∀ sessionId operation, t.previews.registry.active sessionId = some operation →
      s.previews.registry.active sessionId = some operation)
    (hRequests : ∀ i call guard, s.requests i = .running call guard →
      t.requests i = .running call guard) : Guarded t := by
  intro sessionId operation hNow
  obtain ⟨i, call, hRunning, hSession⟩ := h sessionId operation (hActive _ _ hNow)
  exact ⟨i, call, hRequests i call _ hRunning, hSession⟩

/-- A request that does not run yet. -/
theorem running_setRequest {i : Nat} {phase : RequestPhase}
    (hNot : ∀ call guard, s.requests i ≠ .running call guard) (j : Nat) (call : PreviewCall)
    (guard : PreviewOperationGuard) (h : s.requests j = .running call guard) :
    (s.setRequest i phase).requests j = .running call guard := by
  have hj : j ≠ i := by
    rintro rfl
    exact hNot call guard h
  rw [← h]
  exact Function.update_of_ne hj _ _

theorem Guarded.register (h : Guarded s) (i : Nat) : Guarded (s.register i) := by
  unfold PreviewRequestsState.register
  cases hPhase : s.requests i with
  | checked call =>
      have hNot : ∀ other guard, s.requests i ≠ .running other guard := by simp [hPhase]
      have hRemoved : ∀ other operation,
          (s.previews.removeActive call.sessionId).registry.active other = some operation →
          s.previews.registry.active other = some operation :=
        fun other operation hActive => (active_removeActive.1 hActive).2
      rcases beginPreviewLocked_cases s.previews call.sessionId call.cancellation with
        ⟨-, failure, hBegin⟩ | ⟨-, ⟨-, failure, hBegin⟩ | hBegin⟩
      · simp only [hBegin]
        exact h.mono (fun _ _ hActive => hActive) (running_setRequest hNot)
      · simp only [hBegin]
        exact h.mono hRemoved (running_setRequest hNot)
      · simp only [hBegin]
        intro other operation hActive
        by_cases hOther : other = call.sessionId
        · have hIs : operation = ⟨s.previews.registry.nextGeneration + 1, call.cancellation⟩ := by
            subst hOther
            simpa [PreviewRequestsState.setPreviews, PreviewRequestsState.setRequest] using
              hActive.symm
          refine ⟨i, call, ?_, hOther.symm⟩
          rw [hIs, hOther]
          exact Function.update_self ..
        · have hBefore : (s.previews.removeActive call.sessionId).registry.active other =
              some operation := by
            simpa [PreviewRequestsState.setPreviews, PreviewRequestsState.setRequest, hOther]
              using hActive
          obtain ⟨j, found, hRunning, hSession⟩ := h other operation (hRemoved _ _ hBefore)
          exact ⟨j, found, running_setRequest hNot j found _ hRunning, hSession⟩
  | _ => exact h

/-- A request that returns takes its own registration with it. -/
theorem Guarded.finish (h : Guarded s) (i : Nat) : Guarded (s.finish i) := by
  unfold PreviewRequestsState.finish
  cases hPhase : s.requests i with
  | running call guard =>
      intro other operation hActive
      obtain ⟨hBefore, hNotMine⟩ := active_dropPreview.1 hActive
      obtain ⟨j, found, hRunning, hSession⟩ := h other operation hBefore
      have hj : j ≠ i := by
        rintro rfl
        rw [hPhase] at hRunning
        injection hRunning with hCall hGuard
        rw [hGuard] at hNotMine
        exact hNotMine ⟨rfl, rfl⟩
      exact ⟨j, found, (Function.update_of_ne hj _ _).trans hRunning, hSession⟩
  | _ => exact h.mono (fun _ _ hActive => hActive) (running_setRequest (by simp [hPhase]))

theorem Guarded.apply (h : Guarded s) (event : PreviewEvent) : Guarded (applyEvent s event) := by
  have hSame : ∀ {t : PreviewRequestsState} {sessionId : Int},
      CancelsOnly s.previews t.previews sessionId → t.requests = s.requests → Guarded t := by
    intro t sessionId hOnly hRequests
    apply h.mono hOnly.active
    rw [hRequests]
    exact fun _ _ _ hRunning => hRunning
  cases event with
  | openSession => exact h
  | resolve i sessionId frameId cacheRoot =>
      show Guarded (s.resolve i sessionId frameId cacheRoot)
      unfold PreviewRequestsState.resolve
      cases hPhase : s.requests i with
      | idle =>
          by_cases hIs : s.openSessions sessionId = true
          · simp only [hIs, if_true]
            exact h.mono (fun _ _ hActive => hActive) (running_setRequest (by simp [hPhase]))
          · simp only [hIs]
            exact h.mono (fun _ _ hActive => hActive) (running_setRequest (by simp [hPhase]))
      | _ => exact h
  | attach i sourceCache =>
      show Guarded (s.attach i sourceCache)
      unfold PreviewRequestsState.attach
      cases hPhase : s.requests i with
      | resolved sessionId frameId cacheRoot =>
          rcases hCall : s.scrub.sessionState s.previewBudget sessionId cacheRoot sourceCache with
            ⟨failure | state, scrub⟩
          all_goals
            simp only [hCall]
            exact h.mono (fun _ _ hActive => hActive)
              (running_setRequest (s := { s with scrub := scrub }) (by simp [hPhase]))
      | _ => exact h
  | take i =>
      show Guarded (s.take i)
      unfold PreviewRequestsState.take
      cases hPhase : s.requests i with
      | attached sessionId frameId state =>
          rcases hTaken : cancellationForScrubTarget s.previews.tokens (s.scrub.states state)
            frameId with ⟨cancellation, tokens, taken⟩
          simp only [hTaken]
          refine h.mono (fun _ _ hActive => hActive) ?_
          intro j call guard hRunning
          have hj : j ≠ i := by
            rintro rfl
            rw [hPhase] at hRunning
            cases hRunning
          exact (Function.update_of_ne hj _ _).trans hRunning
      | _ => exact h
  | check i =>
      show Guarded (s.check i)
      unfold PreviewRequestsState.check
      cases hPhase : s.requests i with
      | holding call =>
          by_cases hCancelled : s.previews.tokens.isCancelled call.cancellation = true
          · simp only [hCancelled, if_true]
            exact h.mono (fun _ _ hActive => hActive) (running_setRequest (by simp [hPhase]))
          · simp only [hCancelled]
            exact h.mono (fun _ _ hActive => hActive) (running_setRequest (by simp [hPhase]))
      | _ => exact h
  | register i => exact h.register i
  | decode i outcome =>
      show Guarded (s.decode i outcome)
      unfold PreviewRequestsState.decode
      cases s.requests i with
      | running call guard => exact h
      | _ => exact h
  | finish i => exact h.finish i
  | beginExact sessionId => exact hSame beginExactNavigation_only rfl
  | dropExact i =>
      show Guarded (s.dropExact i)
      unfold PreviewRequestsState.dropExact
      cases s.exactGuards[i]? with
      | none => exact h
      | some guard =>
          have hOnly : CancelsOnly s.previews (s.previews.dropExact guard) guard.sessionId :=
            dropExact_only
          exact hSame hOnly rfl
  | cancelPreview sessionId => exact hSame cancelSessionPreview_only rfl
  | forget sessionId => exact h
  | beginClose c sessionId =>
      show Guarded (s.beginClose c sessionId)
      unfold PreviewRequestsState.beginClose
      cases s.closes c with
      | idle => exact hSame beginExactNavigation_only rfl
      | _ => exact h
  | close c =>
      show Guarded (s.close c)
      unfold PreviewRequestsState.close
      cases s.closes c with
      | barred sessionId =>
          by_cases hIs : s.openSessions sessionId = true
          · simp only [hIs, if_true]
            exact h
          · simp only [hIs]
            exact h
      | unlinked sessionId => exact hSame cancelSessionPreview_only rfl
      | previewCancelled sessionId => exact h
      | forgotten sessionId => exact hSame forgetRegistrations_only rfl
      | leaving sessionId =>
          have hOnly : CancelsOnly s.previews
              (s.previews.dropExact ⟨sessionId, decide (0 < sessionId)⟩) sessionId := dropExact_only
          exact hSame hOnly rfl
      | _ => exact h

end Guarded

/-! ## Exact-navigation counts -/

/-- The guards of a session that count. -/
def guardsOf (guards : List ExactNavigationGuard) (sessionId : Int) : Nat :=
  guards.countP fun guard => guard.registered && decide (guard.sessionId = sessionId)

/-- A count is positive and at most the number of guards; a close that forgot
the session may have made it smaller. -/
def Counted (s : PreviewRequestsState) : Prop :=
  ∀ sessionId count, s.previews.registry.exactInFlight sessionId = some count →
    0 < count ∧ count ≤ guardsOf s.exactGuards sessionId

section Counted

variable {s t : PreviewRequestsState} {sessionId : Int}

theorem Counted.congr (h : Counted s)
    (hCounts : t.previews.registry.exactInFlight = s.previews.registry.exactInFlight)
    (hGuards : t.exactGuards = s.exactGuards) : Counted t := by
  intro sessionId count hCount
  rw [hCounts] at hCount
  rw [hGuards]
  exact h sessionId count hCount

theorem exactInFlight_removeActive {p : PreviewCancellations} :
    (p.removeActive sessionId).registry.exactInFlight = p.registry.exactInFlight := by
  show (p.cancelActive sessionId).registry.exactInFlight = _
  rw [registry_cancelActive]

theorem exactInFlight_cancelSessionPreview {p : PreviewCancellations} :
    (p.cancelSessionPreview sessionId).2.registry.exactInFlight = p.registry.exactInFlight := by
  unfold PreviewCancellations.cancelSessionPreview
  by_cases hId : sessionId ≤ 0
  · rw [if_pos hId]
  · rw [if_neg hId]
    show (p.cancelActive sessionId).registry.exactInFlight = _
    rw [registry_cancelActive]

theorem Counted.beginExact (h : Counted s) (sessionId : Int) : Counted (s.beginExact sessionId) := by
  unfold PreviewRequestsState.beginExact PreviewCancellations.beginExactNavigation
  have hMore : ∀ (guard : ExactNavigationGuard) other,
      guardsOf s.exactGuards other ≤ guardsOf (s.exactGuards ++ [guard]) other := by
    intro guard other
    unfold guardsOf
    rw [List.countP_append]
    exact Nat.le_add_right _ _
  by_cases hId : sessionId ≤ 0
  · simp only [hId, if_true]
    intro other count hCount
    exact ⟨(h other count hCount).1, (h other count hCount).2.trans (hMore _ other)⟩
  · simp only [hId, if_false]
    intro other count hCount
    show 0 < count ∧ count ≤ guardsOf (s.exactGuards ++ [⟨sessionId, true⟩]) other
    have hAt : (s.previews.setExactInFlight sessionId (some (saturatingAddU32
        ((s.previews.registry.exactInFlight sessionId).getD 0) 1))).registry.exactInFlight other =
        some count := by
      rw [← hCount]
      exact (congrFun (congrArg _ registry_cancelActive) other).symm
    by_cases hOther : other = sessionId
    · have hIs : saturatingAddU32 ((s.previews.registry.exactInFlight sessionId).getD 0) 1 =
          count := by
        rw [hOther] at hAt
        simpa [PreviewCancellations.setExactInFlight] using hAt
      have hOld : (s.previews.registry.exactInFlight sessionId).getD 0 ≤
          guardsOf s.exactGuards sessionId := by
        cases hBefore : s.previews.registry.exactInFlight sessionId with
        | none => exact Nat.zero_le _
        | some old => exact (h sessionId old hBefore).2
      have hGuards : guardsOf (s.exactGuards ++ [⟨sessionId, true⟩]) sessionId =
          guardsOf s.exactGuards sessionId + 1 := by
        simp [guardsOf]
      rw [hOther, hGuards, ← hIs]
      unfold saturatingAddU32
      omega
    · have hBefore : s.previews.registry.exactInFlight other = some count := by
        simpa [PreviewCancellations.setExactInFlight, hOther] using hAt
      exact ⟨(h other count hBefore).1, (h other count hBefore).2.trans (hMore _ other)⟩

/-- A guard that goes takes one off its count. -/
theorem Counted.drop (h : Counted s) (guard : ExactNavigationGuard)
    (guards : List ExactNavigationGuard)
    (hGuards : ∀ other, guardsOf s.exactGuards other ≤ guardsOf guards other +
      if guard.registered = true ∧ guard.sessionId = other then 1 else 0) :
    Counted { s with previews := s.previews.dropExact guard, exactGuards := guards } := by
  intro other count hCount
  show 0 < count ∧ count ≤ guardsOf guards other
  have hMore := hGuards other
  unfold PreviewCancellations.dropExact at hCount
  cases hRegistered : guard.registered with
  | false =>
      simp only [hRegistered, Bool.not_false, if_true] at hCount
      simp only [hRegistered, Bool.false_eq_true, false_and, if_false] at hMore
      have hOld := h other count hCount
      omega
  | true =>
      simp only [hRegistered, Bool.not_true, Bool.false_eq_true, if_false] at hCount
      simp only [hRegistered, true_and] at hMore
      cases hBefore : s.previews.registry.exactInFlight guard.sessionId with
      | none =>
          simp only [hBefore] at hCount
          have hOther : guard.sessionId ≠ other := by
            rintro rfl
            rw [hBefore] at hCount
            cases hCount
          rw [if_neg hOther] at hMore
          have hOld := h other count hCount
          omega
      | some before =>
          simp only [hBefore] at hCount
          by_cases hOther : guard.sessionId = other
          · rw [if_pos hOther] at hMore
            have hOld := h guard.sessionId before hBefore
            rw [hOther] at hOld
            by_cases hLast : before ≤ 1
            · simp [hLast, PreviewCancellations.setExactInFlight, hOther] at hCount
            · simp only [hLast, if_false, PreviewCancellations.setExactInFlight, hOther,
                Function.update_self, Option.some.injEq] at hCount
              omega
          · rw [if_neg hOther] at hMore
            have hSame : s.previews.registry.exactInFlight other = some count := by
              by_cases hLast : before ≤ 1
              · simpa [hLast, PreviewCancellations.setExactInFlight, Ne.symm hOther] using hCount
              · simpa [hLast, PreviewCancellations.setExactInFlight, Ne.symm hOther] using hCount
            have hOld := h other count hSame
            omega

theorem guardsOf_eraseIdx {guards : List ExactNavigationGuard} {i : Nat}
    {guard : ExactNavigationGuard} (h : guards[i]? = some guard) (other : Int) :
    guardsOf guards other ≤ guardsOf (guards.eraseIdx i) other +
      if guard.registered = true ∧ guard.sessionId = other then 1 else 0 := by
  obtain ⟨before, after, hAll, hErased, -⟩ := eraseIdx_split h
  rw [hErased, hAll]
  unfold guardsOf
  rw [List.countP_append, List.countP_append, List.countP_cons]
  simp only [Bool.and_eq_true, decide_eq_true_eq]
  omega

theorem guardsOf_erase (guards : List ExactNavigationGuard) (guard : ExactNavigationGuard)
    (other : Int) :
    guardsOf guards other ≤ guardsOf (guards.erase guard) other +
      if guard.registered = true ∧ guard.sessionId = other then 1 else 0 := by
  by_cases hMem : guard ∈ guards
  · unfold guardsOf
    rw [(List.perm_cons_erase hMem).countP_eq, List.countP_cons]
    simp only [Bool.and_eq_true, decide_eq_true_eq]
    exact le_rfl
  · rw [List.erase_of_not_mem hMem]
    exact Nat.le_add_right _ _

theorem exactInFlight_beginPreviewLocked (p : PreviewCancellations) (sessionId : Int)
    (cancellation : Nat) :
    (p.beginPreviewLocked sessionId cancellation).2.registry.exactInFlight =
      p.registry.exactInFlight := by
  rcases beginPreviewLocked_cases p sessionId cancellation with
    ⟨-, failure, hBegin⟩ | ⟨-, ⟨-, failure, hBegin⟩ | hBegin⟩
  · rw [hBegin]
  · rw [hBegin]
    exact exactInFlight_removeActive
  · rw [hBegin]
    exact exactInFlight_removeActive

theorem Counted.close (h : Counted s) (c : Nat) : Counted (s.close c) := by
  unfold PreviewRequestsState.close
  cases s.closes c with
  | barred sessionId =>
      by_cases hOpen : s.openSessions sessionId = true
      · simp only [hOpen, if_true]
        exact h
      · simp only [hOpen]
        exact h
  | unlinked sessionId => exact h.congr exactInFlight_cancelSessionPreview rfl
  | previewCancelled sessionId => exact h
  | forgotten sessionId =>
      intro other count hCount
      have hAt : Function.update (s.previews.removeActive sessionId).registry.exactInFlight
          sessionId none other = some count := hCount
      by_cases hOther : other = sessionId
      · rw [hOther, Function.update_self] at hAt
        cases hAt
      · rw [Function.update_of_ne hOther, exactInFlight_removeActive] at hAt
        exact h other count hAt
  | leaving sessionId => exact h.drop _ _ (guardsOf_erase s.exactGuards _)
  | _ => exact h

theorem Counted.apply (h : Counted s) (event : PreviewEvent) : Counted (applyEvent s event) := by
  cases event with
  | openSession => exact h
  | resolve i sessionId frameId cacheRoot =>
      show Counted (s.resolve i sessionId frameId cacheRoot)
      unfold PreviewRequestsState.resolve
      cases s.requests i with
      | idle =>
          by_cases hIs : s.openSessions sessionId = true
          · simp only [hIs, if_true]
            exact h
          · simp only [hIs]
            exact h
      | _ => exact h
  | attach i sourceCache =>
      show Counted (s.attach i sourceCache)
      unfold PreviewRequestsState.attach
      cases s.requests i with
      | resolved sessionId frameId cacheRoot =>
          rcases hCall : s.scrub.sessionState s.previewBudget sessionId cacheRoot sourceCache with
            ⟨failure | state, scrub⟩
          all_goals
            simp only [hCall]
            exact h
      | _ => exact h
  | take i =>
      show Counted (s.take i)
      unfold PreviewRequestsState.take
      cases s.requests i with
      | attached sessionId frameId state => exact h
      | _ => exact h
  | check i =>
      show Counted (s.check i)
      unfold PreviewRequestsState.check
      cases s.requests i with
      | holding call =>
          by_cases hCancelled : s.previews.tokens.isCancelled call.cancellation = true
          · simp only [hCancelled, if_true]
            exact h
          · simp only [hCancelled]
            exact h
      | _ => exact h
  | register i =>
      show Counted (s.register i)
      unfold PreviewRequestsState.register
      cases s.requests i with
      | checked call =>
          have hSame := exactInFlight_beginPreviewLocked s.previews call.sessionId call.cancellation
          rcases hBegin : s.previews.beginPreviewLocked call.sessionId call.cancellation with
            ⟨failure | guard, previews⟩
          all_goals
            rw [hBegin] at hSame
            simp only [hBegin]
            exact h.congr hSame rfl
      | _ => exact h
  | decode i outcome =>
      show Counted (s.decode i outcome)
      unfold PreviewRequestsState.decode
      cases s.requests i with
      | running call guard => exact h
      | _ => exact h
  | finish i =>
      show Counted (s.finish i)
      unfold PreviewRequestsState.finish
      cases s.requests i with
      | running call guard => exact h.congr exactInFlight_dropPreview rfl
      | _ => exact h
  | beginExact sessionId => exact h.beginExact sessionId
  | dropExact i =>
      show Counted (s.dropExact i)
      unfold PreviewRequestsState.dropExact
      cases hGuard : s.exactGuards[i]? with
      | none => exact h
      | some guard => exact h.drop guard _ (guardsOf_eraseIdx hGuard)
  | cancelPreview sessionId => exact h.congr exactInFlight_cancelSessionPreview rfl
  | forget sessionId => exact h
  | beginClose c sessionId =>
      show Counted (s.beginClose c sessionId)
      unfold PreviewRequestsState.beginClose
      cases s.closes c with
      | idle => exact h.beginExact sessionId
      | _ => exact h
  | close c => exact h.close c

end Counted

/-! ## Every run -/

section Runs

variable {s : PreviewRequestsState} {sessionId : Int}

theorem EntriesOpen.handle?_eq_none (h : EntriesOpen s) (hQuiet : ClosedAndQuiet s sessionId) :
    s.scrub.handle? sessionId = none := by
  rw [handle?_eq_none_iff]
  rintro entry hEntry rfl
  rcases h.entry entry hEntry with hOpen | ⟨c, hUnlinked | hCancelled⟩
  · rw [hQuiet.closed] at hOpen
    cases hOpen
  · exact hQuiet.closes c (by rw [hUnlinked]; rfl)
  · exact hQuiet.closes c (by rw [hCancelled]; rfl)

theorem leavesNothing (hEntries : EntriesOpen s) (hGuarded : Guarded s) (hCounted : Counted s) :
    LeavesNothing s where
  entry := fun sessionId hQuiet => hEntries.handle?_eq_none hQuiet
  registration := by
    intro sessionId hQuiet
    constructor
    · cases hActive : s.previews.registry.active sessionId with
      | none => rfl
      | some operation =>
          obtain ⟨i, call, hRunning, hSession⟩ := hGuarded sessionId operation hActive
          refine absurd ?_ (hQuiet.requests i)
          rw [hRunning, ← hSession]
          rfl
    · cases hCount : s.previews.registry.exactInFlight sessionId with
      | none => rfl
      | some count =>
          obtain ⟨hPos, hLe⟩ := hCounted sessionId count hCount
          have hNone : guardsOf s.exactGuards sessionId = 0 := by
            unfold guardsOf
            rw [List.countP_eq_zero]
            intro guard hGuard
            simp [hQuiet.exact guard hGuard]
          omega
  share := by
    intro state hShare
    have hEntry : ∃ entry ∈ s.scrub.registry.sessions, entry.2.state = state := by
      by_contra hNone
      push Not at hNone
      have hZero := hEntries.retained.trimmed state hNone
      omega
    obtain ⟨entry, hMem, hState⟩ := hEntry
    have hHandle : s.scrub.handle? entry.1 = some entry.2 :=
      (handle?_eq_some_iff hEntries.retained.ids).2 hMem
    refine ⟨entry.1, entry.2, hHandle, hState, fun hQuiet => ?_⟩
    rw [hEntries.handle?_eq_none hQuiet] at hHandle
    cases hHandle
  divided := hEntries.balanced

end Runs

/-- A run in which every request gets its scrub state before the close of its
session removes it. -/
theorem closed_sessions_leave_nothing (previewBudget : UInt64) (events : List PreviewEvent)
    (h : Meets applyEvent BeforeForget (.initial previewBudget) events) :
    LeavesNothing (events.foldl applyEvent (.initial previewBudget)) := by
  have hEntries := run_invariant (fun _ event hInv hOpen => hInv.apply event hOpen)
    (entriesOpen_initial previewBudget) h
  have hGuarded : Guarded (events.foldl applyEvent (.initial previewBudget)) :=
    run_invariant_of_step (fun _ event hInv => hInv.apply event) (fun _ _ h => by cases h) events
  have hCounted : Counted (events.foldl applyEvent (.initial previewBudget)) :=
    run_invariant_of_step (fun _ event hInv => hInv.apply event) (fun _ _ h => by cases h) events
  exact leavesNothing hEntries hGuarded hCounted

/-- A preview gets its scrub state while the session is being closed, and is
refused by the barrier. -/
def previewDuringClose : List PreviewEvent :=
  [.openSession, .resolve 0 1 10 "cache", .beginClose 0 1, .close 0, .attach 0 0, .take 0,
    .check 0, .register 0, .close 0, .close 0, .close 0, .close 0]

theorem closed_sessions_leave_nothing_during :
    LeavesNothing (previewDuringClose.foldl applyEvent (.initial 8388608)) := by
  apply closed_sessions_leave_nothing
  refine ⟨trivial, trivial, trivial, trivial, ?_, trivial, trivial, trivial, trivial, trivial,
    trivial, trivial, trivial⟩
  intro sessionId frameId cacheRoot hResolved
  have hIs : ((previewDuringClose.take 4).foldl applyEvent (.initial 8388608)).requests 0 =
      .resolved 1 10 "cache" := by
    decide
  have hClosing : ((previewDuringClose.take 4).foldl applyEvent (.initial 8388608)).closes 0 =
      .unlinked 1 := by
    decide
  right
  refine ⟨0, .inl ?_⟩
  injection hResolved.symm.trans hIs with hSession
  rw [hSession]
  exact hClosing

/-! ## A scrub state made after the close -/

/-- The target is resolved, the session is closed, and then the request asks for
a scrub state. -/
def attachedAfterClose : List PreviewEvent :=
  [.openSession, .resolve 0 1 10 "cache", .beginClose 0 1, .close 0, .close 0, .close 0, .close 0,
    .close 0, .attach 0 0, .take 0, .check 0, .register 0, .finish 0]

/-- The closed session keeps an entry with the whole budget. -/
theorem attachedAfterClose_retained :
    ¬ LeavesNothing (attachedAfterClose.foldl applyEvent (.initial 8388608)) := by
  intro h
  have hQuiet : ClosedAndQuiet (attachedAfterClose.foldl applyEvent (.initial 8388608)) 1 := by
    constructor
    · decide
    · intro i
      cases i with
      | zero => decide
      | succ i =>
          have hIdle : (attachedAfterClose.foldl applyEvent (.initial 8388608)).requests (i + 1) =
              .idle := rfl
          rw [hIdle]
          decide
    · intro c
      cases c with
      | zero => decide
      | succ c =>
          have hIdle : (attachedAfterClose.foldl applyEvent (.initial 8388608)).closes (c + 1) =
              .idle := rfl
          rw [hIdle]
          decide
    · decide
  have hHandle : (attachedAfterClose.foldl applyEvent (.initial 8388608)).scrub.handle? 1 =
      some ⟨0, 1⟩ := by
    decide
  cases hHandle.symm.trans (h.entry 1 hQuiet)

end FrameScope.Ports.ClosedPreviewsLaw
