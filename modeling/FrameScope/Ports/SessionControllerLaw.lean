import FrameScope.Ports.SessionController

/-!
# What a step of the controller can do

`Move` lists the steps by what they change beside the call that takes them, so
that an invariant is checked once for each kind of change.  The revisions that
requests hold and the native sessions that someone has yet to close are what
later modules keep through every move.
-/

namespace FrameScope.Ports.SessionControllerLaw

open FrameScope.Verified.Runs
open FrameScope.Ports.SessionController

/-- The native session that the call has opened or detached and that is neither
shown nor closed yet. -/
@[simp] def owed : CallPhase → Option Int
  | .opened _ (.success session _) => some session.sessionId
  | .discarding sessionId _ => some sessionId
  | .closingNative sessionId => some sessionId
  | _ => none

/-- The call is between the two sections of the gate. -/
@[simp] def inTransition : CallPhase → Bool
  | .opening => true
  | .openIssued _ => true
  | .opened _ _ => true
  | .discarding _ _ => true
  | .closing => true
  | .invalidated => true
  | .closingIf _ => true
  | .closingNative _ => true
  | .leaving _ => true
  | .ending _ _ _ => true
  | .refused transition _ => transition
  | _ => false

/-- The call has not cleared the snapshot and may still do so as `closeCurrent`. -/
@[simp] def beforeDetach : CallPhase → Bool
  | .idle => true
  | .closing => true
  | .invalidated => true
  | _ => false

/-- The frame that is copied, with the ids it was prepared for. -/
@[simp] def copied : CallPhase → Option (Int × Int × PreparedMicroscopeFrame)
  | .copying sessionId frameId _ frame => some (sessionId, frameId, frame)
  | .copied sessionId frameId _ frame _ => some (sessionId, frameId, frame)
  | _ => none

/-- The result that a session transition returns when it has ended. -/
@[simp] def carried : CallPhase → Option CallResult
  | .leaving result => some result
  | .ending _ _ result => some result
  | _ => none

/-- A step that only takes the call from `p` to `p'`. -/
structure Passes (s : ControllerState) (p p' : CallPhase) : Prop where
  owes : owed p' = owed p
  holds : ∀ revision, p'.heldRevision = some revision → p.heldRevision = some revision
  transition : inTransition p' = inTransition p
  detached : beforeDetach p' = false
  clears : p ≠ .invalidated
  revision : p'.beforeRevision = true → p = .idle
  reads : ∀ hasActiveSession changes result, p' = .ending hasActiveSession changes result →
    hasActiveSession = s.snapshot.isSome ∧ changes = s.changes
  copies : ∀ sessionId frameId frame, copied p' = some (sessionId, frameId, frame) →
    copied p = some (sessionId, frameId, frame) ∨
      frame.sessionId = sessionId ∧ frame.frameId = frameId
  carries : ∀ copy, carried p' = some (.frameCopy copy) → carried p = some (.frameCopy copy)
  loads : ∀ frame rgba, p' = .returned (.frameCopy (.success frame rgba)) →
    ∃ sessionId frameId, copied p = some (sessionId, frameId, frame) ∧
      s.shownSession = some sessionId ∧ s.snapshot.bind (·.currentFrame) = some frameId

/-- The steps of call `k`. -/
inductive Move (s : ControllerState) (k : Nat) : ControllerState → Prop
  | passes (p' : CallPhase) (h : Passes s (s.calls k) p') : Move s k (s.setCall k p')
  | begins (p' : CallPhase) (gate : MicroscopeStorageGate) (hIdle : s.calls k = .idle)
      (hGate : s.gate.beginSessionTransition = some gate)
      (hPhase : p' = .opening ∨ p' = .closing ∨ ∃ sessionId, p' = .closingIf sessionId) :
      Move s k ({ s with gate := gate }.setCall k p')
  | takesRevision (next : Int) (p' : CallPhase) (hNext : nextRevision s.revision = some next)
      (hPhase : s.calls k = .opening ∧ p' = .openIssued next ∨
        ∃ sessionId, s.calls k = .targeted sessionId ∧ p' = .navigating sessionId next) :
      Move s k ({ s with revision := next }.setCall k p')
  | invalidates (hClosing : s.calls k = .closing) : Move s k (s.invalidate k)
  | opensNative (revision : Int) (currentFrame : Option Int) (engine : String)
      (hIssued : s.calls k = .openIssued revision) :
      Move s k ({ s with native := s.native.openSession currentFrame }.setCall k
        (.opened revision (.success ⟨s.native.nextSessionId, currentFrame⟩ engine)))
  | movesNative (revision : Int) (session : MicroscopeSessionSnapshot) (engine : String)
      (hNavigating : s.calls k = .navigating session.sessionId revision)
      (hOpen : (s.native.current session.sessionId).isSome) :
      Move s k ({ s with native := s.native.move session.sessionId session.currentFrame }.setCall k
        (.navigated session.sessionId revision (.success session engine)))
  | showsOpened (session : MicroscopeSessionSnapshot) (engine : String)
      (hOpened : s.calls k = .opened s.revision (.success session engine)) :
      Move s k ((s.publish k session engine).setCall k
        (ControllerState.afterCommit s.shownSession session (.success session engine)))
  | showsNavigated (session : MicroscopeSessionSnapshot) (engine : String)
      (hNavigated : s.calls k = .navigated session.sessionId s.revision (.success session engine))
      (hShown : s.shownSession = some session.sessionId) :
      Move s k ((s.publish k session engine).setCall k
        (.returned (.microscope (.success session engine))))
  | detaches (sessionId : Int)
      (hPhase : s.calls k = .invalidated ∨ ∃ asked, s.calls k = .closingIf asked)
      (hShown : s.shownSession = some sessionId) :
      Move s k (s.detach.setCall k (.closingNative sessionId))
  | detachesNothing (hPhase : s.calls k = .invalidated) (hShown : s.shownSession = none) :
      Move s k (s.detach.setCall k (.leaving (.closed true)))
  | closesNative (sessionId : Int) (result : CallResult)
      (hPhase : s.calls k = .closingNative sessionId ∨
        ∃ result, s.calls k = .discarding sessionId result)
      (hResult : ∀ copy, result ≠ .frameCopy copy) :
      Move s k ({ s with native := s.native.close sessionId }.setCall k (.leaving result))
  | ends (hasActiveSession : Bool) (changes : Nat) (result : CallResult)
      (hEnding : s.calls k = .ending hasActiveSession changes result) :
      Move s k (s.endTransition k hasActiveSession result)

section Moves

variable {s : ControllerState} {k : Nat}

theorem takeRevision_move {transition : Bool} {issued : Int → CallPhase}
    (hNone : Passes s (s.calls k) (.refused transition .revisionExhausted))
    (hSome : ∀ next, s.calls k = .opening ∧ issued next = .openIssued next ∨
      ∃ sessionId, s.calls k = .targeted sessionId ∧ issued next = .navigating sessionId next) :
    Move s k (s.takeRevision k transition issued) := by
  unfold ControllerState.takeRevision
  cases hNext : nextRevision s.revision with
  | none => exact .passes _ hNone
  | some next => exact .takesRevision next _ hNext (hSome next)

theorem startNavigate_move (hIdle : s.calls k = .idle) : Move s k (s.startNavigate k) := by
  unfold ControllerState.startNavigate
  cases s.snapshot with
  | none =>
      apply Move.passes
      constructor <;> simp [hIdle]
  | some target =>
      apply Move.passes
      constructor <;> simp [hIdle]

theorem startLoad_move (hIdle : s.calls k = .idle) : Move s k (s.startLoad k) := by
  unfold ControllerState.startLoad
  cases s.snapshot with
  | none =>
      apply Move.passes
      constructor <;> simp [hIdle, noSessionFrameFailure]
  | some target =>
      apply Move.passes
      constructor <;> simp [hIdle]

theorem beginTransition_move {p' : CallPhase} (hIdle : s.calls k = .idle)
    (hPhase : p' = .opening ∨ p' = .closing ∨ ∃ sessionId, p' = .closingIf sessionId) :
    s.beginTransition k p' = s ∨ Move s k (s.beginTransition k p') := by
  unfold ControllerState.beginTransition
  cases hGate : s.gate.beginSessionTransition with
  | none => exact .inl rfl
  | some gate => exact .inr (.begins p' gate hIdle hGate hPhase)

theorem start_move (call : Call) : s.start k call = s ∨ Move s k (s.start k call) := by
  unfold ControllerState.start
  cases hIdle : s.calls k with
  | idle =>
      cases call with
      | openSession => exact beginTransition_move hIdle (.inl rfl)
      | closeCurrent => exact beginTransition_move hIdle (.inr (.inl rfl))
      | closeIfCurrent sessionId => exact beginTransition_move hIdle (.inr (.inr ⟨_, rfl⟩))
      | navigate => exact .inr (startNavigate_move hIdle)
      | loadCurrentFrame => exact .inr (startLoad_move hIdle)
  | _ => exact .inl rfl

theorem openReturns_move {revision : Int} (hIssued : s.calls k = .openIssued revision)
    (answer : OpenAnswer) : Move s k (s.openReturns k revision answer) := by
  cases answer with
  | built currentFrame engine => exact .opensNative revision currentFrame engine hIssued
  | failed code message engine =>
      apply Move.passes
      constructor <;> simp [hIssued]

theorem concludeOpen_move {revision : Int} {result : NativeMicroscope}
    (hOpened : s.calls k = .opened revision result) :
    Move s k (s.concludeOpen k revision result) := by
  cases result with
  | failure code message engine =>
      apply Move.passes
      constructor <;> simp [hOpened]
  | success session engine =>
      show Move s k (if s.revision ≠ revision then _ else _)
      by_cases hNewest : s.revision = revision
      · rw [if_neg (not_not.2 hNewest)]
        rw [← hNewest] at hOpened
        exact .showsOpened session engine hOpened
      · rw [if_pos hNewest]
        apply Move.passes
        constructor <;> simp [hOpened]

theorem detachCurrent_move (hInvalidated : s.calls k = .invalidated) :
    Move s k (s.detachCurrent k) := by
  unfold ControllerState.detachCurrent
  cases hShown : s.shownSession with
  | none => exact .detachesNothing hInvalidated hShown
  | some sessionId => exact .detaches sessionId (.inl hInvalidated) hShown

theorem detachIfCurrent_move {sessionId : Int} (hClosing : s.calls k = .closingIf sessionId) :
    Move s k (s.detachIfCurrent k sessionId) := by
  unfold ControllerState.detachIfCurrent
  by_cases hPos : sessionId ≤ 0
  · rw [if_pos hPos]
    apply Move.passes
    constructor <;> simp [hClosing]
  · rw [if_neg hPos]
    by_cases hShown : s.shownSession = some sessionId
    · rw [if_pos hShown]
      exact .detaches sessionId (.inr ⟨_, hClosing⟩) hShown
    · rw [if_neg hShown]
      apply Move.passes
      constructor <;> simp [hClosing]

theorem refuse_move {transition : Bool} {refusal : Refusal}
    (hRefused : s.calls k = .refused transition refusal) :
    Move s k (s.refuse k transition refusal) := by
  apply Move.passes
  cases transition <;> constructor <;> simp [hRefused]

theorem navigationReturns_move {sessionId revision : Int}
    (hNavigating : s.calls k = .navigating sessionId revision) (answer : NativeMicroscope) :
    s.navigationReturns k sessionId revision answer = s ∨
      Move s k (s.navigationReturns k sessionId revision answer) := by
  cases answer with
  | failure code message engine =>
      right
      apply Move.passes
      constructor <;> simp [hNavigating]
  | success session engine =>
      show (if session.sessionId ≠ sessionId then _ else if _ then _ else _) = s ∨
        Move s k (if session.sessionId ≠ sessionId then _ else if _ then _ else _)
      by_cases hSame : session.sessionId = sessionId
      · rw [if_neg (not_not.2 hSame)]
        subst hSame
        by_cases hOpen : (s.native.current session.sessionId).isSome = true
        · rw [if_pos hOpen]
          exact .inr (.movesNative revision session engine hNavigating hOpen)
        · rw [if_neg hOpen]
          exact .inl rfl
      · rw [if_pos hSame]
        right
        apply Move.passes
        constructor <;> simp [hNavigating]

theorem concludeNavigation_move {sessionId revision : Int} {result : NativeMicroscope}
    (hNavigated : s.calls k = .navigated sessionId revision result) :
    Move s k (s.concludeNavigation k sessionId revision result) := by
  cases result with
  | failure code message engine =>
      apply Move.passes
      constructor <;> simp [hNavigated]
  | success session engine =>
      show Move s k (if session.sessionId ≠ sessionId then _ else if _ then _ else _)
      by_cases hSame : session.sessionId = sessionId
      · rw [if_neg (not_not.2 hSame)]
        subst hSame
        by_cases hStale : s.revision ≠ revision ∨ s.shownSession ≠ some session.sessionId
        · rw [if_pos hStale]
          apply Move.passes
          constructor <;> simp [hNavigated]
        · rw [if_neg hStale]
          obtain ⟨hNewest, hShown⟩ := not_or.1 hStale
          rw [← not_not.1 hNewest] at hNavigated
          exact .showsNavigated session engine hNavigated (not_not.1 hShown)
      · rw [if_pos hSame]
        apply Move.passes
        constructor <;> simp [hNavigated]

theorem readRevision_move {target : MicroscopeSessionSnapshot}
    (hLoading : s.calls k = .loading target) : Move s k (s.readRevision k target) := by
  unfold ControllerState.readRevision
  apply Move.passes
  cases target.currentFrame <;> constructor <;> simp [hLoading, noFramesFailure]

/-- A checked result is the one given only where the check holds. -/
theorem unlessStale_success {revision sessionId frameId : Int} {result : NativeFrameCopy}
    {frame : PreparedMicroscopeFrame} {rgba : List UInt8}
    (h : s.unlessStale revision sessionId frameId result =
      .returned (.frameCopy (.success frame rgba))) :
    s.isStillCurrent revision sessionId frameId = true ∧ result = .success frame rgba := by
  unfold ControllerState.unlessStale at h
  by_cases hStill : s.isStillCurrent revision sessionId frameId = true
  · rw [if_pos hStill] at h
    simp only [CallPhase.returned.injEq, CallResult.frameCopy.injEq] at h
    exact ⟨hStill, h⟩
  · rw [if_neg hStill] at h
    simp [staleFrameFailure] at h

theorem isStillCurrent_ids {revision sessionId frameId : Int}
    (h : s.isStillCurrent revision sessionId frameId = true) :
    s.shownSession = some sessionId ∧ s.snapshot.bind (·.currentFrame) = some frameId := by
  simp only [ControllerState.isStillCurrent, Bool.and_eq_true, decide_eq_true_eq] at h
  exact ⟨h.1.2, h.2⟩

/-- A checked result returns unless it is a success, which needs its own check. -/
theorem unlessStale_passes {revision sessionId frameId : Int} {result : NativeFrameCopy}
    (hPhase : owed (s.calls k) = none ∧ inTransition (s.calls k) = false)
    (hSuccess : ∀ frame rgba, result = .success frame rgba →
      ∃ sessionId' frameId', copied (s.calls k) = some (sessionId', frameId', frame) ∧
        sessionId' = sessionId ∧ frameId' = frameId) :
    Passes s (s.calls k) (s.unlessStale revision sessionId frameId result) where
  owes := hPhase.1.symm
  holds := fun _ h => by cases h
  transition := hPhase.2.symm
  detached := rfl
  clears := by
    intro h
    rw [h] at hPhase
    cases hPhase.2
  revision := fun h => by cases h
  reads := fun _ _ _ h => by cases h
  copies := fun _ _ _ h => by cases h
  carries := fun _ h => by cases h
  loads := by
    intro frame rgba hReturned
    obtain ⟨hStill, hIs⟩ := unlessStale_success hReturned
    obtain ⟨sessionId', frameId', hCopied, rfl, rfl⟩ := hSuccess frame rgba hIs
    exact ⟨_, _, hCopied, isStillCurrent_ids hStill⟩

theorem checkPrepared_move {sessionId frameId revision : Int} {result : NativeFramePreparation}
    (hPrepared : s.calls k = .prepared sessionId frameId revision result) :
    Move s k (s.checkPrepared k sessionId frameId revision result) := by
  have hPhase : owed (s.calls k) = none ∧ inTransition (s.calls k) = false := by simp [hPrepared]
  cases result with
  | failure code message engine =>
      exact .passes _ (unlessStale_passes hPhase (fun _ _ h => by cases h))
  | success frame engine =>
      show Move s k (if frame.sessionId ≠ sessionId ∨ frame.frameId ≠ frameId then _ else _)
      by_cases hOther : frame.sessionId ≠ sessionId ∨ frame.frameId ≠ frameId
      · rw [if_pos hOther]
        exact .passes _ (unlessStale_passes hPhase (fun _ _ h => by cases h))
      · rw [if_neg hOther]
        obtain ⟨hSession, hFrame⟩ := not_or.1 hOther
        by_cases hStill : s.isStillCurrent revision sessionId frameId = true
        · rw [if_pos hStill]
          apply Move.passes
          constructor <;> simp [hPrepared, not_not.1 hSession, not_not.1 hFrame]
        · rw [if_neg hStill]
          apply Move.passes
          constructor <;> simp [hPrepared, staleFrameFailure]

theorem checkCopied_move {sessionId frameId revision : Int} {frame : PreparedMicroscopeFrame}
    {result : NativeFrameCopy}
    (hCopied : s.calls k = .copied sessionId frameId revision frame result) :
    Move s k (s.checkCopied k sessionId frameId revision frame result) := by
  have hPhase : owed (s.calls k) = none ∧ inTransition (s.calls k) = false := by simp [hCopied]
  cases result with
  | failure code message =>
      exact .passes _ (unlessStale_passes hPhase (fun _ _ h => by cases h))
  | success got rgba =>
      apply Move.passes
      apply unlessStale_passes hPhase
      intro frame' rgba' hSuccess
      by_cases hOther : got ≠ frame
      · rw [if_pos hOther] at hSuccess
        cases hSuccess
      · rw [if_neg hOther] at hSuccess
        cases hSuccess
        rw [not_not.1 hOther]
        exact ⟨_, _, by rw [hCopied]; rfl, rfl, rfl⟩

/-- The next section of a call is a move, where there is one. -/
theorem advance_move : s.advance k = s ∨ Move s k (s.advance k) := by
  unfold ControllerState.advance
  cases hPhase : s.calls k with
  | opening =>
      right
      apply takeRevision_move
      · constructor <;> simp [hPhase]
      · exact fun next => .inl ⟨hPhase, rfl⟩
  | targeted sessionId =>
      right
      apply takeRevision_move
      · constructor <;> simp [hPhase]
      · exact fun next => .inr ⟨sessionId, hPhase, rfl⟩
  | opened revision result => exact .inr (concludeOpen_move hPhase)
  | discarding sessionId result =>
      exact .inr (.closesNative _ _ (.inr ⟨result, hPhase⟩) (fun _ h => by cases h))
  | closing => exact .inr (.invalidates hPhase)
  | invalidated => exact .inr (detachCurrent_move hPhase)
  | closingIf sessionId => exact .inr (detachIfCurrent_move hPhase)
  | closingNative sessionId =>
      exact .inr (.closesNative _ _ (.inl hPhase) (fun _ h => by cases h))
  | leaving result =>
      right
      apply Move.passes
      constructor <;> simp [hPhase]
  | ending hasActiveSession changes result => exact .inr (.ends _ _ _ hPhase)
  | refused transition refusal => exact .inr (refuse_move hPhase)
  | navigated sessionId revision result => exact .inr (concludeNavigation_move hPhase)
  | loading target => exact .inr (readRevision_move hPhase)
  | prepared sessionId frameId revision result => exact .inr (checkPrepared_move hPhase)
  | copied sessionId frameId revision frame result => exact .inr (checkCopied_move hPhase)
  | _ => exact .inl rfl

end Moves

/-- After its commit an open is done, or closes the other session it replaced. -/
theorem afterCommit_cases (previous : Option Int) (session : MicroscopeSessionSnapshot)
    (result : NativeMicroscope) :
    ControllerState.afterCommit previous session result = .leaving (.microscope result) ∨
    ∃ sessionId, previous = some sessionId ∧ sessionId ≠ session.sessionId ∧
      ControllerState.afterCommit previous session result = .discarding sessionId result := by
  unfold ControllerState.afterCommit
  cases previous with
  | none => exact .inl rfl
  | some sessionId =>
      by_cases hOther : sessionId ≠ session.sessionId
      · exact .inr ⟨sessionId, rfl, hOther, if_pos hOther⟩
      · exact .inl (if_neg hOther)

/-- The last section of a transition returns, with the gate ended or as it was. -/
theorem endTransition_cases (s : ControllerState) (k : Nat) (hasActiveSession : Bool)
    (result : CallResult) :
    (∃ gate, s.gate.endSessionTransition hasActiveSession = some gate ∧
      s.endTransition k hasActiveSession result =
        { s with gate := gate }.setCall k (.returned result)) ∨
    s.gate.endSessionTransition hasActiveSession = none ∧
      s.endTransition k hasActiveSession result = s.setCall k
        (.returned (.illegalState "unbalanced microscope storage transition")) := by
  unfold ControllerState.endTransition
  cases s.gate.endSessionTransition hasActiveSession with
  | none => exact .inr ⟨rfl, rfl⟩
  | some gate => exact .inl ⟨gate, rfl, rfl⟩

/-- The storage operations change the gate and nothing else of the controller. -/
inductive StorageMove (s : ControllerState) : ControllerState → Prop
  | refused (j : Nat) (hIdle : s.storage j = .idle) :
      StorageMove s { s with storage := Function.update s.storage j (.returned false) }
  | starts (j : Nat) (gate : MicroscopeStorageGate) (hGate : s.gate.beginStorage = some gate) :
      StorageMove s { s with gate := gate, storage := Function.update s.storage j .running }
  | finishes (j : Nat) (hRunning : s.storage j = .running) :
      StorageMove s { s with
        gate := s.gate.endStorage
        storage := Function.update s.storage j (.returned true) }

theorem StorageMove.frame {s t : ControllerState} (h : StorageMove s t) :
    t = { s with gate := t.gate, storage := t.storage } := by
  cases h <;> rfl

theorem startStorage_move (s : ControllerState) (j : Nat) :
    s.startStorage j = s ∨ StorageMove s (s.startStorage j) := by
  unfold ControllerState.startStorage
  cases hIdle : s.storage j with
  | idle =>
      cases hGate : s.gate.beginStorage with
      | none => exact .inr (.refused j hIdle)
      | some gate => exact .inr (.starts j gate hGate)
  | _ => exact .inl rfl

theorem finishStorage_move (s : ControllerState) (j : Nat) :
    s.finishStorage j = s ∨ StorageMove s (s.finishStorage j) := by
  unfold ControllerState.finishStorage
  cases hRunning : s.storage j with
  | running => exact .inr (.finishes j hRunning)
  | _ => exact .inl rfl

/-- Every step is a move, or leaves the state alone; a transition is ended by
its own call. -/
theorem applyEvent_move (s : ControllerState) (event : ControllerEvent) :
    applyEvent s event = s ∨
      (∃ k, Move s k (applyEvent s event) ∧ ∀ hasActiveSession seen result,
        s.calls k = .ending hasActiveSession seen result → event = .advance k) ∨
      StorageMove s (applyEvent s event) := by
  have hCall : ∀ {k s'}, s' = s ∨ Move s k s' →
      (∀ hasActiveSession seen result, s.calls k = .ending hasActiveSession seen result →
        event = .advance k) →
      s' = s ∨ (∃ k, Move s k s' ∧ ∀ hasActiveSession seen result,
        s.calls k = .ending hasActiveSession seen result → event = .advance k) ∨
        StorageMove s s' :=
    fun h hEnds => h.imp id fun hMove => .inl ⟨_, hMove, hEnds⟩
  cases event with
  | start k call =>
      by_cases hIdle : s.calls k = .idle
      · exact hCall (start_move call) (fun _ _ _ hIs => by rw [hIdle] at hIs; cases hIs)
      · left
        show s.start k call = s
        unfold ControllerState.start
        cases hPhase : s.calls k with
        | idle => exact absurd hPhase hIdle
        | _ => rfl
  | advance k => exact hCall advance_move (fun _ _ _ _ => rfl)
  | openReturns k answer =>
      simp only [applyEvent]
      cases hPhase : s.calls k with
      | openIssued revision => exact hCall (.inr (openReturns_move hPhase answer)) (by simp [hPhase])
      | _ => exact .inl rfl
  | navigationReturns k answer =>
      simp only [applyEvent]
      cases hPhase : s.calls k with
      | navigating sessionId revision =>
          exact hCall (navigationReturns_move hPhase answer) (by simp [hPhase])
      | _ => exact .inl rfl
  | prepareReturns k answer =>
      simp only [applyEvent]
      cases hPhase : s.calls k with
      | preparing sessionId frameId revision =>
          refine hCall (.inr (.passes _ ?_)) (by simp [hPhase])
          constructor <;> simp [hPhase]
      | _ => exact .inl rfl
  | copyReturns k answer =>
      simp only [applyEvent]
      cases hPhase : s.calls k with
      | copying sessionId frameId revision frame =>
          refine hCall (.inr (.passes _ ?_)) (by simp [hPhase])
          constructor <;> simp [hPhase]
      | _ => exact .inl rfl
  | startStorage j => exact (startStorage_move s j).imp id .inr
  | finishStorage j => exact (finishStorage_move s j).imp id .inr

end FrameScope.Ports.SessionControllerLaw
