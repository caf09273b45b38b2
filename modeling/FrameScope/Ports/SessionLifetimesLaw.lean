import FrameScope.Verified.Ownership
import FrameScope.Ports.SessionControllerLaw

/-!
# Sessions are neither resurrected nor leaked

Every open native session is the shown one or is owed by one call, which is
about to show it or to close it.  The revisions that requests hold are distinct
and never above the current one, so what a newer request or a `closeCurrent`
has overtaken can never again be the newest.
-/

namespace FrameScope.Ports.SessionLifetimesLaw

open FrameScope.Verified.Runs
open FrameScope.Verified.Ownership
open FrameScope.Ports.SessionController
open FrameScope.Ports.SessionControllerLaw

variable {s t : ControllerState} {k : Nat} {p : CallPhase}

/-! ## Revisions -/

theorem nextRevision_eq_some {current next : Int} (h : nextRevision current = some next) :
    0 ≤ current ∧ next = current + 1 := by
  unfold nextRevision at h
  by_cases hEnd : current < 0 ∨ current = LONG_MAX
  · rw [if_pos hEnd] at h
    cases h
  · rw [if_neg hEnd] at h
    exact ⟨not_lt.1 (not_or.1 hEnd).1, (Option.some.inj h).symm⟩

/-- The counter has ended, or has moved past every revision given out. -/
theorem invalidateRevision_past (current : Int) :
    invalidateRevision current < 0 ∨ current < invalidateRevision current := by
  unfold invalidateRevision
  by_cases hNeg : current < 0
  · rw [if_pos hNeg]
    exact .inl hNeg
  · rw [if_neg hNeg]
    by_cases hMax : current = LONG_MAX
    · rw [if_pos hMax]
      left
      decide
    · rw [if_neg hMax]
      right
      omega

theorem invalidateRevision_ended {current : Int} (h : current < 0) :
    invalidateRevision current < 0 := by
  unfold invalidateRevision
  rwa [if_pos h]

/-- What the revisions held say of the counter. -/
structure Revisions (s : ControllerState) : Prop where
  taken : ∀ k revision, (s.calls k).heldRevision = some revision →
    0 < revision ∧ (s.revision < 0 ∨ revision ≤ s.revision)
  distinct : ∀ j k revision, (s.calls j).heldRevision = some revision →
    (s.calls k).heldRevision = some revision → j = k

theorem revisions_initial : Revisions .initial where
  taken := fun _ _ h => by cases h
  distinct := fun _ _ _ h => by cases h

/-- A revision that is held after a call moves on was held before. -/
theorem held_of_update (hHeld : ∀ revision, p.heldRevision = some revision →
      (s.calls k).heldRevision = some revision) {i : Nat} {revision : Int}
    (h : (Function.update s.calls k p i).heldRevision = some revision) :
    (s.calls i).heldRevision = some revision := by
  by_cases hi : i = k
  · rw [hi, Function.update_self] at h
    rw [hi]
    exact hHeld revision h
  · rwa [Function.update_of_ne hi] at h

/-- The counter may only end or grow. -/
theorem Revisions.update (h : Revisions s) (hCalls : t.calls = Function.update s.calls k p)
    (hHeld : ∀ revision, p.heldRevision = some revision →
      (s.calls k).heldRevision = some revision)
    (hRevision : t.revision < 0 ∨ 0 ≤ s.revision ∧ s.revision ≤ t.revision) : Revisions t := by
  constructor
  · intro i revision hTaken
    rw [hCalls] at hTaken
    obtain ⟨hPos, hBound⟩ := h.taken i revision (held_of_update hHeld hTaken)
    exact ⟨hPos, by omega⟩
  · intro i j revision hi hj
    rw [hCalls] at hi hj
    exact h.distinct i j revision (held_of_update hHeld hi) (held_of_update hHeld hj)

theorem Revisions.keep (h : Revisions s) (hCalls : t.calls = Function.update s.calls k p)
    (hHeld : ∀ revision, p.heldRevision = some revision →
      (s.calls k).heldRevision = some revision)
    (hRevision : t.revision = s.revision) : Revisions t := by
  refine h.update hCalls hHeld ?_
  rw [hRevision]
  omega

theorem Revisions.takes (h : Revisions s) {next : Int}
    (hNext : nextRevision s.revision = some next) (hPhase : p.heldRevision = some next) :
    Revisions ({ s with revision := next }.setCall k p) := by
  obtain ⟨hCount, rfl⟩ := nextRevision_eq_some hNext
  have hNew : ∀ i, (s.calls i).heldRevision ≠ some (s.revision + 1) := by
    intro i hHeld
    have hBound := (h.taken i _ hHeld).2
    omega
  constructor
  · intro i revision hTaken
    show 0 < revision ∧ (s.revision + 1 < 0 ∨ revision ≤ s.revision + 1)
    by_cases hi : i = k
    · rw [hi, show ControllerState.calls _ k = p from Function.update_self .., hPhase] at hTaken
      have hIs := Option.some.inj hTaken
      omega
    · rw [show ControllerState.calls _ i = s.calls i from Function.update_of_ne hi ..] at hTaken
      obtain ⟨hPos, hBound⟩ := h.taken i revision hTaken
      exact ⟨hPos, by omega⟩
  · intro i j revision hTaken hOther
    by_cases hi : i = k <;> by_cases hj : j = k
    · rw [hi, hj]
    · rw [hi, show ControllerState.calls _ k = p from Function.update_self .., hPhase] at hTaken
      rw [show ControllerState.calls _ j = s.calls j from Function.update_of_ne hj ..,
        ← Option.some.inj hTaken] at hOther
      exact absurd hOther (hNew j)
    · rw [hj, show ControllerState.calls _ k = p from Function.update_self .., hPhase] at hOther
      rw [show ControllerState.calls _ i = s.calls i from Function.update_of_ne hi ..,
        ← Option.some.inj hOther] at hTaken
      exact absurd hTaken (hNew i)
    · rw [show ControllerState.calls _ i = s.calls i from Function.update_of_ne hi ..] at hTaken
      rw [show ControllerState.calls _ j = s.calls j from Function.update_of_ne hj ..] at hOther
      exact h.distinct i j revision hTaken hOther

theorem Revisions.move (h : Revisions s) (hMove : Move s k t) : Revisions t := by
  have hNone : ∀ {p' : CallPhase}, p'.heldRevision = none → ∀ revision,
      p'.heldRevision = some revision → (s.calls k).heldRevision = some revision := by
    intro p' hp revision hHeld
    rw [hp] at hHeld
    cases hHeld
  cases hMove with
  | passes p' hPasses => exact h.keep rfl hPasses.holds rfl
  | begins p' gate hIdle hGate hPhase =>
      refine h.keep rfl (hNone ?_) rfl
      rcases hPhase with rfl | rfl | ⟨sessionId, rfl⟩ <;> rfl
  | takesRevision next p' hNext hPhase =>
      refine h.takes hNext ?_
      rcases hPhase with ⟨-, rfl⟩ | ⟨sessionId, -, rfl⟩ <;> rfl
  | invalidates hClosing =>
      refine h.update rfl (hNone rfl) ?_
      show invalidateRevision s.revision < 0 ∨ 0 ≤ s.revision ∧ s.revision ≤ _
      by_cases hNeg : s.revision < 0
      · exact .inl (invalidateRevision_ended hNeg)
      · exact (invalidateRevision_past s.revision).imp id fun hPast => ⟨not_lt.1 hNeg, hPast.le⟩
  | opensNative revision currentFrame engine hIssued =>
      exact h.keep rfl (by simp [hIssued]) rfl
  | movesNative revision session engine hNavigating hOpen =>
      exact h.keep rfl (by simp [hNavigating]) rfl
  | showsOpened session engine hOpened =>
      refine h.keep rfl (hNone ?_) rfl
      rcases afterCommit_cases s.shownSession session (.success session engine) with
        hIs | ⟨sessionId, -, -, hIs⟩ <;> rw [hIs] <;> rfl
  | showsNavigated session engine hNavigated hShown => exact h.keep rfl (hNone rfl) rfl
  | detaches sessionId hPhase hShown => exact h.keep rfl (hNone rfl) rfl
  | detachesNothing hPhase hShown => exact h.keep rfl (hNone rfl) rfl
  | closesNative sessionId result hPhase hResult => exact h.keep rfl (hNone rfl) rfl
  | ends hasActiveSession changes result hEnding =>
      rcases endTransition_cases s k hasActiveSession result with ⟨gate, -, hIs⟩ | ⟨-, hIs⟩ <;>
        rw [hIs] <;> exact h.keep rfl (hNone rfl) rfl

/-- The request that holds the current revision holds the newest. -/
theorem Revisions.newest (h : Revisions s)
    (hCurrent : (s.calls k).heldRevision = some s.revision) : HoldsNewest s k where
  current := hCurrent
  above := by
    intro j revision hj hHeld
    have hPos := (h.taken k _ hCurrent).1
    obtain ⟨-, hBound⟩ := h.taken j revision hHeld
    have hOther : revision ≠ s.revision := fun hSame =>
      hj (h.distinct j k _ (hSame ▸ hHeld) hCurrent)
    omega

/-! ## Native sessions -/

/-- Who holds a native session: the snapshot or a call. -/
def holding (s : ControllerState) : Option Nat → Option Int
  | none => s.shownSession
  | some k => owed (s.calls k)

/-- Every open native session is shown or owed, by one holder, and the ids not
given out yet are above them all. -/
structure Sessions (s : ControllerState) : Prop where
  owned : Owned (fun sessionId => (s.native.current sessionId).isSome = true) (holding s)
  fresh : ∀ sessionId, (s.native.current sessionId).isSome → sessionId < s.native.nextSessionId

theorem sessions_initial : Sessions .initial where
  owned := by
    constructor
    · intro sessionId
      constructor
      · intro h
        cases h
      · rintro ⟨_ | k, h⟩ <;> cases h
    · rintro (_ | j) _ _ h <;> cases h
  fresh := fun _ h => by cases h

/-- A step of one call leaves what the other holders have. -/
theorem holding_update (hShown : t.shownSession = s.shownSession)
    (hCalls : t.calls = Function.update s.calls k p) :
    holding t = Function.update (holding s) (some k) (owed p) := by
  funext holder
  cases holder with
  | none =>
      rw [Function.update_of_ne (by simp)]
      exact hShown
  | some i =>
      show owed (t.calls i) = _
      by_cases hi : i = k
      · rw [hCalls, hi, Function.update_self, Function.update_self]
      · rw [hCalls, Function.update_of_ne hi, Function.update_of_ne (by simpa using hi)]
        rfl

/-- The snapshot and the call trade what they hold. -/
theorem holding_swap (hShown : t.shownSession = owed (s.calls k))
    (hCalls : t.calls = Function.update s.calls k p) (hOwed : owed p = s.shownSession) :
    holding t = holding s ∘ Equiv.swap none (some k) := by
  funext holder
  cases holder with
  | none => simpa [holding] using hShown
  | some i =>
      show owed (t.calls i) = _
      by_cases hi : i = k
      · rw [hCalls, hi, Function.update_self, hOwed]
        simp [holding]
      · rw [hCalls, Function.update_of_ne hi]
        simp [holding, Equiv.swap_apply_of_ne_of_ne, hi]

theorem Sessions.keep (h : Sessions s) (hNative : t.native = s.native)
    (hShown : t.shownSession = s.shownSession) (hCalls : t.calls = Function.update s.calls k p)
    (hOwed : owed p = owed (s.calls k)) : Sessions t := by
  have hHolding : holding t = holding s := by
    rw [holding_update hShown hCalls, hOwed]
    exact Function.update_eq_self (some k) (holding s)
  exact ⟨by rw [hHolding, hNative]; exact h.owned, by rw [hNative]; exact h.fresh⟩

theorem Sessions.trade (h : Sessions s) (hNative : t.native = s.native)
    (hShown : t.shownSession = owed (s.calls k)) (hCalls : t.calls = Function.update s.calls k p)
    (hOwed : owed p = s.shownSession) : Sessions t := by
  have hHolding := holding_swap hShown hCalls hOwed
  exact ⟨by rw [hHolding, hNative]; exact h.owned.swap _ _, by rw [hNative]; exact h.fresh⟩

theorem Sessions.opens (h : Sessions s) {currentFrame : Option Int}
    (hNative : t.native = s.native.openSession currentFrame)
    (hShown : t.shownSession = s.shownSession) (hCalls : t.calls = Function.update s.calls k p)
    (hIdle : owed (s.calls k) = none) (hOwed : owed p = some s.native.nextSessionId) :
    Sessions t := by
  have hCurrent : ∀ sessionId, ((s.native.openSession currentFrame).current sessionId).isSome ↔
      (s.native.current sessionId).isSome ∨ sessionId = s.native.nextSessionId := by
    intro sessionId
    by_cases hNew : sessionId = s.native.nextSessionId
    · simp [NativeSessions.openSession, hNew]
    · simp [NativeSessions.openSession, hNew]
  constructor
  · rw [holding_update hShown hCalls, hOwed, hNative]
    refine h.owned.acquire hIdle ?_ hCurrent
    intro hOpen
    exact absurd (h.fresh _ hOpen) (lt_irrefl _)
  · intro sessionId hOpen
    rw [hNative] at hOpen ⊢
    show sessionId < s.native.nextSessionId + 1
    rcases (hCurrent sessionId).1 hOpen with hOld | rfl
    · have hLt := h.fresh sessionId hOld
      omega
    · omega

theorem Sessions.moves (h : Sessions s) {sessionId : Int} {currentFrame : Option Int}
    (hNative : t.native = s.native.move sessionId currentFrame)
    (hShown : t.shownSession = s.shownSession) (hCalls : t.calls = Function.update s.calls k p)
    (hOpen : (s.native.current sessionId).isSome) (hOwed : owed p = owed (s.calls k)) :
    Sessions t := by
  have hCurrent : ∀ other, ((s.native.move sessionId currentFrame).current other).isSome ↔
      (s.native.current other).isSome := by
    intro other
    by_cases hSame : other = sessionId
    · simp [NativeSessions.move, hSame, hOpen]
    · simp [NativeSessions.move, hSame]
  constructor
  · rw [holding_update hShown hCalls, hOwed, hNative,
      show owed (s.calls k) = holding s (some k) from rfl, Function.update_eq_self]
    exact h.owned.congr hCurrent
  · intro other hOther
    rw [hNative] at hOther ⊢
    exact h.fresh other ((hCurrent other).1 hOther)

theorem Sessions.closes (h : Sessions s) {sessionId : Int}
    (hNative : t.native = s.native.close sessionId)
    (hShown : t.shownSession = s.shownSession) (hCalls : t.calls = Function.update s.calls k p)
    (hHeld : owed (s.calls k) = some sessionId) (hOwed : owed p = none) : Sessions t := by
  have hCurrent : ∀ other, ((s.native.close sessionId).current other).isSome ↔
      (s.native.current other).isSome ∧ other ≠ sessionId := by
    intro other
    by_cases hSame : other = sessionId
    · simp [NativeSessions.close, hSame]
    · simp [NativeSessions.close, hSame]
  constructor
  · rw [holding_update hShown hCalls, hOwed, hNative]
    exact h.owned.release hHeld hCurrent
  · intro other hOther
    rw [hNative] at hOther ⊢
    exact h.fresh other ((hCurrent other).1 hOther).1

/-- A session that a call owes is not the shown one. -/
theorem Sessions.unshown (h : Sessions s) {sessionId : Int}
    (hOwed : owed (s.calls k) = some sessionId) : s.shownSession ≠ some sessionId := by
  intro hShown
  have hSame := h.owned.single none (some k) sessionId hShown hOwed
  cases hSame

/-- The commit of an open leaves it with the session that it replaced. -/
theorem afterCommit_owed {previous : Option Int} {session : MicroscopeSessionSnapshot}
    {result : NativeMicroscope} (hOther : previous ≠ some session.sessionId) :
    owed (ControllerState.afterCommit previous session result) = previous := by
  unfold ControllerState.afterCommit
  cases previous with
  | none => rfl
  | some sessionId =>
      have hNe : sessionId ≠ session.sessionId := fun hSame => hOther (by rw [hSame])
      simp [hNe]

theorem Sessions.move (h : Sessions s) (hMove : Move s k t) : Sessions t := by
  cases hMove with
  | passes p' hPasses => exact h.keep rfl rfl rfl hPasses.owes
  | begins p' gate hIdle hGate hPhase =>
      refine h.keep rfl rfl rfl ?_
      rw [hIdle]
      rcases hPhase with rfl | rfl | ⟨sessionId, rfl⟩ <;> rfl
  | takesRevision next p' hNext hPhase =>
      refine h.keep rfl rfl rfl ?_
      rcases hPhase with ⟨hBefore, rfl⟩ | ⟨sessionId, hBefore, rfl⟩ <;> rw [hBefore] <;> rfl
  | invalidates hClosing => exact h.keep rfl rfl rfl (by rw [hClosing]; rfl)
  | opensNative revision currentFrame engine hIssued =>
      exact h.opens rfl rfl rfl (by rw [hIssued]; rfl) rfl
  | movesNative revision session engine hNavigating hOpen =>
      exact h.moves rfl rfl rfl hOpen (by rw [hNavigating]; rfl)
  | showsOpened session engine hOpened =>
      have hOwed : owed (s.calls k) = some session.sessionId := by rw [hOpened]; rfl
      exact h.trade rfl hOwed.symm rfl (afterCommit_owed (h.unshown hOwed))
  | showsNavigated session engine hNavigated hShown =>
      exact h.keep rfl hShown.symm rfl (by rw [hNavigated]; rfl)
  | detaches sessionId hPhase hShown =>
      refine h.trade rfl ?_ rfl hShown.symm
      rcases hPhase with hBefore | ⟨asked, hBefore⟩ <;> rw [hBefore] <;> rfl
  | detachesNothing hPhase hShown => exact h.keep rfl hShown.symm rfl (by rw [hPhase]; rfl)
  | closesNative sessionId result hPhase hResult =>
      refine h.closes rfl rfl rfl ?_ rfl
      rcases hPhase with hBefore | ⟨result, hBefore⟩ <;> rw [hBefore] <;> rfl
  | ends hasActiveSession changes result hEnding =>
      rcases endTransition_cases s k hasActiveSession result with ⟨gate, -, hIs⟩ | ⟨-, hIs⟩ <;>
        rw [hIs] <;> exact h.keep rfl rfl rfl (by rw [hEnding]; rfl)

/-- With no call in flight the shown session is the only open one. -/
theorem Sessions.quiet (h : Sessions s) (hQuiet : s.Quiet) (sessionId : Int) :
    (s.native.current sessionId).isSome ↔ s.shownSession = some sessionId := by
  refine h.owned.only none ?_ sessionId
  rintro (_ | i) hOther
  · exact absurd rfl hOther
  · show owed (s.calls i) = none
    rcases hQuiet i with hIdle | ⟨result, hReturned⟩
    · rw [hIdle]; rfl
    · rw [hReturned]; rfl

/-! ## Copies -/

/-- A frame is copied for the ids it was prepared for, and no session transition
returns a frame. -/
structure Copies (s : ControllerState) : Prop where
  prepared : ∀ k sessionId frameId frame,
    copied (s.calls k) = some (sessionId, frameId, frame) →
      frame.sessionId = sessionId ∧ frame.frameId = frameId
  carries : ∀ k copy, carried (s.calls k) ≠ some (.frameCopy copy)

theorem copies_initial : Copies .initial where
  prepared := fun _ _ _ _ h => by cases h
  carries := fun _ _ h => by cases h

theorem Copies.update (h : Copies s) (hCalls : t.calls = Function.update s.calls k p)
    (hCopied : ∀ sessionId frameId frame, copied p = some (sessionId, frameId, frame) →
      frame.sessionId = sessionId ∧ frame.frameId = frameId)
    (hCarried : ∀ copy, carried p ≠ some (.frameCopy copy)) : Copies t := by
  constructor
  · intro i
    rw [hCalls]
    by_cases hi : i = k
    · rw [hi, Function.update_self]
      exact hCopied
    · rw [Function.update_of_ne hi]
      exact h.prepared i
  · intro i
    rw [hCalls]
    by_cases hi : i = k
    · rw [hi, Function.update_self]
      exact hCarried
    · rw [Function.update_of_ne hi]
      exact h.carries i

theorem Copies.move (h : Copies s) (hMove : Move s k t) : Copies t := by
  cases hMove with
  | passes p' hPasses =>
      refine h.update rfl ?_ ?_
      · intro sessionId frameId frame hCopied
        exact (hPasses.copies _ _ _ hCopied).elim (h.prepared k _ _ _) id
      · exact fun copy hCarried => h.carries k copy (hPasses.carries copy hCarried)
  | begins p' gate hIdle hGate hPhase =>
      rcases hPhase with rfl | rfl | ⟨sessionId, rfl⟩ <;> exact h.update rfl (by simp) (by simp)
  | takesRevision next p' hNext hPhase =>
      rcases hPhase with ⟨-, rfl⟩ | ⟨sessionId, -, rfl⟩ <;> exact h.update rfl (by simp) (by simp)
  | showsOpened session engine hOpened =>
      rcases afterCommit_cases s.shownSession session (.success session engine) with
        hIs | ⟨sessionId, -, -, hIs⟩ <;> rw [hIs] <;> exact h.update rfl (by simp) (by simp)
  | closesNative sessionId result hPhase hResult =>
      exact h.update rfl (by simp) (fun copy hCarried => hResult copy (Option.some.inj hCarried))
  | ends hasActiveSession changes result hEnding =>
      rcases endTransition_cases s k hasActiveSession result with ⟨gate, -, hIs⟩ | ⟨-, hIs⟩ <;>
        rw [hIs] <;> exact h.update rfl (by simp) (by simp)
  | _ => exact h.update rfl (by simp) (by simp)

/-! ## Runs -/

/-- What holds in every reached state. -/
structure Lawful (s : ControllerState) : Prop where
  revisions : Revisions s
  sessions : Sessions s
  copies : Copies s

theorem Lawful.storage (h : Lawful s) (hMove : StorageMove s t) : Lawful t := by
  obtain ⟨⟨hTaken, hDistinct⟩, ⟨hOwned, hFresh⟩, ⟨hPrepared, hCarries⟩⟩ := h
  rw [hMove.frame]
  exact ⟨⟨hTaken, hDistinct⟩, ⟨hOwned, hFresh⟩, ⟨hPrepared, hCarries⟩⟩

theorem Lawful.apply (h : Lawful s) (event : ControllerEvent) : Lawful (applyEvent s event) := by
  rcases applyEvent_move s event with hSame | ⟨k, hMove, -⟩ | hStorage
  · rwa [hSame]
  · exact ⟨h.revisions.move hMove, h.sessions.move hMove, h.copies.move hMove⟩
  · exact h.storage hStorage

theorem lawful_initial : Lawful .initial := ⟨revisions_initial, sessions_initial, copies_initial⟩

theorem lawful_reached (events : List ControllerEvent) : Lawful (reached events) :=
  run_invariant_of_step (fun _ event h => h.apply event) lawful_initial events

/-- Request `k` has taken its revision, `closeCurrent` call `c` has moved past
it, and once `c` has cleared the snapshot the result of `k` is not shown. -/
structure Overtaken (c k : Nat) (s : ControllerState) : Prop where
  taken : (s.calls k).beforeRevision = false
  past : ∀ revision, (s.calls k).heldRevision = some revision →
    revision < s.revision ∨ s.revision < 0
  cleared : s.calls c = .invalidated ∨ beforeDetach (s.calls c) = false ∧ s.shownBy ≠ some k

/-- The counter moves on, and a call goes where it clears no less than before and
where `k` takes no new revision. -/
theorem Overtaken.keep {c j : Nat} (h : Overtaken c k s)
    (hCalls : t.calls = Function.update s.calls j p)
    (hBefore : p.beforeRevision = true → s.calls j = .idle)
    (hHeld : j = k → ∀ revision, p.heldRevision = some revision →
      (s.calls j).heldRevision = some revision)
    (hRevision : t.revision < 0 ∨ 0 ≤ s.revision ∧ s.revision ≤ t.revision)
    (hDetached : beforeDetach p = false ∨ beforeDetach (s.calls j) = true)
    (hCleared : s.calls j = .invalidated ∧ t.shownBy ≠ some k ∧ beforeDetach p = false ∨
      s.calls j ≠ .invalidated ∧ (t.shownBy = some k → s.shownBy = some k)) :
    Overtaken c k t := by
  refine ⟨?_, ?_, ?_⟩
  · rw [hCalls]
    by_cases hk : k = j
    · rw [hk, Function.update_self]
      cases hTakes : p.beforeRevision with
      | false => rfl
      | true =>
          have hTaken := h.taken
          rw [hk, hBefore hTakes] at hTaken
          cases hTaken
    · rw [Function.update_of_ne hk]
      exact h.taken
  · intro revision hIs
    rw [hCalls] at hIs
    have hWas : (s.calls k).heldRevision = some revision := by
      by_cases hk : k = j
      · rw [hk, Function.update_self] at hIs
        rw [hk]
        exact hHeld hk.symm revision hIs
      · rwa [Function.update_of_ne hk] at hIs
    have hPast := h.past revision hWas
    omega
  · rw [hCalls]
    by_cases hc : c = j
    · rw [hc, Function.update_self]
      right
      rcases hCleared with ⟨-, hOther, hDone⟩ | ⟨hNot, hShown⟩
      · exact ⟨hDone, hOther⟩
      · rcases h.cleared with hWaits | ⟨hPast, hOther⟩
        · exact absurd (hc ▸ hWaits) hNot
        · refine ⟨hDetached.resolve_right ?_, fun hShows => hOther (hShown hShows)⟩
          rw [← hc, hPast]
          simp
    · rw [Function.update_of_ne hc]
      rcases hCleared with ⟨-, hOther, -⟩ | ⟨-, hShown⟩
      · exact h.cleared.imp id fun hPast => ⟨hPast.1, hOther⟩
      · exact h.cleared.imp id fun hPast => ⟨hPast.1, fun hShows => hPast.2 (hShown hShows)⟩

/-- The result of an overtaken request is not shown. -/
theorem Overtaken.not_newest {c : Nat} (h : Overtaken c k s) (hRevisions : Revisions s) :
    (s.calls k).heldRevision ≠ some s.revision := by
  intro hNewest
  have hPos := (hRevisions.taken k _ hNewest).1
  rcases h.past _ hNewest with hLt | hNeg <;> omega

theorem Overtaken.move {c j : Nat} (h : Overtaken c k s) (hRevisions : Revisions s)
    (hMove : Move s j t) : Overtaken c k t := by
  have hNone : ∀ {p' : CallPhase}, p'.heldRevision = none → j = k → ∀ revision,
      p'.heldRevision = some revision → (s.calls j).heldRevision = some revision := by
    intro p' hp _ revision hHeld
    rw [hp] at hHeld
    cases hHeld
  have hSame : s.revision < 0 ∨ 0 ≤ s.revision ∧ s.revision ≤ s.revision := by omega
  cases hMove with
  | passes p' hPasses =>
      exact h.keep rfl hPasses.revision (fun _ => hPasses.holds) hSame (.inl hPasses.detached)
        (.inr ⟨hPasses.clears, id⟩)
  | begins p' gate hIdle hGate hPhase =>
      refine h.keep rfl (fun _ => hIdle) (hNone ?_) hSame (.inr (by rw [hIdle]; rfl))
        (.inr ⟨by simp [hIdle], id⟩)
      rcases hPhase with rfl | rfl | ⟨sessionId, rfl⟩ <;> rfl
  | takesRevision next p' hNext hPhase =>
      obtain ⟨hCount, rfl⟩ := nextRevision_eq_some hNext
      have hPast : s.revision + 1 < 0 ∨ 0 ≤ s.revision ∧ s.revision ≤ s.revision + 1 := by omega
      -- the call that takes the revision is not `k`, which has taken its own
      have hBefore : (s.calls j).beforeRevision = true := by
        rcases hPhase with ⟨hIs, -⟩ | ⟨sessionId, hIs, -⟩ <;> rw [hIs] <;> rfl
      have hk : j ≠ k := by
        rintro rfl
        rw [h.taken] at hBefore
        cases hBefore
      rcases hPhase with ⟨hIs, rfl⟩ | ⟨sessionId, hIs, rfl⟩
      · exact h.keep rfl (fun hTakes => by cases hTakes) (fun hj => absurd hj hk) hPast
          (.inl rfl) (.inr ⟨by simp [hIs], id⟩)
      · exact h.keep rfl (fun hTakes => by cases hTakes) (fun hj => absurd hj hk) hPast
          (.inl rfl) (.inr ⟨by simp [hIs], id⟩)
  | invalidates hClosing =>
      refine h.keep rfl (fun hTakes => by cases hTakes) (hNone rfl) ?_
        (.inr (by rw [hClosing]; rfl)) (.inr ⟨by simp [hClosing], id⟩)
      show invalidateRevision s.revision < 0 ∨ 0 ≤ s.revision ∧ s.revision ≤ _
      by_cases hNeg : s.revision < 0
      · exact .inl (invalidateRevision_ended hNeg)
      · exact (invalidateRevision_past s.revision).imp id fun hPast => ⟨not_lt.1 hNeg, hPast.le⟩
  | opensNative revision currentFrame engine hIssued =>
      exact h.keep rfl (fun hTakes => by cases hTakes) (fun _ => by simp [hIssued]) hSame (.inl rfl)
        (.inr ⟨by simp [hIssued], id⟩)
  | movesNative revision session engine hNavigating hOpen =>
      exact h.keep rfl (fun hTakes => by cases hTakes) (fun _ => by simp [hNavigating]) hSame
        (.inl rfl) (.inr ⟨by simp [hNavigating], id⟩)
  | showsOpened session engine hOpened =>
      have hk : j ≠ k := by
        rintro rfl
        exact h.not_newest hRevisions (by rw [hOpened]; rfl)
      rcases afterCommit_cases s.shownSession session (.success session engine) with
        hIs | ⟨sessionId, -, -, hIs⟩ <;> rw [hIs] <;>
        exact h.keep rfl (fun hTakes => by cases hTakes) (hNone rfl) hSame (.inl rfl)
          (.inr ⟨by simp [hOpened], fun hShows => absurd (Option.some.inj hShows) hk⟩)
  | showsNavigated session engine hNavigated hShown =>
      have hk : j ≠ k := by
        rintro rfl
        exact h.not_newest hRevisions (by rw [hNavigated]; rfl)
      exact h.keep rfl (fun hTakes => by cases hTakes) (hNone rfl) hSame (.inl rfl)
        (.inr ⟨by simp [hNavigated], fun hShows => absurd (Option.some.inj hShows) hk⟩)
  | detaches sessionId hPhase hShown =>
      refine h.keep rfl (fun hTakes => by cases hTakes) (hNone rfl) hSame (.inl rfl) ?_
      rcases hPhase with hIs | ⟨asked, hIs⟩
      · exact .inl ⟨hIs, by simp [ControllerState.detach, ControllerState.setCall], rfl⟩
      · exact .inr ⟨by simp [hIs], by simp [ControllerState.detach, ControllerState.setCall]⟩
  | detachesNothing hPhase hShown =>
      exact h.keep rfl (fun hTakes => by cases hTakes) (hNone rfl) hSame (.inl rfl)
        (.inl ⟨hPhase, by simp [ControllerState.detach, ControllerState.setCall], rfl⟩)
  | closesNative sessionId result hPhase hResult =>
      refine h.keep rfl (fun hTakes => by cases hTakes) (hNone rfl) hSame (.inl rfl)
        (.inr ⟨?_, id⟩)
      rcases hPhase with hIs | ⟨result, hIs⟩ <;> simp [hIs]
  | ends hasActiveSession changes result hEnding =>
      rcases endTransition_cases s j hasActiveSession result with ⟨gate, -, hIs⟩ | ⟨-, hIs⟩ <;>
        rw [hIs] <;>
        exact h.keep rfl (fun hTakes => by cases hTakes) (hNone rfl) hSame (.inl rfl)
          (.inr ⟨by simp [hEnding], id⟩)

theorem Overtaken.storage {c : Nat} (h : Overtaken c k s) (hMove : StorageMove s t) :
    Overtaken c k t := by
  rw [hMove.frame]
  exact ⟨h.taken, h.past, h.cleared⟩

theorem Overtaken.apply {c : Nat} (h : Overtaken c k s) (hLawful : Lawful s)
    (event : ControllerEvent) : Overtaken c k (applyEvent s event) := by
  rcases applyEvent_move s event with hSame | ⟨j, hMove, -⟩ | hStorage
  · rwa [hSame]
  · exact h.move hLawful.revisions hMove
  · exact h.storage hStorage

/-- `closeCurrent` overtakes every request that has taken its revision. -/
theorem overtaken_of_invalidate (hRevisions : Revisions s) {c : Nat}
    (hClosing : s.calls c = .closing) (hTaken : (s.calls k).beforeRevision = false) :
    Overtaken c k (s.advance c) := by
  have hIs : s.advance c = s.invalidate c := by
    unfold ControllerState.advance
    rw [hClosing]
  rw [hIs]
  have hCalls : (s.invalidate c).calls = Function.update s.calls c .invalidated := rfl
  refine ⟨?_, ?_, .inl ?_⟩
  · rw [hCalls]
    by_cases hk : k = c
    · rw [hk, Function.update_self]
      rfl
    · rwa [Function.update_of_ne hk]
  · intro revision hHeld
    rw [hCalls] at hHeld
    have hWas := held_of_update (fun _ hNone => by cases hNone) hHeld
    obtain ⟨-, hBound⟩ := hRevisions.taken k revision hWas
    show revision < invalidateRevision s.revision ∨ invalidateRevision s.revision < 0
    rcases invalidateRevision_past s.revision with hEnded | hPast
    · exact .inr hEnded
    · rcases hBound with hNeg | hLe
      · exact .inr (invalidateRevision_ended hNeg)
      · exact .inl (hLe.trans_lt hPast)
  · rw [hCalls, Function.update_self]

/-- A snapshot that a step puts up is the result of the newest request. -/
theorem Revisions.shows (h : Revisions s) (hMove : Move s k t) {session : MicroscopeSessionSnapshot}
    (hSnapshot : t.snapshot = some session) :
    s.snapshot = some session ∨ ∃ k engine, HoldsNewest s k ∧
      (s.calls k = .opened s.revision (.success session engine) ∨
        ∃ sessionId, s.calls k = .navigated sessionId s.revision (.success session engine)) := by
  cases hMove with
  | showsOpened shown engine hOpened =>
      cases hSnapshot
      exact .inr ⟨k, engine, h.newest (by rw [hOpened]; rfl), .inl hOpened⟩
  | showsNavigated shown engine hNavigated hShown =>
      cases hSnapshot
      exact .inr ⟨k, engine, h.newest (by rw [hNavigated]; rfl), .inr ⟨_, hNavigated⟩⟩
  | detaches sessionId hPhase hShown => cases hSnapshot
  | detachesNothing hPhase hShown => cases hSnapshot
  | ends hasActiveSession changes result hEnding =>
      rcases endTransition_cases s k hasActiveSession result with ⟨gate, -, hIs⟩ | ⟨-, hIs⟩ <;>
        rw [hIs] at hSnapshot <;> exact .inl hSnapshot
  | _ => exact .inl hSnapshot

/-- A success that a step returns is for the ids of the snapshot that it checks. -/
theorem Copies.loads (h : Copies s) (hMove : Move s k t) {i : Nat}
    {frame : PreparedMicroscopeFrame} {rgba : List UInt8}
    (hReturned : t.calls i = .returned (.frameCopy (.success frame rgba))) :
    s.calls i = .returned (.frameCopy (.success frame rgba)) ∨
      s.shownSession = some frame.sessionId ∧
        s.snapshot.bind (·.currentFrame) = some frame.frameId := by
  -- only the call that moves can return, and only a load returns a frame
  have hOther : ∀ {p' : CallPhase}, t.calls = Function.update s.calls k p' →
      p' ≠ .returned (.frameCopy (.success frame rgba)) →
      s.calls i = .returned (.frameCopy (.success frame rgba)) := by
    intro p' hCalls hNot
    rw [hCalls] at hReturned
    by_cases hi : i = k
    · rw [hi, Function.update_self] at hReturned
      exact absurd hReturned hNot
    · rwa [Function.update_of_ne hi] at hReturned
  cases hMove with
  | passes p' hPasses =>
      by_cases hp : p' = .returned (.frameCopy (.success frame rgba))
      · obtain ⟨sessionId, frameId, hCopied, hShown, hFrame⟩ := hPasses.loads frame rgba hp
        obtain ⟨rfl, rfl⟩ := h.prepared k sessionId frameId frame hCopied
        exact .inr ⟨hShown, hFrame⟩
      · exact .inl (hOther rfl hp)
  | begins p' gate hIdle hGate hPhase =>
      left
      apply hOther rfl
      rcases hPhase with rfl | rfl | ⟨sessionId, rfl⟩ <;> simp
  | takesRevision next p' hNext hPhase =>
      left
      apply hOther rfl
      rcases hPhase with ⟨-, rfl⟩ | ⟨sessionId, -, rfl⟩ <;> simp
  | showsOpened session engine hOpened =>
      left
      apply hOther rfl
      rcases afterCommit_cases s.shownSession session (.success session engine) with
        hIs | ⟨sessionId, -, -, hIs⟩ <;> rw [hIs] <;> simp
  | ends hasActiveSession changes result hEnding =>
      left
      have hNot := h.carries k
      rw [hEnding] at hNot
      rcases endTransition_cases s k hasActiveSession result with ⟨gate, -, hIs⟩ | ⟨-, hIs⟩
      · have hReturns : (s.endTransition k hasActiveSession result).calls =
            Function.update s.calls k (.returned result) := by rw [hIs]; rfl
        refine hOther hReturns ?_
        intro hSame
        simp only [CallPhase.returned.injEq] at hSame
        exact hNot _ (by rw [hSame]; rfl)
      · exact hOther (by rw [hIs]; rfl) (by simp)
  | _ => exact .inl (hOther rfl (by simp))

theorem reached_concat (before : List ControllerEvent) (event : ControllerEvent)
    (after : List ControllerEvent) :
    reached (before ++ event :: after) =
      after.foldl applyEvent (applyEvent (reached before) event) := by
  simp [reached, List.foldl_append]

/-- In every run the snapshot is only replaced by the result of the newest
request, nothing that a `closeCurrent` has overtaken is shown after it, a load
that succeeds has the frame of the snapshot, and with no call in flight the
shown session is the only one open. -/
theorem session_lifetimes (events : List ControllerEvent) : SessionLifetimes events := by
  have hLawful := lawful_reached events
  constructor
  · intro event session hSnapshot
    rcases applyEvent_move (reached events) event with hSame | ⟨k, hMove, -⟩ | hStorage
    · rw [hSame] at hSnapshot
      exact .inl hSnapshot
    · exact hLawful.revisions.shows hMove hSnapshot
    · rw [hStorage.frame] at hSnapshot
      exact .inl hSnapshot
  · rintro before after c k rfl hClosing hTaken hDone hShown
    have hBefore := lawful_reached before
    have hStart : Lawful ((reached before).advance c) ∧ Overtaken c k ((reached before).advance c) :=
      ⟨hBefore.apply (.advance c), overtaken_of_invalidate hBefore.revisions hClosing hTaken⟩
    rw [reached_concat] at hDone hShown
    have hKeep : ∀ s event, Lawful s ∧ Overtaken c k s →
        Lawful (applyEvent s event) ∧ Overtaken c k (applyEvent s event) :=
      fun _ event h => ⟨h.1.apply event, h.2.apply h.1 event⟩
    have hEnd := run_invariant_of_step hKeep hStart after
    exact (hEnd.2.cleared.resolve_left hDone).2 hShown
  · intro event k frame rgba hReturned
    rcases applyEvent_move (reached events) event with hSame | ⟨j, hMove, -⟩ | hStorage
    · rw [hSame] at hReturned
      exact .inl hReturned
    · exact hLawful.copies.loads hMove hReturned
    · rw [hStorage.frame] at hReturned
      exact .inl hReturned
  · exact fun hQuiet sessionId => hLawful.sessions.quiet hQuiet sessionId

end FrameScope.Ports.SessionLifetimesLaw
