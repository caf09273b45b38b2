import FrameScope.Ports.StorageLifecycle

/-!
# When a clear excludes sessions

The count is right in every run in which no open panics, so a clear that starts
finds the registry empty.  What it does not see is an operation that still has
the handle of a closed session.
-/

namespace FrameScope.Ports.StorageLifecycleLaw

open FrameScope.Verified.Runs
open FrameScope.Ports.Core
open FrameScope.Ports.FramePreparation (MicroscopeFailure nextPositiveI64)
open FrameScope.Ports.StorageLifecycle

structure Sound (s : LifecycleState) : Prop where
  law : ClearExcludesSessions s
  bounded : s.sessions.card ≤ MAX_MICROSCOPE_SESSIONS
  fresh : ∀ sessionId ∈ s.sessions, sessionId < s.nextSessionId

section Steps

variable {s : LifecycleState}

theorem sound_initial : Sound .initial where
  law := by
    constructor
    · intro h
      cases h
    · rfl
  bounded := Nat.zero_le _
  fresh := fun _ h => by cases h

/-- A lock that can be taken has no owner. -/
theorem owner_of_lockable (h : s.lockable = true) : s.owner = none ∧ s.poisoned = false := by
  simpa [LifecycleState.lockable] using h

theorem Sound.beginOpen (h : Sound s) : Sound s.beginOpen := by
  unfold LifecycleState.beginOpen
  by_cases hLock : s.lockable = true
  · rw [if_pos hLock]
    have hOwner := (owner_of_lockable hLock).1
    have hCount := h.law.counted
    have hBound := h.bounded
    refine ⟨⟨(fun hClear => by cases hClear), ?_⟩, h.bounded, h.fresh⟩
    simp only [LifecycleState.opensInProgress, hOwner, reduceCtorEq, if_false] at hCount
    simp only [LifecycleState.opensInProgress, LifecycleState.countUp, MAX_MICROSCOPE_SESSIONS,
      if_true] at hBound ⊢
    omega
  · rwa [if_neg hLock]

/-- While an open is in progress it is counted. -/
theorem Sound.count_opening (h : Sound s) (hOwner : s.owner = some .opening) :
    s.activeMicroscopeSessions = s.sessions.card + 1 := by
  have hCount := h.law.counted
  simpa [LifecycleState.opensInProgress, hOwner] using hCount

theorem Sound.openFailed (h : Sound s) (hOwner : s.owner = some .opening) (nextSessionId : Int)
    (hNext : s.nextSessionId ≤ nextSessionId) :
    Sound { s with nextSessionId := nextSessionId }.openFailed := by
  have hCount := h.count_opening hOwner
  have hBound := h.bounded
  refine ⟨⟨(fun hClear => by cases hClear), ?_⟩, h.bounded, ?_⟩
  · simp only [MAX_MICROSCOPE_SESSIONS] at hBound
    simp only [LifecycleState.openFailed, LifecycleState.countDown,
      LifecycleState.opensInProgress, hCount, reduceCtorEq, if_false]
    omega
  · exact fun sessionId hMem => (h.fresh sessionId hMem).trans_le hNext

theorem nextPositiveI64_eq_some {current next : Int} (h : nextPositiveI64 current = some next) :
    next = current + 1 := by
  unfold nextPositiveI64 at h
  by_cases hNext : InI64 (current + 1) ∧ 0 < current + 1
  · rw [if_pos hNext] at h
    exact (Option.some.inj h).symm
  · rw [if_neg hNext] at h
    cases h

/-- A session that is built is registered, or the open fails like any other. -/
theorem Sound.built (h : Sound s) (hOwner : s.owner = some .opening) :
    Sound (s.finishOpen .built) := by
  unfold LifecycleState.finishOpen
  rw [if_pos hOwner]
  unfold LifecycleState.register
  cases hNext : nextPositiveI64 s.nextSessionId with
  | none => exact h.openFailed hOwner s.nextSessionId le_rfl
  | some next =>
      have hIs := nextPositiveI64_eq_some hNext
      by_cases hFull : MAX_MICROSCOPE_SESSIONS ≤ s.sessions.card
      · simp only [hFull, if_true]
        exact h.openFailed hOwner next (by omega)
      · simp only [hFull, if_false]
        have hNew : s.nextSessionId ∉ s.sessions :=
          fun hMem => absurd (h.fresh _ hMem) (lt_irrefl _)
        have hCard := Finset.card_insert_of_notMem hNew
        constructor
        · refine ⟨(fun hClear => by cases hClear), ?_⟩
          show s.activeMicroscopeSessions = (insert s.nextSessionId s.sessions).card + 0
          rw [h.count_opening hOwner, hCard]
        · show (insert s.nextSessionId s.sessions).card ≤ _
          omega
        · intro sessionId hMem
          show sessionId < next
          rcases Finset.mem_insert.1 hMem with rfl | hOld
          · omega
          · have hFresh := h.fresh sessionId hOld
            omega

theorem Sound.close (h : Sound s) (sessionId : Int) : Sound (s.close sessionId) := by
  unfold LifecycleState.close
  by_cases hClosed : (s.lockable && decide (0 < sessionId) && decide (sessionId ∈ s.sessions)) = true
  · rw [if_pos hClosed]
    simp only [Bool.and_eq_true, decide_eq_true_eq] at hClosed
    obtain ⟨⟨hLock, -⟩, hMem⟩ := hClosed
    have hOwner := (owner_of_lockable hLock).1
    have hCard := Finset.card_erase_of_mem hMem
    have hCount := h.law.counted
    constructor
    · refine ⟨fun hClear => ?_, ?_⟩
      · rw [show s.owner = _ from hClear] at hOwner
        cases hOwner
      · show s.activeMicroscopeSessions - 1 = (s.sessions.erase sessionId).card + _
        simp only [LifecycleState.opensInProgress, hOwner, reduceCtorEq, if_false] at hCount ⊢
        omega
    · exact (Finset.card_erase_le).trans h.bounded
    · exact fun other hOther => h.fresh other (Finset.mem_of_mem_erase hOther)
  · rwa [if_neg hClosed]

/-- Handles come from the registry, which is empty during a clear. -/
theorem Sound.lookup (h : Sound s) (j : Nat) (sessionId : Int) : Sound (s.lookup j sessionId) := by
  unfold LifecycleState.lookup LifecycleState.sessionHandle
  cases s.operations j with
  | some held => exact h
  | none =>
      by_cases hPos : sessionId ≤ 0
      · simp only [hPos, if_true]
        exact h
      · by_cases hMem : sessionId ∈ s.sessions
        · simp only [hPos, hMem, if_false, if_true]
          refine ⟨⟨fun hClear => ?_, h.law.counted⟩, h.bounded, h.fresh⟩
          exact absurd (.inl hMem) (h.law.exclusive hClear sessionId)
        · simp only [hPos, hMem, if_false]
          exact h

theorem Sound.endOperation (h : Sound s) (j : Nat) : Sound (s.endOperation j) := by
  refine ⟨⟨fun hClear sessionId hAlive => ?_, h.law.counted⟩, h.bounded, h.fresh⟩
  apply h.law.exclusive hClear sessionId
  rcases hAlive with hMem | ⟨i, hHeld⟩
  · exact .inl hMem
  · right
    refine ⟨i, ?_⟩
    by_cases hi : i = j
    · rw [hi] at hHeld
      simp [LifecycleState.endOperation] at hHeld
    · simpa [LifecycleState.endOperation, hi] using hHeld

/-- A clear that starts has seen a count of zero. -/
theorem beginClear_cases (s : LifecycleState) :
    s.beginClear = s ∨ s.lockable = true ∧ s.activeMicroscopeSessions = 0 ∧
      s.beginClear = { s with owner := some .clearing } := by
  unfold LifecycleState.beginClear LifecycleState.destructiveAccess
  by_cases hFree : s.owner.isNone = true
  · rw [if_pos hFree]
    by_cases hPoisoned : s.poisoned = true
    · simp [hPoisoned]
    · by_cases hActive : 0 < s.activeMicroscopeSessions
      · simp [hPoisoned, hActive]
      · right
        simp only [hPoisoned, hActive, if_false]
        refine ⟨?_, by omega, rfl⟩
        simpa [LifecycleState.lockable, hPoisoned] using hFree
  · rw [if_neg hFree]
    exact .inl rfl

theorem Sound.beginClear (h : Sound s) (hHeld : NoneHeld s .beginClear) : Sound s.beginClear := by
  rcases beginClear_cases s with hSame | ⟨hLock, hZero, hClear⟩
  · rwa [hSame]
  · have hCount := h.law.counted
    simp only [hZero, LifecycleState.opensInProgress, (owner_of_lockable hLock).1, reduceCtorEq,
      if_false] at hCount
    have hEmpty : s.sessions = ∅ := Finset.card_eq_zero.1 (by omega)
    rw [hClear]
    refine ⟨⟨fun _ sessionId hAlive => ?_, ?_⟩, h.bounded, h.fresh⟩
    · rcases hAlive with hMem | ⟨j, hHandle⟩
      · rw [show s.sessions = ∅ from hEmpty] at hMem
        cases hMem
      · rw [show s.operations j = none from hHeld hLock hZero j] at hHandle
        cases hHandle
    · show s.activeMicroscopeSessions = s.sessions.card + _
      rw [hZero, hEmpty]
      rfl

theorem Sound.endClear (h : Sound s) (panicked : Bool) : Sound (s.endClear panicked) := by
  unfold LifecycleState.endClear
  by_cases hClear : s.owner = some .clearing
  · rw [if_pos hClear]
    refine ⟨⟨(fun hNone => by cases hNone), ?_⟩, h.bounded, h.fresh⟩
    have hCount := h.law.counted
    simpa [LifecycleState.opensInProgress, hClear] using hCount
  · rwa [if_neg hClear]

theorem Sound.apply (h : Sound s) (event : LifecycleEvent) (hHeld : NoneHeld s event) :
    Sound (applyEvent s event) := by
  cases event with
  | beginOpen => exact h.beginOpen
  | finishOpen outcome =>
      by_cases hOwner : s.owner = some .opening
      · cases outcome with
        | built => exact h.built hOwner
        | failed =>
            show Sound (s.finishOpen .failed)
            unfold LifecycleState.finishOpen
            rw [if_pos hOwner]
            exact h.openFailed hOwner s.nextSessionId le_rfl
        | panicked => exact absurd rfl (hHeld hOwner)
      · show Sound (s.finishOpen outcome)
        unfold LifecycleState.finishOpen
        rwa [if_neg hOwner]
  | close sessionId => exact h.close sessionId
  | lookup j sessionId => exact h.lookup j sessionId
  | endOperation j => exact h.endOperation j
  | beginClear => exact h.beginClear hHeld
  | endClear panicked => exact h.endClear panicked

/-- A step out of a sound state that keeps the law meets the condition. -/
theorem noneHeld_of_law (h : Sound s) (event : LifecycleEvent)
    (hLaw : ClearExcludesSessions (applyEvent s event)) : NoneHeld s event := by
  cases event with
  | beginClear =>
      intro hLock hZero j
      have hFree : s.owner.isNone = true := by rw [(owner_of_lockable hLock).1]; rfl
      have hClear : s.beginClear = { s with owner := some .clearing } := by
        simp [LifecycleState.beginClear, LifecycleState.destructiveAccess, hFree,
          (owner_of_lockable hLock).2, hZero]
      have hExclusive := hLaw.exclusive
      rw [show applyEvent s .beginClear = _ from hClear] at hExclusive
      cases hHandle : s.operations j with
      | none => rfl
      | some sessionId => exact absurd (.inr ⟨j, hHandle⟩) (hExclusive rfl sessionId)
  | finishOpen outcome =>
      rintro hOwner rfl
      have hCounted := hLaw.counted
      have hPanicked : s.finishOpen .panicked = { s with owner := none, poisoned := true } := by
        simp [LifecycleState.finishOpen, hOwner]
      rw [show applyEvent s (.finishOpen .panicked) = _ from hPanicked] at hCounted
      have hBefore := h.count_opening hOwner
      simp only [LifecycleState.opensInProgress, reduceCtorEq, if_false] at hCounted
      omega
  | _ => trivial

end Steps

/-- A run excludes sessions from clears, with the right count, in each of its
states exactly when every clear starts with no handle held and no open panics. -/
theorem clear_excludes_sessions_iff (events : List LifecycleEvent) :
    (∀ k, ClearExcludesSessions ((events.take k).foldl applyEvent .initial)) ↔
      Meets applyEvent NoneHeld .initial events := by
  refine always_iff_meets ?_ ?_ ?_ sound_initial events
  · exact fun s event hInv hHeld => hInv.apply event hHeld
  · exact fun s hInv => hInv.law
  · exact fun s event hInv hLaw => noneHeld_of_law hInv event hLaw

/-- An operation has the handle of a session that is closed before the clear. -/
def clearDuringOperation : List LifecycleEvent :=
  [.beginOpen, .finishOpen .built, .lookup 0 1, .close 1, .beginClear]

/-- The clear runs while the closed session is in use. -/
theorem clearDuringOperation_alive :
    ¬ ∀ k, ClearExcludesSessions ((clearDuringOperation.take k).foldl applyEvent .initial) := by
  intro h
  have hClear : ((clearDuringOperation.take 5).foldl applyEvent .initial).owner =
      some .clearing := by
    decide
  have hHeld : ((clearDuringOperation.take 5).foldl applyEvent .initial).operations 0 =
      some 1 := by
    decide
  exact (h 5).exclusive hClear 1 (.inr ⟨0, hHeld⟩)

end FrameScope.Ports.StorageLifecycleLaw
