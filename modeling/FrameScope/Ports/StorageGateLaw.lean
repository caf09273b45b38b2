import FrameScope.Verified.Occupancy
import FrameScope.Ports.SessionControllerLaw

/-!
# When the storage gate reflects the controller

The gate counts the session transitions exactly, so a storage operation never
runs beside one.  Whether a session is there is read before the last section of
a transition and stored in it, and the answer is out of date when sessions have
come and gone an odd number of times between.
-/

namespace FrameScope.Ports.StorageGateLaw

open FrameScope.Verified.Runs
open FrameScope.Verified.Occupancy
open FrameScope.Ports.SessionController
open FrameScope.Ports.SessionControllerLaw

/-- No session transition is in flight. -/
def NoTransition (s : ControllerState) : Prop := ∀ k, inTransition (s.calls k) = false

/-- What is claimed of each state. -/
structure GateReflects (s : ControllerState) : Prop where
  active : NoTransition s → s.gate.activeSession = s.snapshot.isSome
  exclusive : ∀ j, s.storage j = .running →
    NoTransition s ∧ s.snapshot = none ∧ ∀ i, s.storage i = .running → i = j

/-- The last transition in flight ends only when, since it looked, the session
has come and gone an even number of times. -/
def SeenInTime (s : ControllerState) : ControllerEvent → Prop
  | .advance k => ∀ hasActiveSession seen result,
      s.calls k = .ending hasActiveSession seen result →
        (∀ j, j ≠ k → inTransition (s.calls j) = false) → Even (s.changes - seen)
  | _ => True

variable {s t : ControllerState} {k : Nat} {p : CallPhase}

/-- Which calls are in a session transition. -/
def transitions (s : ControllerState) : Nat → Bool := fun k => inTransition (s.calls k)

theorem transitions_update (hCalls : t.calls = Function.update s.calls k p) :
    transitions t = Function.update (transitions s) k (inTransition p) := by
  funext i
  unfold transitions
  rw [hCalls]
  by_cases hi : i = k
  · rw [hi, Function.update_self, Function.update_self]
  · rw [Function.update_of_ne hi, Function.update_of_ne hi]

/-- Each change of the snapshot from or to a session is counted. -/
def CountsChanges (s t : ControllerState) : Prop :=
  t.snapshot.isSome = s.snapshot.isSome ∧ t.changes = s.changes ∨
    t.snapshot.isSome = !s.snapshot.isSome ∧ t.changes = s.changes + 1

/-- What holds in every state of a run that meets the condition. -/
structure Gated (s : ControllerState) : Prop where
  counted : Counted (transitions s) s.gate.sessionTransitions
  seen : ∀ k hasActiveSession seen result, s.calls k = .ending hasActiveSession seen result →
    seen ≤ s.changes ∧ (hasActiveSession = s.snapshot.isSome ↔ Even (s.changes - seen))
  active : NoTransition s → s.gate.activeSession = s.snapshot.isSome
  owned : s.gate.storageOperationActive = true ↔ ∃ j, s.storage j = .running
  single : ∀ i j, s.storage i = .running → s.storage j = .running → i = j
  exclusive : s.gate.storageOperationActive = true → NoTransition s ∧ s.snapshot = none

theorem gated_initial : Gated .initial where
  counted := counted_none
  seen := fun _ _ _ _ h => by cases h
  active := fun _ => rfl
  owned := by simp [ControllerState.initial, MicroscopeStorageGate.initial]
  single := fun _ _ h => by cases h
  exclusive := fun h => by cases h

theorem Gated.reflects (h : Gated s) : GateReflects s where
  active := h.active
  exclusive := by
    intro j hRunning
    obtain ⟨hNone, hShown⟩ := h.exclusive (h.owned.2 ⟨j, hRunning⟩)
    exact ⟨hNone, hShown, fun i hOther => h.single i j hOther hRunning⟩

/-- An answer stays right exactly through an even number of changes. -/
theorem seen_changes {seen : Nat} {hasActiveSession : Bool} (hChange : CountsChanges s t)
    (hSeen : seen ≤ s.changes ∧ (hasActiveSession = s.snapshot.isSome ↔ Even (s.changes - seen))) :
    seen ≤ t.changes ∧ (hasActiveSession = t.snapshot.isSome ↔ Even (t.changes - seen)) := by
  obtain ⟨hLe, hIff⟩ := hSeen
  rcases hChange with ⟨hSame, hCount⟩ | ⟨hFlip, hCount⟩
  · rw [hSame, hCount]
    exact ⟨hLe, hIff⟩
  · have hNext : s.changes + 1 - seen = s.changes - seen + 1 := by omega
    refine ⟨by omega, ?_⟩
    rw [hFlip, hCount, hNext, Nat.even_add_one, ← hIff]
    cases hasActiveSession <;> cases s.snapshot.isSome <;> decide

/-- A call goes on without entering or leaving a transition.  Outside of
transitions the snapshot only goes from session to session. -/
theorem Gated.keep (h : Gated s) (hCalls : t.calls = Function.update s.calls k p)
    (hGate : t.gate = s.gate) (hStorage : t.storage = s.storage)
    (hPhase : inTransition p = inTransition (s.calls k))
    (hReads : ∀ hasActiveSession seen result, p = .ending hasActiveSession seen result →
      hasActiveSession = t.snapshot.isSome ∧ seen = t.changes)
    (hChange : CountsChanges s t)
    (hOutside : inTransition (s.calls k) = true ∨ t.snapshot.isSome = s.snapshot.isSome) :
    Gated t := by
  have hSame : transitions t = transitions s := by
    rw [transitions_update hCalls, hPhase]
    exact Function.update_eq_self k (transitions s)
  have hNone : NoTransition t ↔ NoTransition s := by
    show (∀ i, transitions t i = false) ↔ ∀ i, transitions s i = false
    rw [hSame]
  have hShown : NoTransition s → t.snapshot.isSome = s.snapshot.isSome := by
    intro hIdle
    refine hOutside.resolve_left ?_
    rw [hIdle k]
    simp
  constructor
  · rw [hSame, hGate]
    exact h.counted
  · intro i hasActiveSession seen result hEnding
    rw [hCalls] at hEnding
    by_cases hi : i = k
    · rw [hi, Function.update_self] at hEnding
      obtain ⟨rfl, rfl⟩ := hReads _ _ _ hEnding
      simp
    · rw [Function.update_of_ne hi] at hEnding
      exact seen_changes hChange (h.seen i _ _ _ hEnding)
  · intro hIdle
    rw [hGate, hShown (hNone.1 hIdle)]
    exact h.active (hNone.1 hIdle)
  · rw [hGate, hStorage]
    exact h.owned
  · rw [hStorage]
    exact h.single
  · rw [hGate]
    intro hOwned
    obtain ⟨hIdle, hEmpty⟩ := h.exclusive hOwned
    refine ⟨hNone.2 hIdle, ?_⟩
    have hStill := hShown hIdle
    rw [hEmpty] at hStill
    exact Option.isNone_iff_eq_none.1 (by simpa using hStill)

theorem publish_counts (s : ControllerState) (k : Nat) (session : MicroscopeSessionSnapshot)
    (engine : String) (p : CallPhase) : CountsChanges s ((s.publish k session engine).setCall k p) := by
  unfold CountsChanges ControllerState.publish ControllerState.setCall
  cases s.snapshot with
  | none => exact .inr ⟨rfl, rfl⟩
  | some shown => exact .inl ⟨rfl, rfl⟩

theorem detach_counts (s : ControllerState) (k : Nat) (p : CallPhase) :
    CountsChanges s (s.detach.setCall k p) := by
  unfold CountsChanges ControllerState.detach ControllerState.setCall
  cases s.snapshot with
  | none => exact .inl ⟨rfl, rfl⟩
  | some shown => exact .inr ⟨rfl, rfl⟩

theorem beginSessionTransition_eq_some {gate next : MicroscopeStorageGate}
    (h : gate.beginSessionTransition = some next) :
    gate.storageOperationActive = false ∧
      next = { gate with sessionTransitions := gate.sessionTransitions + 1 } := by
  unfold MicroscopeStorageGate.beginSessionTransition at h
  cases hActive : gate.storageOperationActive with
  | false =>
      rw [hActive] at h
      exact ⟨rfl, (Option.some.inj h).symm⟩
  | true =>
      rw [hActive] at h
      cases h

theorem Gated.begins (h : Gated s) {gate : MicroscopeStorageGate} (hIdle : s.calls k = .idle)
    (hGate : s.gate.beginSessionTransition = some gate) (hPhase : inTransition p = true)
    (hReads : ∀ hasActiveSession seen result, p ≠ .ending hasActiveSession seen result) :
    Gated ({ s with gate := gate }.setCall k p) := by
  obtain ⟨hFree, rfl⟩ := beginSessionTransition_eq_some hGate
  set t := ControllerState.setCall { s with gate := { s.gate with
    sessionTransitions := s.gate.sessionTransitions + 1 } } k p with ht
  have hCalls : t.calls = Function.update s.calls k p := rfl
  have hBusy : ¬ NoTransition t := by
    intro hNone
    have hIn := hNone k
    rw [hCalls, Function.update_self, hPhase] at hIn
    cases hIn
  constructor
  · rw [transitions_update hCalls, hPhase]
    exact h.counted.enter (by show inTransition (s.calls k) = false; rw [hIdle]; rfl)
  · intro i hasActiveSession seen result hEnding
    rw [hCalls] at hEnding
    by_cases hi : i = k
    · rw [hi, Function.update_self] at hEnding
      exact absurd hEnding (hReads _ _ _)
    · rw [Function.update_of_ne hi] at hEnding
      exact h.seen i _ _ _ hEnding
  · exact fun hNone => absurd hNone hBusy
  · exact h.owned
  · exact h.single
  · intro hOwned
    rw [show t.gate.storageOperationActive = s.gate.storageOperationActive from rfl, hFree] at hOwned
    cases hOwned

/-- The count is positive in a transition, so the gate can end it. -/
theorem Gated.endSessionTransition (h : Gated s) (hIn : inTransition (s.calls k) = true)
    (hasActiveSession : Bool) :
    s.gate.endSessionTransition hasActiveSession = some { s.gate with
      sessionTransitions := s.gate.sessionTransitions - 1
      activeSession := hasActiveSession } := by
  unfold MicroscopeStorageGate.endSessionTransition
  have hInside : transitions s k = true := hIn
  exact if_pos (h.counted.pos hInside)

theorem Gated.ends (h : Gated s) {hasActiveSession : Bool} {seen : Nat} {result : CallResult}
    (hEnding : s.calls k = .ending hasActiveSession seen result)
    (hSeen : SeenInTime s (.advance k)) : Gated (s.endTransition k hasActiveSession result) := by
  have hIn : inTransition (s.calls k) = true := by rw [hEnding]; rfl
  have hIs : s.endTransition k hasActiveSession result = { s with gate := { s.gate with
      sessionTransitions := s.gate.sessionTransitions - 1
      activeSession := hasActiveSession } }.setCall k (.returned result) := by
    unfold ControllerState.endTransition
    rw [h.endSessionTransition hIn]
  rw [hIs]
  set t := ControllerState.setCall { s with gate := { s.gate with
    sessionTransitions := s.gate.sessionTransitions - 1
    activeSession := hasActiveSession } } k (.returned result) with ht
  have hCalls : t.calls = Function.update s.calls k (.returned result) := rfl
  constructor
  · rw [transitions_update hCalls]
    exact h.counted.leave hIn
  · intro i active seen' result' hOther
    rw [hCalls] at hOther
    by_cases hi : i = k
    · rw [hi, Function.update_self] at hOther
      cases hOther
    · rw [Function.update_of_ne hi] at hOther
      exact h.seen i _ _ _ hOther
  · intro hNone
    show hasActiveSession = s.snapshot.isSome
    have hLast : ∀ j, j ≠ k → inTransition (s.calls j) = false := by
      intro j hj
      have hOut := hNone j
      rwa [hCalls, Function.update_of_ne hj] at hOut
    exact (h.seen k _ _ _ hEnding).2.2 (hSeen _ _ _ hEnding hLast)
  · exact h.owned
  · exact h.single
  · intro hOwned
    have hOut := (h.exclusive hOwned).1 k
    rw [hIn] at hOut
    cases hOut

theorem Gated.move (h : Gated s) (hMove : Move s k t)
    (hSeen : SeenInTime s (.advance k)) : Gated t := by
  have hStays : CountsChanges s s := .inl ⟨rfl, rfl⟩
  cases hMove with
  | passes p' hPasses =>
      exact h.keep rfl rfl rfl hPasses.transition hPasses.reads hStays (.inr rfl)
  | begins p' gate hIdle hGate hPhase =>
      rcases hPhase with rfl | rfl | ⟨sessionId, rfl⟩ <;>
        exact h.begins hIdle hGate rfl (fun _ _ _ hIs => by cases hIs)
  | takesRevision next p' hNext hPhase =>
      rcases hPhase with ⟨hIs, rfl⟩ | ⟨sessionId, hIs, rfl⟩ <;>
        exact h.keep rfl rfl rfl (by rw [hIs]; rfl) (fun _ _ _ hEnds => by cases hEnds) hStays
          (.inr rfl)
  | invalidates hClosing =>
      exact h.keep rfl rfl rfl (by rw [hClosing]; rfl) (fun _ _ _ hEnds => by cases hEnds) hStays
        (.inr rfl)
  | opensNative revision currentFrame engine hIssued =>
      exact h.keep rfl rfl rfl (by rw [hIssued]; rfl) (fun _ _ _ hEnds => by cases hEnds) hStays
        (.inr rfl)
  | movesNative revision session engine hNavigating hOpen =>
      exact h.keep rfl rfl rfl (by rw [hNavigating]; rfl) (fun _ _ _ hEnds => by cases hEnds) hStays
        (.inr rfl)
  | showsOpened session engine hOpened =>
      have hIn : inTransition (s.calls k) = true := by rw [hOpened]; rfl
      have hChange := publish_counts s k session engine
      rcases afterCommit_cases s.shownSession session (.success session engine) with
        hIs | ⟨sessionId, -, -, hIs⟩ <;> rw [hIs] <;>
        exact h.keep rfl rfl rfl (by rw [hIn]; rfl) (fun _ _ _ hEnds => by cases hEnds)
          (hChange _) (.inl hIn)
  | showsNavigated session engine hNavigated hShown =>
      have hSome : s.snapshot.isSome = true := by
        have hIsSome := congrArg Option.isSome hShown
        simpa [ControllerState.shownSession] using hIsSome
      exact h.keep rfl rfl rfl (by rw [hNavigated]; rfl) (fun _ _ _ hEnds => by cases hEnds)
        (publish_counts ..) (.inr hSome.symm)
  | detaches sessionId hPhase hShown =>
      have hIn : inTransition (s.calls k) = true := by
        rcases hPhase with hIs | ⟨asked, hIs⟩ <;> rw [hIs] <;> rfl
      exact h.keep rfl rfl rfl (by rw [hIn]; rfl) (fun _ _ _ hEnds => by cases hEnds)
        (detach_counts ..) (.inl hIn)
  | detachesNothing hPhase hShown =>
      have hIn : inTransition (s.calls k) = true := by rw [hPhase]; rfl
      exact h.keep rfl rfl rfl (by rw [hIn]; rfl) (fun _ _ _ hEnds => by cases hEnds)
        (detach_counts ..) (.inl hIn)
  | closesNative sessionId result hPhase hResult =>
      have hIn : inTransition (s.calls k) = true := by
        rcases hPhase with hIs | ⟨result, hIs⟩ <;> rw [hIs] <;> rfl
      exact h.keep rfl rfl rfl (by rw [hIn]; rfl) (fun _ _ _ hEnds => by cases hEnds) hStays
        (.inr rfl)
  | ends hasActiveSession seen result hEnding => exact h.ends hEnding hSeen

theorem beginStorage_eq_some {gate next : MicroscopeStorageGate}
    (h : gate.beginStorage = some next) :
    gate.activeSession = false ∧ gate.sessionTransitions = 0 ∧
      gate.storageOperationActive = false ∧ next = { gate with storageOperationActive := true } := by
  unfold MicroscopeStorageGate.beginStorage at h
  by_cases hBusy : (gate.activeSession || decide (0 < gate.sessionTransitions) ||
      gate.storageOperationActive) = true
  · rw [if_pos hBusy] at h
    cases h
  · rw [if_neg hBusy] at h
    simp only [Bool.or_eq_true, decide_eq_true_eq, not_or, Bool.not_eq_true] at hBusy
    obtain ⟨⟨hActive, hCount⟩, hOwned⟩ := hBusy
    exact ⟨hActive, by omega, hOwned, (Option.some.inj h).symm⟩

theorem Gated.storage (h : Gated s) (hMove : StorageMove s t) : Gated t := by
  cases hMove with
  | refused j hIdle =>
      have hRunning : ∀ i, Function.update s.storage j (.returned false) i = .running ↔
          s.storage i = .running := by
        intro i
        by_cases hi : i = j
        · simp [hi, hIdle]
        · simp [hi]
      refine ⟨h.counted, h.seen, h.active, ?_, ?_, h.exclusive⟩
      · simpa only [hRunning] using h.owned
      · simpa only [hRunning] using h.single
  | starts j gate hGate =>
      obtain ⟨hActive, hCount, hFree, rfl⟩ := beginStorage_eq_some hGate
      have hNone : NoTransition s := h.counted.eq_zero_iff.1 hCount
      have hEmpty : s.snapshot = none := by
        have hFlag := h.active hNone
        rw [hActive] at hFlag
        exact Option.isNone_iff_eq_none.1 (by simpa using hFlag.symm)
      have hNotRunning : ∀ i, s.storage i ≠ .running := by
        intro i hRunning
        rw [h.owned.2 ⟨i, hRunning⟩] at hFree
        cases hFree
      have hOnly : ∀ i, Function.update s.storage j .running i = .running ↔ i = j := by
        intro i
        by_cases hi : i = j
        · simp [hi]
        · simp [hi, hNotRunning i]
      refine ⟨h.counted, h.seen, h.active, ?_, ?_, fun _ => ⟨hNone, hEmpty⟩⟩
      · simp [hOnly]
      · intro i i' hi hi'
        rw [(hOnly i).1 hi, (hOnly i').1 hi']
  | finishes j hRunning =>
      have hNotRunning : ∀ i, Function.update s.storage j (.returned true) i ≠ .running := by
        intro i hOther
        by_cases hi : i = j
        · rw [hi, Function.update_self] at hOther
          cases hOther
        · rw [Function.update_of_ne hi] at hOther
          exact hi (h.single i j hOther hRunning)
      refine ⟨h.counted, h.seen, h.active, ?_, ?_, fun hOwned => by cases hOwned⟩
      · simp [MicroscopeStorageGate.endStorage, hNotRunning]
      · exact fun i _ hi => absurd hi (hNotRunning i)

theorem Gated.apply (h : Gated s) (event : ControllerEvent) (hSeen : SeenInTime s event) :
    Gated (applyEvent s event) := by
  rcases applyEvent_move s event with hSame | ⟨k, hMove, hEnds⟩ | hStorage
  · rwa [hSame]
  · refine h.move hMove ?_
    intro hasActiveSession seen result hEnding hLast
    rw [hEnds _ _ _ hEnding] at hSeen
    exact hSeen _ _ _ hEnding hLast
  · exact h.storage hStorage

/-- A step that leaves the gate right meets the condition. -/
theorem seenInTime_of_reflects (h : Gated s) (event : ControllerEvent)
    (hReflects : GateReflects (applyEvent s event)) : SeenInTime s event := by
  cases event with
  | advance k =>
      intro hasActiveSession seen result hEnding hLast
      have hIs : s.advance k = { s with gate := { s.gate with
          sessionTransitions := s.gate.sessionTransitions - 1
          activeSession := hasActiveSession } }.setCall k (.returned result) := by
        unfold ControllerState.advance
        rw [hEnding]
        show s.endTransition k hasActiveSession result = _
        unfold ControllerState.endTransition
        rw [h.endSessionTransition (k := k) (by rw [hEnding]; rfl)]
      have hActive := hReflects.active
      rw [show applyEvent s (.advance k) = _ from hIs] at hActive
      apply (h.seen k _ _ _ hEnding).2.1
      apply hActive
      intro j
      show inTransition (Function.update s.calls k _ j) = false
      by_cases hj : j = k
      · rw [hj, Function.update_self]
        rfl
      · rw [Function.update_of_ne hj]
        exact hLast j hj
  | _ => trivial

/-- The gate reflects the controller in every state of a run exactly when each
transition that ends last has seen the session in time. -/
theorem gate_reflects_iff (events : List ControllerEvent) :
    (∀ n, GateReflects (reached (events.take n))) ↔
      Meets applyEvent SeenInTime .initial events := by
  refine always_iff_meets ?_ ?_ ?_ gated_initial events
  · exact fun s event h hSeen => h.apply event hSeen
  · exact fun s h => h.reflects
  · exact fun s event h hReflects => seenInTime_of_reflects h event hReflects

/-- A `closeCurrent` looks before an `open` commits and ends after it. -/
def closeEndsLast : List ControllerEvent :=
  [.start 0 .closeCurrent, .advance 0, .advance 0, .advance 0,
    .start 1 .openSession, .advance 1, .openReturns 1 (.built (some 0) "engine"), .advance 1,
    .advance 1, .advance 1, .advance 0, .startStorage 0]

/-- The storage operation runs while the session is there. -/
theorem closeEndsLast_runs : ¬ ∀ n, GateReflects (reached (closeEndsLast.take n)) := by
  intro h
  have hRunning : (reached (closeEndsLast.take 12)).storage 0 = .running := by decide
  have hShown : (reached (closeEndsLast.take 12)).snapshot ≠ none := by decide
  exact hShown ((h 12).exclusive 0 hRunning).2.1

end FrameScope.Ports.StorageGateLaw
