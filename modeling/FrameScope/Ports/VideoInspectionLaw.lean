import FrameScope.Ports.VideoInspection
import FrameScope.Verified.Runs

/-!
# Which inspection sets the video state

`publishIfCurrent` compares the generation and updates the state in two steps.
A call of the main thread that advances the generation between the two is
followed by the update of an inspection that it has superseded.  In a run that
never advances the generation there, an update is of the inspection of its own
generation, and a cancelled inspection stays cancelled.
-/

namespace FrameScope.Ports.VideoInspectionLaw

open FrameScope.Verified.Runs
open FrameScope.Ports.VideoInspection

section Law

variable {ν : Type}

/-- Every update by an inspection came in its own generation, and after a
cancellation with no selection since the state is `Cancelled`. -/
structure FollowsNewest (s : InspectionState ν) : Prop where
  own : ∀ update ∈ s.publications, update.inspection = update.generation
  cancelled : s.cancelled = true → s.videoState = .cancelled

/-- A call that advances the generation comes when no callback is between its
check and its update. -/
def AdvancesClear (s : InspectionState ν) (event : InspectionEvent ν) : Prop :=
  ∀ call, event = .call call → s.main = .idle →
    ∀ inspection progress, s.inspections inspection ≠ .publishing progress

/-! ## The invariant -/

/-- What the main thread may be at after a cancellation. -/
def QuietMain : MainPhase ν → Prop
  | .idle => True
  | .advanced .onPickerStarted => False
  | .advanced .onVideoSelected => False
  | .advanced _ => True
  | .delivering _ _ => False
  | .clearing => False

structure Inv (s : InspectionState ν) : Prop where
  future : ∀ g, s.inspectionGeneration < g → s.inspections g = .absent
  advanced : ∀ call, s.main = .advanced call → s.inspections s.inspectionGeneration = .absent
  publishing : ∀ g progress, s.inspections g = .publishing progress → g = s.inspectionGeneration
  delivering : ∀ g result, s.main = .delivering g result →
    g = s.inspectionGeneration ∧ s.inspections g ≠ .absent
  own : ∀ update ∈ s.publications, update.inspection = update.generation
  cancelled : s.cancelled = true → s.videoState = .cancelled ∧
    s.inspections s.inspectionGeneration = .absent ∧ QuietMain s.main

theorem inv_initial : Inv (initial : InspectionState ν) := by
  constructor
  · exact fun _ _ => rfl
  · exact fun _ _ => rfl
  · intro g progress hPhase
    cases hPhase
  · intro g result hMain
    cases hMain
  · intro update hUpdate
    cases hUpdate
  · intro hCancelled
    cases hCancelled

theorem Inv.followsNewest {s : InspectionState ν} (h : Inv s) : FollowsNewest s :=
  ⟨h.own, fun hCancelled => (h.cancelled hCancelled).1⟩

@[simp] theorem setInspection_self (s : InspectionState ν) (g : Nat) (phase : InspectPhase ν) :
    (s.setInspection g phase).inspections g = phase := by
  simp [InspectionState.setInspection]

@[simp] theorem setInspection_of_ne (s : InspectionState ν) {g g' : Nat} (h : g' ≠ g)
    (phase : InspectPhase ν) : (s.setInspection g phase).inspections g' = s.inspections g' := by
  simp [InspectionState.setInspection, h]

variable {s : InspectionState ν} {g : Nat} {phase : InspectPhase ν}

/-- An inspection that exists is of no later generation, and nothing is cancelled
when it is of this one. -/
theorem Inv.present (h : Inv s) (hPresent : s.inspections g ≠ .absent) :
    g ≤ s.inspectionGeneration := by
  by_cases hLater : s.inspectionGeneration < g
  · exact absurd (h.future g hLater) hPresent
  · omega

theorem Inv.not_cancelled (h : Inv s) (hPresent : s.inspections s.inspectionGeneration ≠ .absent) :
    s.cancelled = false := by
  cases hCancelled : s.cancelled with
  | false => rfl
  | true => exact absurd (h.cancelled hCancelled).2.1 hPresent

/-- An inspection may go on, to its update only in its own generation. -/
theorem Inv.setInspection (h : Inv s) (hPresent : s.inspections g ≠ .absent)
    (hPhase : phase ≠ .absent)
    (hOwn : ∀ progress, phase = .publishing progress → g = s.inspectionGeneration) :
    Inv (s.setInspection g phase) where
  future := by
    intro g' hLater
    have hKnown := h.present hPresent
    have hOther : g' ≠ g := by
      have hBound : s.inspectionGeneration < g' := hLater
      omega
    rw [setInspection_of_ne s hOther]
    exact h.future g' hLater
  advanced := by
    intro call hMain
    have hAbsent := h.advanced call hMain
    have hOther : s.inspectionGeneration ≠ g := by
      intro hSame
      rw [hSame] at hAbsent
      exact hPresent hAbsent
    show (s.setInspection g phase).inspections s.inspectionGeneration = .absent
    rw [setInspection_of_ne s hOther]
    exact hAbsent
  publishing := by
    intro g' progress hPublishing
    by_cases hSame : g' = g
    · subst hSame
      rw [setInspection_self] at hPublishing
      exact hOwn progress hPublishing
    · rw [setInspection_of_ne s hSame] at hPublishing
      exact h.publishing g' progress hPublishing
  delivering := by
    intro g' result hMain
    obtain ⟨hCurrent, hKnown⟩ := h.delivering g' result hMain
    refine ⟨hCurrent, ?_⟩
    by_cases hSame : g' = g
    · subst hSame
      rw [setInspection_self]
      exact hPhase
    · rw [setInspection_of_ne s hSame]
      exact hKnown
  own := h.own
  cancelled := by
    intro hCancelled
    obtain ⟨hState, hAbsent, hMain⟩ := h.cancelled hCancelled
    have hOther : s.inspectionGeneration ≠ g := by
      intro hSame
      rw [hSame] at hAbsent
      exact hPresent hAbsent
    refine ⟨hState, ?_, hMain⟩
    show (s.setInspection g phase).inspections s.inspectionGeneration = .absent
    rw [setInspection_of_ne s hOther]
    exact hAbsent

/-- The update of the current inspection, when there is one. -/
theorem Inv.publish (h : Inv s) (hPresent : s.inspections s.inspectionGeneration ≠ .absent)
    (hOwn : g = s.inspectionGeneration) (state : VideoInspectionState ν) : Inv (s.publish g state) where
  future := h.future
  advanced := h.advanced
  publishing := h.publishing
  delivering := h.delivering
  own := by
    intro update hUpdate
    cases List.mem_cons.mp hUpdate with
    | inl hNew =>
        rw [hNew]
        exact hOwn
    | inr hOld => exact h.own update hOld
  cancelled := by
    intro hCancelled
    have hNot := h.not_cancelled hPresent
    exact absurd (hNot.symm.trans hCancelled) Bool.false_ne_true

/-! ## What an inspection does -/

theorem after_ne_absent (progress : InspectionProgress) :
    (progress.after : InspectPhase ν) ≠ .absent := by
  cases progress <;> simp [InspectionProgress.after]

theorem after_ne_publishing (progress progress' : InspectionProgress) :
    (progress.after : InspectPhase ν) ≠ .publishing progress' := by
  cases progress <;> simp [InspectionProgress.after]

theorem Inv.advance (h : Inv s) (g : Nat) : Inv (s.advance g) := by
  unfold InspectionState.advance
  cases hPhase : s.inspections g with
  | started => exact h.setInspection (by simp [hPhase]) (by simp) (by simp)
  | opened => exact h.setInspection (by simp [hPhase]) (by simp) (by simp)
  | checking progress =>
      apply h.setInspection (by simp [hPhase])
      · by_cases hCurrent : g = s.inspectionGeneration
        · simp [hCurrent]
        · simp [hCurrent, after_ne_absent]
      · intro progress' hPublishing
        by_cases hCurrent : g = s.inspectionGeneration
        · exact hCurrent
        · rw [if_neg hCurrent] at hPublishing
          exact absurd hPublishing (after_ne_publishing progress progress')
  | publishing progress =>
      have hCurrent := h.publishing g progress hPhase
      have hPresent : s.inspections g ≠ .absent := by simp [hPhase]
      have hPublished : Inv (s.publish g progress.nextState) :=
        h.publish (hCurrent ▸ hPresent) hCurrent progress.nextState
      exact hPublished.setInspection hPresent (after_ne_absent progress)
        fun progress' hSame => absurd hSame (after_ne_publishing progress progress')
  | absent => exact h
  | closing => exact h
  | native => exact h
  | returned result => exact h
  | ended => exact h

theorem Inv.finish (h : Inv s) (g : Nat) (result : InspectResult ν) : Inv (s.finish g result) := by
  unfold InspectionState.finish
  cases hPhase : s.inspections g with
  | started =>
      cases result with
      | success video => exact h
      | failure message diagnostic => exact h.setInspection (by simp [hPhase]) (by simp) (by simp)
  | opened =>
      cases result with
      | success video => exact h
      | failure message diagnostic => exact h.setInspection (by simp [hPhase]) (by simp) (by simp)
  | native => exact h.setInspection (by simp [hPhase]) (by simp) (by simp)
  | absent => exact h
  | closing => exact h
  | checking progress => exact h
  | publishing progress => exact h
  | returned result => exact h
  | ended => exact h

theorem Inv.stop (h : Inv s) (g : Nat) : Inv (s.stop g) := by
  unfold InspectionState.stop
  cases hPhase : s.inspections g with
  | closing => exact h.setInspection (by simp [hPhase]) (by simp) (by simp)
  | started => exact h.setInspection (by simp [hPhase]) (by simp) (by simp)
  | opened => exact h.setInspection (by simp [hPhase]) (by simp) (by simp)
  | native => exact h.setInspection (by simp [hPhase]) (by simp) (by simp)
  | returned result => exact h.setInspection (by simp [hPhase]) (by simp) (by simp)
  | absent => exact h
  | checking progress => exact h
  | publishing progress => exact h
  | ended => exact h

theorem Inv.resume (h : Inv s) (g : Nat) : Inv (s.resume g) := by
  unfold InspectionState.resume
  cases hPhase : s.inspections g with
  | closing =>
      apply h.setInspection (by simp [hPhase])
      · by_cases hCurrent : g = s.inspectionGeneration <;> simp [hCurrent]
      · intro progress
        by_cases hCurrent : g = s.inspectionGeneration <;> simp [hCurrent]
  | absent => exact h
  | started => exact h
  | opened => exact h
  | native => exact h
  | returned result => exact h
  | checking progress => exact h
  | publishing progress => exact h
  | ended => exact h

/-! ## What the main thread does -/

/-- The result of the current inspection may be on its way to the state. -/
theorem Inv.deliver (h : Inv s) (g : Nat) : Inv (s.deliver g) := by
  unfold InspectionState.deliver
  cases hPhase : s.inspections g with
  | returned result =>
      have hPresent : s.inspections g ≠ .absent := by simp [hPhase]
      by_cases hCurrent : g = s.inspectionGeneration
      · have hNot := h.not_cancelled (hCurrent ▸ hPresent)
        show Inv (if g = s.inspectionGeneration then _ else _)
        rw [if_pos hCurrent]
        constructor
        · exact h.future
        · intro call hMain
          cases hMain
        · exact h.publishing
        · intro g' result' hMain
          cases hMain
          exact ⟨hCurrent, hPresent⟩
        · exact h.own
        · intro hCancelled
          exact absurd (hNot.symm.trans hCancelled) Bool.false_ne_true
      · show Inv (if g = s.inspectionGeneration then _ else _)
        rw [if_neg hCurrent]
        exact h.setInspection hPresent (by simp) (by simp)
  | absent => exact h
  | closing => exact h
  | started => exact h
  | checking progress => exact h
  | publishing progress => exact h
  | opened => exact h
  | native => exact h
  | ended => exact h

/-- With no callback before its update, the generation may be advanced. -/
theorem Inv.startCall (h : Inv s) (call : MainCall)
    (hClear : ∀ g progress, s.inspections g ≠ .publishing progress) : Inv (s.startCall call) where
  future := by
    intro g hLater
    apply h.future g
    have hBound : s.inspectionGeneration + 1 < g := hLater
    omega
  advanced := fun _ _ => h.future _ (Nat.lt_succ_self _)
  publishing := fun g progress hPublishing => absurd hPublishing (hClear g progress)
  delivering := by
    intro g result hMain
    cases hMain
  own := h.own
  cancelled := by
    intro hCancelled
    have hBoth : s.cancelled = true ∧ call ≠ .onPickerStarted ∧ call ≠ .onVideoSelected := by
      simpa [InspectionState.startCall] using hCancelled
    refine ⟨(h.cancelled hBoth.1).1, h.future _ (Nat.lt_succ_self _), ?_⟩
    show QuietMain (.advanced call)
    cases call with
    | onPickerStarted => exact absurd rfl hBoth.2.1
    | onVideoSelected => exact absurd rfl hBoth.2.2
    | cancelInspection => trivial
    | onPickerCancelled => trivial
    | onCleared => trivial

/-- The main thread is free again, with the state it leaves. -/
theorem Inv.settle (h : Inv s) {state : VideoInspectionState ν} {cancelled : Bool}
    (hCancelled : cancelled = true → state = .cancelled ∧
      s.inspections s.inspectionGeneration = .absent) :
    Inv { s with videoState := state, main := .idle, cancelled := cancelled } where
  future := h.future
  advanced := by
    intro call hMain
    cases hMain
  publishing := h.publishing
  delivering := by
    intro g result hMain
    cases hMain
  own := h.own
  cancelled := by
    intro hNow
    obtain ⟨hState, hAbsent⟩ := hCancelled hNow
    exact ⟨hState, hAbsent, trivial⟩

/-- The inspection of a new selection is awaited. -/
theorem Inv.begin (h : Inv s) (hMain : s.main = .idle) (hNot : s.cancelled = false) :
    Inv (s.setInspection s.inspectionGeneration .closing) where
  future := by
    intro g' hLater
    have hBound : s.inspectionGeneration < g' := hLater
    have hOther : g' ≠ s.inspectionGeneration := by omega
    rw [setInspection_of_ne s hOther]
    exact h.future g' hLater
  advanced := by
    intro call hAdvanced
    have hIdle : s.main = .advanced call := hAdvanced
    rw [hMain] at hIdle
    cases hIdle
  publishing := by
    intro g' progress hPublishing
    by_cases hSame : g' = s.inspectionGeneration
    · exact hSame
    · rw [setInspection_of_ne s hSame] at hPublishing
      exact h.publishing g' progress hPublishing
  delivering := by
    intro g' result hDelivering
    have hIdle : s.main = .delivering g' result := hDelivering
    rw [hMain] at hIdle
    cases hIdle
  own := h.own
  cancelled := fun hCancelled => absurd (hNot.symm.trans hCancelled) Bool.false_ne_true

theorem Inv.finishCall (h : Inv s) (call : MainCall) (hMain : s.main = .advanced call) :
    Inv (s.finishCall call) := by
  have hAbsent := h.advanced call hMain
  cases call with
  | onPickerStarted =>
      apply h.settle
      intro hCancelled
      have hQuiet := (h.cancelled hCancelled).2.2
      rw [hMain] at hQuiet
      exact hQuiet.elim
  | onVideoSelected =>
      have hNot : s.cancelled = false := by
        cases hCancelled : s.cancelled with
        | false => rfl
        | true =>
            have hQuiet := (h.cancelled hCancelled).2.2
            rw [hMain] at hQuiet
            exact hQuiet.elim
      have hKeeps : Inv { s with videoState := .opening, main := .idle, cancelled := s.cancelled } :=
        h.settle fun hCancelled => absurd (hNot.symm.trans hCancelled) Bool.false_ne_true
      exact hKeeps.begin rfl hNot
  | cancelInspection => exact h.settle fun _ => ⟨rfl, hAbsent⟩
  | onPickerCancelled => exact h.settle fun _ => ⟨rfl, hAbsent⟩
  | onCleared => exact h.settle fun hCancelled => ⟨(h.cancelled hCancelled).1, hAbsent⟩

theorem Inv.update (h : Inv s) : Inv s.update := by
  unfold InspectionState.update
  cases hMain : s.main with
  | idle => exact h
  | advanced call => exact h.finishCall call hMain
  | delivering g result =>
      obtain ⟨hCurrent, hPresent⟩ := h.delivering g result hMain
      have hNot := h.not_cancelled (hCurrent ▸ hPresent)
      have hPublished : Inv (s.publish g result.nextState) :=
        h.publish (hCurrent ▸ hPresent) hCurrent result.nextState
      have hEnded : Inv ((s.publish g result.nextState).setInspection g .ended) :=
        hPublished.setInspection hPresent (by simp) (by simp)
      exact hEnded.settle fun hCancelled => absurd (hNot.symm.trans hCancelled) Bool.false_ne_true
  | clearing =>
      apply h.settle
      intro hCancelled
      have hQuiet := (h.cancelled hCancelled).2.2
      rw [hMain] at hQuiet
      exact hQuiet.elim

theorem Inv.clearError (h : Inv s) (hMain : s.main = .idle) (sessionError : Bool) :
    Inv (s.clearError sessionError) := by
  unfold InspectionState.clearError
  by_cases hClean : s.videoState.isError = false
  · rw [if_pos hClean]
    exact h
  · have hNot : s.cancelled ≠ true := by
      intro hCancelled
      apply hClean
      rw [(h.cancelled hCancelled).1]
      rfl
    rw [if_neg hClean]
    by_cases hSession : sessionError = true
    · rw [if_pos hSession]
      constructor
      · exact h.future
      · intro call hNow
        cases hNow
      · exact h.publishing
      · intro g result hNow
        cases hNow
      · exact h.own
      · exact fun hCancelled => absurd hCancelled hNot
    · rw [if_neg hSession]
      have hKeeps : Inv { s with videoState := .idle, main := .idle, cancelled := s.cancelled } :=
        h.settle fun hCancelled => absurd hCancelled hNot
      rw [← hMain] at hKeeps
      exact hKeeps

/-! ## Runs -/

theorem Inv.step (s : InspectionState ν) (event : InspectionEvent ν) (h : Inv s)
    (hClear : AdvancesClear s event) : Inv (s.step event) := by
  unfold InspectionState.step
  cases event with
  | call call =>
      cases hMain : s.main with
      | idle => exact h.startCall call (hClear call rfl hMain)
      | advanced other => exact h
      | delivering g result => exact h
      | clearing => exact h
  | update => exact h.update
  | clearError sessionError =>
      cases hMain : s.main with
      | idle => exact h.clearError hMain sessionError
      | advanced other => exact h
      | delivering g result => exact h
      | clearing => exact h
  | resume g =>
      cases s.main with
      | idle => exact h.resume g
      | advanced other => exact h
      | delivering g' result => exact h
      | clearing => exact h
  | deliver g =>
      cases s.main with
      | idle => exact h.deliver g
      | advanced other => exact h
      | delivering g' result => exact h
      | clearing => exact h
  | advance g => exact h.advance g
  | finish g result => exact h.finish g result
  | stop g => exact h.stop g

/-- When the generation is never advanced between the check and the update of a
callback, no inspection updates the state once it is superseded, and a cancelled
one stays cancelled. -/
theorem followsNewest_of_clear {events : List (InspectionEvent ν)}
    (hClear : Meets InspectionState.step AdvancesClear initial events) :
    FollowsNewest (events.foldl InspectionState.step initial) :=
  (run_invariant Inv.step inv_initial hClear).followsNewest

end Law

/-! ## Runs on a fixed input -/

/-- A video is selected and its inspection has passed the check of its first callback. -/
def checked : List (InspectionEvent Nat) :=
  [.call .onVideoSelected, .update, .resume 1, .advance 1, .advance 1]

/-- The callback has ended. -/
def published : List (InspectionEvent Nat) := checked ++ [.advance 1]

/-- The callback ends before the user cancels. -/
def cancelledAfter : List (InspectionEvent Nat) :=
  published ++ [.call .cancelInspection, .update, .stop 1]

/-- The user cancels before the callback ends. -/
def cancelledBetween : List (InspectionEvent Nat) :=
  checked ++ [.call .cancelInspection, .update, .advance 1, .stop 1]

theorem meets_cancelledAfter : Meets InspectionState.step AdvancesClear initial cancelledAfter := by
  have hWork : ∀ (s : InspectionState Nat) (event : InspectionEvent Nat),
      (∀ call, event ≠ .call call) → AdvancesClear s event :=
    fun s event hEvent call hCall => absurd hCall (hEvent call)
  have hFirst : AdvancesClear (initial : InspectionState Nat) (.call .onVideoSelected) := by
    intro call hCall hMain g progress hPhase
    cases hPhase
  have hSecond : AdvancesClear (published.foldl InspectionState.step initial)
      (.call .cancelInspection) := by
    intro call hCall hMain g progress hPhase
    have hOpened : (published.foldl InspectionState.step initial).inspections 1 = .opened := by rfl
    by_cases hOne : g = 1
    · rw [hOne, hOpened] at hPhase
      cases hPhase
    · simp [published, checked, initial, InspectionState.step, InspectionState.startCall,
        InspectionState.update, InspectionState.finishCall, InspectionState.resume,
        InspectionState.advance, InspectionState.setInspection, InspectionState.publish, hOne] at hPhase
  exact ⟨hFirst, hWork _ _ (by simp), hWork _ _ (by simp), hWork _ _ (by simp), hWork _ _ (by simp),
    hWork _ _ (by simp), hSecond, hWork _ _ (by simp), hWork _ _ (by simp), trivial⟩

theorem followsNewest_cancelledAfter :
    FollowsNewest (cancelledAfter.foldl InspectionState.step initial) ∧
      (cancelledAfter.foldl InspectionState.step initial).cancelled = true :=
  ⟨followsNewest_of_clear meets_cancelledAfter, rfl⟩

/-- The callback of the cancelled inspection sets the state to `Opening`, and no
inspection is left to change it. -/
theorem cancelled_then_opening :
    ¬ FollowsNewest (cancelledBetween.foldl InspectionState.step initial) ∧
      (cancelledBetween.foldl InspectionState.step initial).cancelled = true ∧
      (cancelledBetween.foldl InspectionState.step initial).videoState = .opening ∧
      (cancelledBetween.foldl InspectionState.step initial).main = .idle ∧
      (cancelledBetween.foldl InspectionState.step initial).inspections 1 = .ended := by
  have hOpening : (cancelledBetween.foldl InspectionState.step initial).videoState = .opening := by
    rfl
  refine ⟨?_, rfl, hOpening, rfl, rfl⟩
  intro hFollows
  have hCancelled := hFollows.cancelled rfl
  rw [hOpening] at hCancelled
  cases hCancelled

end FrameScope.Ports.VideoInspectionLaw
