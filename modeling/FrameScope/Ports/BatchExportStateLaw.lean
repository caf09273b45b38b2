import FrameScope.Ports.BatchExportState
import FrameScope.Verified.Runs

/-!
# Which export the state follows

A progress callback compares the generation and writes the state in two steps.
When the generation is advanced between the two, the write shows an export that
nothing will end any more.  In a run that never advances it there, the state
follows the export of the current generation.
-/

namespace FrameScope.Ports.BatchExportStateLaw

open FrameScope.Verified.Runs
open FrameScope.Ports.BatchExportState

/-- What a state says of the export of the current generation: while exporting,
it has not returned; a success is what it returned, as it was requested. -/
structure Shows (generation : Nat) (exports : Nat → Option Export) (state : BatchExportUiState) :
    Prop where
  exporting : ∀ pending progress, state = .exporting pending progress →
    ∃ phase, exports generation = some ⟨pending, phase⟩ ∧ phase.isLive = true
  success : ∀ document, state = .success document →
    ∃ pending, exports generation = some ⟨pending, .returned (.success document)⟩ ∧
      document.export.sessionId = pending.sessionId ∧
      document.export.format = pending.request.format

/-- Between two calls of the main thread the state follows the current export,
and it stays idle after a cancellation. -/
structure FollowsExport (m : ViewModel) : Prop where
  shows : m.main = .idle → Shows m.generation m.exports m.state
  cancelled : m.cancelled = true → m.state = .idle

/-- The generation is advanced when no callback is between its check and its write. -/
def AdvancesClear (m : ViewModel) (event : ViewModelEvent) : Prop :=
  ∀ call, event = .continueMain → m.main = .entered call →
    ∀ g pending progress, m.exports g ≠ some ⟨pending, .publishing progress⟩

/-! ## The exports -/

/-- No export is of a later generation, and only that of the current one is about
to write the state. -/
structure OwnExports (generation : Nat) (exports : Nat → Option Export) : Prop where
  future : ∀ g, generation < g → exports g = none
  publishing : ∀ g pending progress, exports g = some ⟨pending, .publishing progress⟩ → g = generation

section Exports

variable {generation g : Nat} {exports : Nat → Option Export} {pending : PendingBatchExport}
  {phase : ExportPhase}

theorem OwnExports.known (h : OwnExports generation exports) (hKnown : exports g ≠ none) :
    g ≤ generation := by
  by_cases hLater : generation < g
  · exact absurd (h.future g hLater) hKnown
  · omega

theorem OwnExports.update (h : OwnExports generation exports) (hKnown : g ≤ generation)
    (hOwn : ∀ progress, phase = .publishing progress → g = generation) :
    OwnExports generation (Function.update exports g (some ⟨pending, phase⟩)) where
  future := by
    intro other hLater
    have hOther : other ≠ g := by omega
    rw [Function.update_of_ne hOther]
    exact h.future other hLater
  publishing := by
    intro other pending' progress hPublishing
    by_cases hSame : other = g
    · subst hSame
      rw [Function.update_self] at hPublishing
      cases hPublishing
      exact hOwn progress rfl
    · rw [Function.update_of_ne hSame] at hPublishing
      exact h.publishing other pending' progress hPublishing

theorem OwnExports.advance (h : OwnExports generation exports)
    (hClear : ∀ g pending progress, exports g ≠ some ⟨pending, .publishing progress⟩) :
    OwnExports (generation + 1) exports where
  future := fun other hLater => h.future other (by omega)
  publishing := fun other pending progress hPublishing =>
    absurd hPublishing (hClear other pending progress)

end Exports

/-! ## The invariant -/

/-- The main thread has not advanced the generation, and takes up no result. -/
def Settled : MainPhase → Prop
  | .idle => True
  | .entered _ => True
  | .dismissing => True
  | .advanced _ => False
  | .delivering _ => False

/-- What the main thread may be at after a cancellation. -/
def QuietMain : MainPhase → Prop
  | .idle => True
  | .entered .cancelForMicroscopeChange => True
  | .advanced .cancelForMicroscopeChange => True
  | _ => False

structure Inv (m : ViewModel) : Prop where
  own : OwnExports m.generation m.exports
  settled : Settled m.main → Shows m.generation m.exports m.state
  advanced : ∀ call, m.main = .advanced call → m.exports m.generation = none
  delivering : ∀ state, m.main = .delivering state →
    Shows m.generation m.exports state ∧
    ∃ pending outcome, m.exports m.generation = some ⟨pending, .returned outcome⟩
  cancelled : m.cancelled = true →
    m.state = .idle ∧ m.exports m.generation = none ∧ QuietMain m.main

theorem shows_of_other {generation : Nat} {exports : Nat → Option Export}
    {state : BatchExportUiState}
    (hExporting : ∀ pending progress, state ≠ .exporting pending progress)
    (hSuccess : ∀ document, state ≠ .success document) : Shows generation exports state :=
  ⟨fun pending progress h => absurd h (hExporting pending progress),
    fun document h => absurd h (hSuccess document)⟩

theorem inv_initial : Inv initial where
  own := ⟨fun _ _ => rfl, fun g pending progress h => by cases h⟩
  settled := fun _ => shows_of_other (by simp [initial]) (by simp [initial])
  advanced := fun _ _ => rfl
  delivering := by
    intro state hMain
    cases hMain
  cancelled := by
    intro hCancelled
    cases hCancelled

theorem Inv.followsExport {m : ViewModel} (h : Inv m) : FollowsExport m where
  shows := by
    intro hMain
    apply h.settled
    rw [hMain]
    trivial
  cancelled := fun hCancelled => (h.cancelled hCancelled).1

section Steps

variable {m : ViewModel} {g : Nat} {pending : PendingBatchExport} {phase phase' : ExportPhase}

/-- An export that is live goes on, or is not the current one. -/
theorem Shows.setExport {state : BatchExportUiState} (h : Shows m.generation m.exports state)
    (hAt : m.exports g = some ⟨pending, phase⟩) (hLive : phase.isLive = true)
    (hGoesOn : phase'.isLive = true ∨ g ≠ m.generation) :
    Shows m.generation (Function.update m.exports g (some ⟨pending, phase'⟩)) state where
  exporting := by
    intro pending' progress hState
    obtain ⟨current, hCurrent, hCurrentLive⟩ := h.exporting pending' progress hState
    by_cases hSame : m.generation = g
    · rw [hSame] at hCurrent ⊢
      rw [hAt] at hCurrent
      cases hCurrent
      refine ⟨phase', Function.update_self .., ?_⟩
      cases hGoesOn with
      | inl hNext => exact hNext
      | inr hOther => exact absurd hSame.symm hOther
    · rw [Function.update_of_ne hSame]
      exact ⟨current, hCurrent, hCurrentLive⟩
  success := by
    intro document hState
    obtain ⟨pending', hReturned, hIdentity⟩ := h.success document hState
    refine ⟨pending', ?_, hIdentity⟩
    by_cases hSame : m.generation = g
    · rw [hSame, hAt] at hReturned
      cases hReturned
      cases hLive
    · rw [Function.update_of_ne hSame]
      exact hReturned

theorem Inv.setExport (h : Inv m) (hAt : m.exports g = some ⟨pending, phase⟩)
    (hLive : phase.isLive = true) (hGoesOn : phase'.isLive = true ∨ g ≠ m.generation)
    (hOwn : ∀ progress, phase' = .publishing progress → g = m.generation) :
    Inv (m.setExport g ⟨pending, phase'⟩) := by
  have hElsewhere : ∀ {value}, m.exports m.generation = value →
      (∀ pending' phase', value = some ⟨pending', phase'⟩ → phase'.isLive = false) →
      (m.setExport g ⟨pending, phase'⟩).exports m.generation = value := by
    intro value hValue hDead
    have hOther : m.generation ≠ g := by
      intro hSame
      rw [hSame, hAt] at hValue
      have hNot := hDead pending phase hValue.symm
      rw [hLive] at hNot
      cases hNot
    show Function.update m.exports g (some ⟨pending, phase'⟩) m.generation = _
    rw [Function.update_of_ne hOther]
    exact hValue
  constructor
  · exact h.own.update (h.own.known (by simp [hAt])) hOwn
  · exact fun hSettled => (h.settled hSettled).setExport hAt hLive hGoesOn
  · exact fun call hMain => hElsewhere (h.advanced call hMain) (by simp)
  · intro state hMain
    obtain ⟨hShows, pending', outcome, hReturned⟩ := h.delivering state hMain
    refine ⟨hShows.setExport hAt hLive hGoesOn, pending', outcome, hElsewhere hReturned ?_⟩
    intro other phase hSame
    cases hSame
    rfl
  · intro hCancelled
    obtain ⟨hState, hNone, hMain⟩ := h.cancelled hCancelled
    exact ⟨hState, hElsewhere hNone (by simp), hMain⟩

/-- The current export shows how far it is. -/
theorem Inv.showProgress (h : Inv m) (hAt : m.exports m.generation = some ⟨pending, phase⟩)
    (hLive : phase.isLive = true) (progress : Option BatchExportProgress) :
    Inv { m with state := .exporting pending progress } where
  own := h.own
  settled := by
    intro hSettled
    constructor
    · intro pending' progress' hState
      cases hState
      exact ⟨phase, hAt, hLive⟩
    · intro document hState
      cases hState
  advanced := h.advanced
  delivering := h.delivering
  cancelled := by
    intro hCancelled
    have hNone := (h.cancelled hCancelled).2.1
    rw [hAt] at hNone
    cases hNone

/-! ## What an export does -/

theorem Inv.callback (h : Inv m) (g : Nat) (progress : BatchExportProgress) :
    Inv (m.callback g progress) := by
  unfold ViewModel.callback
  split
  · rename_i pending hAt
    exact h.setExport hAt rfl (.inl rfl) (by simp)
  · exact h

theorem Inv.advance (h : Inv m) (g : Nat) : Inv (m.advance g) := by
  unfold ViewModel.advance
  split
  · rename_i pending progress hAt
    apply h.setExport hAt rfl
    · left
      by_cases hCurrent : g = m.generation <;> simp [hCurrent, ExportPhase.isLive]
    · intro progress'
      by_cases hCurrent : g = m.generation <;> simp [hCurrent]
  · rename_i pending progress hAt
    have hCurrent : g = m.generation := h.own.publishing g pending progress hAt
    have hKeeps : Inv (m.setExport g ⟨pending, .running⟩) :=
      h.setExport hAt rfl (.inl rfl) (by simp)
    have hRunning : (m.setExport g ⟨pending, .running⟩).exports m.generation =
        some ⟨pending, .running⟩ := by
      show Function.update m.exports g (some ⟨pending, .running⟩) m.generation = _
      rw [hCurrent, Function.update_self]
    exact hKeeps.showProgress hRunning rfl (some progress)
  · exact h

theorem Inv.finish (h : Inv m) (g : Nat) (outcome : ExportOutcome) : Inv (m.finish g outcome) := by
  unfold ViewModel.finish
  split
  · rename_i pending hAt
    exact h.setExport hAt rfl (.inl rfl) (by simp)
  · rename_i pending earlier hAt
    exact h.setExport hAt rfl (.inl rfl) (by simp)
  · exact h

/-! ## What the main thread does -/

/-- The main thread is free again, with the state it leaves. -/
theorem Inv.settle (h : Inv m) {state : BatchExportUiState} {cancelled : Bool}
    (hShows : Shows m.generation m.exports state)
    (hCancelled : cancelled = true → state = .idle ∧ m.exports m.generation = none) :
    Inv { m with state := state, main := .idle, cancelled := cancelled } where
  own := h.own
  settled := fun _ => hShows
  advanced := by
    intro call hMain
    cases hMain
  delivering := by
    intro state hMain
    cases hMain
  cancelled := by
    intro hNow
    obtain ⟨hState, hNone⟩ := hCancelled hNow
    exact ⟨hState, hNone, trivial⟩

/-- The guards of a call pass. -/
theorem Inv.enter (h : Inv m) (hMain : m.main = .idle) {call : MainCall} {cancelled : Bool}
    (hCancelled : cancelled = true → m.cancelled = true ∧ call = .cancelForMicroscopeChange) :
    Inv { m with main := .entered call, cancelled := cancelled } where
  own := h.own
  settled := by
    intro hSettled
    apply h.settled
    rw [hMain]
    trivial
  advanced := by
    intro call hNow
    cases hNow
  delivering := by
    intro state hNow
    cases hNow
  cancelled := by
    intro hNow
    obtain ⟨hBefore, hCall⟩ := hCancelled hNow
    obtain ⟨hState, hNone, hQuiet⟩ := h.cancelled hBefore
    refine ⟨hState, hNone, ?_⟩
    show QuietMain (.entered call)
    rw [hCall]
    trivial

/-- A state other than `Idle` is not that of a cancelled export. -/
theorem Inv.not_cancelled (h : Inv m) (hState : m.state ≠ .idle) : m.cancelled ≠ true :=
  fun hCancelled => hState (h.cancelled hCancelled).1

theorem Inv.beginBatchExport (h : Inv m) (hMain : m.main = .idle) (sessionId : Int)
    (currentFrameId : Option Int) (request : BatchExportRequest) :
    Inv (m.beginBatchExport sessionId currentFrameId request) := by
  unfold ViewModel.beginBatchExport
  cases requested sessionId currentFrameId request with
  | none => exact h
  | some pending => exact h.enter hMain (by simp)

theorem Inv.onDestinationSelected (h : Inv m) (hMain : m.main = .idle)
    (currentSessionId currentFrameId : Option Int) :
    Inv (m.onDestinationSelected currentSessionId currentFrameId) := by
  unfold ViewModel.onDestinationSelected
  split
  · rename_i pending hState
    have hNot : m.cancelled ≠ true := h.not_cancelled (by simp [hState])
    split
    · exact h.enter hMain fun hCancelled => absurd hCancelled hNot
    · exact h.enter hMain fun hCancelled => absurd hCancelled hNot
  · exact h

theorem Inv.onDestinationPickerCancelled (h : Inv m) (hMain : m.main = .idle) :
    Inv m.onDestinationPickerCancelled := by
  unfold ViewModel.onDestinationPickerCancelled
  split
  · rename_i pending hState
    have hNot : m.cancelled ≠ true := h.not_cancelled (by simp [hState])
    exact h.enter hMain fun hCancelled => absurd hCancelled hNot
  · exact h

theorem Inv.dismissStatus (h : Inv m) (hMain : m.main = .idle) : Inv m.dismissStatus := by
  have hDismissing : m.state ≠ .idle → Inv { m with main := .dismissing } := by
    intro hState
    have hNot := h.not_cancelled hState
    constructor
    · exact h.own
    · intro hSettled
      apply h.settled
      rw [hMain]
      trivial
    · intro call hNow
      cases hNow
    · intro state hNow
      cases hNow
    · exact fun hCancelled => absurd hCancelled hNot
  unfold ViewModel.dismissStatus
  split
  · rename_i document hState
    exact hDismissing (by simp [hState])
  · rename_i message code hState
    exact hDismissing (by simp [hState])
  · exact h

/-- What a returned outcome is shown as says what the export returned. -/
theorem shows_uiState {generation : Nat} {exports : Nat → Option Export} {outcome : ExportOutcome}
    (hReturned : exports generation = some ⟨pending, .returned outcome⟩) :
    Shows generation exports (outcome.uiState pending) := by
  cases outcome with
  | success document =>
      show Shows generation exports (if _ then _ else _)
      by_cases hIdentity : document.export.sessionId = pending.sessionId ∧
          document.export.format = pending.request.format
      · rw [if_pos hIdentity]
        constructor
        · intro pending' progress hState
          cases hState
        · intro document' hState
          cases hState
          exact ⟨pending, hReturned, hIdentity⟩
      · rw [if_neg hIdentity]
        exact shows_of_other (by simp) (by simp)
  | failure error => exact shows_of_other (by simp [ExportOutcome.uiState]) (by simp [ExportOutcome.uiState])
  | cancelled => exact shows_of_other (by simp [ExportOutcome.uiState]) (by simp [ExportOutcome.uiState])

theorem Inv.deliver (h : Inv m) (g : Nat) : Inv (m.deliver g) := by
  unfold ViewModel.deliver
  split
  · rename_i pending outcome hAt
    by_cases hCurrent : g = m.generation
    · rw [if_pos hCurrent]
      have hReturned : Function.update m.exports g (some ⟨pending, .returned outcome⟩) m.generation =
          some ⟨pending, .returned outcome⟩ := by
        rw [hCurrent, Function.update_self]
      constructor
      · exact h.own.update (h.own.known (by simp [hAt])) (by simp)
      · exact False.elim
      · intro call hNow
        cases hNow
      · intro state hNow
        cases hNow
        exact ⟨shows_uiState hReturned, pending, outcome, hReturned⟩
      · intro hCancelled
        have hNone := (h.cancelled hCancelled).2.1
        rw [← hCurrent, hAt] at hNone
        cases hNone
    · rw [if_neg hCurrent]
      exact h.setExport hAt rfl (.inr hCurrent) (by simp)
  · exact h

theorem Inv.write (h : Inv m) {call : MainCall} (hMain : m.main = .advanced call) :
    Inv (m.write call) := by
  have hNone := h.advanced call hMain
  have hQuiet : m.cancelled = true → QuietMain (.advanced call) := by
    intro hCancelled
    rw [← hMain]
    exact (h.cancelled hCancelled).2.2
  cases call with
  | beginBatchExport pending =>
      exact h.settle (shows_of_other (by simp) (by simp)) fun hCancelled => (hQuiet hCancelled).elim
  | onDestinationSelected pending =>
      have hNot : m.cancelled ≠ true := fun hCancelled => (hQuiet hCancelled).elim
      have hStarted : Function.update m.exports m.generation (some ⟨pending, .running⟩) m.generation =
          some ⟨pending, .running⟩ := Function.update_self ..
      constructor
      · exact h.own.update (Nat.le_refl _) (by simp)
      · intro hSettled
        constructor
        · intro pending' progress hState
          cases hState
          exact ⟨.running, hStarted, rfl⟩
        · intro document hState
          cases hState
      · intro call hNow
        cases hNow
      · intro state hNow
        cases hNow
      · exact fun hCancelled => absurd hCancelled hNot
  | staleDestination =>
      exact h.settle (shows_of_other (by simp) (by simp)) fun hCancelled => (hQuiet hCancelled).elim
  | onDestinationPickerCancelled =>
      exact h.settle (shows_of_other (by simp) (by simp)) fun _ => ⟨rfl, hNone⟩
  | cancelForMicroscopeChange =>
      exact h.settle (shows_of_other (by simp) (by simp)) fun _ => ⟨rfl, hNone⟩

theorem Inv.continueMain (h : Inv m) (hClear : AdvancesClear m .continueMain) : Inv m.continueMain := by
  unfold ViewModel.continueMain
  cases hMain : m.main with
  | idle => exact h
  | entered call =>
      have hNext : m.exports (m.generation + 1) = none := h.own.future _ (Nat.lt_succ_self _)
      constructor
      · exact h.own.advance (hClear call rfl hMain)
      · exact False.elim
      · exact fun _ _ => hNext
      · intro state hNow
        cases hNow
      · intro hCancelled
        obtain ⟨hState, _, hQuiet⟩ := h.cancelled hCancelled
        rw [hMain] at hQuiet
        refine ⟨hState, hNext, ?_⟩
        cases call with
        | cancelForMicroscopeChange => trivial
        | beginBatchExport pending => exact hQuiet
        | onDestinationSelected pending => exact hQuiet
        | staleDestination => exact hQuiet
        | onDestinationPickerCancelled => exact hQuiet
  | advanced call => exact h.write hMain
  | delivering state =>
      apply h.settle (h.delivering state hMain).1
      intro hCancelled
      have hQuiet := (h.cancelled hCancelled).2.2
      rw [hMain] at hQuiet
      exact hQuiet.elim
  | dismissing =>
      apply h.settle (shows_of_other (by simp) (by simp))
      intro hCancelled
      have hQuiet := (h.cancelled hCancelled).2.2
      rw [hMain] at hQuiet
      exact hQuiet.elim

theorem Inv.startMain (h : Inv m) (hMain : m.main = .idle) (event : ViewModelEvent) :
    Inv (m.startMain event) := by
  cases event with
  | beginBatchExport sessionId currentFrameId request =>
      exact h.beginBatchExport hMain sessionId currentFrameId request
  | onDestinationSelected currentSessionId currentFrameId =>
      exact h.onDestinationSelected hMain currentSessionId currentFrameId
  | onDestinationPickerCancelled => exact h.onDestinationPickerCancelled hMain
  | cancelForMicroscopeChange => exact h.enter hMain fun hCancelled => ⟨hCancelled, rfl⟩
  | dismissStatus => exact h.dismissStatus hMain
  | deliver g => exact h.deliver g
  | continueMain => exact h
  | callback g progress => exact h
  | advance g => exact h
  | finish g outcome => exact h

end Steps

/-! ## Runs -/

theorem Inv.step (m : ViewModel) (event : ViewModelEvent) (h : Inv m) (hClear : AdvancesClear m event) :
    Inv (m.step event) := by
  have hMain : Inv (if m.main = .idle then m.startMain event else m) := by
    by_cases hIdle : m.main = .idle
    · rw [if_pos hIdle]
      exact h.startMain hIdle event
    · rw [if_neg hIdle]
      exact h
  cases event with
  | continueMain => exact h.continueMain hClear
  | callback g progress => exact h.callback g progress
  | advance g => exact h.advance g
  | finish g outcome => exact h.finish g outcome
  | beginBatchExport sessionId currentFrameId request => exact hMain
  | onDestinationSelected currentSessionId currentFrameId => exact hMain
  | onDestinationPickerCancelled => exact hMain
  | cancelForMicroscopeChange => exact hMain
  | dismissStatus => exact hMain
  | deliver g => exact hMain

/-- When the generation is never advanced between the check and the write of a
callback, the state follows the export of the current generation. -/
theorem followsExport_of_clear {events : List ViewModelEvent}
    (hClear : Meets ViewModel.step AdvancesClear initial events) :
    FollowsExport (events.foldl ViewModel.step initial) :=
  (run_invariant Inv.step inv_initial hClear).followsExport

/-! ## Runs on a fixed input -/

def everyFrame : PendingBatchExport := ⟨7, none, ⟨.allFrames, 1, .png, 92⟩⟩

def exported : ExportedBatchDocument :=
  ⟨"content://m", "manifest.json", ⟨7, 2, 2, 900, 2, true, false, .png, "image/png"⟩, none⟩

/-- An export has been started, and its first callback has passed the check. -/
def checked : List ViewModelEvent :=
  [.beginBatchExport 7 none everyFrame.request, .continueMain, .continueMain,
    .onDestinationSelected (some 7) none, .continueMain, .continueMain,
    .callback 2 ⟨0, 1, 2⟩, .advance 2]

/-- The export runs to its end. -/
def exportedWhole : List ViewModelEvent :=
  checked ++ [.advance 2, .finish 2 (.success exported), .deliver 2, .continueMain]

/-- The microscope changes before the callback ends. -/
def changedBetween : List ViewModelEvent :=
  checked ++ [.cancelForMicroscopeChange, .continueMain, .continueMain, .advance 2,
    .finish 2 .cancelled, .deliver 2]

theorem meets_exportedWhole : Meets ViewModel.step AdvancesClear initial exportedWhole := by
  have hWork : ∀ (m : ViewModel) (event : ViewModelEvent), event ≠ .continueMain →
      AdvancesClear m event :=
    fun m event hEvent call hSame => absurd hSame hEvent
  have hWrite : ∀ (m : ViewModel) (event : ViewModelEvent), (∀ call, m.main ≠ .entered call) →
      AdvancesClear m event :=
    fun m event hMain call _ hEntered => absurd hEntered (hMain call)
  have hNone : ∀ (m : ViewModel) (event : ViewModelEvent), (∀ g, m.exports g = none) →
      AdvancesClear m event := by
    intro m event hExports call _ _ g pending progress hAt
    rw [hExports g] at hAt
    cases hAt
  exact ⟨hWork _ _ (by simp), hNone _ _ fun _ => rfl, hWrite _ _ (fun call h => by cases h),
    hWork _ _ (by simp), hNone _ _ fun _ => rfl, hWrite _ _ (fun call h => by cases h),
    hWork _ _ (by simp), hWork _ _ (by simp), hWork _ _ (by simp), hWork _ _ (by simp),
    hWork _ _ (by simp), hWrite _ _ (fun call h => by cases h), trivial⟩

theorem followsExport_exportedWhole :
    FollowsExport (exportedWhole.foldl ViewModel.step initial) ∧
      (exportedWhole.foldl ViewModel.step initial).state = .success exported :=
  ⟨followsExport_of_clear meets_exportedWhole, rfl⟩

/-- The callback of the cancelled export shows it again, and no export is left to
change the state. -/
theorem cancelled_then_exporting :
    ¬ FollowsExport (changedBetween.foldl ViewModel.step initial) ∧
      (changedBetween.foldl ViewModel.step initial).cancelled = true ∧
      (changedBetween.foldl ViewModel.step initial).main = .idle ∧
      (changedBetween.foldl ViewModel.step initial).state = .exporting everyFrame (some ⟨0, 1, 2⟩) ∧
      (changedBetween.foldl ViewModel.step initial).exports 2 =
        some ⟨everyFrame, .returned .cancelled⟩ := by
  have hState : (changedBetween.foldl ViewModel.step initial).state =
      .exporting everyFrame (some ⟨0, 1, 2⟩) := by rfl
  refine ⟨?_, rfl, rfl, hState, rfl⟩
  intro hFollows
  have hIdle := hFollows.cancelled rfl
  rw [hState] at hIdle
  cases hIdle

end FrameScope.Ports.BatchExportStateLaw
