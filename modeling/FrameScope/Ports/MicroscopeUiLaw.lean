import FrameScope.Ports.MicroscopeUi

/-!
# Every published state of the microscope is coherent

A coroutine publishes only while its two generations are the newest ones, and
then no other coroutine does.  What it waits for fixes the state that it finds
when it goes on, so each of its publications is made from a state that is known.
-/

namespace FrameScope.Ports.MicroscopeUiLaw

open FrameScope.Verified.Fallible
open FrameScope.Verified.Runs
open FrameScope.Ports.Core
open FrameScope.Ports.LiveScrubGate
open FrameScope.Ports.MicroscopeUi

variable {π ρ : Type}

/-! ## The invariant -/

/-- The session that a frame is loaded for. -/
def awaitedSessionId : MicroscopeUiState π → Option Int
  | .loadingFrame session => some session.sessionId
  | .navigating session _ => some session.sessionId
  | _ => none

/-- The state that a current coroutine finds, by the call it waits for. -/
def Finds (ui : FrameScopeUiState π ρ) : MicroscopeWork π → Prop
  | .launched => ui.microscopeState = .idle
  | .opening => ui.microscopeState = .opening ∧ ui.timelineBounds = none
  | .jumping _ => ui.microscopeState = .opening ∧ ui.timelineBounds = none
  | .restoring _ _ => ui.microscopeState = .opening ∧ ui.timelineBounds = none
  | .loading session => awaitedSessionId ui.microscopeState = some session.sessionId
  | .navigating session => ∃ frame, ui.microscopeState = .navigating session frame
  | .closing _ => True

/-- The coroutine may publish. -/
def Live (vm : ViewModel π ρ) (job : MicroscopeJob π) : Prop :=
  vm.microscopeJobs vm.microscopeGeneration = some job ∧
    job.inspectionRevision = vm.inspectionGeneration

structure Inv (vm : ViewModel π ρ) : Prop where
  coherent : Coherent vm.ui
  published : ∀ ui ∈ vm.published, Coherent ui
  inspectLe : ∀ generation job, vm.inspectJobs generation = some job →
    generation ≤ vm.inspectionGeneration
  revisionLe : ∀ revision job, vm.microscopeJobs revision = some job →
    revision ≤ vm.microscopeGeneration ∧ job.inspectionRevision ≤ vm.inspectionGeneration
  /-- While a source is inspected, nothing of the microscope is shown or under way. -/
  waiting : ∀ job, vm.inspectJobs vm.inspectionGeneration = some job →
    vm.ui.microscopeState = .idle ∧ ∀ live, ¬ Live vm live
  finds : ∀ job, Live vm job → Finds vm.ui job.work
  reading : ∀ expected next, vm.progressUpdate = some (expected, next) →
    expected.microscopeState = .opening ∧ ∃ presented,
      next = { expected with indexingProgress := some presented }

/-- No coroutine may publish. -/
structure Quiet (vm : ViewModel π ρ) : Prop where
  inspect : vm.inspectJobs vm.inspectionGeneration = none
  live : ∀ job, ¬ Live vm job

variable {vm : ViewModel π ρ} {ui : FrameScopeUiState π ρ}

theorem coherent_blank : Coherent (FrameScopeUiState.blank : FrameScopeUiState π ρ) where
  frame := by simp [FrameScopeUiState.blank]
  preview := by simp [FrameScopeUiState.blank]
  bounds := by simp [FrameScopeUiState.blank]
  range := by simp [FrameScopeUiState.blank]
  progress := by simp [FrameScopeUiState.blank]

theorem initial_inv : Inv (ViewModel.initial : ViewModel π ρ) where
  coherent := coherent_blank
  published := by
    intro ui hPublished
    rw [List.mem_singleton.mp hPublished]
    exact coherent_blank
  inspectLe := by simp [ViewModel.initial]
  revisionLe := by simp [ViewModel.initial]
  waiting := by simp [ViewModel.initial]
  finds := by simp [ViewModel.initial, Live]
  reading := by simp [ViewModel.initial]

/-! ### Publications -/

/-- What is published has to suit the coroutines that are under way. -/
theorem Inv.publish (h : Inv vm) (hCoherent : Coherent ui)
    (hWaiting : ∀ job, vm.inspectJobs vm.inspectionGeneration = some job →
      ui.microscopeState = .idle)
    (hFinds : ∀ job, Live vm job → Finds ui job.work) : Inv (vm.publish ui) where
  coherent := hCoherent
  published := by
    intro other hOther
    cases List.mem_cons.mp hOther with
    | inl hNew => exact hNew ▸ hCoherent
    | inr hOld => exact h.published other hOld
  inspectLe := h.inspectLe
  revisionLe := h.revisionLe
  waiting := fun job hJob => ⟨hWaiting job hJob, (h.waiting job hJob).2⟩
  finds := hFinds
  reading := h.reading

theorem Inv.publish_quiet (h : Inv vm) (hQuiet : Quiet vm) (hCoherent : Coherent ui) :
    Inv (vm.publish ui) := by
  apply h.publish hCoherent
  · intro job hJob
    rw [hQuiet.inspect] at hJob
    cases hJob
  · intro job hLive
    exact absurd hLive (hQuiet.live job)

/-- What a coroutine finds depends on two fields. -/
theorem finds_congr {other : FrameScopeUiState π ρ} {work : MicroscopeWork π}
    (hState : other.microscopeState = ui.microscopeState)
    (hBounds : other.timelineBounds = ui.timelineBounds) (h : Finds ui work) : Finds other work := by
  cases work with
  | launched => exact hState.trans h
  | opening => exact ⟨hState.trans h.1, hBounds.trans h.2⟩
  | jumping session => exact ⟨hState.trans h.1, hBounds.trans h.2⟩
  | restoring session lastSession => exact ⟨hState.trans h.1, hBounds.trans h.2⟩
  | loading session =>
      show awaitedSessionId other.microscopeState = _
      rw [hState]
      exact h
  | navigating session =>
      obtain ⟨frame, hFrame⟩ := h
      exact ⟨frame, hState.trans hFrame⟩
  | closing error => trivial

/-- A publication that leaves the two fields as they are. -/
theorem Inv.publish_same (h : Inv vm) (hCoherent : Coherent ui)
    (hState : ui.microscopeState = vm.ui.microscopeState)
    (hBounds : ui.timelineBounds = vm.ui.timelineBounds) : Inv (vm.publish ui) := by
  apply h.publish hCoherent
  · intro job hJob
    rw [hState]
    exact (h.waiting job hJob).1
  · intro job hLive
    exact finds_congr hState hBounds (h.finds job hLive)

theorem Quiet.publish (h : Quiet vm) (ui : FrameScopeUiState π ρ) : Quiet (vm.publish ui) :=
  ⟨h.inspect, h.live⟩

/-! ### Generations -/

/-- Every coroutine is older than a new inspection. -/
theorem Inv.advanceInspection (h : Inv vm) :
    Inv { vm with inspectionGeneration := vm.inspectionGeneration + 1 } ∧
      Quiet { vm with inspectionGeneration := vm.inspectionGeneration + 1 } := by
  have hQuiet : Quiet { vm with inspectionGeneration := vm.inspectionGeneration + 1 } := by
    constructor
    · show vm.inspectJobs (vm.inspectionGeneration + 1) = none
      cases hJob : vm.inspectJobs (vm.inspectionGeneration + 1) with
      | none => rfl
      | some job =>
          have hLe := h.inspectLe _ job hJob
          omega
    · intro job hLive
      have hJob : vm.microscopeJobs vm.microscopeGeneration = some job := hLive.1
      have hLe := (h.revisionLe _ job hJob).2
      have hNew : job.inspectionRevision = vm.inspectionGeneration + 1 := hLive.2
      omega
  refine ⟨?_, hQuiet⟩
  constructor
  · exact h.coherent
  · exact h.published
  · intro generation job hJob
    exact Nat.le_succ_of_le (h.inspectLe generation job hJob)
  · intro revision job hJob
    obtain ⟨hRevision, hInspection⟩ := h.revisionLe revision job hJob
    exact ⟨hRevision, Nat.le_succ_of_le hInspection⟩
  · intro job hJob
    rw [hQuiet.inspect] at hJob
    cases hJob
  · intro job hLive
    exact absurd hLive (hQuiet.live job)
  · exact h.reading

/-- Every coroutine of the microscope is older than a new revision. -/
theorem Inv.advanceMicroscope (h : Inv vm) :
    Inv { vm with microscopeGeneration := vm.microscopeGeneration + 1 } ∧
      ∀ job, ¬ Live { vm with microscopeGeneration := vm.microscopeGeneration + 1 } job := by
  have hDead : ∀ job,
      ¬ Live { vm with microscopeGeneration := vm.microscopeGeneration + 1 } job := by
    intro job hLive
    have hJob : vm.microscopeJobs (vm.microscopeGeneration + 1) = some job := hLive.1
    have hLe := (h.revisionLe _ job hJob).1
    omega
  refine ⟨?_, hDead⟩
  constructor
  · exact h.coherent
  · exact h.published
  · exact h.inspectLe
  · intro revision job hJob
    obtain ⟨hRevision, hInspection⟩ := h.revisionLe revision job hJob
    exact ⟨Nat.le_succ_of_le hRevision, hInspection⟩
  · intro job hJob
    exact ⟨(h.waiting job hJob).1, hDead⟩
  · intro job hLive
    exact absurd hLive (hDead job)
  · exact h.reading

/-! ### Coroutines -/

/-- A coroutine that may publish is launched over the state it finds. -/
theorem Inv.launch (h : Inv vm) (hQuiet : Quiet vm) {revision : Nat} {job : MicroscopeJob π}
    (hCurrent : vm.isCurrent job.inspectionRevision revision = true)
    (hFinds : Finds vm.ui job.work) : Inv (vm.setMicroscopeJob revision (some job)) := by
  have hNewest : job.inspectionRevision = vm.inspectionGeneration ∧
      revision = vm.microscopeGeneration := by simpa [ViewModel.isCurrent] using hCurrent
  constructor
  · exact h.coherent
  · exact h.published
  · exact h.inspectLe
  · intro other otherJob hOther
    by_cases hSame : other = revision
    · have hJob : otherJob = job := by
        simpa [ViewModel.setMicroscopeJob, hSame, eq_comm] using hOther
      subst hJob
      show other ≤ vm.microscopeGeneration ∧ otherJob.inspectionRevision ≤ vm.inspectionGeneration
      omega
    · have hOld : vm.microscopeJobs other = some otherJob := by
        simpa [ViewModel.setMicroscopeJob, hSame] using hOther
      exact h.revisionLe other otherJob hOld
  · intro inspect hInspect
    have hNone : vm.inspectJobs vm.inspectionGeneration = some inspect := hInspect
    rw [hQuiet.inspect] at hNone
    cases hNone
  · intro live hLive
    have hJob : live = job := by
      have hSet := hLive.1
      simpa [ViewModel.setMicroscopeJob, hNewest.2, eq_comm] using hSet
    exact hJob ▸ hFinds
  · exact h.reading

theorem Inv.endMicroscope (h : Inv vm) (revision : Nat) :
    Inv (vm.setMicroscopeJob revision none) := by
  have hOld : ∀ other job, (vm.setMicroscopeJob revision none).microscopeJobs other = some job →
      vm.microscopeJobs other = some job := by
    intro other job hOther
    by_cases hSame : other = revision
    · simp [ViewModel.setMicroscopeJob, hSame] at hOther
    · simpa [ViewModel.setMicroscopeJob, hSame] using hOther
  have hLive : ∀ job, Live (vm.setMicroscopeJob revision none) job → Live vm job :=
    fun job hJob => ⟨hOld _ job hJob.1, hJob.2⟩
  constructor
  · exact h.coherent
  · exact h.published
  · exact h.inspectLe
  · exact fun other job hOther => h.revisionLe other job (hOld other job hOther)
  · intro job hJob
    obtain ⟨hIdle, hDead⟩ := h.waiting job hJob
    exact ⟨hIdle, fun live hJob => hDead live (hLive live hJob)⟩
  · exact fun job hJob => h.finds job (hLive job hJob)
  · exact h.reading

theorem Inv.setInspectJob (h : Inv vm) {generation : Nat} {job : Option InspectJob}
    (hLe : generation ≤ vm.inspectionGeneration)
    (hWaiting : job ≠ none → generation = vm.inspectionGeneration →
      vm.ui.microscopeState = .idle ∧ ∀ live, ¬ Live vm live) :
    Inv (vm.setInspectJob generation job) := by
  constructor
  · exact h.coherent
  · exact h.published
  · intro other otherJob hOther
    by_cases hSame : other = generation
    · exact hSame ▸ hLe
    · have hOld : vm.inspectJobs other = some otherJob := by
        simpa [ViewModel.setInspectJob, hSame] using hOther
      exact h.inspectLe other otherJob hOld
  · exact h.revisionLe
  · intro other hOther
    have hAt : Function.update vm.inspectJobs generation job vm.inspectionGeneration =
      some other := hOther
    by_cases hSame : vm.inspectionGeneration = generation
    · rw [hSame, Function.update_self] at hAt
      exact hWaiting (by simp [hAt]) hSame.symm
    · rw [Function.update_of_ne hSame] at hAt
      exact h.waiting other hAt
  · exact h.finds
  · exact h.reading

theorem Inv.endInspect (h : Inv vm) (generation : Nat) :
    Inv (vm.setInspectJob generation none) := by
  by_cases hLe : generation ≤ vm.inspectionGeneration
  · exact h.setInspectJob hLe fun hSome => absurd rfl hSome
  · have hNone : vm.inspectJobs generation = none := by
      cases hJob : vm.inspectJobs generation with
      | none => rfl
      | some job => exact absurd (h.inspectLe generation job hJob) hLe
    have hSame : vm.setInspectJob generation none = vm := by
      unfold ViewModel.setInspectJob
      rw [← hNone, Function.update_eq_self]
    rw [hSame]
    exact h

/-- The coroutine that goes on was the only one that may publish. -/
theorem Inv.resumed (h : Inv vm) {revision : Nat} {job : MicroscopeJob π}
    (hJob : vm.microscopeJobs revision = some job)
    (hCurrent : vm.isCurrent job.inspectionRevision revision = true) :
    Quiet (vm.setMicroscopeJob revision none) ∧ Finds vm.ui job.work := by
  have hNewest : job.inspectionRevision = vm.inspectionGeneration ∧
      revision = vm.microscopeGeneration := by simpa [ViewModel.isCurrent] using hCurrent
  have hLive : Live vm job := ⟨hNewest.2 ▸ hJob, hNewest.1⟩
  refine ⟨⟨?_, ?_⟩, h.finds job hLive⟩
  · show vm.inspectJobs vm.inspectionGeneration = none
    cases hInspect : vm.inspectJobs vm.inspectionGeneration with
    | none => rfl
    | some inspect => exact absurd hLive ((h.waiting inspect hInspect).2 job)
  · intro other hOther
    have hNone : (none : Option (MicroscopeJob π)) = some other := by
      simpa [ViewModel.setMicroscopeJob, hNewest.2] using hOther.1
    cases hNone

/-! ## What a publication copies -/

/-- The copy that `publishMicroscopeIfCurrent` makes. -/
def withState (ui : FrameScopeUiState π ρ) (state : MicroscopeUiState π) :
    FrameScopeUiState π ρ :=
  { ui with
    microscopeState := state
    indexingProgress := match state with
      | .opening => ui.indexingProgress
      | _ => none
    scrubPreview := match state with
      | .navigating _ _ => ui.scrubPreview
      | _ => none }

theorem coherent_withState (h : Coherent ui) {state : MicroscopeUiState π}
    (hFrame : ∀ session frame, state = .ready session frame →
      frame.sessionId = session.sessionId ∧
        session.currentFrame.map (·.frameId) = some frame.frameId)
    (hPreview : ∀ session frame, state = .navigating session frame →
      ∀ preview, ui.scrubPreview = some preview → preview.sessionId = session.sessionId)
    (hBounds : ∀ bounds, ui.timelineBounds = some bounds →
      state = .opening ∨ state.currentSessionId = some bounds.sessionId) :
    Coherent (withState ui state) := by
  constructor
  · exact hFrame
  · intro preview hShown
    cases state with
    | navigating session frame =>
        exact congrArg some (hPreview session frame rfl preview hShown).symm
    | idle => cases hShown
    | opening => cases hShown
    | loadingFrame session => cases hShown
    | ready session frame => cases hShown
    | empty session => cases hShown
    | error message code session => cases hShown
  · exact hBounds
  · exact h.range
  · intro hProgress
    cases state with
    | opening => rfl
    | idle => exact absurd rfl hProgress
    | loadingFrame session => exact absurd rfl hProgress
    | navigating session frame => exact absurd rfl hProgress
    | ready session frame => exact absurd rfl hProgress
    | empty session => exact absurd rfl hProgress
    | error message code session => exact absurd rfl hProgress

/-- A state that shows no frame and keeps no preview. -/
def Plain : MicroscopeUiState π → Prop
  | .navigating _ _ => False
  | .ready _ _ => False
  | _ => True

theorem coherent_withPlain (h : Coherent ui) {state : MicroscopeUiState π} (hPlain : Plain state)
    (hBounds : ∀ bounds, ui.timelineBounds = some bounds →
      state = .opening ∨ state.currentSessionId = some bounds.sessionId) :
    Coherent (withState ui state) := by
  apply coherent_withState h
  · intro session frame hState
    rw [hState] at hPlain
    exact hPlain.elim
  · intro session frame hState
    rw [hState] at hPlain
    exact hPlain.elim
  · exact hBounds

theorem coherent_withoutPreview (h : Coherent ui) : Coherent { ui with scrubPreview := none } := by
  constructor
  · exact h.frame
  · intro preview hPreview
    cases hPreview
  · exact h.bounds
  · exact h.range
  · exact h.progress

theorem coherent_withoutProgress (h : Coherent ui) :
    Coherent ({ ui with indexingProgress := none } : FrameScopeUiState π ρ) :=
  ⟨h.frame, h.preview, h.bounds, h.range, fun hSome => absurd rfl hSome⟩

/-- New bounds are published while the microscope opens. -/
theorem coherent_withBounds (h : Coherent ui) (hOpening : ui.microscopeState = .opening)
    (bounds : Option IndexedTimelineBounds) :
    Coherent { ui with timelineBounds := bounds, timelineRange := none } := by
  constructor
  · exact h.frame
  · exact h.preview
  · intro other _
    exact .inl hOpening
  · intro range hRange
    cases hRange
  · exact h.progress

theorem withRange_microscopeState (bounds : IndexedTimelineBounds)
    (selection : TimelineRangeSelection) (ui : FrameScopeUiState π ρ) :
    (withRange bounds selection ui).microscopeState = ui.microscopeState := by
  unfold withRange
  split
  · split_ifs <;> rfl
  · rfl

theorem withRange_timelineBounds (bounds : IndexedTimelineBounds)
    (selection : TimelineRangeSelection) (ui : FrameScopeUiState π ρ) :
    (withRange bounds selection ui).timelineBounds = ui.timelineBounds := by
  unfold withRange
  split
  · split_ifs <;> rfl
  · rfl

/-- A range is committed within the bounds that are shown. -/
theorem coherent_withRange (h : Coherent ui) {bounds : IndexedTimelineBounds}
    {selection : TimelineRangeSelection} (hSane : selection.isSaneFor bounds = true) :
    Coherent (withRange bounds selection ui) := by
  unfold withRange
  split
  · split_ifs with hOwn
    · refine ⟨h.frame, h.preview, h.bounds, ?_, h.progress⟩
      intro range hRange
      exact ⟨bounds, hOwn.2, Option.some.inj hRange ▸ hSane⟩
    · exact h
  · exact h

/-- A preview is shown over the frame of its session. -/
theorem coherent_withPreview (h : Coherent ui) {request : LiveScrubRequest}
    {preview : MicroscopeScrubPreview π} (hOwn : preview.sessionId = request.sessionId) :
    Coherent (withPreview request preview ui) := by
  unfold withPreview
  split
  · rename_i session frame hState
    split_ifs with hSession
    · refine ⟨h.frame, ?_, h.bounds, h.range, h.progress⟩
      intro other hOther
      cases hOther
      show ui.microscopeState.shownSessionId = some preview.sessionId
      rw [hState, hOwn, ← hSession]
      rfl
    · exact h
  · exact h

/-! ## Segments -/

section Rules

variable {Q : PUnit → ViewModel π ρ → Prop} {E : LiveScrubGateError → ViewModel π ρ → Prop}

/-- The segment keeps the invariant, also where the scrub gate throws. -/
def Keeps (x : Segment π ρ PUnit) (vm : ViewModel π ρ) : Prop :=
  wp x (fun _ => Inv) (fun _ => Inv) vm

theorem wp_update (f : FrameScopeUiState π ρ → FrameScopeUiState π ρ) :
    wp (update f) Q E vm ↔ Q ⟨⟩ (vm.publish (f vm.ui)) := Iff.rfl

theorem wp_advanceInspection {Q : Nat → ViewModel π ρ → Prop} :
    wp advanceInspection Q E vm ↔ Q (vm.inspectionGeneration + 1)
      { vm with inspectionGeneration := vm.inspectionGeneration + 1 } := Iff.rfl

theorem wp_advanceMicroscope {Q : Nat → ViewModel π ρ → Prop} :
    wp advanceMicroscope Q E vm ↔ Q (vm.microscopeGeneration + 1)
      { vm with microscopeGeneration := vm.microscopeGeneration + 1 } := Iff.rfl

theorem wp_launchMicroscope (revision : Nat) (job : MicroscopeJob π) :
    wp (launchMicroscope revision job) Q E vm ↔
      Q ⟨⟩ (vm.setMicroscopeJob revision (some job)) := Iff.rfl

theorem wp_endMicroscope (revision : Nat) :
    wp (endMicroscope revision) Q E vm ↔ Q ⟨⟩ (vm.setMicroscopeJob revision none) := Iff.rfl

theorem wp_endInspect (generation : Nat) :
    wp (endInspect generation) Q E vm ↔ Q ⟨⟩ (vm.setInspectJob generation none) := Iff.rfl

section Publishing

variable {inspectionRevision microscopeRevision : Nat}

theorem wp_publishMicroscope {state : MicroscopeUiState π}
    (h : vm.isCurrent inspectionRevision microscopeRevision = true)
    (hQ : Q ⟨⟩ (vm.publish (withState vm.ui state))) :
    wp (publishMicroscopeIfCurrent inspectionRevision microscopeRevision state) Q E vm := by
  unfold publishMicroscopeIfCurrent
  rw [wp_bind, wp_get, if_pos h]
  exact hQ

theorem wp_publishAuthoritativeFrame {session : MicroscopeSessionSnapshot}
    {frame : MicroscopeFrame π}
    (h : vm.isCurrent inspectionRevision microscopeRevision = true)
    (hQ : Q ⟨⟩ (vm.publish (withState vm.ui (.ready session frame)))) :
    wp (publishAuthoritativeFrameIfCurrent inspectionRevision microscopeRevision session frame)
      Q E vm := by
  unfold publishAuthoritativeFrameIfCurrent
  rw [wp_bind, wp_get, if_pos h]
  exact hQ

theorem wp_publishTimelineBounds {bounds : Option IndexedTimelineBounds}
    (h : vm.isCurrent inspectionRevision microscopeRevision = true)
    (hQ : Q ⟨⟩ (vm.publish { vm.ui with timelineBounds := bounds, timelineRange := none })) :
    wp (publishTimelineBoundsIfCurrent inspectionRevision microscopeRevision bounds) Q E vm := by
  unfold publishTimelineBoundsIfCurrent
  rw [wp_bind, wp_get, if_pos h]
  exact hQ

/-- A coroutine ends with a state that shows no frame. -/
theorem publishPlain_keeps (h : Inv vm) (hQuiet : Quiet vm)
    (hCurrent : vm.isCurrent inspectionRevision microscopeRevision = true)
    {state : MicroscopeUiState π} (hPlain : Plain state)
    (hBounds : ∀ bounds, vm.ui.timelineBounds = some bounds →
      state.currentSessionId = some bounds.sessionId) :
    Keeps (publishMicroscopeIfCurrent inspectionRevision microscopeRevision state) vm := by
  apply wp_publishMicroscope hCurrent
  apply h.publish_quiet hQuiet
  exact coherent_withPlain h.coherent hPlain fun bounds hSome => .inr (hBounds bounds hSome)

/-- A failure is published by a current coroutine only. -/
theorem publishFailure_keeps (h : Inv vm) {error : Failure}
    {session : Option MicroscopeSessionSnapshot}
    (hQuiet : vm.isCurrent inspectionRevision microscopeRevision = true → Quiet vm)
    (hBounds : vm.isCurrent inspectionRevision microscopeRevision = true →
      ∀ bounds, vm.ui.timelineBounds = some bounds →
        session.map (·.sessionId) = some bounds.sessionId) :
    Keeps (publishMicroscopeFailure inspectionRevision microscopeRevision error session) vm := by
  unfold Keeps publishMicroscopeFailure
  rw [wp_bind, wp_get]
  by_cases hCurrent : vm.isCurrent inspectionRevision microscopeRevision = true
  · rw [if_pos hCurrent, wp_update]
    apply h.publish_quiet (hQuiet hCurrent)
    have hError : Coherent (withState vm.ui
        (.error (error.message.getD "Microscope operation failed.") error.code session)) := by
      apply coherent_withPlain h.coherent
      · exact trivial
      · intro bounds hSome
        exact .inr (hBounds hCurrent bounds hSome)
    exact hError
  · rw [if_neg hCurrent]
    exact h

end Publishing

end Rules

/-! ### The scrub gate -/

/-- What the scrub gate and a cleared preview leave alone. -/
structure SameWork (vm other : ViewModel π ρ) : Prop where
  inspectionGeneration : other.inspectionGeneration = vm.inspectionGeneration
  microscopeGeneration : other.microscopeGeneration = vm.microscopeGeneration
  inspectJobs : other.inspectJobs = vm.inspectJobs
  microscopeJobs : other.microscopeJobs = vm.microscopeJobs
  microscopeState : other.ui.microscopeState = vm.ui.microscopeState

theorem SameWork.live {other : ViewModel π ρ} (h : SameWork vm other) {job : MicroscopeJob π}
    (hLive : Live other job) : Live vm job := by
  constructor
  · rw [← h.microscopeJobs, ← h.microscopeGeneration]
    exact hLive.1
  · rw [← h.inspectionGeneration]
    exact hLive.2

theorem SameWork.quiet {other : ViewModel π ρ} (h : SameWork vm other) (hQuiet : Quiet vm) :
    Quiet other := by
  constructor
  · rw [h.inspectJobs, h.inspectionGeneration]
    exact hQuiet.inspect
  · exact fun job hLive => hQuiet.live job (h.live hLive)

theorem Inv.setGate (h : Inv vm) (gate : LiveScrubRequestGate) :
    Inv { vm with scrubGate := gate } :=
  ⟨h.coherent, h.published, h.inspectLe, h.revisionLe, h.waiting, h.finds, h.reading⟩

theorem Inv.setRendering (h : Inv vm) (gate : LiveScrubRequestGate)
    (rendering : Option LiveScrubRequest) :
    Inv { vm with scrubGate := gate, rendering } :=
  ⟨h.coherent, h.published, h.inspectLe, h.revisionLe, h.waiting, h.finds, h.reading⟩

theorem wp_invalidateLiveScrub (h : Inv vm) {clearPreview : Bool}
    {Q : PUnit → ViewModel π ρ → Prop} {E : LiveScrubGateError → ViewModel π ρ → Prop}
    (hQ : ∀ other, Inv other → SameWork vm other → Q ⟨⟩ other) (hE : ∀ error, E error vm) :
    wp (invalidateLiveScrub clearPreview) Q E vm := by
  unfold invalidateLiveScrub
  rw [wp_bind, wp_get, wp_bind, wp_ofExcept]
  constructor
  · intro invalidated _
    rw [wp_bind, wp_modify]
    have hGate : Inv { vm with scrubGate := invalidated.2 } := h.setGate invalidated.2
    cases clearPreview with
    | true =>
        apply hQ
        · exact hGate.publish_same (coherent_withoutPreview h.coherent) rfl rfl
        · exact ⟨rfl, rfl, rfl, rfl, rfl⟩
    | false => exact hQ _ hGate ⟨rfl, rfl, rfl, rfl, rfl⟩
  · exact fun error _ => hE error

/-! ### Leaving and selecting a source -/

/-- The common part of the calls that leave the source. -/
theorem leaving_keeps (h : Inv vm) {Q : PUnit → ViewModel π ρ → Prop}
    (hLeft : ∀ other : ViewModel π ρ,
      other.inspectionGeneration = vm.inspectionGeneration + 1 → Inv other → Quiet other →
      other.ui = .blank → Q ⟨⟩ other) :
    wp (invalidateLiveScrub true >>= fun _ => advanceMicroscope >>= fun _ =>
        update fun _ => .blank) Q (fun _ => Inv)
      { vm with inspectionGeneration := vm.inspectionGeneration + 1 } := by
  obtain ⟨hInv, hQuiet⟩ := h.advanceInspection
  rw [wp_bind]
  apply wp_invalidateLiveScrub hInv
  · intro other hOtherInv hSame
    obtain ⟨hNext, hDead⟩ := hOtherInv.advanceMicroscope
    rw [wp_bind, wp_advanceMicroscope, wp_update]
    have hNextQuiet : Quiet { other with microscopeGeneration := other.microscopeGeneration + 1 } :=
      ⟨(hSame.quiet hQuiet).inspect, hDead⟩
    apply hLeft
    · exact hSame.inspectionGeneration
    · exact hNext.publish_quiet hNextQuiet coherent_blank
    · exact hNextQuiet.publish _
    · rfl
  · exact fun _ => hInv

theorem leaveSource_keeps (h : Inv vm) : Keeps leaveSource vm := by
  unfold Keeps leaveSource
  rw [wp_bind, wp_advanceInspection]
  exact leaving_keeps h fun _ _ hInv _ _ => hInv

theorem onVideoSelected_keeps (h : Inv vm) : Keeps onVideoSelected vm := by
  have hLaunch : wp ((invalidateLiveScrub true >>= fun _ => advanceMicroscope >>= fun _ =>
      update fun _ => .blank) >>= fun _ => modify fun vm' =>
        vm'.setInspectJob (vm.inspectionGeneration + 1) (some .closing))
      (fun _ => Inv) (fun _ => Inv)
      { vm with inspectionGeneration := vm.inspectionGeneration + 1 } := by
    rw [wp_bind]
    apply leaving_keeps h
    intro other hGeneration hInv hQuiet hBlank
    rw [wp_modify]
    apply hInv.setInspectJob (by omega)
    intro _ _
    exact ⟨by rw [hBlank]; rfl, hQuiet.live⟩
  unfold Keeps onVideoSelected
  rw [wp_bind, wp_advanceInspection]
  simpa only [bind_assoc] using hLaunch

theorem onCleared_keeps (h : Inv vm) : Keeps onCleared vm := by
  unfold Keeps onCleared
  rw [wp_bind, wp_advanceInspection, wp_bind, wp_advanceMicroscope, wp_bind, wp_get, wp_bind,
    wp_ofExcept]
  have hNext := h.advanceInspection.1.advanceMicroscope.1
  exact ⟨fun invalidated _ => hNext.setGate invalidated.2, fun _ _ => hNext⟩

/-! ### Opening the microscope -/

section Coroutines

variable {revision inspectionRevision : Nat}

/-- No source is inspected while the microscope is anywhere but idle. -/
theorem Inv.noInspection (h : Inv vm) (hState : vm.ui.microscopeState ≠ .idle) :
    vm.inspectJobs vm.inspectionGeneration = none := by
  cases hJob : vm.inspectJobs vm.inspectionGeneration with
  | none => rfl
  | some job => exact absurd (h.waiting job hJob).1 hState

/-- A coroutine that supersedes those of the microscope is launched. -/
theorem supersede_keeps (h : Inv vm) (hInspect : vm.inspectJobs vm.inspectionGeneration = none)
    {work : MicroscopeWork π}
    (hFinds : ∀ other : FrameScopeUiState π ρ,
      other.microscopeState = vm.ui.microscopeState → Finds other work) :
    wp (invalidateLiveScrub true >>= fun _ =>
        launchMicroscope (vm.microscopeGeneration + 1) ⟨vm.inspectionGeneration, work⟩)
      (fun _ => Inv) (fun _ => Inv)
      { vm with microscopeGeneration := vm.microscopeGeneration + 1 } := by
  obtain ⟨hNext, hDead⟩ := h.advanceMicroscope
  rw [wp_bind]
  apply wp_invalidateLiveScrub hNext
  · intro other hInv hSame
    have hInspection : other.inspectionGeneration = vm.inspectionGeneration :=
      hSame.inspectionGeneration
    have hMicroscope : other.microscopeGeneration = vm.microscopeGeneration + 1 :=
      hSame.microscopeGeneration
    rw [wp_launchMicroscope]
    apply hInv.launch (hSame.quiet ⟨hInspect, hDead⟩)
    · simp [ViewModel.isCurrent, hInspection, hMicroscope]
    · exact hFinds other.ui hSame.microscopeState
  · exact fun _ => hNext

theorem openMicroscope_keeps (h : Inv vm) {generation : Nat}
    (hGeneration : vm.inspectionGeneration = generation)
    (hInspect : vm.inspectJobs vm.inspectionGeneration = none)
    (hIdle : vm.ui.microscopeState = .idle) : Keeps (openMicroscope generation) vm := by
  unfold Keeps openMicroscope
  rw [wp_bind, wp_advanceMicroscope, ← hGeneration]
  exact supersede_keeps h hInspect fun _ hState => hState.trans hIdle

theorem sourceClosed_keeps (h : Inv vm) (generation : Nat) : Keeps (sourceClosed generation) vm := by
  unfold Keeps sourceClosed
  rw [wp_bind, wp_get]
  cases hJob : vm.inspectJobs generation with
  | none => exact h
  | some job =>
      cases job with
      | inspecting => exact h
      | closing =>
          dsimp only
          by_cases hNewest : generation = vm.inspectionGeneration
          · rw [if_pos hNewest, wp_modify]
            apply h.setInspectJob (Nat.le_of_eq hNewest)
            intro _ _
            exact h.waiting .closing (hNewest ▸ hJob)
          · rw [if_neg hNewest, wp_endInspect]
            exact h.endInspect generation

theorem inspected_keeps (h : Inv vm) (generation : Nat) (success : Bool) :
    Keeps (inspected generation success) vm := by
  unfold Keeps inspected
  rw [wp_bind, wp_get]
  cases hJob : vm.inspectJobs generation with
  | none => exact h
  | some job =>
      cases job with
      | closing => exact h
      | inspecting =>
          dsimp only
          rw [wp_bind, wp_endInspect]
          have hEnded : Inv (vm.setInspectJob generation none) := h.endInspect generation
          by_cases hNewest : generation = vm.inspectionGeneration
          · rw [if_pos hNewest]
            obtain ⟨hIdle, hDead⟩ := h.waiting .inspecting (hNewest ▸ hJob)
            have hNone : (vm.setInspectJob generation none).inspectJobs
                (vm.setInspectJob generation none).inspectionGeneration = none := by
              simp [ViewModel.setInspectJob, hNewest]
            cases success with
            | true =>
                rw [if_pos rfl, wp_bind, wp_update]
                apply openMicroscope_keeps
                · exact hEnded.publish_same (coherent_withoutProgress h.coherent) rfl rfl
                · exact hNewest.symm
                · exact hNone
                · exact hIdle
            | false =>
                rw [if_neg Bool.false_ne_true, wp_update]
                exact hEnded.publish_quiet ⟨hNone, hDead⟩ coherent_blank
          · rw [if_neg hNewest]
            exact hEnded

theorem openStarted_keeps (h : Inv vm)
    (hJob : vm.microscopeJobs revision = some ⟨inspectionRevision, .launched⟩) :
    Keeps (openStarted revision inspectionRevision) vm := by
  unfold Keeps openStarted
  rw [wp_bind, wp_get]
  by_cases hCurrent : vm.isCurrent inspectionRevision revision = true
  · rw [if_pos hCurrent, wp_bind]
    apply wp_publishMicroscope hCurrent
    rw [wp_launchMicroscope]
    obtain ⟨hQuiet, hFinds⟩ := h.resumed hJob hCurrent
    have hIdle : vm.ui.microscopeState = .idle := hFinds
    have hNone : vm.ui.timelineBounds = none := by
      cases hBounds : vm.ui.timelineBounds with
      | none => rfl
      | some bounds =>
          have hState := h.coherent.bounds bounds hBounds
          simp [hIdle, MicroscopeUiState.currentSessionId] at hState
    have hOpening : Coherent (withState vm.ui .opening) := by
      apply coherent_withPlain h.coherent
      · exact trivial
      · exact fun _ _ => .inl rfl
    have hPublished := (h.endMicroscope revision).publish_quiet hQuiet hOpening
    have hLaunched : Inv (((vm.setMicroscopeJob revision none).publish
        (withState vm.ui .opening)).setMicroscopeJob revision
          (some ⟨inspectionRevision, .opening⟩)) :=
      hPublished.launch (hQuiet.publish _) hCurrent ⟨rfl, hNone⟩
    simpa [ViewModel.setMicroscopeJob, ViewModel.publish] using hLaunched
  · rw [if_neg hCurrent, wp_endMicroscope]
    exact h.endMicroscope revision

/-- The bounds of a session belong to the frame that is loaded for it. -/
theorem loadFrameForSession_keeps (h : Inv vm) (hQuiet : Quiet vm)
    (hCurrent : vm.isCurrent inspectionRevision revision = true)
    {session : MicroscopeSessionSnapshot}
    (hBounds : ∀ bounds, vm.ui.timelineBounds = some bounds →
      session.sessionId = bounds.sessionId) :
    Keeps (loadFrameForSession session inspectionRevision revision true) vm := by
  unfold Keeps loadFrameForSession
  rw [wp_bind, if_pos rfl]
  apply wp_publishMicroscope hCurrent
  rw [wp_launchMicroscope]
  have hLoading : Coherent (withState vm.ui (.loadingFrame session)) := by
    apply coherent_withPlain h.coherent
    · exact trivial
    · exact fun bounds hSome => .inr (congrArg some (hBounds bounds hSome))
  exact (h.publish_quiet hQuiet hLoading).launch (hQuiet.publish _) hCurrent rfl

theorem resolveIndexedTimelineBounds_keeps (h : Inv vm) (hQuiet : Quiet vm)
    (hCurrent : vm.isCurrent inspectionRevision revision = true)
    (hOpening : vm.ui.microscopeState = .opening) (hNone : vm.ui.timelineBounds = none)
    (session : MicroscopeSessionSnapshot) (first : FrameDetails) :
    Keeps (resolveIndexedTimelineBounds session first inspectionRevision revision) vm := by
  unfold Keeps resolveIndexedTimelineBounds
  by_cases hFirst : first.frameId ≠ 0 ∨ session.frameCount ≤ 0
  · rw [if_pos hFirst]
    apply publishPlain_keeps h hQuiet hCurrent
    · exact trivial
    · intro bounds hSome
      rw [hNone] at hSome
      cases hSome
  rw [if_neg hFirst]
  by_cases hSingle : session.frameCount = 1
  · rw [if_pos hSingle, wp_bind]
    apply wp_publishTimelineBounds hCurrent
    apply loadFrameForSession_keeps
    · exact h.publish_quiet hQuiet (coherent_withBounds h.coherent hOpening _)
    · exact hQuiet.publish _
    · exact hCurrent
    · intro bounds hSome
      obtain ⟨us, -, hUs⟩ := Option.map_eq_some_iff.mp (Option.mem_filter_iff.mp hSome).1
      rw [← hUs]
  · rw [if_neg hSingle, wp_launchMicroscope]
    exact h.launch hQuiet hCurrent ⟨hOpening, hNone⟩

theorem opened_keeps (h : Inv vm)
    (hJob : vm.microscopeJobs revision = some ⟨inspectionRevision, .opening⟩)
    (result : Except Failure MicroscopeSessionSnapshot) :
    Keeps (opened revision inspectionRevision result) vm := by
  have hEnded := h.endMicroscope revision
  unfold Keeps opened
  rw [wp_bind, wp_endMicroscope]
  cases result with
  | error error =>
      apply publishFailure_keeps hEnded
      · exact fun hCurrent => (h.resumed hJob hCurrent).1
      · intro hCurrent bounds hSome
        have hNone : vm.ui.timelineBounds = none := (h.resumed hJob hCurrent).2.2
        cases hNone.symm.trans hSome
  | ok openedSession =>
      dsimp only
      rw [wp_bind, wp_get]
      by_cases hCurrent : (vm.setMicroscopeJob revision none).isCurrent inspectionRevision revision =
      true
      · rw [if_pos hCurrent]
        obtain ⟨hQuiet, hOpening, hNone⟩ := h.resumed hJob hCurrent
        cases openedSession.currentFrame with
        | some first =>
            exact resolveIndexedTimelineBounds_keeps hEnded hQuiet hCurrent hOpening hNone _ _
        | none =>
            dsimp only
            rw [wp_bind]
            apply wp_publishTimelineBounds hCurrent
            have hCleared := hEnded.publish_quiet hQuiet (coherent_withBounds h.coherent hOpening none)
            apply publishPlain_keeps hCleared (hQuiet.publish _) hCurrent
            · exact trivial
            · intro bounds hSome
              cases hSome
      · rw [if_neg hCurrent]
        exact hEnded

theorem jumpedLast_keeps (h : Inv vm) {session : MicroscopeSessionSnapshot}
    (hJob : vm.microscopeJobs revision = some ⟨inspectionRevision, .jumping session⟩)
    (lastResult : Except Failure MicroscopeSessionSnapshot) :
    Keeps (jumpedLast revision inspectionRevision session lastResult) vm := by
  have hEnded := h.endMicroscope revision
  unfold Keeps jumpedLast
  rw [wp_bind, wp_endMicroscope, wp_bind, wp_get]
  by_cases hCurrent : (vm.setMicroscopeJob revision none).isCurrent inspectionRevision revision =
      true
  · rw [if_pos hCurrent]
    obtain ⟨hQuiet, hOpening, hNone⟩ := h.resumed hJob hCurrent
    have hNoBounds : ∀ bounds, vm.ui.timelineBounds ≠ some bounds := by
      intro bounds
      rw [hNone]
      simp
    cases lastResult with
    | error error =>
        exact publishFailure_keeps hEnded (fun _ => hQuiet)
          fun _ bounds hSome => absurd hSome (hNoBounds bounds)
    | ok lastSession =>
        dsimp only
        split_ifs with hOther
        · apply publishPlain_keeps hEnded hQuiet hCurrent
          · exact trivial
          · exact fun bounds hSome => absurd hSome (hNoBounds bounds)
        · rw [wp_launchMicroscope]
          exact hEnded.launch hQuiet hCurrent ⟨hOpening, hNone⟩
  · rw [if_neg hCurrent]
    exact hEnded

/-- The bounds that are resolved are those of the session. -/
theorem endpointBounds_sessionId {session lastSession : MicroscopeSessionSnapshot}
    {bounds : IndexedTimelineBounds}
    (h : (do
      let first ← session.currentFrame
      let last ← lastSession.currentFrame
      endpointBounds session first last) = some bounds) : bounds.sessionId = session.sessionId := by
  obtain ⟨first, -, hFirst⟩ := Option.bind_eq_some_iff.mp h
  obtain ⟨last, -, hLast⟩ := Option.bind_eq_some_iff.mp hFirst
  unfold endpointBounds at hLast
  split at hLast
  · have hSome := (Option.mem_filter_iff.mp hLast).1
    rw [← Option.some.inj hSome]
  · cases hLast

theorem restored_keeps (h : Inv vm) {session lastSession : MicroscopeSessionSnapshot}
    (hJob : vm.microscopeJobs revision =
      some ⟨inspectionRevision, .restoring session lastSession⟩)
    (restoreResult : Except Failure MicroscopeSessionSnapshot) :
    Keeps (restored revision inspectionRevision session lastSession restoreResult) vm := by
  have hEnded := h.endMicroscope revision
  unfold Keeps restored
  rw [wp_bind, wp_endMicroscope, wp_bind, wp_get]
  by_cases hCurrent : (vm.setMicroscopeJob revision none).isCurrent inspectionRevision revision =
      true
  · rw [if_pos hCurrent]
    obtain ⟨hQuiet, hOpening, hNone⟩ := h.resumed hJob hCurrent
    have hNoBounds : ∀ bounds, vm.ui.timelineBounds ≠ some bounds := by
      intro bounds
      rw [hNone]
      simp
    cases restoreResult with
    | error error =>
        exact publishFailure_keeps hEnded (fun _ => hQuiet)
          fun _ bounds hSome => absurd hSome (hNoBounds bounds)
    | ok restoredSession =>
        dsimp only
        split_ifs with hOther
        · apply publishPlain_keeps hEnded hQuiet hCurrent
          · exact trivial
          · exact fun bounds hSome => absurd hSome (hNoBounds bounds)
        · rw [wp_bind]
          apply wp_publishTimelineBounds hCurrent
          apply loadFrameForSession_keeps
          · exact hEnded.publish_quiet hQuiet (coherent_withBounds h.coherent hOpening _)
          · exact hQuiet.publish _
          · exact hCurrent
          · intro bounds hSome
            rw [endpointBounds_sessionId hSome]
            by_contra hNe
            exact hOther (.inl hNe)
  · rw [if_neg hCurrent]
    exact hEnded

/-! ### Frames and navigation -/

/-- A state that waits for a frame belongs to one session. -/
theorem currentSessionId_of_awaited {state : MicroscopeUiState π} {sessionId : Int}
    (h : awaitedSessionId state = some sessionId) : state.currentSessionId = some sessionId := by
  cases state with
  | loadingFrame session => exact h
  | navigating session frame => exact h
  | idle => cases h
  | opening => cases h
  | ready session frame => cases h
  | empty session => cases h
  | error message code session => cases h

/-- While a coroutine waits for a frame, the bounds are those of its session. -/
theorem bounds_of_awaited (h : Coherent ui) {sessionId : Int}
    (hAwaited : awaitedSessionId ui.microscopeState = some sessionId)
    {bounds : IndexedTimelineBounds} (hSome : ui.timelineBounds = some bounds) :
    sessionId = bounds.sessionId := by
  have hOwn := currentSessionId_of_awaited hAwaited
  cases h.bounds bounds hSome with
  | inl hOpening =>
      rw [hOpening] at hOwn
      cases hOwn
  | inr hSession =>
      rw [hOwn] at hSession
      exact Option.some.inj hSession

theorem frameLoaded_keeps (h : Inv vm) {session : MicroscopeSessionSnapshot}
    (hJob : vm.microscopeJobs revision = some ⟨inspectionRevision, .loading session⟩)
    (result : Except Failure (MicroscopeFrame π)) :
    Keeps (frameLoaded revision inspectionRevision session result) vm := by
  have hEnded := h.endMicroscope revision
  have hBounds : vm.isCurrent inspectionRevision revision = true → ∀ bounds,
      vm.ui.timelineBounds = some bounds → session.sessionId = bounds.sessionId :=
    fun hCurrent _ hSome => bounds_of_awaited h.coherent (h.resumed hJob hCurrent).2 hSome
  unfold Keeps frameLoaded
  rw [wp_bind, wp_endMicroscope]
  cases result with
  | error error =>
      exact publishFailure_keeps hEnded (fun hCurrent => (h.resumed hJob hCurrent).1)
        fun hCurrent bounds hSome => congrArg some (hBounds hCurrent bounds hSome)
  | ok frame =>
      dsimp only
      rw [wp_bind, wp_get]
      by_cases hCurrent : (vm.setMicroscopeJob revision none).isCurrent inspectionRevision revision =
      true
      · rw [if_pos hCurrent]
        have hQuiet := (h.resumed hJob hCurrent).1
        split_ifs with hOther
        · apply publishPlain_keeps hEnded hQuiet hCurrent
          · exact trivial
          · exact fun bounds hSome => congrArg some (hBounds hCurrent bounds hSome)
        · apply wp_publishAuthoritativeFrame hCurrent
          apply hEnded.publish_quiet hQuiet
          apply coherent_withState h.coherent
          · intro _ _ hReady
            cases hReady
            push Not at hOther
            exact hOther
          · intro _ _ hNavigating
            cases hNavigating
          · exact fun bounds hSome => .inr (congrArg some (hBounds hCurrent bounds hSome))
      · rw [if_neg hCurrent]
        exact hEnded

/-- The answer of a navigation is a snapshot of the session that is navigated. -/
theorem navigated_keeps (h : Inv vm) {session : MicroscopeSessionSnapshot}
    (hJob : vm.microscopeJobs revision = some ⟨inspectionRevision, .navigating session⟩)
    {result : Except Failure MicroscopeSessionSnapshot}
    (hOwn : ∀ updated, result = .ok updated → updated.sessionId = session.sessionId) :
    Keeps (navigated revision inspectionRevision session result) vm := by
  have hEnded := h.endMicroscope revision
  have hBounds : vm.isCurrent inspectionRevision revision = true → ∀ bounds,
      vm.ui.timelineBounds = some bounds → session.sessionId = bounds.sessionId := by
    intro hCurrent bounds hSome
    obtain ⟨frame, hState⟩ := (h.resumed hJob hCurrent).2
    apply bounds_of_awaited h.coherent _ hSome
    rw [hState]
    rfl
  unfold Keeps navigated
  rw [wp_bind, wp_endMicroscope]
  cases result with
  | error error =>
      exact publishFailure_keeps hEnded (fun hCurrent => (h.resumed hJob hCurrent).1)
        fun hCurrent bounds hSome => congrArg some (hBounds hCurrent bounds hSome)
  | ok updated =>
      dsimp only
      rw [wp_bind, wp_get]
      have hSession := hOwn updated rfl
      by_cases hCurrent : (vm.setMicroscopeJob revision none).isCurrent inspectionRevision revision =
      true
      · rw [if_pos hCurrent]
        obtain ⟨hQuiet, frame, hState⟩ := h.resumed hJob hCurrent
        cases updated.currentFrame with
        | none =>
            dsimp only
            apply publishPlain_keeps hEnded hQuiet hCurrent
            · exact trivial
            · exact fun bounds hSome =>
                congrArg some (hSession.trans (hBounds hCurrent bounds hSome))
        | some _ =>
            dsimp only
            unfold loadFrameForSession
            rw [wp_bind, if_neg Bool.false_ne_true, wp_pure, wp_launchMicroscope]
            apply hEnded.launch hQuiet hCurrent
            show awaitedSessionId vm.ui.microscopeState = some updated.sessionId
            rw [hState, hSession]
            rfl
      · rw [if_neg hCurrent]
        exact hEnded

theorem errorClosed_keeps [DecidableEq π] (h : Inv vm) {error : MicroscopeUiState π}
    (hJob : vm.microscopeJobs revision = some ⟨inspectionRevision, .closing error⟩) :
    Keeps (errorClosed revision inspectionRevision error) vm := by
  have hEnded := h.endMicroscope revision
  unfold Keeps errorClosed
  rw [wp_bind, wp_endMicroscope, wp_bind, wp_get]
  by_cases hCurrent : (vm.setMicroscopeJob revision none).isCurrent inspectionRevision revision =
      true
  · rw [if_pos hCurrent, wp_update]
    apply hEnded.publish_quiet (h.resumed hJob hCurrent).1
    split_ifs with hState
    · exact coherent_blank
    · exact h.coherent
  · rw [if_neg hCurrent]
    exact hEnded

end Coroutines

/-- A navigation starts where a session is shown. -/
theorem launchNavigation_keeps (h : Inv vm) {session : MicroscopeSessionSnapshot}
    (hSession : vm.ui.microscopeState.currentSessionId = some session.sessionId)
    (frame : Option (MicroscopeFrame π)) : Keeps (launchNavigation session frame) vm := by
  have hInspect : vm.inspectJobs vm.inspectionGeneration = none := by
    apply h.noInspection
    intro hIdle
    rw [hIdle] at hSession
    cases hSession
  have hBounds : ∀ bounds, vm.ui.timelineBounds = some bounds →
      session.sessionId = bounds.sessionId := by
    intro bounds hSome
    cases h.coherent.bounds bounds hSome with
    | inl hOpening =>
        rw [hOpening] at hSession
        cases hSession
    | inr hOwn =>
        rw [hSession] at hOwn
        exact Option.some.inj hOwn
  have hPreview : ∀ preview, vm.ui.scrubPreview = some preview →
      preview.sessionId = session.sessionId := by
    intro preview hSome
    have hShown := h.coherent.preview preview hSome
    cases hState : vm.ui.microscopeState with
    | navigating shown frame =>
        rw [hState] at hShown hSession
        exact (Option.some.inj hShown).symm.trans (Option.some.inj hSession)
    | ready shown frame =>
        rw [hState] at hShown hSession
        exact (Option.some.inj hShown).symm.trans (Option.some.inj hSession)
    | idle => rw [hState] at hShown; cases hShown
    | opening => rw [hState] at hShown; cases hShown
    | loadingFrame shown => rw [hState] at hShown; cases hShown
    | empty shown => rw [hState] at hShown; cases hShown
    | error message code shown => rw [hState] at hShown; cases hShown
  obtain ⟨hNext, hDead⟩ := h.advanceMicroscope
  have hQuiet : Quiet { vm with microscopeGeneration := vm.microscopeGeneration + 1 } :=
    ⟨hInspect, hDead⟩
  unfold Keeps launchNavigation
  rw [wp_bind, wp_get, wp_bind, wp_advanceMicroscope, wp_bind]
  have hCurrent : ({ vm with microscopeGeneration := vm.microscopeGeneration + 1 } :
      ViewModel π ρ).isCurrent vm.inspectionGeneration (vm.microscopeGeneration + 1) = true := by
    simp [ViewModel.isCurrent]
  apply wp_publishMicroscope hCurrent
  rw [wp_launchMicroscope]
  have hNavigating : Coherent (withState vm.ui (.navigating session frame)) := by
    apply coherent_withState h.coherent
    · intro _ _ hReady
      cases hReady
    · intro _ _ hState preview hSome
      cases hState
      exact hPreview preview hSome
    · exact fun bounds hSome => .inr (congrArg some (hBounds bounds hSome))
  have hPublished : Inv (ViewModel.publish
      { vm with microscopeGeneration := vm.microscopeGeneration + 1 }
      (withState vm.ui (.navigating session frame))) := hNext.publish_quiet hQuiet hNavigating
  exact hPublished.launch (hQuiet.publish _) hCurrent ⟨frame, rfl⟩

theorem navigateMicroscope_keeps (h : Inv vm) : Keeps navigateMicroscope vm := by
  unfold Keeps navigateMicroscope
  rw [wp_bind, wp_get]
  cases hState : vm.ui.microscopeState with
  | ready session frame =>
      exact launchNavigation_keeps h (by rw [hState]; rfl) (some frame)
  | empty session => exact launchNavigation_keeps h (by rw [hState]; rfl) none
  | navigating session frame => exact launchNavigation_keeps h (by rw [hState]; rfl) frame
  | idle => exact h
  | opening => exact h
  | loadingFrame session => exact h
  | error message code session => exact h

theorem scrubThenNavigate_keeps (h : Inv vm) (clearPreview : Bool) :
    Keeps (invalidateLiveScrub clearPreview >>= fun _ => navigateMicroscope) vm := by
  unfold Keeps
  rw [wp_bind]
  apply wp_invalidateLiveScrub h
  · exact fun _ hInv _ => navigateMicroscope_keeps hInv
  · exact fun _ => h

theorem stepMicroscope_keeps (h : Inv vm) (delta : Int) : Keeps (stepMicroscope delta) vm := by
  unfold stepMicroscope
  split_ifs
  · exact scrubThenNavigate_keeps h true
  · exact h

theorem jumpMicroscopeFrame_keeps (h : Inv vm) (frameId : Int) :
    Keeps (jumpMicroscopeFrame frameId) vm := by
  unfold jumpMicroscopeFrame
  split_ifs
  · exact h
  · exact scrubThenNavigate_keeps h true

theorem finishMicroscopeScrubFrame_keeps (h : Inv vm) (frameId : Int) :
    Keeps (finishMicroscopeScrubFrame frameId) vm := by
  unfold finishMicroscopeScrubFrame
  split_ifs
  · exact h
  · exact scrubThenNavigate_keeps h false

/-! ### Errors and the timeline range -/

theorem clear_same (h : Inv vm) (hState : vm.ui.microscopeState.isError = false) :
    Keeps (update fun current => if current.microscopeState.isError then .blank else current)
      vm := by
  unfold Keeps
  rw [wp_update, hState]
  exact h.publish_same h.coherent rfl rfl

theorem clearError_keeps (h : Inv vm) : Keeps clearError vm := by
  unfold Keeps clearError
  rw [wp_bind, wp_get]
  cases hState : vm.ui.microscopeState with
  | error message code session =>
      cases session with
      | some session =>
          dsimp only
          unfold closeMicroscopeErrorBeforeClearing
          rw [wp_bind, wp_get, wp_bind, wp_advanceMicroscope]
          exact supersede_keeps h (h.noInspection (by simp [hState])) fun _ _ => trivial
      | none =>
          dsimp only
          rw [wp_update, hState]
          apply h.publish coherent_blank
          · exact fun _ _ => rfl
          -- Only the coroutine that clears an error may find one.
          · intro job hLive
            have hFound := h.finds job hLive
            cases hWork : job.work with
            | closing error => trivial
            | launched => simp [hWork, Finds, hState] at hFound
            | opening => simp [hWork, Finds, hState] at hFound
            | jumping session => simp [hWork, Finds, hState] at hFound
            | restoring session lastSession => simp [hWork, Finds, hState] at hFound
            | loading session => simp [hWork, Finds, hState, awaitedSessionId] at hFound
            | navigating session => simp [hWork, Finds, hState] at hFound
  | idle => exact clear_same h (by rw [hState]; rfl)
  | opening => exact clear_same h (by rw [hState]; rfl)
  | loadingFrame session => exact clear_same h (by rw [hState]; rfl)
  | navigating session frame => exact clear_same h (by rw [hState]; rfl)
  | ready session frame => exact clear_same h (by rw [hState]; rfl)
  | empty session => exact clear_same h (by rw [hState]; rfl)

theorem commitTimelineRange_keeps (h : Inv vm) (startUs endUs : Int) :
    Keeps (commitTimelineRange startUs endUs) vm := by
  unfold Keeps commitTimelineRange
  rw [wp_bind, wp_get]
  cases hState : vm.ui.microscopeState with
  | ready session frame =>
      dsimp only
      cases hFilter : vm.ui.timelineBounds.filter fun bounds =>
          bounds.sessionId = session.sessionId && bounds.isSane with
      | none => exact h
      | some bounds =>
          dsimp only
          split_ifs with hSane
          · rw [wp_update]
            exact h.publish_same (coherent_withRange h.coherent hSane)
              (withRange_microscopeState _ _ _) (withRange_timelineBounds _ _ _)
          · exact h
  | idle => exact h
  | opening => exact h
  | loadingFrame session => exact h
  | navigating session frame => exact h
  | empty session => exact h
  | error message code session => exact h

theorem clearTimelineRange_keeps (h : Inv vm) : Keeps clearTimelineRange vm := by
  have hCleared : Coherent { vm.ui with timelineRange := none } := by
    refine ⟨h.coherent.frame, h.coherent.preview, h.coherent.bounds, ?_, h.coherent.progress⟩
    intro range hRange
    cases hRange
  exact h.publish_same hCleared rfl rfl

/-! ### Live scrubbing -/

theorem enqueueLiveScrub_keeps (h : Inv vm) (target : LiveScrubTarget) (nanoTime : Int) :
    Keeps (enqueueLiveScrub target nanoTime) vm := by
  unfold Keeps enqueueLiveScrub
  rw [wp_bind, wp_get]
  cases vm.ui.microscopeState with
  | ready session frame =>
      dsimp only
      rw [wp_bind, wp_ofExcept]
      exact ⟨fun submitted _ => h.setGate submitted.2, fun _ _ => h⟩
  | idle => exact h
  | opening => exact h
  | loadingFrame session => exact h
  | navigating session frame => exact h
  | empty session => exact h
  | error message code session => exact h

theorem previewMicroscopeFrame_keeps (h : Inv vm) (frameId nanoTime : Int) :
    Keeps (previewMicroscopeFrame frameId nanoTime) vm := by
  unfold previewMicroscopeFrame
  split_ifs
  · exact h
  · exact enqueueLiveScrub_keeps h _ nanoTime

theorem beginScrub_keeps (h : Inv vm) : Keeps beginScrub vm := by
  unfold Keeps beginScrub
  rw [wp_modify]
  cases vm.rendering with
  | some request => exact h
  | none => exact h.setRendering _ _

theorem scrubCancelled_keeps (h : Inv vm) : Keeps scrubCancelled vm := by
  unfold Keeps scrubCancelled
  rw [wp_modify]
  cases vm.rendering with
  | none => exact h
  | some request => exact h.setRendering _ _

theorem withPreview_microscopeState (request : LiveScrubRequest)
    (preview : MicroscopeScrubPreview π) (ui : FrameScopeUiState π ρ) :
    (withPreview request preview ui).microscopeState = ui.microscopeState := by
  unfold withPreview
  split
  · split_ifs <;> rfl
  · rfl

theorem withPreview_timelineBounds (request : LiveScrubRequest)
    (preview : MicroscopeScrubPreview π) (ui : FrameScopeUiState π ρ) :
    (withPreview request preview ui).timelineBounds = ui.timelineBounds := by
  unfold withPreview
  split
  · split_ifs <;> rfl
  · rfl

theorem scrubRendered_keeps (h : Inv vm) (result : Except Failure (MicroscopeScrubPreview π)) :
    Keeps (scrubRendered result) vm := by
  unfold Keeps scrubRendered
  rw [wp_bind, wp_get]
  cases vm.rendering with
  | none => exact h
  | some request =>
      dsimp only
      rw [wp_bind, wp_modify]
      have hFinished : Inv { vm with
          scrubGate := (vm.scrubGate.finish request).2, rendering := none } := h.setRendering _ _
      cases (vm.scrubGate.finish request).1 with
      | false => exact hFinished
      | true =>
          cases result with
          | error error => exact hFinished
          | ok preview =>
              dsimp only
              split_ifs with hOwn
              · rw [wp_update]
                exact hFinished.publish_same (coherent_withPreview h.coherent hOwn)
                  (withPreview_microscopeState _ _ _) (withPreview_timelineBounds _ _ _)
              · exact hFinished

/-! ### Indexing progress -/

theorem Inv.setProgressUpdate (h : Inv vm)
    (pending : Option (FrameScopeUiState π ρ × FrameScopeUiState π ρ))
    (hReading : ∀ expected next, pending = some (expected, next) →
      expected.microscopeState = .opening ∧ ∃ presented,
        next = { expected with indexingProgress := some presented }) :
    Inv { vm with progressUpdate := pending } :=
  ⟨h.coherent, h.published, h.inspectLe, h.revisionLe, h.waiting, h.finds, hReading⟩

theorem progressRead_keeps (h : Inv vm) (revision inspectionRevision : Nat) (presented : ρ) :
    Keeps (progressRead revision inspectionRevision presented) vm := by
  unfold Keeps progressRead
  rw [wp_modify]
  cases hState : vm.ui.microscopeState with
  | opening =>
      dsimp only
      split_ifs
      · apply h.setProgressUpdate
        intro expected next hRead
        cases hRead
        exact ⟨hState, presented, rfl⟩
      · exact h
  | idle => exact h
  | loadingFrame session => exact h
  | navigating session frame => exact h
  | ready session frame => exact h
  | empty session => exact h
  | error message code session => exact h

/-- The state that is set differs from the one that was read in the progress alone. -/
theorem progressSet_keeps [DecidableEq π] [DecidableEq ρ] (h : Inv vm) : Keeps progressSet vm := by
  unfold Keeps progressSet
  rw [wp_bind, wp_get]
  cases hUpdate : vm.progressUpdate with
  | none => exact h
  | some update =>
      obtain ⟨hOpening, presented, hNext⟩ := h.reading update.1 update.2 hUpdate
      dsimp only
      rw [wp_bind, wp_modify]
      have hTaken : Inv { vm with progressUpdate := none } := by
        apply h.setProgressUpdate
        intro _ _ hNone
        cases hNone
      split_ifs with hSame
      · rw [wp_update, hNext, ← hSame]
        have hShown : Coherent ({ vm.ui with indexingProgress := some presented } :
            FrameScopeUiState π ρ) :=
          ⟨h.coherent.frame, h.coherent.preview, h.coherent.bounds, h.coherent.range,
            fun _ => hSame ▸ hOpening⟩
        exact hTaken.publish_same hShown rfl rfl
      · exact hTaken

/-! ## Runs -/

/-- The repository answers a navigation with a snapshot of the session that is
navigated; the session controller refuses every other answer of the native side. -/
def AnswersForSession (vm : ViewModel π ρ) : UiEvent π ρ → Prop
  | .moved revision (.ok updated) =>
      ∀ inspectionRevision session,
        vm.microscopeJobs revision = some ⟨inspectionRevision, .navigating session⟩ →
          updated.sessionId = session.sessionId
  | _ => True

/-- The session that a navigation was asked for. -/
def navigatedSessionId : MicroscopeWork π → Option Int
  | .navigating session => some session.sessionId
  | _ => none

theorem answers_of_job {revision : Nat} {updated : MicroscopeSessionSnapshot}
    (h : ((vm.microscopeJobs revision).bind fun job => navigatedSessionId job.work).all
      (· = updated.sessionId) = true) :
    AnswersForSession vm (.moved revision (.ok updated)) := by
  intro inspectionRevision session hJob
  rw [hJob] at h
  exact (of_decide_eq_true h).symm

section Runs

variable [DecidableEq π]

theorem resume_keeps (h : Inv vm) {revision : Nat} {job : MicroscopeJob π}
    (hJob : vm.microscopeJobs revision = some job) (event : UiEvent π ρ)
    (hOwn : ∀ session updated, job.work = .navigating session →
      event = .moved revision (.ok updated) → updated.sessionId = session.sessionId)
    (hAt : ∀ result other, event = .moved other result → other = revision) :
    Keeps (resume job revision event) vm := by
  cases event with
  | started other =>
      cases job with
      | mk inspectionRevision work =>
          cases work with
          | launched => exact openStarted_keeps h hJob
          | opening => exact h
          | jumping session => exact h
          | restoring session lastSession => exact h
          | loading session => exact h
          | navigating session => exact h
          | closing error => exact h
  | opened other result =>
      cases job with
      | mk inspectionRevision work =>
          cases work with
          | opening => exact opened_keeps h hJob result
          | launched => exact h
          | jumping session => exact h
          | restoring session lastSession => exact h
          | loading session => exact h
          | navigating session => exact h
          | closing error => exact h
  | moved other result =>
      cases hAt result other rfl
      cases job with
      | mk inspectionRevision work =>
          cases work with
          | jumping session => exact jumpedLast_keeps h hJob result
          | restoring session lastSession => exact restored_keeps h hJob result
          | navigating session =>
              apply navigated_keeps h hJob
              intro updated hResult
              exact hOwn session updated rfl (by rw [hResult])
          | launched => exact h
          | opening => exact h
          | loading session => exact h
          | closing error => exact h
  | frameLoaded other result =>
      cases job with
      | mk inspectionRevision work =>
          cases work with
          | loading session => exact frameLoaded_keeps h hJob result
          | launched => exact h
          | opening => exact h
          | jumping session => exact h
          | restoring session lastSession => exact h
          | navigating session => exact h
          | closing error => exact h
  | errorClosed other =>
      cases job with
      | mk inspectionRevision work =>
          cases work with
          | closing error => exact errorClosed_keeps h hJob
          | launched => exact h
          | opening => exact h
          | jumping session => exact h
          | restoring session lastSession => exact h
          | loading session => exact h
          | navigating session => exact h
  | progressRead other presented =>
      cases job with
      | mk inspectionRevision work =>
          cases work with
          | opening => exact progressRead_keeps h revision inspectionRevision presented
          | launched => exact h
          | jumping session => exact h
          | restoring session lastSession => exact h
          | loading session => exact h
          | navigating session => exact h
          | closing error => exact h
  | _ => exact h

theorem resumeAt_keeps (h : Inv vm) {revision : Nat} {event : UiEvent π ρ}
    (hOwn : AnswersForSession vm event)
    (hAt : ∀ result other, event = .moved other result → other = revision) :
    Keeps (resumeAt revision event) vm := by
  unfold Keeps resumeAt
  rw [wp_bind, wp_get]
  cases hJob : vm.microscopeJobs revision with
  | none => exact h
  | some job =>
      apply resume_keeps h hJob event _ hAt
      intro session updated hWork hEvent
      subst hEvent
      exact hOwn job.inspectionRevision session (by rw [hJob, ← hWork])

variable [DecidableEq ρ]

theorem Inv.step (h : Inv vm) (event : UiEvent π ρ) (hOwn : AnswersForSession vm event) :
    Inv (step vm event) := by
  have hSegment : Keeps (segment event) vm := by
    cases event with
    | onPickerStarted => exact leaveSource_keeps h
    | onVideoSelected => exact onVideoSelected_keeps h
    | cancelInspection => exact leaveSource_keeps h
    | onPickerCancelled => exact leaveSource_keeps h
    | onCleared => exact onCleared_keeps h
    | clearError => exact clearError_keeps h
    | stepMicroscope delta => exact stepMicroscope_keeps h delta
    | jumpMicroscopeFrame frameId => exact jumpMicroscopeFrame_keeps h frameId
    | jumpMicroscopeTimestampUs => exact scrubThenNavigate_keeps h true
    | finishMicroscopeScrubTimestampUs => exact scrubThenNavigate_keeps h false
    | finishMicroscopeScrubFrame frameId => exact finishMicroscopeScrubFrame_keeps h frameId
    | commitTimelineRange startUs endUs => exact commitTimelineRange_keeps h startUs endUs
    | clearTimelineRange => exact clearTimelineRange_keeps h
    | previewMicroscopeTimestampUs timestampUs nanoTime =>
        exact enqueueLiveScrub_keeps h _ nanoTime
    | previewMicroscopeFrame frameId nanoTime => exact previewMicroscopeFrame_keeps h frameId nanoTime
    | sourceClosed generation => exact sourceClosed_keeps h generation
    | inspected generation success => exact inspected_keeps h generation success
    | inspectEnded generation => exact h.endInspect generation
    | started revision => exact resumeAt_keeps h hOwn (by simp)
    | opened revision result => exact resumeAt_keeps h hOwn (by simp)
    | moved revision result => exact resumeAt_keeps h hOwn (by simp)
    | frameLoaded revision result => exact resumeAt_keeps h hOwn (by simp)
    | errorClosed revision => exact resumeAt_keeps h hOwn (by simp)
    | microscopeEnded revision => exact h.endMicroscope revision
    | beginScrub => exact beginScrub_keeps h
    | scrubRendered result => exact scrubRendered_keeps h result
    | scrubCancelled => exact scrubCancelled_keeps h
    | progressRead revision presented => exact resumeAt_keeps h hOwn (by simp)
    | progressSet => exact progressSet_keeps h
  exact wp_finalState hSegment (fun _ _ hInv => hInv) fun _ _ hInv => hInv

/-- In every run, whatever the order in which results arrive, every published
state is coherent. -/
theorem published_coherent (events : List (UiEvent π ρ))
    (h : Meets step AnswersForSession ViewModel.initial events) :
    ∀ ui ∈ (events.foldl step ViewModel.initial).published, Coherent ui := by
  have hStep : ∀ (vm : ViewModel π ρ) (event : UiEvent π ρ), Inv vm →
      AnswersForSession vm event → Inv (step vm event) := fun _ event hInv => hInv.step event
  exact (run_invariant hStep initial_inv h).published

end Runs

/-! ### A session that is scrubbed and stepped -/

section Sample

/-- The session on one of its three frames. -/
def sampleSession (frameId : Int) : MicroscopeSessionSnapshot :=
  ⟨7, 3, some ⟨frameId, some (40 * frameId)⟩⟩

/-- A video is opened, a range is committed, and a step follows a preview. -/
def sampleEvents : List (UiEvent Unit Unit) :=
  [.onVideoSelected, .sourceClosed 1, .inspected 1 true, .started 2, .progressRead 2 (),
    .progressSet, .opened 2 (.ok (sampleSession 0)), .moved 2 (.ok (sampleSession 2)),
    .moved 2 (.ok (sampleSession 0)), .frameLoaded 2 (.ok ⟨7, 0, ()⟩), .commitTimelineRange 0 40,
    .previewMicroscopeTimestampUs 40 1, .beginScrub, .scrubRendered (.ok ⟨7, 1, ()⟩),
    .finishMicroscopeScrubTimestampUs, .moved 3 (.ok (sampleSession 1))]

theorem sampleEvents_answered :
    Meets step AnswersForSession (ViewModel.initial : ViewModel Unit Unit) sampleEvents := by
  refine ⟨trivial, trivial, trivial, trivial, trivial, trivial, trivial, ?_, ?_, trivial, trivial,
    trivial, trivial, trivial, trivial, ?_, trivial⟩
  · exact answers_of_job rfl
  · exact answers_of_job rfl
  · exact answers_of_job rfl

/-- The preview of the scrub is still shown while the step loads its frame. -/
theorem published_coherent_stepping :
    (sampleEvents.foldl step ViewModel.initial).ui =
        ⟨.navigating (sampleSession 0) (some ⟨7, 0, ()⟩), none, some ⟨7, 0, 80⟩, some ⟨7, 0, 40⟩,
          some ⟨7, 1, ()⟩⟩ ∧
      ∀ ui ∈ (sampleEvents.foldl step ViewModel.initial).published, Coherent ui :=
  ⟨rfl, published_coherent sampleEvents sampleEvents_answered⟩

end Sample

end FrameScope.Ports.MicroscopeUiLaw
