import FrameScope.Ports.SupersededWork
import FrameScope.Verified.Runs

/-!
# Which superseded work runs on

A superseding call reads the recorded id once and cancels the coroutine later.
A body that records its id and passes its check between the two is neither seen
by the one nor stopped by the other.  `openMicroscope` checks its coroutine
before it records its id and not after, so the read may also come between these;
and an id that is recorded over another hides it from every later read.  In a
run where none of the three happens, no superseded operation runs on.
-/

namespace FrameScope.Ports.SupersededWorkLaw

open FrameScope.Verified.Runs
open FrameScope.Ports.SupersededWork

/-- The native operation of a request that a returned call has superseded runs only
with its cancellation requested. -/
def NoneRunsOn (s : WorkState) : Prop :=
  ∀ r request, s.superseded r = true → s.requests r = some request → request.phase = .native →
    request.requested = true

/-! ## The condition -/

/-- Its id is recorded. -/
def Recorded (request : Request) : Prop :=
  request.phase = .recorded ∨ request.phase = .admitted ∨ request.phase = .native

/-- Nothing stops it any more. -/
def Exposed (request : Request) : Prop :=
  (request.phase = .admitted ∨ request.phase = .native) ∧ request.requested = false

/-- It will enter the native function with no other check. -/
def Committed (request : Request) : Prop :=
  request.kind = .openMicroscope ∧ request.phase = .checked

/-- The running call still reads the id of a request, or has read it. -/
def Covered (r : Nat) (request : Request) (program : List MainStep) : Prop :=
  .cancelActive request.kind.lane ∈ program ∨ .requestCancellation (some r) ∈ program

/-- The running call supersedes the request. -/
def Targeted (s : WorkState) (r : Nat) : Prop :=
  s.superseding r = true ∨ ∃ kind, s.jobs kind = some r ∧ .cancelJob kind ∈ s.program

/-- A step that leaves no gap: the last read of the running call does not come
between the check and the record of an opening that it supersedes; a check does
not pass between that read, when it has not seen the request, and the cancellation
of the coroutine; and no id is recorded over that of another operation whose
cancellation is not requested. -/
def LeavesNoGap (s : WorkState) : WorkEvent → Prop
  | .call _ => True
  | .continueMain =>
      ∀ lane rest, s.program = .cancelActive lane :: rest → .cancelActive lane ∉ rest →
        ∀ r request, Targeted s r → s.requests r = some request → request.kind.lane = lane →
          ¬ Committed request
  | .advance r =>
      ∀ request, s.requests r = some request →
        (request.kind = .openMicroscope → request.phase = .launched → request.cancelled = false →
          Targeted s r → .cancelActive request.kind.lane ∈ s.program) ∧
        (request.phase = .recorded → request.cancelled = false → Targeted s r →
          request.requested = true ∨ Covered r request s.program) ∧
        (request.kind ≠ .findSimilarFrames → request.phase = .checked →
          ∀ other otherRequest, other ≠ r → s.requests other = some otherRequest →
            otherRequest.kind.lane = request.kind.lane → Recorded otherRequest →
              otherRequest.requested = true)
  | .fail _ => True

/-! ## The invariant -/

/-- What a request that is being superseded still has ahead of it. -/
def Guarded (r : Nat) (request : Request) (program : List MainStep) : Prop :=
  (Exposed request → Covered r request program) ∧
    (Committed request → .cancelActive request.kind.lane ∈ program)

structure Inv (s : WorkState) : Prop where
  future : ∀ r, s.launches ≤ r →
    s.requests r = none ∧ s.superseding r = false ∧ s.superseded r = false
  jobs : ∀ kind r, s.jobs kind = some r → ∃ request, s.requests r = some request ∧ request.kind = kind
  slot : ∀ r request, s.requests r = some request → Recorded request → request.requested = false →
    s.activeOperation request.kind.lane = some r
  cancelled : ∀ r request, s.superseding r = true ∨ s.superseded r = true →
    s.requests r = some request → request.cancelled = true
  targeted : ∀ r request, Targeted s r → s.requests r = some request → Guarded r request s.program
  done : ∀ r request, s.superseded r = true → s.requests r = some request → Guarded r request []

theorem inv_initial : Inv initial where
  future := fun _ _ => ⟨rfl, rfl, rfl⟩
  jobs := by
    intro kind r hJob
    cases hJob
  slot := by
    intro r request hRequest
    cases hRequest
  cancelled := by
    intro r request _ hRequest
    cases hRequest
  targeted := by
    intro r request _ hRequest
    cases hRequest
  done := by
    intro r request _ hRequest
    cases hRequest

theorem Inv.noneRunsOn {s : WorkState} (h : Inv s) : NoneRunsOn s := by
  intro r request hSuperseded hRequest hNative
  cases hRequested : request.requested with
  | true => rfl
  | false =>
      have hCovered := (h.done r request hSuperseded hRequest).1 ⟨.inr hNative, hRequested⟩
      simp [Covered] at hCovered

section Steps

variable {s : WorkState} {r : Nat} {request request' : Request}

theorem Inv.launched (h : Inv s) (hRequest : s.requests r = some request) : r < s.launches := by
  by_cases hKnown : r < s.launches
  · exact hKnown
  · have hNone := (h.future r (by omega)).1
    rw [hRequest] at hNone
    cases hNone

@[simp] theorem setRequest_self (s : WorkState) (r : Nat) (request : Request) :
    (s.setRequest r request).requests r = some request := by
  simp [WorkState.setRequest]

@[simp] theorem setRequest_of_ne (s : WorkState) {r other : Nat} (h : other ≠ r) (request : Request) :
    (s.setRequest r request).requests other = s.requests other := by
  simp [WorkState.setRequest, h]

/-- A request may change when it stays guarded, and cancelled where it was. -/
theorem Inv.setRequest (h : Inv s) (hRequest : s.requests r = some request)
    (hKind : request'.kind = request.kind)
    (hCancelled : request.cancelled = true → request'.cancelled = true)
    (hSlot : Recorded request' → request'.requested = false →
      s.activeOperation request'.kind.lane = some r)
    (hTargeted : Targeted s r → Guarded r request' s.program)
    (hDone : s.superseded r = true → Guarded r request' []) :
    Inv (s.setRequest r request') where
  future := by
    intro other hLater
    have hKnown := h.launched hRequest
    have hOther : other ≠ r := by
      have hBound : s.launches ≤ other := hLater
      omega
    rw [setRequest_of_ne s hOther]
    exact h.future other hLater
  jobs := by
    intro kind other hJob
    obtain ⟨found, hFound, hFoundKind⟩ := h.jobs kind other hJob
    by_cases hSame : other = r
    · subst hSame
      rw [hRequest] at hFound
      cases hFound
      exact ⟨request', setRequest_self s other request', hKind.trans hFoundKind⟩
    · exact ⟨found, (setRequest_of_ne s hSame request').trans hFound, hFoundKind⟩
  slot := by
    intro other found hFound hRecorded hNotRequested
    by_cases hSame : other = r
    · subst hSame
      rw [setRequest_self] at hFound
      cases hFound
      exact hSlot hRecorded hNotRequested
    · rw [setRequest_of_ne s hSame] at hFound
      exact h.slot other found hFound hRecorded hNotRequested
  cancelled := by
    intro other found hSuperseded hFound
    by_cases hSame : other = r
    · subst hSame
      rw [setRequest_self] at hFound
      cases hFound
      exact hCancelled (h.cancelled other request hSuperseded hRequest)
    · rw [setRequest_of_ne s hSame] at hFound
      exact h.cancelled other found hSuperseded hFound
  targeted := by
    intro other found hOther hFound
    by_cases hSame : other = r
    · subst hSame
      rw [setRequest_self] at hFound
      cases hFound
      exact hTargeted hOther
    · rw [setRequest_of_ne s hSame] at hFound
      exact h.targeted other found hOther hFound
  done := by
    intro other found hSuperseded hFound
    by_cases hSame : other = r
    · subst hSame
      rw [setRequest_self] at hFound
      cases hFound
      exact hDone hSuperseded
    · rw [setRequest_of_ne s hSame] at hFound
      exact h.done other found hSuperseded hFound

/-- A request that is neither exposed nor committed is guarded. -/
theorem guarded_of_not {program : List MainStep} (hExposed : ¬ Exposed request)
    (hCommitted : ¬ Committed request) : Guarded r request program :=
  ⟨fun h => absurd h hExposed, fun h => absurd h hCommitted⟩

/-- The recorded id of a lane may change when every operation of it that is not
asked to stop is the recorded one. -/
theorem Inv.setActive (h : Inv s) {lane : Lane} {operation : Option Nat}
    (hSlot : ∀ r request, s.requests r = some request → request.kind.lane = lane →
      Recorded request → request.requested = false → operation = some r) :
    Inv { s with activeOperation := Function.update s.activeOperation lane operation } where
  future := h.future
  jobs := h.jobs
  slot := by
    intro r request hRequest hRecorded hNotRequested
    show Function.update s.activeOperation lane operation request.kind.lane = some r
    by_cases hSame : request.kind.lane = lane
    · rw [hSame, Function.update_self]
      exact hSlot r request hRequest hSame hRecorded hNotRequested
    · rw [Function.update_of_ne hSame]
      exact h.slot r request hRequest hRecorded hNotRequested
  cancelled := h.cancelled
  targeted := h.targeted
  done := h.done

/-! ## The bodies -/

/-- A body goes on to a phase in which its id is not recorded or was before. -/
theorem Inv.setPhase (h : Inv s) (hRequest : s.requests r = some request) {phase : WorkPhase}
    (hSlot : Recorded { request with phase := phase } → request.requested = false →
      s.activeOperation request.kind.lane = some r)
    (hTargeted : Targeted s r → Guarded r { request with phase := phase } s.program)
    (hDone : s.superseded r = true → Guarded r { request with phase := phase } []) :
    Inv (s.setPhase r request phase) :=
  h.setRequest hRequest rfl (fun hCancelled => hCancelled) hSlot hTargeted hDone

/-- A phase with nothing recorded and nothing ahead. -/
theorem Inv.setQuiet (h : Inv s) (hRequest : s.requests r = some request) {phase : WorkPhase}
    (hRecorded : ¬ Recorded { request with phase := phase })
    (hCommitted : ¬ Committed { request with phase := phase }) : Inv (s.setPhase r request phase) := by
  have hExposed : ¬ Exposed { request with phase := phase } := fun hNow => hRecorded (.inr hNow.1)
  exact h.setPhase hRequest (fun hNow => absurd hNow hRecorded)
    (fun _ => guarded_of_not hExposed hCommitted) fun _ => guarded_of_not hExposed hCommitted

theorem Inv.record (h : Inv s) (hRequest : s.requests r = some request)
    (hPhase : request.phase = .checked)
    (hOwn : request.kind ≠ .findSimilarFrames → ∀ other otherRequest, other ≠ r →
      s.requests other = some otherRequest → otherRequest.kind.lane = request.kind.lane →
        Recorded otherRequest → otherRequest.requested = true) :
    Inv (s.record r request) := by
  have hNotRecorded : ¬ Recorded request := by
    simp [Recorded, hPhase]
  -- When the id is written, every other operation of the lane is asked to stop.
  have hClaims : (∀ other otherRequest, other ≠ r → s.requests other = some otherRequest →
        otherRequest.kind.lane = request.kind.lane → Recorded otherRequest →
          otherRequest.requested = true) →
      Inv { s with activeOperation := Function.update s.activeOperation request.kind.lane (some r) } := by
    intro hOthers
    apply h.setActive
    intro other otherRequest hFound hLane hRecorded hNotRequested
    by_cases hSame : other = r
    · rw [hSame]
    · rw [hOthers other otherRequest hSame hFound hLane hRecorded] at hNotRequested
      cases hNotRequested
  have hWritten : Function.update s.activeOperation request.kind.lane (some r) request.kind.lane =
      some r := Function.update_self ..
  unfold WorkState.record
  cases hKind : request.kind with
  | inspect =>
      have hClaimed := hClaims (hOwn (by simp [hKind]))
      rw [hKind] at hClaimed hWritten
      apply hClaimed.setPhase hRequest
      · intro _ _
        rw [hKind]
        exact hWritten
      · exact fun _ => guarded_of_not (by simp [Exposed]) (by simp [Committed])
      · exact fun _ => guarded_of_not (by simp [Exposed]) (by simp [Committed])
  | openMicroscope =>
      have hClaimed := hClaims (hOwn (by simp [hKind]))
      have hCommitted : Committed request := ⟨hKind, hPhase⟩
      rw [hKind] at hClaimed hWritten
      apply hClaimed.setPhase hRequest
      · intro _ _
        rw [hKind]
        exact hWritten
      · intro hTargeted
        have hRead := (h.targeted r request hTargeted hRequest).2 hCommitted
        exact ⟨fun _ => .inl hRead, by simp [Committed]⟩
      · intro hSuperseded
        have hRead := (h.done r request hSuperseded hRequest).2 hCommitted
        cases hRead
  | findSimilarFrames =>
      by_cases hFree : s.activeOperation .similarity = none
      · have hClaimed : Inv { s with
            activeOperation := Function.update s.activeOperation .similarity (some r) } := by
          have hOthers := hClaims fun other otherRequest _ hFound hLane hRecorded => by
            cases hRequested : otherRequest.requested with
            | true => rfl
            | false =>
                have hSlot := h.slot other otherRequest hFound hRecorded hRequested
                rw [hLane, hKind] at hSlot
                exact absurd (hFree.symm.trans hSlot) (by simp)
          rwa [hKind] at hOthers
        show Inv (if s.activeOperation .similarity = none then _ else _)
        rw [if_pos hFree]
        rw [hKind] at hWritten
        apply hClaimed.setPhase hRequest
        · intro _ _
          rw [hKind]
          exact hWritten
        · exact fun _ => guarded_of_not (by simp [Exposed]) (by simp [Committed])
        · exact fun _ => guarded_of_not (by simp [Exposed]) (by simp [Committed])
      · show Inv (if s.activeOperation .similarity = none then _ else _)
        rw [if_neg hFree]
        exact h.setQuiet hRequest (by simp [Recorded]) (by simp [Committed])

/-- The id is cleared where it is still the recorded one. -/
theorem Inv.clear (h : Inv s) (hRequest : s.requests r = some request) : Inv (s.clear r request) := by
  have hEnded : Inv (s.setPhase r request .ended) :=
    h.setQuiet hRequest (by simp [Recorded]) (by simp [Committed])
  apply hEnded.setActive
  intro other found hFound hLane hRecorded hNotRequested
  have hOther : other ≠ r := by
    intro hSame
    have hEndedPhase : found = { request with phase := .ended } := by
      have hSelf := setRequest_self s r { request with phase := .ended }
      rw [← hSame] at hSelf
      exact Option.some.inj (hFound.symm.trans (by rw [hSame] at hSelf ⊢; exact hSelf))
    rw [hEndedPhase] at hRecorded
    simp [Recorded] at hRecorded
  have hBefore : s.requests other = some found := (setRequest_of_ne s hOther _).symm.trans hFound
  have hSlot := h.slot other found hBefore hRecorded hNotRequested
  rw [hLane] at hSlot
  have hKept : s.activeOperation request.kind.lane ≠ some r := by
    rw [hSlot]
    exact fun hSame => hOther (Option.some.inj hSame)
  rw [if_neg hKept]
  exact hSlot

theorem Inv.advance (h : Inv s) (hGap : LeavesNoGap s (.advance r)) : Inv (s.advance r) := by
  unfold WorkState.advance
  cases hRequest : s.requests r with
  | none => exact h
  | some request =>
      obtain ⟨hOpening, hCheck, hOwn⟩ := hGap request hRequest
      have hStopped : s.superseded r = true → request.cancelled = true :=
        fun hSuperseded => h.cancelled r request (.inr hSuperseded) hRequest
      dsimp only
      cases hPhase : request.phase with
      | launched =>
          dsimp only
          by_cases hCancelled : request.cancelled = true
          · rw [if_pos hCancelled]
            exact h.setQuiet hRequest (by simp [Recorded]) (by simp [Committed])
          · rw [if_neg hCancelled]
            have hActive : request.cancelled = false := by simpa using hCancelled
            have hNot : ¬ Exposed { request with phase := .checked } := by simp [Exposed]
            apply h.setPhase hRequest
            · simp [Recorded]
            · intro hTargeted
              refine ⟨fun hExposed => absurd hExposed hNot, ?_⟩
              exact fun hCommitted => hOpening hCommitted.1 hPhase hActive hTargeted
            · exact fun hSuperseded => absurd (hStopped hSuperseded) hCancelled
      | checked => exact h.record hRequest hPhase fun hKind => hOwn hKind hPhase
      | recorded =>
          have hRecorded : Recorded request := .inl hPhase
          dsimp only
          by_cases hCancelled : request.cancelled = true
          · rw [if_pos hCancelled]
            exact h.setQuiet hRequest (by simp [Recorded]) (by simp [Committed])
          · rw [if_neg hCancelled]
            have hActive : request.cancelled = false := by simpa using hCancelled
            apply h.setPhase hRequest
            · exact fun _ hNotRequested => h.slot r request hRequest hRecorded hNotRequested
            · intro hTargeted
              refine ⟨?_, by simp [Committed]⟩
              intro hExposed
              cases hCheck hPhase hActive hTargeted with
              | inl hRequested =>
                  have hNotRequested : request.requested = false := hExposed.2
                  rw [hRequested] at hNotRequested
                  cases hNotRequested
              | inr hCovered => exact hCovered
            · exact fun hSuperseded => absurd (hStopped hSuperseded) hCancelled
      | admitted =>
          have hSame : Exposed { request with phase := .native } → Exposed request :=
            fun hExposed => ⟨.inl hPhase, hExposed.2⟩
          apply h.setPhase hRequest
          · exact fun _ hNotRequested =>
              h.slot r request hRequest (.inr (.inl hPhase)) hNotRequested
          · intro hTargeted
            have hGuarded := h.targeted r request hTargeted hRequest
            exact ⟨fun hExposed => hGuarded.1 (hSame hExposed), by simp [Committed]⟩
          · intro hSuperseded
            have hGuarded := h.done r request hSuperseded hRequest
            exact ⟨fun hExposed => hGuarded.1 (hSame hExposed), by simp [Committed]⟩
      | native => exact h.setQuiet hRequest (by simp [Recorded]) (by simp [Committed])
      | returned => exact h.clear hRequest
      | ended => exact h

theorem Inv.fail (h : Inv s) (r : Nat) : Inv (s.fail r) := by
  unfold WorkState.fail
  split
  · rename_i kind cancelled requested hRequest
    have hEnded : Inv (s.setPhase r ⟨kind, .checked, cancelled, requested⟩ .ended) :=
      h.setQuiet hRequest (by simp [Recorded]) (by simp [Committed])
    exact hEnded
  · exact h

/-! ## The main thread -/

theorem Guarded.mono {program program' : List MainStep} (h : Guarded r request program)
    (hCovered : Covered r request program → Covered r request program')
    (hRead : .cancelActive request.kind.lane ∈ program → .cancelActive request.kind.lane ∈ program') :
    Guarded r request program' :=
  ⟨fun hExposed => hCovered (h.1 hExposed), fun hCommitted => hRead (h.2 hCommitted)⟩

/-- A step that reads and requests nothing may be left behind. -/
theorem Guarded.tail {instruction : MainStep} {rest : List MainStep}
    (h : Guarded r request (instruction :: rest))
    (hRead : ∀ lane, instruction ≠ .cancelActive lane)
    (hRequest : instruction ≠ .requestCancellation (some r)) : Guarded r request rest := by
  apply h.mono
  · intro hCovered
    simp only [Covered, List.mem_cons, Ne.symm (hRead _), Ne.symm hRequest, false_or] at hCovered
    exact hCovered
  · intro hMember
    cases List.mem_cons.mp hMember with
    | inl hSame => exact absurd hSame.symm (hRead _)
    | inr hRest => exact hRest

theorem Inv.setProgram (h : Inv s) {program : List MainStep}
    (hTargeted : ∀ r request, Targeted { s with program := program } r →
      s.requests r = some request → Guarded r request program) :
    Inv { s with program := program } where
  future := h.future
  jobs := h.jobs
  slot := h.slot
  cancelled := h.cancelled
  targeted := hTargeted
  done := h.done

theorem targeted_rest {instruction : MainStep} {rest : List MainStep}
    (hProgram : s.program = instruction :: rest) (h : Targeted { s with program := rest } r) :
    Targeted s r := by
  cases h with
  | inl hSuperseding => exact .inl hSuperseding
  | inr hJob =>
      obtain ⟨kind, hJob, hMember⟩ := hJob
      refine .inr ⟨kind, hJob, ?_⟩
      rw [hProgram]
      exact List.mem_cons_of_mem _ hMember

/-- A call that cancels a job reads the id of its lane before. -/
theorem cancelActive_mem_steps (call : MainCall) (kind : WorkKind)
    (h : .cancelJob kind ∈ call.steps) : .cancelActive kind.lane ∈ call.steps := by
  cases call <;> cases kind <;> revert h <;> decide

theorem Inv.startCall (h : Inv s) (call : MainCall) : Inv (s.startCall call) := by
  unfold WorkState.startCall
  cases hProgram : s.program with
  | cons instruction rest => exact h
  | nil =>
      apply h.setProgram
      intro r request hTargeted hRequest
      cases hTargeted with
      | inl hSuperseding =>
          have hGuarded := h.targeted r request (.inl hSuperseding) hRequest
          rw [hProgram] at hGuarded
          apply hGuarded.mono
          · intro hCovered
            simp [Covered] at hCovered
          · intro hRead
            cases hRead
      | inr hJob =>
          obtain ⟨kind, hJob, hMember⟩ := hJob
          obtain ⟨found, hFound, hKind⟩ := h.jobs kind r hJob
          have hSame : found = request := Option.some.inj (hFound.symm.trans hRequest)
          have hRead : .cancelActive request.kind.lane ∈ call.steps := by
            rw [← hSame, hKind]
            exact cancelActive_mem_steps call kind hMember
          exact ⟨fun _ => .inl hRead, fun _ => hRead⟩

/-- The read of a recorded id sees every exposed request of the lane. -/
theorem Inv.read (h : Inv s) {lane : Lane} {rest : List MainStep}
    (hProgram : s.program = .cancelActive lane :: rest) (hGap : LeavesNoGap s .continueMain) :
    Inv { s with program := .requestCancellation (s.activeOperation lane) :: rest } := by
  apply h.setProgram
  intro r request hTargeted hRequest
  have hBefore : Targeted s r := by
    cases hTargeted with
    | inl hSuperseding => exact .inl hSuperseding
    | inr hJob =>
        obtain ⟨kind, hJob, hMember⟩ := hJob
        refine .inr ⟨kind, hJob, ?_⟩
        rw [hProgram]
        cases List.mem_cons.mp hMember with
        | inl hSame => cases hSame
        | inr hRest => exact List.mem_cons_of_mem _ hRest
  have hGuarded := h.targeted r request hBefore hRequest
  rw [hProgram] at hGuarded
  constructor
  · intro hExposed
    by_cases hLane : request.kind.lane = lane
    · have hSeen := h.slot r request hRequest (.inr hExposed.1) hExposed.2
      rw [hLane] at hSeen
      right
      rw [hSeen]
      exact List.mem_cons_self ..
    · have hCovered := hGuarded.1 hExposed
      simp only [Covered, List.mem_cons, MainStep.cancelActive.injEq, hLane, false_or,
        reduceCtorEq] at hCovered
      cases hCovered with
      | inl hRead => exact .inl (List.mem_cons_of_mem _ hRead)
      | inr hRequested => exact .inr (List.mem_cons_of_mem _ hRequested)
  · intro hCommitted
    cases List.mem_cons.mp (hGuarded.2 hCommitted) with
    | inr hRest => exact List.mem_cons_of_mem _ hRest
    | inl hSame =>
        have hLane : request.kind.lane = lane := MainStep.cancelActive.inj hSame
        by_cases hAgain : .cancelActive lane ∈ rest
        · rw [hLane]
          exact List.mem_cons_of_mem _ hAgain
        · exact absurd hCommitted (hGap lane rest hProgram hAgain r request hBefore hRequest hLane)

/-- A request that is asked to stop is not exposed any more. -/
theorem Inv.mark (h : Inv s) (hRequest : s.requests r = some request) :
    Inv (s.setRequest r { request with requested := true }) := by
  have hKind : ({ request with requested := true } : Request).kind = request.kind := rfl
  apply h.setRequest hRequest hKind (fun hCancelled => hCancelled)
  · intro _ hNotRequested
    cases hNotRequested
  · intro hTargeted
    exact ⟨fun hExposed => absurd hExposed.2 (by simp), (h.targeted r request hTargeted hRequest).2⟩
  · intro hSuperseded
    exact ⟨fun hExposed => absurd hExposed.2 (by simp), (h.done r request hSuperseded hRequest).2⟩

theorem requestCancellation_program (s : WorkState) (operation : Option Nat) :
    (s.requestCancellation operation).program = s.program := by
  unfold WorkState.requestCancellation
  split
  · rfl
  · split <;> rfl

theorem Inv.requestCancellation (h : Inv s) (operation : Option Nat) :
    Inv (s.requestCancellation operation) := by
  unfold WorkState.requestCancellation
  split
  · exact h
  · split
    · exact h
    · rename_i request hRequest
      exact h.mark hRequest

theorem requestCancellation_requested (s : WorkState)
    (h : (s.requestCancellation (some r)).requests r = some request) : request.requested = true := by
  unfold WorkState.requestCancellation at h
  dsimp only at h
  split at h
  · rename_i hNone
    rw [hNone] at h
    cases h
  · rw [setRequest_self] at h
    cases h
    rfl

/-- The cancellation is requested of the operation that was read. -/
theorem Inv.requestNative (h : Inv s) {operation : Option Nat} {rest : List MainStep}
    (hProgram : s.program = .requestCancellation operation :: rest) :
    Inv { s.requestCancellation operation with program := rest } := by
  have hMarked := h.requestCancellation operation
  have hSame := (requestCancellation_program s operation).trans hProgram
  apply hMarked.setProgram
  intro r request hTargeted hRequest
  have hGuarded := hMarked.targeted r request (targeted_rest hSame hTargeted) hRequest
  rw [hSame] at hGuarded
  by_cases hRead : operation = some r
  · rw [hRead] at hRequest
    have hRequested := requestCancellation_requested s hRequest
    constructor
    · intro hExposed
      exact absurd (hRequested.symm.trans hExposed.2) (by simp)
    · intro hCommitted
      cases List.mem_cons.mp (hGuarded.2 hCommitted) with
      | inl hHead => cases hHead
      | inr hRest => exact hRest
  · exact hGuarded.tail (by simp) (by simpa using hRead)

/-- A job and its coroutine are dropped; the running call may supersede it. -/
theorem Inv.drop (h : Inv s) {kind : WorkKind} {instruction : MainStep} {rest : List MainStep}
    {superseding : Nat → Bool} (hProgram : s.program = instruction :: rest)
    (hRead : ∀ lane, instruction ≠ .cancelActive lane)
    (hRequest : ∀ operation, instruction ≠ .requestCancellation operation)
    (hSuperseding : superseding = s.superseding ∨
      instruction = .cancelJob kind ∧ superseding = s.supersede kind) :
    Inv { s.dropJob kind with program := rest, superseding := superseding } := by
  unfold WorkState.dropJob
  cases hJob : s.jobs kind with
  | none =>
      have hSame : superseding = s.superseding := by
        cases hSuperseding with
        | inl hSame => exact hSame
        | inr hMore =>
            rw [hMore.2]
            unfold WorkState.supersede
            rw [hJob]
      rw [hSame]
      apply h.setProgram
      intro r request hTargeted hFound
      have hGuarded := h.targeted r request (targeted_rest hProgram hTargeted) hFound
      rw [hProgram] at hGuarded
      exact hGuarded.tail hRead (hRequest _)
  | some r =>
      obtain ⟨request, hFound, hKind⟩ := h.jobs kind r hJob
      have hSameKind : ({ request with cancelled := true } : Request).kind = request.kind := rfl
      have hStopped : Inv (s.setRequest r { request with cancelled := true }) := by
        apply h.setRequest hFound hSameKind (fun _ => rfl)
        · exact fun hRecorded hNotRequested => h.slot r request hFound hRecorded hNotRequested
        · exact fun hTargeted => h.targeted r request hTargeted hFound
        · exact fun hSuperseded => h.done r request hSuperseded hFound
      have hNext : s.cancelCoroutine r = s.setRequest r { request with cancelled := true } := by
        unfold WorkState.cancelCoroutine
        rw [hFound]
      have hMore : ∀ other, superseding other = true → s.superseding other = true ∨
          other = r ∧ instruction = .cancelJob kind := by
        intro other hOther
        cases hSuperseding with
        | inl hSame =>
            rw [hSame] at hOther
            exact .inl hOther
        | inr hMore =>
            rw [hMore.2] at hOther
            unfold WorkState.supersede at hOther
            rw [hJob] at hOther
            by_cases hSame : other = r
            · exact .inr ⟨hSame, hMore.1⟩
            · have hKept : Function.update s.superseding r true other = true := hOther
              rw [Function.update_of_ne hSame] at hKept
              exact .inl hKept
      dsimp only
      rw [hNext]
      constructor
      · intro other hLater
        obtain ⟨hNone, hOld, hDone⟩ := hStopped.future other hLater
        refine ⟨hNone, ?_, hDone⟩
        show superseding other = false
        cases hNow : superseding other with
        | false => rfl
        | true =>
            cases hMore other hNow with
            | inl hBefore => exact absurd (hOld.symm.trans hBefore) (by simp)
            | inr hSame =>
                have hKnown := h.launched hFound
                have hBound : s.launches ≤ other := hLater
                omega
      · intro other found hOther
        have hOld : s.jobs other = some found := by
          by_cases hSame : other = kind
          · rw [hSame] at hOther
            have hNone : Function.update s.jobs kind none kind = some found := hOther
            rw [Function.update_self] at hNone
            cases hNone
          · have hKept : Function.update s.jobs kind none other = some found := hOther
            rwa [Function.update_of_ne hSame] at hKept
        exact hStopped.jobs other found hOld
      · exact hStopped.slot
      · intro other found hSuperseded hOther
        cases hSuperseded with
        | inr hDone => exact hStopped.cancelled other found (.inr hDone) hOther
        | inl hNow =>
            cases hMore other hNow with
            | inl hBefore => exact hStopped.cancelled other found (.inl hBefore) hOther
            | inr hSame =>
                have hSelf : (s.setRequest r { request with cancelled := true }).requests other =
                    some { request with cancelled := true } := by
                  rw [hSame.1]
                  exact setRequest_self ..
                have hEq := Option.some.inj (hOther.symm.trans hSelf)
                rw [hEq]
      · intro other found hTargeted hOther
        have hBefore : Targeted (s.setRequest r { request with cancelled := true }) other := by
          cases hTargeted with
          | inl hNow =>
              cases hMore other hNow with
              | inl hOld => exact .inl hOld
              | inr hSame =>
                  refine .inr ⟨kind, by rw [hSame.1]; exact hJob, ?_⟩
                  show .cancelJob kind ∈ s.program
                  rw [hProgram, hSame.2]
                  exact List.mem_cons_self ..
          | inr hOld =>
              obtain ⟨otherKind, hOtherJob, hMember⟩ := hOld
              have hKept : Function.update s.jobs kind none otherKind = some other := hOtherJob
              by_cases hSame : otherKind = kind
              · rw [hSame, Function.update_self] at hKept
                cases hKept
              · rw [Function.update_of_ne hSame] at hKept
                refine .inr ⟨otherKind, hKept, ?_⟩
                show .cancelJob otherKind ∈ s.program
                rw [hProgram]
                exact List.mem_cons_of_mem _ hMember
        have hGuarded : Guarded other found s.program := hStopped.targeted other found hBefore hOther
        rw [hProgram] at hGuarded
        exact hGuarded.tail hRead (hRequest _)
      · exact hStopped.done

/-- A launch adds a request that nothing supersedes yet. -/
theorem Inv.launch (h : Inv s) {kind : WorkKind} {rest : List MainStep}
    (hProgram : s.program = .launch kind :: rest) : Inv { s.launch kind with program := rest } := by
  obtain ⟨hNone, hNotSuperseding, hNotSuperseded⟩ := h.future s.launches (Nat.le_refl _)
  have hFresh : ∀ program, Guarded s.launches ⟨kind, .launched, false, false⟩ program :=
    fun program => guarded_of_not (by simp [Exposed]) (by simp [Committed])
  have hElse : ∀ {r request}, (s.setRequest s.launches ⟨kind, .launched, false, false⟩).requests r =
      some request → r ≠ s.launches → s.requests r = some request :=
    fun hFound hOther => (setRequest_of_ne s hOther _).symm.trans hFound
  have hSelf : ∀ {request}, (s.setRequest s.launches ⟨kind, .launched, false, false⟩).requests
      s.launches = some request → request = ⟨kind, .launched, false, false⟩ :=
    fun hFound => Option.some.inj (hFound.symm.trans (setRequest_self ..))
  constructor
  · intro r hLater
    have hBound : s.launches + 1 ≤ r := hLater
    have hOther : r ≠ s.launches := by omega
    obtain ⟨hNone, hRest⟩ := h.future r (by omega)
    exact ⟨(setRequest_of_ne s hOther _).trans hNone, hRest⟩
  · intro other r hJob
    have hUpdated : Function.update s.jobs kind (some s.launches) other = some r := hJob
    by_cases hSame : other = kind
    · rw [hSame, Function.update_self] at hUpdated
      cases hUpdated
      exact ⟨_, setRequest_self .., hSame.symm⟩
    · rw [Function.update_of_ne hSame] at hUpdated
      obtain ⟨request, hFound, hKind⟩ := h.jobs other r hUpdated
      have hOther := h.launched hFound
      exact ⟨request, (setRequest_of_ne s (by omega) _).trans hFound, hKind⟩
  · intro r request hFound hRecorded hNotRequested
    by_cases hNew : r = s.launches
    · subst hNew
      rw [hSelf hFound] at hRecorded
      simp [Recorded] at hRecorded
    · exact h.slot r request (hElse hFound hNew) hRecorded hNotRequested
  · intro r request hSuperseded hFound
    by_cases hNew : r = s.launches
    · subst hNew
      cases hSuperseded with
      | inl hNow => exact absurd (hNotSuperseding.symm.trans hNow) (by simp)
      | inr hNow => exact absurd (hNotSuperseded.symm.trans hNow) (by simp)
    · exact h.cancelled r request hSuperseded (hElse hFound hNew)
  · intro r request hTargeted hFound
    by_cases hNew : r = s.launches
    · subst hNew
      rw [hSelf hFound]
      exact hFresh _
    · have hBefore : Targeted s r := by
        cases hTargeted with
        | inl hNow => exact .inl hNow
        | inr hJob =>
            obtain ⟨other, hJob, hMember⟩ := hJob
            have hUpdated : Function.update s.jobs kind (some s.launches) other = some r := hJob
            by_cases hSame : other = kind
            · rw [hSame, Function.update_self] at hUpdated
              exact absurd (Option.some.inj hUpdated).symm hNew
            · rw [Function.update_of_ne hSame] at hUpdated
              refine .inr ⟨other, hUpdated, ?_⟩
              rw [hProgram]
              exact List.mem_cons_of_mem _ hMember
      have hGuarded := h.targeted r request hBefore (hElse hFound hNew)
      rw [hProgram] at hGuarded
      exact hGuarded.tail (by simp) (by simp)
  · intro r request hSuperseded hFound
    by_cases hNew : r = s.launches
    · subst hNew
      exact absurd (hNotSuperseded.symm.trans hSuperseded) (by simp)
    · exact h.done r request hSuperseded (hElse hFound hNew)

/-- When a call returns, what it superseded is guarded by nothing that is left. -/
theorem Inv.settle (h : Inv s) : Inv s.settle := by
  unfold WorkState.settle
  cases hProgram : s.program with
  | cons instruction rest => exact h
  | nil =>
      dsimp only
      constructor
      · intro r hLater
        obtain ⟨hNone, hSuperseding, hSuperseded⟩ := h.future r hLater
        refine ⟨hNone, rfl, ?_⟩
        show (s.superseded r || s.superseding r) = false
        rw [hSuperseded, hSuperseding]
        rfl
      · exact h.jobs
      · exact h.slot
      · intro r request hSuperseded hFound
        cases hSuperseded with
        | inl hNow => cases hNow
        | inr hNow =>
            have hEither : s.superseded r = true ∨ s.superseding r = true := by simpa using hNow
            exact h.cancelled r request hEither.symm hFound
      · intro r request hTargeted hFound
        cases hTargeted with
        | inl hNow => cases hNow
        | inr hJob =>
            obtain ⟨kind, _, hMember⟩ := hJob
            have hNone : .cancelJob kind ∈ ([] : List MainStep) := hMember
            cases hNone
      · intro r request hSuperseded hFound
        have hEither : s.superseded r = true ∨ s.superseding r = true := by
          simpa using hSuperseded
        cases hEither with
        | inl hBefore => exact h.done r request hBefore hFound
        | inr hNow =>
            have hGuarded := h.targeted r request (.inl hNow) hFound
            rwa [hProgram] at hGuarded

theorem Inv.continueMain (h : Inv s) (hGap : LeavesNoGap s .continueMain) : Inv s.continueMain := by
  unfold WorkState.continueMain
  cases hProgram : s.program with
  | nil => exact h
  | cons instruction rest =>
      apply Inv.settle
      unfold WorkState.mainStep
      cases instruction with
      | cancelActive lane => exact h.read hProgram hGap
      | requestCancellation operation => exact h.requestNative hProgram
      | cancelJob kind => exact h.drop hProgram (by simp) (by simp) (.inr ⟨rfl, rfl⟩)
      | replaceJob kind =>
          have hDropped : Inv { s.dropJob kind with program := rest, superseding := s.superseding } :=
            h.drop hProgram (by simp) (by simp) (.inl rfl)
          have hSame : (s.dropJob kind).superseding = s.superseding := by
            unfold WorkState.dropJob WorkState.cancelCoroutine
            split
            · rfl
            · dsimp only
              split <;> rfl
          rw [← hSame] at hDropped
          exact hDropped
      | launch kind => exact h.launch hProgram

end Steps

/-! ## Runs -/

theorem Inv.step (s : WorkState) (event : WorkEvent) (h : Inv s) (hGap : LeavesNoGap s event) :
    Inv (s.step event) := by
  cases event with
  | call call => exact h.startCall call
  | continueMain => exact h.continueMain hGap
  | advance r => exact h.advance hGap
  | fail r => exact h.fail r

/-- When no step leaves a gap, no native operation of a superseded request runs
without its cancellation requested. -/
theorem noneRunsOn_of_noGap {events : List WorkEvent}
    (hGap : Meets WorkState.step LeavesNoGap initial events) :
    NoneRunsOn (events.foldl WorkState.step initial) :=
  (run_invariant Inv.step inv_initial hGap).noneRunsOn

/-! ## Runs on a fixed input -/

/-- A search is started. -/
def searching : List WorkEvent :=
  [.call .findSimilarFrames, .continueMain, .continueMain, .continueMain, .continueMain]

/-- The search runs natively when it is cancelled. -/
def cancelledSeen : List WorkEvent :=
  searching ++ [.advance 0, .advance 0, .advance 0, .advance 0, .call .cancelSearch, .continueMain,
    .continueMain, .continueMain]

/-- It records its id and passes its check after the read of the id. -/
def cancelledUnseen : List WorkEvent :=
  searching ++ [.advance 0, .call .cancelSearch, .continueMain, .continueMain, .advance 0,
    .advance 0, .continueMain, .advance 0]

theorem meets_cancelledSeen : Meets WorkState.step LeavesNoGap initial cancelledSeen := by
  have hMain : ∀ s : WorkState, (∀ rest, s.program ≠ .cancelActive .frameScope :: rest) →
      LeavesNoGap s .continueMain := by
    intro s hOther lane rest hProgram _ r request _ _ hLane hCommitted
    cases lane with
    | frameScope => exact hOther rest hProgram
    | similarity =>
        rw [hCommitted.1] at hLane
        cases hLane
  have hBody : ∀ (s : WorkState) r, (∃ request, s.requests r = some request ∧
      request.kind = .findSimilarFrames) → s.superseding r = false → s.program = [] →
      LeavesNoGap s (.advance r) := by
    intro s r hSearch hSuperseding hProgram request hRequest
    obtain ⟨found, hFound, hKind⟩ := hSearch
    have hSame : found = request := Option.some.inj (hFound.symm.trans hRequest)
    have hNot : ¬ Targeted s r := by
      simp [Targeted, hSuperseding, hProgram]
    rw [hSame] at hKind
    refine ⟨fun _ _ _ hTargeted => absurd hTargeted hNot, fun _ _ hTargeted => absurd hTargeted hNot, ?_⟩
    exact fun hOther => absurd hKind hOther
  exact ⟨trivial, hMain _ fun _ h => (by cases h), hMain _ fun _ h => (by cases h),
    hMain _ fun _ h => (by cases h), hMain _ fun _ h => (by cases h),
    hBody _ _ ⟨_, rfl, rfl⟩ rfl rfl, hBody _ _ ⟨_, rfl, rfl⟩ rfl rfl, hBody _ _ ⟨_, rfl, rfl⟩ rfl rfl,
    hBody _ _ ⟨_, rfl, rfl⟩ rfl rfl, trivial, hMain _ fun _ h => (by cases h),
    hMain _ fun _ h => (by cases h), hMain _ fun _ h => (by cases h), trivial⟩

theorem noneRunsOn_cancelledSeen :
    NoneRunsOn (cancelledSeen.foldl WorkState.step initial) ∧
      (cancelledSeen.foldl WorkState.step initial).superseded 0 = true ∧
      (cancelledSeen.foldl WorkState.step initial).requests 0 =
        some ⟨.findSimilarFrames, .native, true, true⟩ :=
  ⟨noneRunsOn_of_noGap meets_cancelledSeen, rfl, rfl⟩

/-- The search that was not seen runs on. -/
example :
    (cancelledUnseen.foldl WorkState.step initial).superseded 0 = true ∧
      (cancelledUnseen.foldl WorkState.step initial).requests 0 =
        some ⟨.findSimilarFrames, .native, true, false⟩ := ⟨rfl, rfl⟩

end FrameScope.Ports.SupersededWorkLaw
