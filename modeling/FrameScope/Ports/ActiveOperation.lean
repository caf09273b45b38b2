import FrameScope.Verified.Runs

/-!
# The active native operation of the repository

Port of the operation ids of `AndroidFrameScopeRepository`.  One atomic long
holds the id of the active native operation.  `inspect` and `openMicroscope` set
it, whatever it holds; `exportCurrentFrame` and `exportFrames` claim it only when
it is free; each clears it at its end if it still holds its own id.
`cancelActiveNativeOperation` asks for the cancellation of the id that it reads.

A call is a sequence of steps, and the steps of several calls interleave.  What a
call does between them (coroutine checks, documents, the native work itself) only
decides whether it goes on.
-/

namespace FrameScope.Ports.ActiveOperation

open FrameScope.Verified.Runs

def noOperation : Nat := 0

/-- `Long.MAX_VALUE`. -/
def longMax : Nat := 2 ^ 63 - 1

inductive OperationKind where
  | inspect
  | openMicroscope
  | exportCurrentFrame
  | exportFrames
  deriving DecidableEq, Repr

/-- The exports claim the slot; the others overwrite it. -/
def OperationKind.Claims : OperationKind → Prop
  | .inspect => False
  | .openMicroscope => False
  | .exportCurrentFrame => True
  | .exportFrames => True

instance : DecidablePred OperationKind.Claims
  | .inspect => inferInstanceAs (Decidable False)
  | .openMicroscope => inferInstanceAs (Decidable False)
  | .exportCurrentFrame => inferInstanceAs (Decidable True)
  | .exportFrames => inferInstanceAs (Decidable True)

/-- Where a call is: it has its id, has recorded it, executes natively, is back, or is over. -/
inductive OperationPhase where
  | idle
  | numbered (kind : OperationKind) (operationId : Nat)
  | recorded (kind : OperationKind) (operationId : Nat)
  | native (kind : OperationKind) (operationId : Nat)
  | returned (kind : OperationKind) (operationId : Nat)
  | ended
  deriving DecidableEq, Repr

/-- The id of a call that is under way. -/
def OperationPhase.operationId : OperationPhase → Option Nat
  | .idle => none
  | .numbered _ operationId => some operationId
  | .recorded _ operationId => some operationId
  | .native _ operationId => some operationId
  | .returned _ operationId => some operationId
  | .ended => none

structure Repository where
  nextOperationId : Nat
  activeNativeOperationId : Nat
  calls : Nat → OperationPhase

def initial : Repository := ⟨1, noOperation, fun _ => .idle⟩

inductive OperationEvent where
  /-- `nextOperationId()`. -/
  | number (call : Nat) (kind : OperationKind)
  /-- `set` or `compareAndSet(NO_OPERATION, operationId)`. -/
  | record (call : Nat)
  /-- The native function is entered. -/
  | enter (call : Nat)
  /-- Something throws before. -/
  | abandon (call : Nat)
  /-- The native function returns. -/
  | leave (call : Nat)
  /-- `compareAndSet(operationId, NO_OPERATION)`. -/
  | clear (call : Nat)
  deriving DecidableEq, Repr

namespace Repository

variable (s : Repository)

def setCall (call : Nat) (phase : OperationPhase) : Repository :=
  { s with calls := Function.update s.calls call phase }

/-- `nextOperationId`, which throws when the ids are exhausted. -/
def number (call : Nat) (kind : OperationKind) : Repository :=
  if s.nextOperationId = 0 ∨ s.nextOperationId = longMax then s.setCall call .ended
  else
    { s.setCall call (.numbered kind s.nextOperationId) with
      nextOperationId := s.nextOperationId + 1 }

/-- The id is recorded; an export fails with `operation_busy` unless the slot is free. -/
def record (call : Nat) (kind : OperationKind) (operationId : Nat) : Repository :=
  if kind.Claims ∧ s.activeNativeOperationId ≠ noOperation then s.setCall call .ended
  else
    { s.setCall call (.recorded kind operationId) with activeNativeOperationId := operationId }

def clear (call operationId : Nat) : Repository :=
  { s.setCall call .ended with
    activeNativeOperationId :=
      if s.activeNativeOperationId = operationId then noOperation
      else s.activeNativeOperationId }

/-- A step of a call; it does nothing where the call is not at that step. -/
def step (event : OperationEvent) : Repository :=
  match event with
  | .number call kind => if s.calls call = .idle then s.number call kind else s
  | .record call =>
      match s.calls call with
      | .numbered kind operationId => s.record call kind operationId
      | _ => s
  | .enter call =>
      match s.calls call with
      | .recorded kind operationId => s.setCall call (.native kind operationId)
      | _ => s
  | .abandon call =>
      match s.calls call with
      | .recorded kind operationId => s.setCall call (.returned kind operationId)
      | _ => s
  | .leave call =>
      match s.calls call with
      | .native kind operationId => s.setCall call (.returned kind operationId)
      | _ => s
  | .clear call =>
      match s.calls call with
      | .returned _ operationId => s.clear call operationId
      | _ => s

/-- `cancelActiveNativeOperation`: the id for which cancellation is requested. -/
def cancelActiveNativeOperation : Option Nat :=
  if s.activeNativeOperationId ≠ noOperation then some s.activeNativeOperationId else none

/-- A call executes natively under an id. -/
def Executes (call operationId : Nat) : Prop := ∃ kind, s.calls call = .native kind operationId

/-- A cancellation now would be requested for every operation that executes natively. -/
def Cancellable : Prop :=
  ∀ call operationId, s.Executes call operationId →
    s.cancelActiveNativeOperation = some operationId

/-- An inspection or an opening of the microscope records its id only while nothing
executes natively, and a call enters native code only while its id is the recorded one. -/
def Undisturbed (event : OperationEvent) : Prop :=
  match event with
  | .record call => ∀ kind operationId, s.calls call = .numbered kind operationId →
      ¬ kind.Claims → ∀ other otherId, ¬ s.Executes other otherId
  | .enter call => ∀ kind operationId, s.calls call = .recorded kind operationId →
      s.activeNativeOperationId = operationId
  | _ => True

end Repository

/-! ## The ids -/

/-- The ids of the calls under way have been given out, each to one call. -/
structure Numbered (s : Repository) : Prop where
  next_pos : 1 ≤ s.nextOperationId
  given : ∀ call operationId, (s.calls call).operationId = some operationId →
    1 ≤ operationId ∧ operationId < s.nextOperationId
  unique : ∀ call other operationId, (s.calls call).operationId = some operationId →
    (s.calls other).operationId = some operationId → call = other

section Steps

variable {s : Repository} {call other operationId otherId : Nat} {kind : OperationKind}
  {phase : OperationPhase}

theorem calls_setCall_self : (s.setCall call phase).calls call = phase :=
  Function.update_self ..

theorem calls_setCall_ne (h : other ≠ call) : (s.setCall call phase).calls other = s.calls other :=
  Function.update_of_ne h ..

/-- A call that keeps its id, or gives it up, leaves the ids as they are. -/
theorem Numbered.setCall (h : Numbered s)
    (hPhase : ∀ id, phase.operationId = some id → (s.calls call).operationId = some id)
    {active : Nat} : Numbered { s.setCall call phase with activeNativeOperationId := active } := by
  have hKept : ∀ other id, ((s.setCall call phase).calls other).operationId = some id →
      (s.calls other).operationId = some id := by
    intro other id hId
    by_cases hSame : other = call
    · rw [hSame, calls_setCall_self] at hId
      rw [hSame]
      exact hPhase id hId
    · rw [calls_setCall_ne hSame] at hId
      exact hId
  constructor
  · exact h.next_pos
  · intro other id hId
    exact h.given other id (hKept other id hId)
  · intro a b id hA hB
    exact h.unique a b id (hKept a id hA) (hKept b id hB)

theorem Numbered.number (h : Numbered s) (call : Nat) (kind : OperationKind) :
    Numbered (s.number call kind) := by
  unfold Repository.number
  split_ifs with hExhausted
  · exact h.setCall (fun _ hNone => by cases hNone)
  · have hKept : ∀ other id,
        ((s.setCall call (.numbered kind s.nextOperationId)).calls other).operationId = some id →
          (other = call ∧ id = s.nextOperationId) ∨
            (other ≠ call ∧ (s.calls other).operationId = some id) := by
      intro other id hId
      by_cases hSame : other = call
      · rw [hSame, calls_setCall_self] at hId
        exact .inl ⟨hSame, (Option.some.inj hId).symm⟩
      · rw [calls_setCall_ne hSame] at hId
        exact .inr ⟨hSame, hId⟩
    have hPos := h.next_pos
    constructor
    · show 1 ≤ s.nextOperationId + 1
      omega
    · intro other id hId
      show 1 ≤ id ∧ id < s.nextOperationId + 1
      rcases hKept other id hId with ⟨-, rfl⟩ | ⟨-, hOld⟩
      · omega
      · have hGiven := h.given other id hOld
        omega
    · intro a b id hA hB
      rcases hKept a id hA with ⟨rfl, rfl⟩ | ⟨-, hOldA⟩
      · rcases hKept b _ hB with ⟨rfl, -⟩ | ⟨-, hOldB⟩
        · rfl
        · have hGiven := h.given b _ hOldB
          omega
      · rcases hKept b id hB with ⟨-, rfl⟩ | ⟨-, hOldB⟩
        · have hGiven := h.given a _ hOldA
          omega
        · exact h.unique a b id hOldA hOldB

theorem Numbered.step (h : Numbered s) (event : OperationEvent) : Numbered (s.step event) := by
  cases event with
  | number call kind =>
      show Numbered (if _ then _ else _)
      split_ifs
      · exact h.number call kind
      · exact h
  | record call =>
      cases hCall : s.calls call with
      | numbered kind operationId =>
          have hStep : s.step (.record call) = s.record call kind operationId := by
            simp only [Repository.step, hCall]
          rw [hStep]
          unfold Repository.record
          split_ifs
          · exact h.setCall (fun _ hNone => by cases hNone)
          · exact h.setCall (fun id hId => by rw [hCall]; exact hId)
      | _ =>
          simp only [Repository.step, hCall]
          exact h
  | enter call =>
      cases hCall : s.calls call with
      | recorded kind operationId =>
          simp only [Repository.step, hCall]
          exact h.setCall (fun id hId => by rw [hCall]; exact hId)
      | _ =>
          simp only [Repository.step, hCall]
          exact h
  | abandon call =>
      cases hCall : s.calls call with
      | recorded kind operationId =>
          simp only [Repository.step, hCall]
          exact h.setCall (fun id hId => by rw [hCall]; exact hId)
      | _ =>
          simp only [Repository.step, hCall]
          exact h
  | leave call =>
      cases hCall : s.calls call with
      | native kind operationId =>
          simp only [Repository.step, hCall]
          exact h.setCall (fun id hId => by rw [hCall]; exact hId)
      | _ =>
          simp only [Repository.step, hCall]
          exact h
  | clear call =>
      cases hCall : s.calls call with
      | returned kind operationId =>
          simp only [Repository.step, hCall]
          exact h.setCall (fun _ hNone => by cases hNone)
      | _ =>
          simp only [Repository.step, hCall]
          exact h

/-! ## What executes natively -/

theorem Repository.Executes.operationId_eq (h : s.Executes call operationId) :
    (s.calls call).operationId = some operationId := by
  obtain ⟨kind, hCall⟩ := h
  rw [hCall]
  rfl

/-- The slot holds the id of whatever executes natively. -/
theorem cancellable_iff (hIds : Numbered s) :
    s.Cancellable ↔
      ∀ call operationId, s.Executes call operationId → s.activeNativeOperationId = operationId := by
  constructor
  · intro h call operationId hExecutes
    have hCancelled := h call operationId hExecutes
    unfold Repository.cancelActiveNativeOperation at hCancelled
    split_ifs at hCancelled
    exact Option.some.inj hCancelled
  · intro h call operationId hExecutes
    have hActive := h call operationId hExecutes
    have hGiven := hIds.given call operationId hExecutes.operationId_eq
    have hTaken : operationId ≠ noOperation := Nat.ne_of_gt hGiven.1
    unfold Repository.cancelActiveNativeOperation
    rw [hActive, if_pos hTaken]

/-- A step of a call that leaves it outside of native code has nothing executing that did not
before. -/
theorem executes_setCall (hPhase : ∀ kind id, phase ≠ .native kind id)
    (h : (s.setCall call phase).Executes other otherId) :
    other ≠ call ∧ s.Executes other otherId := by
  obtain ⟨kind, hNative⟩ := h
  by_cases hSame : other = call
  · rw [hSame, calls_setCall_self] at hNative
    exact absurd hNative (hPhase kind otherId)
  · rw [calls_setCall_ne hSame] at hNative
    exact ⟨hSame, kind, hNative⟩

/-- One step keeps every running operation cancellable if it is undisturbed. -/
theorem cancellable_step (hIds : Numbered s) (h : s.Cancellable) {event : OperationEvent}
    (hEvent : s.Undisturbed event) : (s.step event).Cancellable := by
  have hActive := (cancellable_iff hIds).1 h
  rw [cancellable_iff (hIds.step event)]
  intro other otherId hExecutes
  cases event with
  | number call kind =>
      by_cases hIdle : s.calls call = .idle
      · have hStep : s.step (.number call kind) = s.number call kind := if_pos hIdle
        rw [hStep] at hExecutes ⊢
        unfold Repository.number at hExecutes ⊢
        split_ifs at hExecutes ⊢
        · exact hActive other otherId (executes_setCall (fun _ _ hNot => by cases hNot) hExecutes).2
        · have hBefore : (s.setCall call (.numbered kind s.nextOperationId)).Executes other otherId :=
            hExecutes
          exact hActive other otherId (executes_setCall (fun _ _ hNot => by cases hNot) hBefore).2
      · have hStep : s.step (.number call kind) = s := if_neg hIdle
        rw [hStep] at hExecutes ⊢
        exact hActive other otherId hExecutes
  | record call =>
      cases hCall : s.calls call with
      | numbered kind operationId =>
          have hStep : s.step (.record call) = s.record call kind operationId := by
            simp only [Repository.step, hCall]
          rw [hStep] at hExecutes ⊢
          unfold Repository.record at hExecutes ⊢
          split_ifs at hExecutes ⊢ with hBusy
          · exact hActive other otherId
              (executes_setCall (fun _ _ hNot => by cases hNot) hExecutes).2
          · have hRecorded : (s.setCall call (.recorded kind operationId)).Executes other otherId :=
              hExecutes
            have hBefore := (executes_setCall (fun _ _ hNot => by cases hNot) hRecorded).2
            -- nothing executes when an id is recorded: a claim finds the slot free
            exfalso
            by_cases hClaims : kind.Claims
            · have hFree : s.activeNativeOperationId = 0 := by
                by_contra hTaken
                exact hBusy ⟨hClaims, hTaken⟩
              have hGiven := hIds.given other otherId hBefore.operationId_eq
              have hHeld := hActive other otherId hBefore
              omega
            · exact hEvent kind operationId hCall hClaims other otherId hBefore
      | _ =>
          simp only [Repository.step, hCall] at hExecutes ⊢
          exact hActive other otherId hExecutes
  | enter call =>
      cases hCall : s.calls call with
      | recorded kind operationId =>
          simp only [Repository.step, hCall] at hExecutes ⊢
          by_cases hSame : other = call
          · obtain ⟨kind', hNative⟩ := hExecutes
            rw [hSame, calls_setCall_self] at hNative
            cases hNative
            exact hEvent kind otherId hCall
          · obtain ⟨kind', hNative⟩ := hExecutes
            rw [calls_setCall_ne hSame] at hNative
            exact hActive other otherId ⟨kind', hNative⟩
      | _ =>
          simp only [Repository.step, hCall] at hExecutes ⊢
          exact hActive other otherId hExecutes
  | abandon call =>
      cases hCall : s.calls call with
      | recorded kind operationId =>
          simp only [Repository.step, hCall] at hExecutes ⊢
          exact hActive other otherId (executes_setCall (fun _ _ hNot => by cases hNot) hExecutes).2
      | _ =>
          simp only [Repository.step, hCall] at hExecutes ⊢
          exact hActive other otherId hExecutes
  | leave call =>
      cases hCall : s.calls call with
      | native kind operationId =>
          simp only [Repository.step, hCall] at hExecutes ⊢
          exact hActive other otherId (executes_setCall (fun _ _ hNot => by cases hNot) hExecutes).2
      | _ =>
          simp only [Repository.step, hCall] at hExecutes ⊢
          exact hActive other otherId hExecutes
  | clear call =>
      cases hCall : s.calls call with
      | returned kind operationId =>
          simp only [Repository.step, hCall] at hExecutes ⊢
          have hEnded : (s.setCall call .ended).Executes other otherId := hExecutes
          obtain ⟨hNe, hBefore⟩ := executes_setCall (fun _ _ hNot => by cases hNot) hEnded
          have hHeld := hActive other otherId hBefore
          have hOther : s.activeNativeOperationId ≠ operationId := by
            intro hOwn
            apply hNe
            apply hIds.unique other call operationId
            · rw [hBefore.operationId_eq, ← hHeld, hOwn]
            · rw [hCall]
              rfl
          show (if _ then _ else _) = _
          rw [if_neg hOther]
          exact hHeld
      | _ =>
          simp only [Repository.step, hCall] at hExecutes ⊢
          exact hActive other otherId hExecutes

/-- A step after which every running operation is cancellable was undisturbed. -/
theorem undisturbed_of_cancellable (hIds : Numbered s) {event : OperationEvent}
    (h : (s.step event).Cancellable) : s.Undisturbed event := by
  have hActive := (cancellable_iff (hIds.step event)).1 h
  cases event with
  | record call =>
      intro kind operationId hCall hClaims other otherId hExecutes
      have hStep : s.step (.record call) =
          { s.setCall call (.recorded kind operationId) with
            activeNativeOperationId := operationId } := by
        simp only [Repository.step, hCall, Repository.record]
        exact if_neg fun hBusy => hClaims hBusy.1
      rw [hStep] at hActive
      have hNe : other ≠ call := by
        intro hSame
        obtain ⟨kind', hNative⟩ := hExecutes
        rw [hSame, hCall] at hNative
        cases hNative
      obtain ⟨kind', hNative⟩ := hExecutes
      have hStill : operationId = otherId := by
        apply hActive other otherId ⟨kind', ?_⟩
        show (s.setCall call _).calls other = _
        rw [calls_setCall_ne hNe]
        exact hNative
      apply hNe
      apply hIds.unique other call operationId
      · rw [hNative, hStill]
        rfl
      · rw [hCall]
        rfl
  | enter call =>
      intro kind operationId hCall
      have hStep : s.step (.enter call) = s.setCall call (.native kind operationId) := by
        simp only [Repository.step, hCall]
      rw [hStep] at hActive
      exact hActive call operationId ⟨kind, calls_setCall_self⟩
  | number call kind => trivial
  | abandon call => trivial
  | leave call => trivial
  | clear call => trivial

end Steps

/-! ## Runs -/

theorem numbered_initial : Numbered initial := by
  constructor
  · exact Nat.le_refl 1
  · intro call operationId hNone
    cases hNone
  · intro call other operationId hNone
    cases hNone

theorem cancellable_initial : initial.Cancellable := by
  intro call operationId hExecutes
  obtain ⟨kind, hNative⟩ := hExecutes
  cases hNative

/-- In every state of a run a cancellation reaches whatever executes natively exactly when
every step of the run is undisturbed. -/
theorem cancellable_iff_undisturbed (events : List OperationEvent) :
    (∀ k, ((events.take k).foldl Repository.step initial).Cancellable) ↔
      Meets Repository.step Repository.Undisturbed initial events := by
  have hKeep : ∀ (s : Repository) event, Numbered s ∧ s.Cancellable → s.Undisturbed event →
      Numbered (s.step event) ∧ (s.step event).Cancellable := by
    intro s event hInv hEvent
    exact ⟨hInv.1.step event, cancellable_step hInv.1 hInv.2 hEvent⟩
  exact always_iff_meets hKeep (fun _ hInv => hInv.2)
    (fun _ _ hInv hNext => undisturbed_of_cancellable hInv.1 hNext)
    ⟨numbered_initial, cancellable_initial⟩ events

/-- A batch export is under way when a video is inspected. -/
def exportThenInspect : List OperationEvent :=
  [.number 0 .exportFrames, .record 0, .enter 0, .number 1 .inspect, .record 1, .enter 1,
    .leave 1, .clear 1]

/-- While both execute, a cancellation is requested for the inspection only; when the inspection
has ended, the export still executes and no cancellation is requested at all. -/
theorem inspection_hides_export :
    (((exportThenInspect.take 6).foldl Repository.step initial).Executes 0 1 ∧
      ((exportThenInspect.take 6).foldl Repository.step initial).cancelActiveNativeOperation =
        some 2) ∧
    ((exportThenInspect.foldl Repository.step initial).Executes 0 1 ∧
      (exportThenInspect.foldl Repository.step initial).cancelActiveNativeOperation = none) ∧
    ¬ ∀ k, ((exportThenInspect.take k).foldl Repository.step initial).Cancellable := by
  have hExecutes : (exportThenInspect.foldl Repository.step initial).Executes 0 1 :=
    ⟨.exportFrames, by decide⟩
  have hNone : (exportThenInspect.foldl Repository.step initial).cancelActiveNativeOperation =
      none := by decide
  refine ⟨⟨⟨.exportFrames, by decide⟩, by decide⟩, ⟨hExecutes, hNone⟩, ?_⟩
  intro hAll
  have hLast := hAll 8 0 1 hExecutes
  cases hNone.symm.trans hLast

end FrameScope.Ports.ActiveOperation
