import FrameScope.Ports.FrameIndexStore

/-!
# Extraction plans

Port of `framescope-extraction`: a request is resolved against a complete index
into a plan, an arithmetic progression of frame identities.  `frame_ids` is the
iterator of the source.  A `ValidPlan` is the progression it says it is:
`selected_count` identities from `first_frame` on, all inside the index.
-/

namespace FrameScope.Ports.Extraction

open FrameScope.Ports.Core
open FrameScope.Ports.FrameIndexModel
open FrameScope.Ports.SourceBinding
open FrameScope.Ports.FrameIndexStore

/-- `NonZeroU64`. -/
@[ext] structure NonZeroU64 where
  get : Nat
  pos : 0 < get
  lt : get < 2 ^ 64
  deriving Repr

instance : DecidableEq NonZeroU64 := fun _ _ => decidable_of_iff _ NonZeroU64.ext_iff.symm

/-- `NonZeroU64::MIN`. -/
def NonZeroU64.one : NonZeroU64 := ⟨1, by decide, by decide⟩

inductive ExtractionSelection where
  | currentFrame (frameId : Nat)
  | frameRangeInclusive (first last : Nat)
  | timestampRangeUsInclusive (startUs endUs : Int)
  | allFrames
  deriving DecidableEq, Repr

inductive ExtractionSampling where
  | everyFrame
  | everyNthFrame (stride : NonZeroU64)
  deriving DecidableEq, Repr

/-- `stride_frames`. -/
def ExtractionSampling.strideFrames : ExtractionSampling → NonZeroU64
  | .everyFrame => .one
  | .everyNthFrame stride => stride

structure ExtractionRequest where
  selection : ExtractionSelection
  sampling : ExtractionSampling
  deriving DecidableEq, Repr

structure ExtractionPlan where
  firstFrame : Nat
  lastFrame : Nat
  strideFrames : NonZeroU64
  selectedCount : Nat
  deriving DecidableEq, Repr

structure ExtractionProgress where
  frameId : Nat
  ordinal : Nat
  total : Nat
  deriving DecidableEq, Repr

/-- `contains`. -/
def ExtractionPlan.contains (plan : ExtractionPlan) (frameId : Nat) : Bool :=
  if frameId < plan.firstFrame ∨ plan.lastFrame < frameId then false
  else (frameId - plan.firstFrame) % plan.strideFrames.get = 0

/-! ## The iterator -/

structure PlannedFrameIds where
  next : Option Nat
  last : Nat
  stride : Nat
  deriving DecidableEq, Repr

/-- `Iterator::next`. -/
def PlannedFrameIds.advance (ids : PlannedFrameIds) : Option Nat × PlannedFrameIds :=
  match ids.next with
  | none => (none, ids)
  | some current =>
      if ids.last < current then (none, { ids with next := none })
      else (some current,
        { ids with next := (checkedAddU64 current ids.stride).filter (· ≤ ids.last) })

/-- The identities that at most `rounds` calls yield. -/
def PlannedFrameIds.collect : Nat → PlannedFrameIds → List Nat
  | 0, _ => []
  | rounds + 1, ids =>
      match ids.advance with
      | (none, _) => []
      | (some id, ids) => id :: collect rounds ids

/-- `frame_ids`, all of them: each call moves on by at least one frame. -/
def ExtractionPlan.frameIds (plan : ExtractionPlan) : List Nat :=
  PlannedFrameIds.collect (plan.lastFrame - plan.firstFrame + 1)
    ⟨some plan.firstFrame, plan.lastFrame, plan.strideFrames.get⟩

inductive ExtractionVisitError (E : Type) where
  | cancelled
  | visitor (error : E)
  deriving DecidableEq, Repr

section Visit

variable {E σ : Type} (isCancelled : σ → Bool × σ)
  (visitor : ExtractionProgress → EStateM E σ Unit)

/-- One call of the visitor, after the check for a cancellation. -/
def visitOne (progress : ExtractionProgress) : EStateM (ExtractionVisitError E) σ Unit := do
  let cancelled ← modifyGet isCancelled
  if cancelled then throw .cancelled
  else (visitor progress).adaptExcept .visitor

/-- The loop over the identities that the iterator has left. -/
def visitFrom (total : Nat) :
    Nat → List Nat → EStateM (ExtractionVisitError E) σ Unit
  | _, [] => pure ()
  | ordinal, frameId :: rest => do
      let ordinal := saturatingAddU64 ordinal 1
      visitOne isCancelled visitor ⟨frameId, ordinal, total⟩
      visitFrom total ordinal rest

/-- `visit_frame_ids`. -/
def ExtractionPlan.visitFrameIds (plan : ExtractionPlan) :
    EStateM (ExtractionVisitError E) σ Unit :=
  visitFrom isCancelled visitor plan.selectedCount 0 plan.frameIds

end Visit

/-! ## Planning -/

inductive ExtractionPlanError where
  | incompleteIndex
  | missingFrameCount
  | emptyIndex
  | frameOutOfRange (requested frameCount : Nat)
  | invalidFrameRange (first last : Nat)
  | invalidTimestampRange (startUs endUs : Int)
  | noFramesInTimestampRange
  | numericRange (what : String)
  | index (error : FrameIndexError)
  deriving DecidableEq, Repr

def ExtractionPlanError.toText : ExtractionPlanError → String
  | .incompleteIndex => "frame index is not complete"
  | .missingFrameCount => "complete frame index is missing its frame count"
  | .emptyIndex => "frame index contains no extractable frames"
  | .frameOutOfRange requested frameCount =>
      "requested frame " ++ toString requested ++ " is outside the indexed range of " ++
        toString frameCount ++ " frames"
  | .invalidFrameRange first last =>
      "frame range start " ++ toString first ++ " follows end " ++ toString last
  | .invalidTimestampRange startUs endUs =>
      "timestamp range start " ++ toString startUs ++ "us follows end " ++ toString endUs ++ "us"
  | .noFramesInTimestampRange =>
      "no indexed frame has a presentation timestamp inside the requested range"
  | .numericRange what => "extraction plan numeric range overflow: " ++ what
  | .index error => error.toText

/-- `ensure_frame_in_range`. -/
def ensureFrameInRange (frameId frameCount : Nat) : Except ExtractionPlanError Unit :=
  ensure (frameId < frameCount) (.frameOutOfRange frameId frameCount)

section Index

variable [ContentHash] (index : FrameIndex)

/-- The bounds a selection resolves to in an index of `frameCount` frames. -/
def resolveSelection (frameCount : Nat) :
    ExtractionSelection → Except ExtractionPlanError (Nat × Nat)
  | .currentFrame frameId => do
      ensureFrameInRange frameId frameCount
      .ok (frameId, frameId)
  | .frameRangeInclusive first last => do
      ensure (first ≤ last) (.invalidFrameRange first last)
      ensureFrameInRange first frameCount
      ensureFrameInRange last frameCount
      .ok (first, last)
  | .timestampRangeUsInclusive startUs endUs => do
      ensure (startUs ≤ endUs) (.invalidTimestampRange startUs endUs)
      let found ← (index.frameAtOrAfterUs startUs).mapError .index
      let first ← okOr found .noFramesInTimestampRange
      let found ← (index.frameAtOrBeforeUs endUs).mapError .index
      let last ← okOr found .noFramesInTimestampRange
      let firstUs ← okOr first.timestampUs .noFramesInTimestampRange
      let lastUs ← okOr last.timestampUs .noFramesInTimestampRange
      ensure (first.frameId ≤ last.frameId ∧ firstUs ≤ endUs ∧ startUs ≤ lastUs)
        .noFramesInTimestampRange
      .ok (first.frameId, last.frameId)
  | .allFrames => .ok (0, frameCount - 1)

/-- `plan_extraction`. -/
def planExtraction (request : ExtractionRequest) :
    Except ExtractionPlanError ExtractionPlan := do
  let status ← index.status.mapError .index
  ensure (status.lifecycle = .complete) .incompleteIndex
  let frameCount ← okOr status.frameCount .missingFrameCount
  ensure (frameCount ≠ 0) .emptyIndex
  let (firstFrame, lastFrame) ← resolveSelection index frameCount request.selection
  let strideFrames := request.sampling.strideFrames
  ensure (firstFrame ≤ lastFrame) (.numericRange "frame span")
  let selectedCount ← okOr (checkedAddU64 ((lastFrame - firstFrame) / strideFrames.get) 1)
    (.numericRange "selected frame count")
  .ok { firstFrame, lastFrame, strideFrames, selectedCount }

end Index

/-! ## Valid plans -/

/-- A plan over an index of `frameCount` frames, and the last identity it
selects. -/
structure ValidPlan (frameCount : Nat) (plan : ExtractionPlan) (lastSelected : Nat) : Prop where
  count_pos : 0 < plan.selectedCount
  count_eq : plan.selectedCount =
    (plan.lastFrame - plan.firstFrame) / plan.strideFrames.get + 1
  first_le : plan.firstFrame ≤ plan.lastFrame
  last_lt : plan.lastFrame < frameCount
  lastSelected_eq : lastSelected =
    plan.firstFrame + (plan.selectedCount - 1) * plan.strideFrames.get
  lastSelected_le : lastSelected ≤ plan.lastFrame
  lastSelected_lt : lastSelected < 2 ^ 64

/-- The iterator from `start`, when `count` identities are left up to `last`. -/
theorem collect_progression {last stride : Nat} (count : Nat) :
    ∀ {start rounds : Nat}, count ≤ rounds → 0 < count → start + (count - 1) * stride ≤ last →
      start + (count - 1) * stride < 2 ^ 64 → last < start + count * stride →
      PlannedFrameIds.collect rounds ⟨some start, last, stride⟩ =
        (List.range count).map fun n => start + n * stride := by
  induction count with
  | zero => intro start rounds _ hPositive; exact absurd hPositive (Nat.lt_irrefl 0)
  | succ count ih =>
      intro start rounds hRounds _ hWithin hFits hBeyond
      obtain ⟨rounds, rfl⟩ : ∃ r, rounds = r + 1 := ⟨rounds - 1, by omega⟩
      rw [Nat.add_sub_cancel] at hWithin hFits
      have hStart : start ≤ last := by
        have := Nat.zero_le (count * stride)
        omega
      rw [List.range_succ_eq_map, List.map_cons, List.map_map]
      simp only [PlannedFrameIds.collect, PlannedFrameIds.advance, Nat.not_lt.2 hStart, if_false,
        Nat.zero_mul, Nat.add_zero, List.cons.injEq, true_and]
      cases count with
      | zero =>
          have hStop : (checkedAddU64 start stride).filter (fun next => decide (next ≤ last)) =
              none := by
            rw [Option.filter_eq_none_iff]
            intro next hNext
            rw [checkedAddU64_eq_some] at hNext
            simp only [Nat.zero_add, Nat.one_mul] at hBeyond
            simp only [decide_eq_true_eq]
            omega
          rw [hStop]
          cases rounds with
          | zero => rfl
          | succ rounds => rfl
      | succ count =>
          have hStep : (count + 1) * stride = count * stride + stride := Nat.succ_mul _ _
          have hStep' : (count + 1 + 1) * stride = (count + 1) * stride + stride :=
            Nat.succ_mul _ _
          have hGo : (checkedAddU64 start stride).filter (fun next => decide (next ≤ last)) =
              some (start + stride) := by
            rw [Option.filter_eq_some_iff]
            refine ⟨checkedAddU64_eq_some.2 ⟨?_, rfl⟩, ?_⟩
            · omega
            · rw [decide_eq_true_eq]
              omega
          rw [hGo, ih (by omega) (by omega) (by rw [Nat.add_sub_cancel]; omega)
            (by rw [Nat.add_sub_cancel]; omega) (by omega)]
          apply List.map_congr_left
          intro n _
          simp only [Function.comp, Nat.succ_eq_add_one, Nat.succ_mul]
          omega

namespace ValidPlan

variable {frameCount lastSelected : Nat} {plan : ExtractionPlan}

/-- Between two identities of the plan, only the next one is selected. -/
theorem contains_iff_next (h : ValidPlan frameCount plan lastSelected) {current n : Nat}
    (hFirst : plan.firstFrame ≤ current) (hLast : current ≤ lastSelected)
    (hNext : current ≤ plan.firstFrame + n * plan.strideFrames.get)
    (hNear : plan.firstFrame + n * plan.strideFrames.get < current + plan.strideFrames.get) :
    plan.contains current = true ↔ current = plan.firstFrame + n * plan.strideFrames.get := by
  have hRange : ¬ (current < plan.firstFrame ∨ plan.lastFrame < current) := by
    have := h.lastSelected_le
    omega
  unfold ExtractionPlan.contains
  rw [if_neg hRange, decide_eq_true_eq]
  constructor
  · intro hMod
    obtain ⟨k, hk⟩ := Nat.dvd_of_mod_eq_zero hMod
    have hLower : plan.strideFrames.get * k ≤ plan.strideFrames.get * n := by
      rw [← hk, Nat.mul_comm _ n]
      omega
    have hUpper : plan.strideFrames.get * n < plan.strideFrames.get * (k + 1) := by
      rw [Nat.mul_add, ← hk, Nat.mul_comm _ n]
      omega
    have hkn : k = n := by
      have h1 := Nat.le_of_mul_le_mul_left hLower plan.strideFrames.pos
      have h2 := Nat.lt_of_mul_lt_mul_left hUpper
      omega
    rw [hkn, Nat.mul_comm] at hk
    omega
  · intro hEq
    rw [hEq, Nat.add_sub_cancel_left]
    exact Nat.mul_mod_left n plan.strideFrames.get

/-- No planned identity is beyond the last one. -/
theorem le_lastSelected (h : ValidPlan frameCount plan lastSelected) {i : Nat}
    (hPlanned : plan.contains i = true) : i ≤ lastSelected := by
  unfold ExtractionPlan.contains at hPlanned
  split_ifs at hPlanned with hRange
  rw [decide_eq_true_eq] at hPlanned
  obtain ⟨k, hk⟩ := Nat.dvd_of_mod_eq_zero hPlanned
  have hWithin : k ≤ plan.selectedCount - 1 := by
    rw [h.count_eq, Nat.add_sub_cancel, Nat.le_div_iff_mul_le plan.strideFrames.pos, Nat.mul_comm,
      ← hk]
    omega
  have hMul := Nat.mul_le_mul_right plan.strideFrames.get hWithin
  rw [h.lastSelected_eq, show i = plan.firstFrame + k * plan.strideFrames.get by
    rw [Nat.mul_comm, ← hk]; omega]
  omega

/-- The identities of a valid plan, by their ordinal. -/
theorem frameIds_eq (h : ValidPlan frameCount plan lastSelected) :
    plan.frameIds =
      (List.range plan.selectedCount).map fun n => plan.firstFrame + n * plan.strideFrames.get := by
  have hPos := plan.strideFrames.pos
  have hCount := h.count_eq
  have hDiv := Nat.div_add_mod (plan.lastFrame - plan.firstFrame) plan.strideFrames.get
  have hMod := Nat.mod_lt (plan.lastFrame - plan.firstFrame) hPos
  have hLe := Nat.div_le_self (plan.lastFrame - plan.firstFrame) plan.strideFrames.get
  have hFirst := h.first_le
  have hLast := h.lastSelected_le
  have hFits := h.lastSelected_lt
  rw [h.lastSelected_eq] at hLast hFits
  unfold ExtractionPlan.frameIds
  apply collect_progression plan.selectedCount
  · omega
  · exact h.count_pos
  · exact hLast
  · exact hFits
  · rw [hCount, Nat.succ_mul, Nat.mul_comm]
    omega

end ValidPlan

end FrameScope.Ports.Extraction
