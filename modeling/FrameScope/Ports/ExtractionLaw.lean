import FrameScope.Ports.TimestampQueries
import FrameScope.Ports.BatchExtraction

/-!
# What a plan selects

`plan_extraction` describes an arithmetic progression of identities by its ends,
its stride and its count.  The iterator, the membership test, the visitor and
the check of the extraction driver each compute that progression anew; on every
plan over a complete index they agree.

A timestamp range becomes a plan by two independent lookups.  On an ordered
timeline they find the two ends of the range.  On any other the first frame at
or after the start may come after the last one at or before the end, and then
the planner reports an empty range that is not empty.
-/

namespace FrameScope.Ports.ExtractionLaw

open FrameScope.Verified.KeyedTable
open FrameScope.Ports.Core
open FrameScope.Ports.FrameIndexModel
open FrameScope.Ports.SourceBinding
open FrameScope.Ports.FrameIndexStore
open FrameScope.Ports.FrameTimeline
open FrameScope.Ports.FrameIndexState
open FrameScope.Ports.Decoder
open FrameScope.Ports.IndexingCall
open FrameScope.Ports.IndexingRuns
open FrameScope.Ports.CompleteIndex
open FrameScope.Ports.TimestampQueries
open FrameScope.Ports.Extraction
open FrameScope.Ports.BatchExtraction

/-! ## The progression -/

section Progression

variable {frameCount lastSelected : Nat} {plan : ExtractionPlan}

/-- Membership in the progression is the test of `contains`. -/
theorem mem_frameIds (h : ValidPlan frameCount plan lastSelected) (i : Nat) :
    i ∈ plan.frameIds ↔ plan.contains i = true := by
  have hPos := plan.strideFrames.pos
  rw [h.frameIds_eq, List.mem_map]
  constructor
  · rintro ⟨n, hn, rfl⟩
    rw [List.mem_range] at hn
    have hMul : n * plan.strideFrames.get ≤ (plan.selectedCount - 1) * plan.strideFrames.get :=
      Nat.mul_le_mul_right _ (by omega)
    have hLast := h.lastSelected_le
    rw [h.lastSelected_eq] at hLast
    unfold ExtractionPlan.contains
    rw [if_neg (by omega), decide_eq_true_eq, Nat.add_sub_cancel_left]
    exact Nat.mul_mod_left n _
  · intro hContains
    have hUpper := h.le_lastSelected hContains
    unfold ExtractionPlan.contains at hContains
    split_ifs at hContains with hRange
    rw [decide_eq_true_eq] at hContains
    obtain ⟨n, hn⟩ := Nat.dvd_of_mod_eq_zero hContains
    rw [h.lastSelected_eq] at hUpper
    have hWithin : plan.strideFrames.get * n ≤ plan.strideFrames.get * (plan.selectedCount - 1) := by
      rw [← hn, Nat.mul_comm _ (plan.selectedCount - 1)]
      omega
    have hCount := Nat.le_of_mul_le_mul_left hWithin hPos
    have hPositive := h.count_pos
    refine ⟨n, List.mem_range.2 (by omega), ?_⟩
    rw [Nat.mul_comm]
    omega

theorem frameIds_length (h : ValidPlan frameCount plan lastSelected) :
    plan.frameIds.length = plan.selectedCount := by
  rw [h.frameIds_eq, List.length_map, List.length_range]

theorem frameIds_increasing (h : ValidPlan frameCount plan lastSelected) :
    plan.frameIds.Pairwise (· < ·) := by
  rw [h.frameIds_eq, List.pairwise_map]
  apply List.Pairwise.imp _ List.pairwise_lt_range
  intro m n hmn
  have hMul := Nat.mul_lt_mul_of_pos_right hmn plan.strideFrames.pos
  omega

theorem frameIds_getLast? (h : ValidPlan frameCount plan lastSelected) :
    plan.frameIds.getLast? = some lastSelected := by
  have hPositive := h.count_pos
  obtain ⟨count, hCount⟩ : ∃ count, plan.selectedCount = count + 1 :=
    ⟨plan.selectedCount - 1, by omega⟩
  rw [h.frameIds_eq, h.lastSelected_eq, hCount, List.range_succ, List.map_append]
  simp

/-- However long it is driven, the iterator yields the progression and stops. -/
theorem collect_frameIds (h : ValidPlan frameCount plan lastSelected) {rounds : Nat}
    (hRounds : plan.selectedCount ≤ rounds) :
    PlannedFrameIds.collect rounds ⟨some plan.firstFrame, plan.lastFrame, plan.strideFrames.get⟩ =
      plan.frameIds := by
  have hPos := plan.strideFrames.pos
  have hCount := h.count_eq
  have hDiv := Nat.div_add_mod (plan.lastFrame - plan.firstFrame) plan.strideFrames.get
  have hMod := Nat.mod_lt (plan.lastFrame - plan.firstFrame) hPos
  have hFirst := h.first_le
  have hLast := h.lastSelected_le
  have hFits := h.lastSelected_lt
  rw [h.lastSelected_eq] at hLast hFits
  rw [h.frameIds_eq]
  apply collect_progression plan.selectedCount hRounds h.count_pos hLast hFits
  rw [hCount, Nat.succ_mul, Nat.mul_comm]
  omega

/-- The reports of a whole visit: one-based ordinals and the exact total. -/
def reportsOf (plan : ExtractionPlan) : List ExtractionProgress :=
  plan.frameIds.zipIdx.map fun entry => ⟨entry.1, entry.2 + 1, plan.selectedCount⟩

/-- The visitor is called with the reports in their order; the ordinal never
saturates. -/
theorem visitFrom_eq {E σ : Type} (isCancelled : σ → Bool × σ)
    (visitor : ExtractionProgress → EStateM E σ Unit) (total : Nat) (ids : List Nat) :
    ∀ {ordinal : Nat}, ordinal + ids.length < 2 ^ 64 →
      visitFrom isCancelled visitor total ordinal ids =
        ((ids.zipIdx ordinal).map fun entry => ⟨entry.1, entry.2 + 1, total⟩).forM
          (visitOne isCancelled visitor) := by
  induction ids with
  | nil => intro ordinal _; rfl
  | cons id rest ih =>
      intro ordinal hFits
      rw [List.length_cons] at hFits
      have hOrdinal : saturatingAddU64 ordinal 1 = ordinal + 1 := by
        unfold saturatingAddU64
        omega
      simp only [visitFrom, hOrdinal, List.zipIdx_cons, List.map_cons]
      rw [ih (by omega)]
      rfl

end Progression

/-! ## Plans over a complete index -/

section Plans

variable [ContentHash] {entries : List FrameIndexEntry} {index : FrameIndex}

/-- Frames found by their timestamps are in the index, and so are those asked
for by identity. -/
theorem resolveSelection_lt (h : CompleteOver entries index) (hFrames : entries.length ≠ 0)
    {selection : ExtractionSelection} {first last : Nat}
    (hOk : resolveSelection index entries.length selection = .ok (first, last)) :
    last < entries.length := by
  cases selection with
  | currentFrame frameId =>
      obtain ⟨_, hIn, hOk⟩ := bind_eq_ok.1 hOk
      cases hOk
      exact ensure_eq_ok.1 hIn
  | frameRangeInclusive start stop =>
      obtain ⟨_, -, hOk⟩ := bind_eq_ok.1 hOk
      obtain ⟨_, -, hOk⟩ := bind_eq_ok.1 hOk
      obtain ⟨_, hIn, hOk⟩ := bind_eq_ok.1 hOk
      cases hOk
      exact ensure_eq_ok.1 hIn
  | timestampRangeUsInclusive startUs endUs =>
      obtain ⟨found, hFound, -, hIs⟩ := h.frameAtOrBeforeUs endUs
      obtain ⟨_, -, hOk⟩ := bind_eq_ok.1 hOk
      obtain ⟨_, -, hOk⟩ := bind_eq_ok.1 hOk
      obtain ⟨_, -, hOk⟩ := bind_eq_ok.1 hOk
      obtain ⟨_, hLast, hOk⟩ := bind_eq_ok.1 hOk
      obtain ⟨e, hEntry, hOk⟩ := bind_eq_ok.1 hOk
      obtain ⟨_, -, hOk⟩ := bind_eq_ok.1 hOk
      obtain ⟨_, -, hOk⟩ := bind_eq_ok.1 hOk
      obtain ⟨_, -, hOk⟩ := bind_eq_ok.1 hOk
      cases hOk
      rw [mapError_eq_ok, hFound] at hLast
      cases hLast
      obtain ⟨x, hLastAt⟩ := hIs e (okOr_eq_ok.1 hEntry)
      exact h.frameId_lt hLastAt.mem
  | allFrames =>
      cases hOk
      omega

/-- Every plan over a complete index is a valid one. -/
theorem planExtraction_valid (h : CompleteOver entries index) {request : ExtractionRequest}
    {plan : ExtractionPlan} (hOk : planExtraction index request = .ok plan) :
    ∃ lastSelected, ValidPlan entries.length plan lastSelected := by
  obtain ⟨known, hKnown, -, hKnownCount⟩ := h.status
  obtain ⟨status, hStatus, hOk⟩ := bind_eq_ok.1 hOk
  obtain ⟨_, -, hOk⟩ := bind_eq_ok.1 hOk
  obtain ⟨frameCount, hCount, hOk⟩ := bind_eq_ok.1 hOk
  obtain ⟨_, hSome, hOk⟩ := bind_eq_ok.1 hOk
  obtain ⟨⟨first, last⟩, hBounds, hOk⟩ := bind_eq_ok.1 hOk
  obtain ⟨_, hOrder, hOk⟩ := bind_eq_ok.1 hOk
  obtain ⟨count, hSelected, hOk⟩ := bind_eq_ok.1 hOk
  cases hOk
  rw [mapError_eq_ok, hKnown] at hStatus
  cases hStatus
  rw [okOr_eq_ok, hKnownCount] at hCount
  cases hCount
  rw [ensure_eq_ok] at hSome hOrder
  rw [okOr_eq_ok, checkedAddU64_eq_some] at hSelected
  have hLast := resolveSelection_lt h hSome hBounds
  have hBounded := h.shaped.bounded
  have hMul := Nat.div_mul_le_self (last - first) request.sampling.strideFrames.get
  obtain ⟨-, rfl⟩ := hSelected
  refine ⟨first + (last - first) / request.sampling.strideFrames.get *
    request.sampling.strideFrames.get, Nat.succ_pos _, rfl, hOrder, hLast, ?_, ?_, ?_⟩
  · simp
  · show _ ≤ last
    omega
  · omega

/-- The driver accepts a valid plan, with the same last identity. -/
theorem validatePlan_of_valid (h : CompleteOver entries index) {plan : ExtractionPlan}
    {lastSelected : Nat} (hPlan : ValidPlan entries.length plan lastSelected) :
    validatePlan index plan = .ok lastSelected := by
  obtain ⟨status, hStatus, hComplete, hCount⟩ := h.status
  have hPositive := hPlan.count_pos
  have hFits := hPlan.lastSelected_lt
  have hLast := hPlan.lastSelected_eq
  refine bind_eq_ok.2 ⟨status, mapError_eq_ok.2 hStatus, ?_⟩
  refine bind_eq_ok.2 ⟨(), ensure_eq_ok.2 hComplete, ?_⟩
  refine bind_eq_ok.2 ⟨entries.length, okOr_eq_ok.2 hCount, ?_⟩
  refine bind_eq_ok.2 ⟨(), ensure_eq_ok.2 (by omega), ?_⟩
  refine bind_eq_ok.2 ⟨(), ensure_eq_ok.2 hPlan.first_le, ?_⟩
  refine bind_eq_ok.2 ⟨(), ensure_eq_ok.2 hPlan.last_lt, ?_⟩
  refine bind_eq_ok.2 ⟨plan.selectedCount,
    okOr_eq_ok.2 (checkedAddU64_eq_some.2 ⟨?_, hPlan.count_eq⟩), ?_⟩
  · have hDiv := Nat.div_le_self (plan.lastFrame - plan.firstFrame) plan.strideFrames.get
    have hBounded := h.shaped.bounded
    have hWithin := hPlan.last_lt
    omega
  refine bind_eq_ok.2 ⟨(), ensure_eq_ok.2 rfl, ?_⟩
  refine bind_eq_ok.2 ⟨_, okOr_eq_ok.2 (checkedMulU64_eq_some.2 ⟨?_, rfl⟩), ?_⟩
  · omega
  refine bind_eq_ok.2 ⟨lastSelected, okOr_eq_ok.2 (checkedAddU64_eq_some.2 ⟨?_, hLast⟩), ?_⟩
  · omega
  exact bind_eq_ok.2 ⟨(), ensure_eq_ok.2 hPlan.lastSelected_le, rfl⟩

/-- The four computations of a plan's progression over `frameCount` frames. -/
structure PlanAgrees (index : FrameIndex) (frameCount : Nat) (plan : ExtractionPlan) : Prop where
  stops : ∀ rounds, plan.selectedCount ≤ rounds → PlannedFrameIds.collect rounds
    ⟨some plan.firstFrame, plan.lastFrame, plan.strideFrames.get⟩ = plan.frameIds
  increasing : plan.frameIds.Pairwise (· < ·)
  count : plan.frameIds.length = plan.selectedCount
  members : ∀ i, i ∈ plan.frameIds ↔ plan.contains i = true
  within : ∀ i ∈ plan.frameIds, i < frameCount
  visits : ∀ {E σ : Type} (isCancelled : σ → Bool × σ)
    (visitor : ExtractionProgress → EStateM E σ Unit),
    plan.visitFrameIds isCancelled visitor = (reportsOf plan).forM (visitOne isCancelled visitor)
  last : ∃ lastSelected, plan.frameIds.getLast? = some lastSelected ∧
    validatePlan index plan = .ok lastSelected

/-- **Plan iteration agreement.**  However a plan over a complete index is
walked, it is one increasing sequence inside the index. -/
theorem plan_iteration_agrees (h : CompleteOver entries index) (request : ExtractionRequest)
    {plan : ExtractionPlan} (hOk : planExtraction index request = .ok plan) :
    PlanAgrees index entries.length plan := by
  obtain ⟨lastSelected, hPlan⟩ := planExtraction_valid h hOk
  constructor
  · exact fun rounds hRounds => collect_frameIds hPlan hRounds
  · exact frameIds_increasing hPlan
  · exact frameIds_length hPlan
  · exact mem_frameIds hPlan
  · intro i hi
    have hLast := hPlan.le_lastSelected ((mem_frameIds hPlan i).1 hi)
    have hWithin := hPlan.lastSelected_le
    have hInside := hPlan.last_lt
    omega
  · intro E σ isCancelled visitor
    have hBounded := h.shaped.bounded
    have hCount := hPlan.count_eq
    have hDiv := Nat.div_le_self (plan.lastFrame - plan.firstFrame) plan.strideFrames.get
    have hInside := hPlan.last_lt
    apply visitFrom_eq
    rw [frameIds_length hPlan]
    omega
  · exact ⟨lastSelected, frameIds_getLast? hPlan, validatePlan_of_valid h hPlan⟩

end Plans

section Sample

local instance : ContentHash := constantHash

theorem sampleIndex_plan :
    planExtraction sampleIndex ⟨.allFrames, .everyFrame⟩ = .ok ⟨0, 1, .one, 2⟩ := rfl

theorem plan_iteration_agrees_sample : PlanAgrees sampleIndex 2 ⟨0, 1, .one, 2⟩ :=
  plan_iteration_agrees (completeOver_of_indexOf sampleIndex_indexOf)
    ⟨.allFrames, .everyFrame⟩ sampleIndex_plan

end Sample

/-! ## Timestamp ranges -/

/-- The microsecond timestamp of the entry lies in the range. -/
def InRange (startUs endUs : Int) (e : FrameIndexEntry) : Prop :=
  ∃ us, e.timestampUs = some us ∧ startUs ≤ us ∧ us ≤ endUs

instance (startUs endUs : Int) (e : FrameIndexEntry) : Decidable (InRange startUs endUs e) :=
  decidable_of_iff (e.timestampUs.any fun us => decide (startUs ≤ us ∧ us ≤ endUs)) <| by
    unfold InRange
    simp [Option.any_eq_true]

/-- In the range, with no entry of the range before it in time. -/
structure Earliest (startUs endUs : Int) (entries : List FrameIndexEntry) (e : FrameIndexEntry) :
    Prop where
  mem : e ∈ entries
  inRange : InRange startUs endUs e
  least : ∀ other ∈ entries, InRange startUs endUs other →
    ∀ x ∈ e.timestampUs, ∀ y ∈ other.timestampUs, x ≤ y

/-- In the range, with no entry of the range after it in time. -/
structure Latest (startUs endUs : Int) (entries : List FrameIndexEntry) (e : FrameIndexEntry) :
    Prop where
  mem : e ∈ entries
  inRange : InRange startUs endUs e
  greatest : ∀ other ∈ entries, InRange startUs endUs other →
    ∀ x ∈ e.timestampUs, ∀ y ∈ other.timestampUs, y ≤ x

/-- An earliest entry of the range does not come after a latest one. -/
def RangeInOrder (startUs endUs : Int) (entries : List FrameIndexEntry) : Prop :=
  (∃ e ∈ entries, InRange startUs endUs e) →
    ∃ a b, Earliest startUs endUs entries a ∧ Latest startUs endUs entries b ∧
      a.frameId ≤ b.frameId

section Ranges

variable {startUs endUs : Int} {entries : List FrameIndexEntry} {a b : FrameIndexEntry} {x y : Int}

/-- What the lookup for the start of a range finds is the first of its earliest
entries, unless the range is empty. -/
theorem earliest_of_found
    (h : FirstAtOrAfter FrameIndexEntry.timestampUs startUs entries a x) (hUpper : x ≤ endUs) :
    Earliest startUs endUs entries a ∧
      ∀ other, Earliest startUs endUs entries other → a.frameId ≤ other.frameId := by
  have hIn : InRange startUs endUs a := ⟨x, h.key_eq, h.le, hUpper⟩
  constructor
  · refine ⟨h.mem, hIn, ?_⟩
    rintro other hOther ⟨y, hy, hLower, -⟩ x' hx' y' hy'
    rw [Option.mem_def, h.key_eq] at hx'
    rw [Option.mem_def, hy] at hy'
    cases hx'
    cases hy'
    have hLeast := h.least other hOther y hy hLower
    omega
  · intro other hOther
    obtain ⟨y, hy, hLower, -⟩ := hOther.inRange
    have hLeast := h.least other hOther.mem y hy hLower
    have hSame := hOther.least a h.mem hIn y hy x h.key_eq
    omega

/-- What the lookup for the end of a range finds is the last of its latest
entries, unless the range is empty. -/
theorem latest_of_found
    (h : LastAtOrBefore FrameIndexEntry.timestampUs endUs entries b y) (hLower : startUs ≤ y) :
    Latest startUs endUs entries b ∧
      ∀ other, Latest startUs endUs entries other → other.frameId ≤ b.frameId := by
  have hIn : InRange startUs endUs b := ⟨y, h.key_eq, hLower, h.le⟩
  constructor
  · refine ⟨h.mem, hIn, ?_⟩
    rintro other hOther ⟨x, hx, -, hUpper⟩ y' hy' x' hx'
    rw [Option.mem_def, h.key_eq] at hy'
    rw [Option.mem_def, hx] at hx'
    cases hx'
    cases hy'
    have hGreatest := h.greatest other hOther x hx hUpper
    omega
  · intro other hOther
    obtain ⟨x, hx, -, hUpper⟩ := hOther.inRange
    have hGreatest := h.greatest other hOther.mem x hx hUpper
    have hSame := hOther.greatest b h.mem hIn x hx y h.key_eq
    omega

end Ranges

section Planner

variable [ContentHash] {entries : List FrameIndexEntry} {index : FrameIndex} {startUs endUs : Int}

/-- How the planner answers a timestamp range, when it makes `found` of the two
identities that its lookups find. -/
inductive AnswersRange {α : Type} (startUs endUs : Int) (entries : List FrameIndexEntry)
    (found : Nat → Nat → α) : Except ExtractionPlanError α → Prop where
  | empty (hNone : ∀ e ∈ entries, ¬InRange startUs endUs e) :
      AnswersRange startUs endUs entries found (.error .noFramesInTimestampRange)
  | crossed {a b : FrameIndexEntry} (hFirst : Earliest startUs endUs entries a)
      (hLast : Latest startUs endUs entries b)
      (hLeast : ∀ other, Earliest startUs endUs entries other → a.frameId ≤ other.frameId)
      (hGreatest : ∀ other, Latest startUs endUs entries other → other.frameId ≤ b.frameId)
      (hCrossed : b.frameId < a.frameId) :
      AnswersRange startUs endUs entries found (.error .noFramesInTimestampRange)
  | spans {a b : FrameIndexEntry} (hFirst : Earliest startUs endUs entries a)
      (hLast : Latest startUs endUs entries b)
      (hLeast : ∀ other, Earliest startUs endUs entries other → a.frameId ≤ other.frameId)
      (hGreatest : ∀ other, Latest startUs endUs entries other → other.frameId ≤ b.frameId)
      (hOrder : a.frameId ≤ b.frameId) :
      AnswersRange startUs endUs entries found (.ok (found a.frameId b.frameId))

theorem resolveSelection_range (h : CompleteOver entries index) (hRange : startUs ≤ endUs) :
    AnswersRange startUs endUs entries Prod.mk (resolveSelection index entries.length
      (.timestampRangeUsInclusive startUs endUs)) := by
  obtain ⟨first, hFirst, hNoFirst, hFirstIs⟩ := h.frameAtOrAfterUs startUs
  obtain ⟨last, hLast, hNoLast, hLastIs⟩ := h.frameAtOrBeforeUs endUs
  simp only [resolveSelection, ensure_true hRange, hFirst, hLast, Except.mapError, ok_bind]
  cases first with
  | none =>
      refine .empty fun e he hIn => ?_
      obtain ⟨us, hUs, hLower, -⟩ := hIn
      have hBelow := hNoFirst rfl e he us hUs
      omega
  | some a =>
      obtain ⟨x, hA⟩ := hFirstIs a rfl
      have hAUs : a.timestampUs = some x := hA.key_eq
      cases last with
      | none =>
          refine .empty fun e he hIn => ?_
          obtain ⟨us, hUs, -, hUpper⟩ := hIn
          have hAbove := hNoLast rfl e he us hUs
          omega
      | some b =>
          obtain ⟨y, hB⟩ := hLastIs b rfl
          have hBUs : b.timestampUs = some y := hB.key_eq
          simp only [okOr, hAUs, hBUs, ok_bind]
          by_cases hUpper : x ≤ endUs
          · obtain ⟨hEarliest, hLeast⟩ := earliest_of_found hA hUpper
            have hLower : startUs ≤ y := by
              have hGreatest := hB.greatest a hA.mem x hAUs hUpper
              have hStart := hA.le
              omega
            obtain ⟨hLatest, hGreatest⟩ := latest_of_found hB hLower
            by_cases hOrder : a.frameId ≤ b.frameId
            · rw [ensure_true ⟨hOrder, hUpper, hLower⟩]
              exact .spans hEarliest hLatest hLeast hGreatest hOrder
            · rw [ensure_false (fun hAll => hOrder hAll.1)]
              exact .crossed hEarliest hLatest hLeast hGreatest (by omega)
          · rw [ensure_false (fun hAll => hUpper hAll.2.1)]
            refine .empty fun e he hIn => ?_
            obtain ⟨us, hUs, hStart, hEnd⟩ := hIn
            have hLeast := hA.least e he us hUs hStart
            omega

/-- Planning over a complete index that has frames is resolving the selection. -/
theorem planExtraction_eq (h : CompleteOver entries index) (hFrames : entries.length ≠ 0)
    (request : ExtractionRequest) :
    planExtraction index request = (do
      let (firstFrame, lastFrame) ← resolveSelection index entries.length request.selection
      ensure (firstFrame ≤ lastFrame) (.numericRange "frame span")
      let selectedCount ← okOr
        (checkedAddU64 ((lastFrame - firstFrame) / request.sampling.strideFrames.get) 1)
        (.numericRange "selected frame count")
      .ok { firstFrame, lastFrame, strideFrames := request.sampling.strideFrames, selectedCount }) := by
  obtain ⟨status, hStatus, hComplete, hCount⟩ := h.status
  unfold planExtraction
  simp only [hStatus, Except.mapError, ok_bind, ensure_true hComplete, hCount, okOr,
    ensure_true hFrames]

theorem planExtraction_empty (h : CompleteOver [] index) (request : ExtractionRequest) :
    planExtraction index request = .error .emptyIndex := by
  obtain ⟨status, hStatus, hComplete, hCount⟩ := h.status
  unfold planExtraction
  simp only [hStatus, Except.mapError, ok_bind, ensure_true hComplete, hCount, okOr,
    List.length_nil]
  rfl

/-- The plan between two identities. -/
def planBetween (first last : Nat) (sampling : ExtractionSampling) : ExtractionPlan :=
  ⟨first, last, sampling.strideFrames, (last - first) / sampling.strideFrames.get + 1⟩

theorem planExtraction_timestampRange (h : CompleteOver entries index) (hFrames : entries ≠ [])
    (hRange : startUs ≤ endUs) (sampling : ExtractionSampling) :
    AnswersRange startUs endUs entries (fun first last => planBetween first last sampling)
      (planExtraction index ⟨.timestampRangeUsInclusive startUs endUs, sampling⟩) := by
  have hSome : entries.length ≠ 0 := by simpa using hFrames
  rw [planExtraction_eq h hSome]
  have hResolves := resolveSelection_range h hRange
  revert hResolves
  generalize resolveSelection index entries.length (.timestampRangeUsInclusive startUs endUs) = bounds
  intro hResolves
  cases hResolves with
  | empty hNone => exact .empty hNone
  | crossed hFirst hLast hLeast hGreatest hCrossed =>
      exact .crossed hFirst hLast hLeast hGreatest hCrossed
  | @spans a b hFirst hLast hLeast hGreatest hOrder =>
      have hWithin := h.frameId_lt hLast.mem
      have hBounded := h.shaped.bounded
      have hDiv := Nat.div_le_self (b.frameId - a.frameId) sampling.strideFrames.get
      have hFits : (b.frameId - a.frameId) / sampling.strideFrames.get + 1 < 2 ^ 64 := by omega
      simp only [ok_bind, ensure_true hOrder, checkedAddU64, if_pos hFits, okOr]
      show AnswersRange _ _ _ _ (.ok (planBetween a.frameId b.frameId sampling))
      exact .spans hFirst hLast hLeast hGreatest hOrder

/-- **When the failure is truthful.**  Over a complete index the planner reports
an empty range exactly for the ranges without a frame, if and only if the index
has frames and the range does not run backwards. -/
theorem emptyRange_truthful_iff (h : CompleteOver entries index) (hRange : startUs ≤ endUs)
    (sampling : ExtractionSampling) :
    (planExtraction index ⟨.timestampRangeUsInclusive startUs endUs, sampling⟩ =
        .error .noFramesInTimestampRange ↔ ∀ e ∈ entries, ¬InRange startUs endUs e) ↔
      entries ≠ [] ∧ RangeInOrder startUs endUs entries := by
  by_cases hFrames : entries = []
  · subst hFrames
    rw [planExtraction_empty h]
    simp
  · rw [and_iff_right hFrames]
    have hPlans := planExtraction_timestampRange h hFrames hRange sampling
    revert hPlans
    generalize planExtraction index ⟨.timestampRangeUsInclusive startUs endUs, sampling⟩ = result
    intro hPlans
    cases hPlans with
    | empty hNone =>
        refine iff_of_true (iff_of_true rfl hNone) ?_
        rintro ⟨e, he, hIn⟩
        exact absurd hIn (hNone e he)
    | crossed hFirst hLast hLeast hGreatest hCrossed =>
        refine iff_of_false ?_ ?_
        · intro hTruthful
          exact hTruthful.1 rfl _ hFirst.mem hFirst.inRange
        · intro hInOrder
          obtain ⟨c, d, hEarliest, hLatest, hOrder⟩ := hInOrder ⟨_, hFirst.mem, hFirst.inRange⟩
          have hAfter := hLeast c hEarliest
          have hBefore := hGreatest d hLatest
          omega
    | spans hFirst hLast hLeast hGreatest hOrder =>
        refine iff_of_true ?_ fun _ => ⟨_, _, hFirst, hLast, hOrder⟩
        constructor
        · intro hError
          cases hError
        · intro hNone
          exact absurd hFirst.inRange (hNone _ hFirst.mem)

end Planner

section Samples

local instance : ContentHash := constantHash

theorem emptyRange_truthful_iff_sample :
    (planExtraction sampleIndex ⟨.timestampRangeUsInclusive 0 1000, .everyFrame⟩ =
        .error .noFramesInTimestampRange ↔
      ∀ e ∈ timeline sampleSequence, ¬InRange 0 1000 e) ↔
      timeline sampleSequence ≠ [] ∧ RangeInOrder 0 1000 (timeline sampleSequence) :=
  emptyRange_truthful_iff (completeOver_of_indexOf sampleIndex_indexOf) (by decide) .everyFrame

/-- Two frames, the later one decoded first. -/
def backwardsSequence : List DecodedRgbaFrame := [sampleFrame 1 10, sampleFrame 0 20]

def backwardsIndex : FrameIndex :=
  toIndex sampleSource sampleStream (completeState backwardsSequence)

theorem backwardsTimeline_shaped : Shaped sampleStream (timeline backwardsSequence) where
  numbered := entriesFrom_numbered 0 .streamStart (framesOf backwardsSequence)
  valid := by
    intro e he
    change e ∈ [_, _] at he
    simp only [List.mem_cons, List.not_mem_nil, or_false] at he
    rcases he with rfl | rfl
    · rfl
    · rfl
  bounded := by decide

/-- Both frames lie in the range that is reported to be empty. -/
theorem backwardsRange_untruthful :
    CompleteOver (timeline backwardsSequence) backwardsIndex ∧
      planExtraction backwardsIndex ⟨.timestampRangeUsInclusive 0 1000, .everyFrame⟩ =
        .error .noFramesInTimestampRange ∧
      (∀ e ∈ timeline backwardsSequence, InRange 0 1000 e) ∧
      ¬(planExtraction backwardsIndex ⟨.timestampRangeUsInclusive 0 1000, .everyFrame⟩ =
          .error .noFramesInTimestampRange ↔
        ∀ e ∈ timeline backwardsSequence, ¬InRange 0 1000 e) := by
  have hAll : ∀ e ∈ timeline backwardsSequence, InRange 0 1000 e := by decide
  have hFails : planExtraction backwardsIndex
      ⟨.timestampRangeUsInclusive 0 1000, .everyFrame⟩ = .error .noFramesInTimestampRange := rfl
  refine ⟨completeOver_of_indexOf (indexOf_toIndex backwardsTimeline_shaped), hFails, hAll, ?_⟩
  intro hTruthful
  have hMem : (timeline backwardsSequence)[0] ∈ timeline backwardsSequence := List.getElem_mem _
  exact hTruthful.1 hFails _ hMem (hAll _ hMem)

end Samples

/-! ### Ordered timelines -/

/-- All frames have timestamps, in nondecreasing order. -/
structure Ordered (entries : List FrameIndexEntry) : Prop where
  timestamped : ∀ e ∈ entries, (ticks e).isSome
  nondecreasing : entries.Pairwise fun a b => ∀ x ∈ ticks a, ∀ y ∈ ticks b, x ≤ y

theorem scaleTicksToMicroseconds_eq {ticks : Int} {base : TimeBase} {us : Int}
    (h : scaleTicksToMicroseconds ticks base = some us) :
    us = (ticks * base.numerator * 1000000).tdiv base.denominator := by
  unfold scaleTicksToMicroseconds checkedMulI128 at h
  obtain ⟨first, hFirst, h⟩ := Option.bind_eq_some_iff.1 h
  obtain ⟨second, hSecond, h⟩ := Option.bind_eq_some_iff.1 h
  dsimp only at h
  split_ifs at hFirst hSecond h
  cases hFirst
  cases hSecond
  exact (Option.some.inj h).symm

/-- Scaling to microseconds keeps the order: it truncates, so it may merge but
not swap. -/
theorem toMicroseconds_mono {t t' : MediaTimestamp} (hBase : t.timeBase = t'.timeBase)
    (hTicks : t.ticks ≤ t'.ticks) {us us' : Int} (hUs : t.toMicroseconds = some us)
    (hUs' : t'.toMicroseconds = some us') : us ≤ us' := by
  rw [scaleTicksToMicroseconds_eq hUs, scaleTicksToMicroseconds_eq hUs', hBase]
  apply Int.tdiv_le_tdiv t'.timeBase.denominator_pos
  have hMul := Int.mul_le_mul_of_nonneg_right hTicks (Int.le_of_lt t'.timeBase.numerator_pos)
  omega

section OrderedRanges

variable [ContentHash] {entries : List FrameIndexEntry} {index : FrameIndex} {startUs endUs : Int}

/-- Every frame of an ordered timeline has a microsecond timestamp. -/
theorem Ordered.timestampUs (hOrdered : Ordered entries) (h : CompleteOver entries index)
    {e : FrameIndexEntry} (he : e ∈ entries) : ∃ us, e.timestampUs = some us := by
  have hTicks := hOrdered.timestamped e he
  have hValid := ((validate_iff index.streamIdentity e).1 (h.shaped.valid e he)).timestamp
  unfold ticks at hTicks
  unfold FrameIndexEntry.timestampUs
  cases hTime : e.presentationTimestamp with
  | none => simp [hTime] at hTicks
  | some t =>
      exact Option.isSome_iff_exists.1 (hValid t hTime).2

/-- The microsecond timestamps of an ordered timeline follow the identities. -/
theorem Ordered.us_le (hOrdered : Ordered entries) (h : CompleteOver entries index)
    {e other : FrameIndexEntry} (he : e ∈ entries) (hOther : other ∈ entries)
    (hId : e.frameId ≤ other.frameId) {x y : Int} (hx : e.timestampUs = some x)
    (hy : other.timestampUs = some y) : x ≤ y := by
  have hAt := h.at_frameId he
  have hOtherAt := h.at_frameId hOther
  rcases Nat.lt_or_eq_of_le hId with hLt | hSame
  · have hValid := ((validate_iff index.streamIdentity e).1 (h.shaped.valid e he)).timestamp
    have hOtherValid :=
      ((validate_iff index.streamIdentity other).1 (h.shaped.valid other hOther)).timestamp
    unfold FrameIndexEntry.timestampUs at hx hy
    obtain ⟨t, hTime, hUs⟩ := Option.bind_eq_some_iff.1 hx
    obtain ⟨t', hTime', hUs'⟩ := Option.bind_eq_some_iff.1 hy
    obtain ⟨hLow, hE⟩ := List.getElem?_eq_some_iff.1 hAt
    obtain ⟨hHigh, hO⟩ := List.getElem?_eq_some_iff.1 hOtherAt
    have hTicks := List.pairwise_iff_getElem.1 hOrdered.nondecreasing e.frameId other.frameId
      hLow hHigh hLt
    rw [hE, hO] at hTicks
    have hLe := hTicks t.ticks (by simp [ticks, hTime]) t'.ticks (by simp [ticks, hTime'])
    have hBase := (hValid t hTime).1.trans (hOtherValid t' hTime').1.symm
    exact toMicroseconds_mono hBase hLe hUs hUs'
  · rw [hSame, hOtherAt, Option.some.injEq] at hAt
    rw [← hAt, hy, Option.some.injEq] at hx
    omega

/-- Between the first earliest and the last latest entry of an ordered timeline
are the entries of the range, and no others. -/
theorem Ordered.between_iff (hOrdered : Ordered entries) (h : CompleteOver entries index)
    {a b : FrameIndexEntry} (hFirst : Earliest startUs endUs entries a)
    (hLast : Latest startUs endUs entries b)
    (hLeast : ∀ other, Earliest startUs endUs entries other → a.frameId ≤ other.frameId)
    (hGreatest : ∀ other, Latest startUs endUs entries other → other.frameId ≤ b.frameId)
    {e : FrameIndexEntry} (he : e ∈ entries) :
    a.frameId ≤ e.frameId ∧ e.frameId ≤ b.frameId ↔ InRange startUs endUs e := by
  obtain ⟨x, hx, hStart, -⟩ := hFirst.inRange
  obtain ⟨y, hy, -, hEnd⟩ := hLast.inRange
  obtain ⟨z, hz⟩ := hOrdered.timestampUs h he
  constructor
  · rintro ⟨hAfter, hBefore⟩
    have hLow := hOrdered.us_le h hFirst.mem he hAfter hx hz
    have hHigh := hOrdered.us_le h he hLast.mem hBefore hz hy
    exact ⟨z, hz, by omega, by omega⟩
  · intro hIn
    have hLow := hFirst.least e he hIn x hx z hz
    have hHigh := hLast.greatest e he hIn y hy z hz
    constructor
    · -- an entry of the range before the first one would be as early
      by_contra hBefore
      have hSame := hOrdered.us_le h he hFirst.mem (by omega) hz hx
      have hEarliest : Earliest startUs endUs entries e := by
        refine ⟨he, hIn, ?_⟩
        intro other hOther hOtherIn z' hz' w hw
        have hLeastUs := hFirst.least other hOther hOtherIn x hx w hw
        rw [Option.mem_def, hz, Option.some.injEq] at hz'
        omega
      have hAfter := hLeast e hEarliest
      omega
    · -- and one after the last would be as late
      by_contra hAfter
      have hSame := hOrdered.us_le h hLast.mem he (by omega) hy hz
      have hLatest : Latest startUs endUs entries e := by
        refine ⟨he, hIn, ?_⟩
        intro other hOther hOtherIn z' hz' w hw
        have hGreatestUs := hLast.greatest other hOther hOtherIn y hy w hw
        rw [Option.mem_def, hz, Option.some.injEq] at hz'
        omega
      have hBefore := hGreatest e hLatest
      omega

/-- The frames of an index that lie in the range, by identity. -/
def framesInRange (startUs endUs : Int) (entries : List FrameIndexEntry) : List Nat :=
  (entries.filter fun e => decide (InRange startUs endUs e)).map (·.frameId)

omit [ContentHash] in
theorem mem_framesInRange {i : Nat} : i ∈ framesInRange startUs endUs entries ↔
    ∃ e ∈ entries, InRange startUs endUs e ∧ e.frameId = i := by
  simp [framesInRange, and_assoc]

theorem framesInRange_increasing (h : CompleteOver entries index) :
    (framesInRange startUs endUs entries).Pairwise (· < ·) := by
  have hIds : entries.Pairwise fun a b => a.frameId < b.frameId := by
    rw [List.pairwise_iff_getElem]
    intro i j hi hj hij
    have hLow := Consecutive.key_eq h.shaped.numbered (List.getElem?_eq_getElem hi)
    have hHigh := Consecutive.key_eq h.shaped.numbered (List.getElem?_eq_getElem hj)
    omega
  unfold framesInRange
  rw [List.pairwise_map]
  exact hIds.filter _

/-- What a plan selects of a range: its span is the range, a stride selects every
so many frames of it, and `every_frame` all of them. -/
structure SelectsRange (startUs endUs : Int) (entries : List FrameIndexEntry)
    (plan : ExtractionPlan) : Prop where
  span : ∀ i, plan.firstFrame ≤ i ∧ i ≤ plan.lastFrame ↔ i ∈ framesInRange startUs endUs entries
  strided : ∀ i, plan.contains i = true ↔ i ∈ framesInRange startUs endUs entries ∧
    (i - plan.firstFrame) % plan.strideFrames.get = 0
  everyFrame : plan.strideFrames = .one → plan.frameIds = framesInRange startUs endUs entries

theorem selectsRange_of_ordered (hOrdered : Ordered entries) (h : CompleteOver entries index)
    {a b : FrameIndexEntry} (hFirst : Earliest startUs endUs entries a)
    (hLast : Latest startUs endUs entries b)
    (hLeast : ∀ other, Earliest startUs endUs entries other → a.frameId ≤ other.frameId)
    (hGreatest : ∀ other, Latest startUs endUs entries other → other.frameId ≤ b.frameId)
    {plan : ExtractionPlan} (hPlanFirst : plan.firstFrame = a.frameId)
    (hPlanLast : plan.lastFrame = b.frameId) {lastSelected : Nat}
    (hPlan : ValidPlan entries.length plan lastSelected) :
    SelectsRange startUs endUs entries plan := by
  have hSpan : ∀ i, plan.firstFrame ≤ i ∧ i ≤ plan.lastFrame ↔
      i ∈ framesInRange startUs endUs entries := by
    intro i
    rw [hPlanFirst, hPlanLast, mem_framesInRange]
    constructor
    · intro hBetween
      have hWithin := h.frameId_lt hLast.mem
      have hi : i < entries.length := by omega
      have hMem : entries[i] ∈ entries := List.getElem_mem hi
      have hKey := Consecutive.key_eq h.shaped.numbered (List.getElem?_eq_getElem hi)
      have hId : entries[i].frameId = i := by omega
      refine ⟨entries[i], hMem, ?_, hId⟩
      rw [← hOrdered.between_iff h hFirst hLast hLeast hGreatest hMem, hId]
      exact hBetween
    · rintro ⟨e, he, hIn, rfl⟩
      exact (hOrdered.between_iff h hFirst hLast hLeast hGreatest he).2 hIn
  have hStrided : ∀ i, plan.contains i = true ↔ i ∈ framesInRange startUs endUs entries ∧
      (i - plan.firstFrame) % plan.strideFrames.get = 0 := by
    intro i
    rw [← hSpan]
    unfold ExtractionPlan.contains
    by_cases hOutside : i < plan.firstFrame ∨ plan.lastFrame < i
    · rw [if_pos hOutside]
      refine iff_of_false Bool.false_ne_true ?_
      rintro ⟨hBetween, -⟩
      omega
    · rw [if_neg hOutside, decide_eq_true_eq, iff_and_self]
      intro _
      omega
  refine ⟨hSpan, hStrided, ?_⟩
  intro hOne
  apply (frameIds_increasing hPlan).eq_of_mem_iff (framesInRange_increasing h)
  intro i
  rw [mem_frameIds hPlan, hStrided, hOne, and_iff_left_iff_imp]
  intro _
  exact Nat.mod_one _

/-- **Ranges of an ordered timeline are exact.**  Over a complete index with
frames the planner selects the frames of the range, and fails with an empty
range exactly when there are none. -/
theorem orderedRange_exact (h : CompleteOver entries index) (hFrames : entries ≠ [])
    (hOrdered : Ordered entries) (hRange : startUs ≤ endUs) (sampling : ExtractionSampling) :
    (planExtraction index ⟨.timestampRangeUsInclusive startUs endUs, sampling⟩ =
        .error .noFramesInTimestampRange ∧ framesInRange startUs endUs entries = []) ∨
      ∃ plan, planExtraction index ⟨.timestampRangeUsInclusive startUs endUs, sampling⟩ =
          .ok plan ∧
        plan.strideFrames = sampling.strideFrames ∧
        framesInRange startUs endUs entries ≠ [] ∧ SelectsRange startUs endUs entries plan := by
  have hPlans := planExtraction_timestampRange h hFrames hRange sampling
  have hValid : ∀ plan,
      planExtraction index ⟨.timestampRangeUsInclusive startUs endUs, sampling⟩ = .ok plan →
        ∃ lastSelected, ValidPlan entries.length plan lastSelected :=
    fun plan hOk => planExtraction_valid h hOk
  revert hPlans hValid
  generalize planExtraction index ⟨.timestampRangeUsInclusive startUs endUs, sampling⟩ = result
  intro hPlans hValid
  cases hPlans with
  | empty hNone =>
      refine .inl ⟨rfl, List.eq_nil_iff_forall_not_mem.2 ?_⟩
      intro i hi
      obtain ⟨e, he, hIn, -⟩ := mem_framesInRange.1 hi
      exact hNone e he hIn
  | @crossed a b hFirst hLast hLeast hGreatest hCrossed =>
      obtain ⟨x, hx, -, -⟩ := hFirst.inRange
      obtain ⟨y, hy, -, -⟩ := hLast.inRange
      have hBack := hOrdered.us_le h hLast.mem hFirst.mem (by omega) hy hx
      have hEarliest : Earliest startUs endUs entries b := by
        refine ⟨hLast.mem, hLast.inRange, ?_⟩
        intro other hOther hOtherIn y' hy' w hw
        have hLeastUs := hFirst.least other hOther hOtherIn x hx w hw
        rw [Option.mem_def, hy, Option.some.injEq] at hy'
        omega
      have hAfter := hLeast b hEarliest
      omega
  | @spans a b hFirst hLast hLeast hGreatest hOrder =>
      obtain ⟨lastSelected, hPlan⟩ := hValid _ rfl
      refine .inr ⟨_, rfl, rfl, ?_, ?_⟩
      · apply List.ne_nil_of_mem
        exact mem_framesInRange.2 ⟨a, hFirst.mem, hFirst.inRange, rfl⟩
      · exact selectsRange_of_ordered hOrdered h hFirst hLast hLeast hGreatest rfl rfl hPlan

end OrderedRanges

section Samples

local instance : ContentHash := constantHash

theorem orderedRange_exact_sample :
    (planExtraction sampleIndex ⟨.timestampRangeUsInclusive 500 1000, .everyFrame⟩ =
        .error .noFramesInTimestampRange ∧
          framesInRange 500 1000 (timeline sampleSequence) = []) ∨
      ∃ plan, planExtraction sampleIndex ⟨.timestampRangeUsInclusive 500 1000, .everyFrame⟩ =
          .ok plan ∧ plan.strideFrames = .one ∧
        framesInRange 500 1000 (timeline sampleSequence) ≠ [] ∧
        SelectsRange 500 1000 (timeline sampleSequence) plan :=
  orderedRange_exact (completeOver_of_indexOf sampleIndex_indexOf) (by decide)
    ⟨by decide, by decide⟩ (by decide) .everyFrame

def emptyIndex : FrameIndex := toIndex sampleSource sampleStream (completeState [])

/-- An index without frames has a failure of its own. -/
theorem emptyIndex_fails_otherwise :
    CompleteOver [] emptyIndex ∧ Ordered [] ∧
      ¬(planExtraction emptyIndex ⟨.timestampRangeUsInclusive 0 1000, .everyFrame⟩ =
          .error .noFramesInTimestampRange ↔ framesInRange 0 1000 [] = []) := by
  have hShaped : Shaped sampleStream (timeline []) := Shaped.nil
  have hOver : CompleteOver [] emptyIndex :=
    completeOver_of_indexOf (indexOf_toIndex hShaped)
  refine ⟨hOver, ⟨by simp, .nil⟩, ?_⟩
  rw [planExtraction_empty hOver]
  intro hFails
  have hSame := hFails.2 rfl
  cases hSame

end Samples

end FrameScope.Ports.ExtractionLaw
