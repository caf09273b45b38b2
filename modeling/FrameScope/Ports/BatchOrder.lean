import FrameScope.Ports.BatchAlignment

/-!
# The visitor sees the plan in order

Whatever the decoder does, the visitor of a batch is called with the planned
identities one after the other, each with the next ordinal.  So a property of
the batch after `n` calls that the next call keeps holds at the end with all
calls made, and at a failure with some of them made.
-/

namespace FrameScope.Ports.BatchOrder

open FrameScope.Verified.Fallible
open FrameScope.Ports.Core
open FrameScope.Ports.Decoder
open FrameScope.Ports.FrameIndexModel
open FrameScope.Ports.FrameIndexStore
open FrameScope.Ports.FrameCache
open FrameScope.Ports.Extraction
open FrameScope.Ports.BatchExtraction
open FrameScope.Ports.BatchAlignment

variable {σ E : Type} {cancelled : Nat → Bool} {index : FrameIndex} {plan : ExtractionPlan}
  {visitor : Visitor E σ} {R : Nat → BatchState σ → Prop}
  {Fail : BatchExtractionError E → BatchState σ → Prop}

/-- The identity that ordinal `n + 1` of a plan stands for. -/
def plannedId (plan : ExtractionPlan) (n : Nat) : Nat :=
  plan.firstFrame + n * plan.strideFrames.get

/-- `R n` holds after `n` calls of the visitor, `Fail` after a failure. -/
structure VisitRule (plan : ExtractionPlan) (visitor : Visitor E σ)
    (R : Nat → BatchState σ → Prop) (Fail : BatchExtractionError E → BatchState σ → Prop) :
    Prop where
  quiet : ∀ {n s s'}, R n s → Quiet s s' → R n s'
  visit : ∀ {n id s entry pixels}, plan.frameIds[n]? = some id → n < plan.selectedCount → R n s →
    wp (runVisitor visitor ⟨⟨id, n + 1, plan.selectedCount⟩, entry, pixels⟩)
      (fun _ s' => R (n + 1) s') Fail s
  stop : ∀ {n s e}, n ≤ plan.selectedCount → R n s → Fail (.failure e) s

/-- It is the one that `frame_ids` yields. -/
theorem frameIds_getElem? {frameCount lastSelected n : Nat}
    (hValid : ValidPlan frameCount plan lastSelected) (h : n < plan.selectedCount) :
    plan.frameIds[n]? = some (plannedId plan n) := by
  rw [hValid.frameIds_eq, List.getElem?_map, List.getElem?_range h]
  rfl

theorem plannedId_succ (n : Nat) :
    plannedId plan (n + 1) = plannedId plan n + plan.strideFrames.get := by
  unfold plannedId
  rw [Nat.succ_mul, Nat.add_assoc]

/-- An identity is planned for an ordinal of the plan when it is at most the
last one selected. -/
theorem lt_of_plannedId_le {frameCount lastSelected n : Nat}
    (hValid : ValidPlan frameCount plan lastSelected)
    (h : plannedId plan n < lastSelected + plan.strideFrames.get) : n < plan.selectedCount := by
  have hPos := hValid.count_pos
  have hMul : n * plan.strideFrames.get < plan.selectedCount * plan.strideFrames.get := by
    have hLast : plannedId plan (plan.selectedCount - 1 + 1) = _ := plannedId_succ _
    rw [show plan.selectedCount - 1 + 1 = plan.selectedCount by omega] at hLast
    rw [hValid.lastSelected_eq] at h
    unfold plannedId at h hLast
    omega
  exact Nat.lt_of_mul_lt_mul_right hMul

/-- With the frame of `c` in hand, the next planned identity is at `c` or
within a stride beyond it. -/
structure Ahead (plan : ExtractionPlan) (lastSelected c n : Nat) : Prop where
  first : plan.firstFrame ≤ c
  last : c ≤ lastSelected
  here : c ≤ plannedId plan n
  near : plannedId plan n < c + plan.strideFrames.get

/-- Once `c` has been visited, the next planned identity is beyond it. -/
structure Passed (plan : ExtractionPlan) (lastSelected c n : Nat) : Prop where
  first : plan.firstFrame ≤ c
  last : c ≤ lastSelected
  here : c < plannedId plan n
  near : plannedId plan n ≤ c + plan.strideFrames.get

theorem Passed.le_count {frameCount lastSelected c n : Nat}
    (hValid : ValidPlan frameCount plan lastSelected) (h : Passed plan lastSelected c n) :
    n ≤ plan.selectedCount := by
  cases n with
  | zero => exact Nat.zero_le _
  | succ n =>
      have hNear := h.near
      have hLast := h.last
      have hPos := plan.strideFrames.pos
      rw [plannedId_succ] at hNear
      exact lt_of_plannedId_le hValid (by omega)

/-- At the last identity all calls have been made. -/
theorem Passed.at_last {frameCount lastSelected n : Nat}
    (hValid : ValidPlan frameCount plan lastSelected)
    (h : Passed plan lastSelected lastSelected n) : n = plan.selectedCount := by
  have hLe := h.le_count hValid
  have hHere := h.here
  rw [hValid.lastSelected_eq] at hHere
  have hLt := Nat.lt_of_mul_lt_mul_right (Nat.lt_of_add_lt_add_left hHere)
  omega

theorem visitRule_loop {frameCount lastSelected : Nat}
    (hValid : ValidPlan frameCount plan lastSelected) (hRule : VisitRule plan visitor R Fail) :
    LoopRule cancelled index plan visitor lastSelected
      (fun c n _ _ s => Ahead plan lastSelected c n ∧ R n s)
      (fun c n _ _ s => Passed plan lastSelected c n ∧ R n s) Fail where
  visit := by
    rintro c n decoded decoder s ⟨hAhead, hR⟩
    have hCount : n < plan.selectedCount :=
      lt_of_plannedId_le hValid (by have := hAhead.near; have := hAhead.last; omega)
    have hNext := hValid.contains_iff_next hAhead.first hAhead.last hAhead.here hAhead.near
    have hPos := plan.strideFrames.pos
    refine visitCurrent_wp ?_ ?_ ?_
    · intro e s' hQuiet
      exact hRule.stop (Nat.le_of_lt hCount) (hRule.quiet hR hQuiet)
    · intro entry _ hSkip
      have hNe : c ≠ plannedId plan n := by
        intro hEq
        rw [hNext.2 hEq] at hSkip
        cases hSkip
      have hHere := hAhead.here
      exact ⟨⟨hAhead.first, hAhead.last, by omega, Nat.le_of_lt hAhead.near⟩, hR⟩
    · intro entry pixels s' _ hPlanned _ hQuiet
      have hEq : c = plannedId plan n := hNext.1 hPlanned
      rw [hEq]
      refine wp_mono (hRule.visit (frameIds_getElem? hValid hCount) hCount
        (hRule.quiet hR hQuiet)) ?_ (fun _ _ h => h)
      intro _ s'' hR'
      refine ⟨⟨hEq ▸ hAhead.first, hEq ▸ hAhead.last, ?_, ?_⟩, hR'⟩
      · rw [plannedId_succ]
        omega
      · rw [plannedId_succ]
  read := by
    rintro c n decoded decoder s frame decoder' rgba s' ⟨hPassed, hR⟩ hMore - - hQuiet
    have hFirst := hPassed.first
    have hLast := hPassed.last
    have hHere := hPassed.here
    have hNear := hPassed.near
    exact ⟨⟨by omega, by omega, by omega, by omega⟩, hRule.quiet hR hQuiet⟩
  stop := by
    rintro c n decoded decoder s e s' ⟨hPassed, hR⟩ - hQuiet
    exact hRule.stop (hPassed.le_count hValid) (hRule.quiet hR hQuiet)

/-- **The visits of a batch.**  A batch that returns has made all calls, and
its report counts them. -/
theorem extractRgbaPlan_visits (hRule : VisitRule plan visitor R Fail) {opens : Opener}
    {s : BatchState σ} (hStart : R 0 s) :
    wp (extractRgbaPlan cancelled index plan visitor opens)
      (fun report s' => report.selectedFrames = plan.selectedCount ∧ R plan.selectedCount s')
      Fail s := by
  unfold extractRgbaPlan
  rw [wp_bind, wp_ofExcept]
  refine ⟨?_, fun e _ => hRule.stop (Nat.zero_le _) hStart⟩
  intro lastSelected hPlan
  obtain ⟨status, frameCount, -, -, hValid⟩ := validatePlan_ok hPlan
  rw [wp_bind, wp_ofExcept]
  refine ⟨?_, fun e _ => hRule.stop (Nat.zero_le _) hStart⟩
  intro firstEntry _
  rw [wp_bind, wp_adaptExcept]
  refine wp_mono alignFirst_quiet ?_
    (fun e s' hQuiet => hRule.stop (Nat.zero_le _) (hRule.quiet hStart hQuiet))
  intro aligned s₁ hQuiet
  have hAhead : Ahead plan lastSelected plan.firstFrame 0 := by
    have hZero : plannedId plan 0 = plan.firstFrame := by
      unfold plannedId
      rw [Nat.zero_mul, Nat.add_zero]
    have hPos := plan.strideFrames.pos
    refine ⟨Nat.le_refl _, ?_, ?_, ?_⟩
    · rw [hValid.lastSelected_eq]
      exact Nat.le_add_right _ _
    · rw [hZero]
    · rw [hZero]
      omega
  rw [wp_bind]
  refine wp_mono (extractOnward_rule (visitRule_loop hValid hRule) _
    ⟨hAhead, hRule.quiet hStart hQuiet⟩) ?_ (fun _ _ h => h)
  rintro n s₂ ⟨decoded, decoder, hPassed, hR⟩
  have hAll := hPassed.at_last hValid
  rw [if_neg (not_not.2 hAll), wp_bind, wp_get, wp_pure]
  exact ⟨hAll, hAll ▸ hR⟩

end FrameScope.Ports.BatchOrder
