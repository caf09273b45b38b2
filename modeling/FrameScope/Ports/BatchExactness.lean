import FrameScope.Ports.BatchFaultless

/-!
# When a batch extracts the right frames

Batch extraction seeks to the anchor of its first frame without asking whether
the timeline is safe to seek, and recognises the anchor by its metadata alone.
So a run of frames elsewhere in the source that carries the metadata of the
anchor and of the frames after it is taken for them.  `Misreads S plan` is that
case: such a run reaches a planned frame with other pixels.  It is exactly when
some decoder that emits `S` makes the batch hand over a wrong frame.
-/

namespace FrameScope.Ports.BatchExactness

open FrameScope.Verified.Fallible
open FrameScope.Ports.Core
open FrameScope.Ports.Decoder
open FrameScope.Ports.FrameIndexModel
open FrameScope.Ports.SourceBinding
open FrameScope.Ports.FrameIndexStore
open FrameScope.Ports.FrameTimeline
open FrameScope.Ports.FrameIndexState
open FrameScope.Ports.IndexingCall
open FrameScope.Ports.IndexingRuns
open FrameScope.Ports.CompleteIndex
open FrameScope.Ports.FrameCache
open FrameScope.Ports.Extraction
open FrameScope.Ports.BatchExtraction
open FrameScope.Ports.BatchAlignment
open FrameScope.Ports.BatchFaultless

/-! ## What is handed over -/

/-- The planned frames before `i`, as read from position `m` on, have owned
copies; without one the batch stops there. -/
def ReadyBefore (S : List DecodedRgbaFrame) (plan : ExtractionPlan) (m a i : Nat) : Prop :=
  ∀ i' < i, plan.contains i' = true → ∃ pixels, IsFrameAt S (m + (i' - a)) pixels

/-- A batch that takes position `m` for the anchor `a` hands over `pixels` for
the planned identity `i`. -/
structure Delivers (S : List DecodedRgbaFrame) (plan : ExtractionPlan) (m a i : Nat)
    (pixels : OwnedRgbaFrame) : Prop where
  planned : plan.contains i = true
  shifted : Shifted S m a (i - a + 1)
  ready : ReadyBefore S plan m a i
  pixels : IsFrameAt S (m + (i - a)) pixels

/-- Some run of frames is taken for the anchor of the first planned frame and
what follows it, and shows other pixels at the planned identity `i`. -/
def MisreadAt (S : List DecodedRgbaFrame) (plan : ExtractionPlan) (i : Nat) : Prop :=
  ∃ row a us m pixels, (timeline S)[plan.firstFrame]? = some row ∧
    anchorSeek row.anchor = some (a, us) ∧ Delivers S plan m a i pixels ∧ ¬ IsFrameAt S i pixels

/-- Some planned identity can be read wrongly. -/
def Misreads (S : List DecodedRgbaFrame) (plan : ExtractionPlan) : Prop :=
  ∃ i, MisreadAt S plan i

theorem contains_first_le {plan : ExtractionPlan} {i : Nat} (h : plan.contains i = true) :
    plan.firstFrame ≤ i ∧ i ≤ plan.lastFrame := by
  unfold ExtractionPlan.contains at h
  split_ifs at h with hRange
  omega

section Spec

variable {σ E : Type} {cancelled : Nat → Bool} {plan : ExtractionPlan} {visitor : Visitor E σ}
  [ContentHash] {S : List DecodedRgbaFrame} {index : FrameIndex}

/-- Everything handed so far was delivered under the alignment of `m` with `a`. -/
def AllDelivered (S : List DecodedRgbaFrame) (plan : ExtractionPlan) (m a : Nat)
    (s : BatchState σ) : Prop :=
  ∀ x ∈ s.handed, Delivers S plan m a x.progress.frameId x.pixels

omit [ContentHash] in
theorem AllDelivered.quiet {m a : Nat} {s s' : BatchState σ} (h : AllDelivered S plan m a s)
    (hQuiet : Quiet s s') : AllDelivered S plan m a s' := by
  unfold AllDelivered
  rw [hQuiet.1]
  exact h

/-- The loop hands over what stands at the shifted positions. -/
theorem loop_delivers (hIndex : IndexOf S index) (m a lastSelected : Nat) :
    LoopRule cancelled index plan visitor lastSelected
      (fun c _ decoded decoder s => At S m a c decoded decoder ∧ ReadyBefore S plan m a c ∧
        AllDelivered S plan m a s)
      (fun c _ decoded decoder s => At S m a c decoded decoder ∧ Shifted S m a (c - a + 1) ∧
        ReadyBefore S plan m a (c + 1) ∧ AllDelivered S plan m a s)
      (fun _ s => AllDelivered S plan m a s) where
  visit := by
    rintro c n decoded decoder s ⟨hAt, hReady, hDelivered⟩
    refine visitCurrent_wp (fun e s' hQuiet => hDelivered.quiet hQuiet) ?_ ?_
    · intro entry hEntry hSkip
      refine ⟨hAt, hAt.matched hIndex hEntry, ?_, hDelivered⟩
      intro i' hi' hPlanned
      have hNe : i' ≠ c := by
        intro hEq
        rw [hEq, hSkip] at hPlanned
        cases hPlanned
      exact hReady i' (by omega) hPlanned
    · intro entry pixels s' hEntry hPlanned hPixels hQuiet
      have hHere : IsFrameAt S (m + (c - a)) pixels := ⟨decoded, hAt.frame, hPixels⟩
      have hShifted := hAt.matched hIndex hEntry
      have hAfter : ∀ s'' : BatchState σ,
          s''.handed = s'.handed ++ [⟨⟨c, n + 1, plan.selectedCount⟩, entry, pixels⟩] →
          AllDelivered S plan m a s'' := by
        intro s'' hHanded x hx
        rw [hHanded, List.mem_append, List.mem_singleton] at hx
        rcases hx with hOld | rfl
        · exact hDelivered.quiet hQuiet x hOld
        · exact ⟨hPlanned, hShifted, hReady, hHere⟩
      refine wp_mono runVisitor_handed ?_ (fun _ s'' hHanded => hAfter s'' hHanded)
      intro _ s'' hHanded
      refine ⟨hAt, hShifted, ?_, hAfter s'' hHanded⟩
      intro i' hi' hPlanned'
      rcases Nat.lt_succ_iff_lt_or_eq.1 hi' with hLt | rfl
      · exact hReady i' hLt hPlanned'
      · exact ⟨pixels, hHere⟩
  read := by
    rintro c n decoded decoder s frame decoder' rgba s' ⟨hAt, hShifted, hReady, hDelivered⟩ -
      hNext hSnapshot hQuiet
    exact ⟨hAt.next hShifted hNext hSnapshot, hReady, hDelivered.quiet hQuiet⟩
  stop := by
    rintro c n decoded decoder s e s' ⟨-, -, -, hDelivered⟩ - hQuiet
    exact hDelivered.quiet hQuiet

/-- The alignments a batch may end up with: the frames at their own positions,
or the anchor of the first planned frame at some position. -/
def Alignment (firstEntry : FrameIndexEntry) (m a : Nat) : Prop :=
  (m = 0 ∧ a = 0) ∨ ∃ us, anchorSeek firstEntry.anchor = some (a, us)

/-- Where a batch stands once its first frame is reached. -/
theorem alignFirst_at (hIndex : IndexOf S index) {opens : Opener}
    (hOpens : OpensConforming S opens) {firstEntry : FrameIndexEntry} {first : Nat}
    {s : BatchState σ} :
    wp (alignFirst cancelled index opens firstEntry first)
      (fun r s' => Quiet s s' ∧ ∃ m a, Alignment firstEntry m a ∧
        At S m a first r.decoded r.decoder)
      (fun _ s' => Quiet s s') s := by
  have hOpened : ∀ {n decoder}, openCheckedDecoder index opens n = .ok decoder →
      Conforms S decoder := by
    intro n decoder hOpen
    obtain ⟨opened, hFactory, h⟩ := bind_eq_ok.1 hOpen
    obtain ⟨identity, -, h⟩ := bind_eq_ok.1 h
    obtain ⟨u, -, h⟩ := bind_eq_ok.1 h
    cases h
    exact hOpens n decoder (mapError_eq_ok.1 hFactory)
  refine alignFirst_rule (fun c decoded decoder => ∃ m a, Alignment firstEntry m a ∧
    At S m a c decoded decoder) ?_ ?_
  · intro n decoder s hOpen
    have hFromStart : EndsAt (At S 0 0) first s (alignFromStart cancelled index decoder first) := by
      refine alignFromStart_rule (at_carried hIndex) ?_
      intro frame decoder' rgba hNext hSnapshot
      exact at_of_read (hOpened hOpen).fresh hNext hSnapshot
    exact hFromStart.mono fun decoded decoder hAt => ⟨0, 0, .inl ⟨rfl, rfl⟩, hAt⟩
  · intro decoder decoder' a us s hOpen hAnchor hSeek
    have hCarried : CarriedBy index fun c decoded decoder => ∃ m, At S m a c decoded decoder := by
      intro c decoded decoder entry frame decoder' rgba hAt hEntry hNext hSnapshot
      obtain ⟨m, hAt⟩ := hAt
      exact ⟨m, at_carried hIndex c decoded decoder entry frame decoder' rgba hAt hEntry hNext
        hSnapshot⟩
    have hFromSeek : EndsAt (fun c decoded decoder => ∃ m, At S m a c decoded decoder) first s
        (alignFromSeek cancelled index decoder' a first) := by
      refine alignFromSeek_rule hCarried (fun decoder => ∃ p, decoder.script.Emits S p)
        (seekToTimestampUs_ok (hOpened hOpen) hSeek) ?_
      intro anchorEntry decoder frame decoder' rgba _ hEmits hNext hSnapshot
      obtain ⟨p, hEmits⟩ := hEmits
      have hRead : At S p a a rgba decoder' := at_of_read hEmits hNext hSnapshot
      exact ⟨⟨p + 1, (frame_of_read hEmits hNext hSnapshot).1.onward⟩, fun _ => ⟨p, hRead⟩⟩
    exact hFromSeek.mono fun decoded decoder hAt => by
      obtain ⟨m, hAt⟩ := hAt
      exact ⟨m, a, .inr ⟨us, hAnchor⟩, hAt⟩

/-- **What a batch hands over.**  However it ends, all frames it handed over
were read under one alignment. -/
theorem extractRgbaPlan_delivers (hIndex : IndexOf S index) {opens : Opener}
    (hOpens : OpensConforming S opens) {s : BatchState σ} (hStart : s.handed = []) :
    let post := fun s' : BatchState σ => ∃ m a,
      ((m = 0 ∧ a = 0) ∨ ∃ row us, (timeline S)[plan.firstFrame]? = some row ∧
        anchorSeek row.anchor = some (a, us)) ∧ AllDelivered S plan m a s'
    wp (extractRgbaPlan cancelled index plan visitor opens) (fun _ => post) (fun _ => post) s := by
  intro post
  have hNothing : ∀ s', Quiet s s' → post s' := by
    intro s' hQuiet
    refine ⟨0, 0, .inl ⟨rfl, rfl⟩, ?_⟩
    intro x hx
    rw [hQuiet.1, hStart] at hx
    cases hx
  unfold extractRgbaPlan
  rw [wp_bind, wp_ofExcept]
  refine ⟨?_, fun e _ => hNothing s (Quiet.refl s)⟩
  intro lastSelected _
  rw [wp_bind, wp_ofExcept]
  refine ⟨?_, fun e _ => hNothing s (Quiet.refl s)⟩
  intro firstEntry hEntry
  have hRow := requireEntry_ok hIndex hEntry
  rw [wp_bind, wp_adaptExcept]
  refine wp_mono (alignFirst_at hIndex hOpens) ?_ (fun e s' hQuiet => hNothing s' hQuiet)
  rintro aligned s₁ ⟨hQuiet, m, a, hAlignment, hAt⟩
  have hPost : ∀ s', AllDelivered S plan m a s' → post s' := by
    intro s' hDelivered
    refine ⟨m, a, ?_, hDelivered⟩
    rcases hAlignment with hSame | ⟨us, hAnchor⟩
    · exact .inl hSame
    · exact .inr ⟨firstEntry, us, hRow, hAnchor⟩
  have hFirst : ReadyBefore S plan m a plan.firstFrame := by
    intro i' hi' hPlanned
    have := (contains_first_le hPlanned).1
    omega
  have hEmpty : AllDelivered S plan m a s₁ := by
    intro x hx
    rw [hQuiet.1, hStart] at hx
    cases hx
  rw [wp_bind]
  refine wp_mono (extractOnward_rule (loop_delivers hIndex m a lastSelected) _
    ⟨hAt, hFirst, hEmpty⟩) ?_ (fun e s' hDelivered => hPost s' hDelivered)
  rintro n s₂ ⟨decoded, decoder, -, -, -, hDelivered⟩
  split
  · exact hPost s₂ hDelivered
  · exact hPost s₂ hDelivered

/-! ## Exactness -/

theorem IndexOf.validPlan (hIndex : IndexOf S index) {lastSelected : Nat}
    (h : validatePlan index plan = .ok lastSelected) : ValidPlan S.length plan lastSelected := by
  obtain ⟨status, frameCount, hStatus, hFrameCount, hValid⟩ := validatePlan_ok h
  rw [hIndex.status] at hStatus
  cases hStatus
  cases hFrameCount
  exact hValid

/-- Every frame handed over shows the pixels of its identity. -/
def RightFrames (S : List DecodedRgbaFrame) (s : BatchState σ) : Prop :=
  ∀ x ∈ s.handed, IsFrameAt S x.progress.frameId x.pixels

/-- Whatever the sessions, the flag and the visitor do, the plan hands over
right frames only, also when it fails. -/
def ExtractsRightly (S : List DecodedRgbaFrame) (index : FrameIndex)
    (plan : ExtractionPlan) : Prop :=
  ∀ (σ E : Type) (opens : Opener) (cancelled : Nat → Bool) (visitor : Visitor E σ) (v : σ),
    OpensConforming S opens →
    wp (extractRgbaPlan cancelled index plan visitor opens) (fun _ => RightFrames S)
      (fun _ => RightFrames S) (BatchState.start v)

omit [ContentHash] in
/-- What was delivered under an alignment is right unless it is a misreading. -/
theorem AllDelivered.right {m a : Nat} {s : BatchState σ} (h : AllDelivered S plan m a s)
    (hAlignment : (m = 0 ∧ a = 0) ∨ ∃ row us, (timeline S)[plan.firstFrame]? = some row ∧
      anchorSeek row.anchor = some (a, us))
    {x : ExtractedRgbaFrame} (hx : x ∈ s.handed) (hRead : ¬ MisreadAt S plan x.progress.frameId) :
    IsFrameAt S x.progress.frameId x.pixels := by
  rcases hAlignment with ⟨rfl, rfl⟩ | ⟨row, us, hRow, hAnchor⟩
  · have hPixels := (h x hx).pixels
    rwa [Nat.sub_zero, Nat.zero_add] at hPixels
  · by_contra hWrong
    exact hRead ⟨row, a, us, m, x.pixels, hRow, hAnchor, h x hx, hWrong⟩

/-- The visitor that takes every frame. -/
def takeAll : Visitor Unit Unit := fun _ => pure ()

/-- The visitor was given `pixels` for the identity `i`. -/
def WasHanded (i : Nat) (pixels : OwnedRgbaFrame) (s : BatchState σ) : Prop :=
  ∃ x ∈ s.handed, x.progress.frameId = i ∧ x.pixels = pixels

/-- A misreading is handed over when nothing stops the batch before it. -/
theorem misreading_handed (hIndex : IndexOf S index) {lastSelected : Nat}
    (hPlan : validatePlan index plan = .ok lastSelected) {row : FrameIndexEntry} {m a i : Nat}
    {us : Int} {pixels : OwnedRgbaFrame} (hRow : (timeline S)[plan.firstFrame]? = some row)
    (hAnchor : anchorSeek row.anchor = some (a, us)) (hDelivers : Delivers S plan m a i pixels) :
    wp (extractRgbaPlan neverCancelled index plan takeAll (landingAt S index m))
      (fun _ => WasHanded i pixels) (fun _ => WasHanded i pixels) (BatchState.start ()) := by
  obtain ⟨t, hKeyframe⟩ := anchorSeek_some hAnchor
  obtain ⟨ha, -⟩ := anchor_spec hIndex.shaped hRow hKeyframe
  have hAccepts : Accepts S plan takeAll i fun _ _ _ => True :=
    ⟨fun _ _ _ => trivial, fun _ _ _ _ _ => ⟨(), rfl, trivial⟩⟩
  refine extractRgbaPlan_faultless hIndex hPlan hRow hAnchor ha
    (contains_first_le hDelivers.planned).1
    ((IndexOf.validPlan hIndex hPlan).le_lastSelected hDelivers.planned)
    hDelivers.shifted hDelivers.ready hAccepts trivial ?_
  intro rounds n decoded decoder s hHere hn _
  refine extractOnward_hands hIndex hDelivers.shifted hHere hn hDelivers.planned hDelivers.pixels
    ?_ ?_ ?_
  · intro entry s' _ _
    have hGiven : ∀ s'' : BatchState Unit,
        s''.handed = s'.handed ++ [⟨⟨i, n + 1, plan.selectedCount⟩, entry, pixels⟩] →
        WasHanded i pixels s'' := by
      intro s'' hHanded
      exact ⟨_, hHanded ▸ List.mem_append_right _ (List.mem_singleton_self _), rfl, rfl⟩
    exact wp_mono runVisitor_handed (fun _ => hGiven) (fun _ => hGiven)
  · rintro frame s' ⟨x, hx, hIs⟩
    have hKept : ∀ s'' : BatchState Unit, s''.handed = s'.handed ++ [frame] →
        WasHanded i pixels s'' :=
      fun s'' hHanded => ⟨x, hHanded ▸ List.mem_append_left _ hx, hIs⟩
    exact wp_mono runVisitor_handed (fun _ => hKept) (fun _ => hKept)
  · rintro s' s'' ⟨x, hx, hIs⟩ hQuiet
    exact ⟨x, hQuiet.1 ▸ hx, hIs⟩

/-- **Extraction exports the right frames** exactly when no run of frames can
be taken for the planned ones. -/
theorem extraction_exact_iff (hIndex : IndexOf S index) {lastSelected : Nat}
    (hPlan : validatePlan index plan = .ok lastSelected) :
    ExtractsRightly S index plan ↔ ¬ Misreads S plan := by
  constructor
  · rintro hRight ⟨i, row, a, us, m, pixels, hRow, hAnchor, hDelivers, hWrong⟩
    have hLanding : m ≤ S.length := by
      obtain ⟨f, -, hFrame, -⟩ := hDelivers.shifted 0 (Nat.succ_pos _)
      exact Nat.le_of_lt (List.getElem?_eq_some_iff.1 hFrame).1
    have hRun := hRight Unit Unit (landingAt S index m) neverCancelled takeAll ()
      (landingAt_conforming hLanding)
    have hAll := (wp_iff_ends (P := fun _ => RightFrames S)).1 hRun
    obtain ⟨x, hx, hId, hPixels⟩ := (wp_iff_ends (P := fun _ => WasHanded i pixels)).1
      (misreading_handed hIndex hPlan hRow hAnchor hDelivers)
    apply hWrong
    rw [← hId, ← hPixels]
    exact hAll x hx
  · intro hNone σ E opens cancelled visitor v hOpens
    have hDelivered : ∀ s : BatchState σ, (∃ m a, ((m = 0 ∧ a = 0) ∨ ∃ row us,
        (timeline S)[plan.firstFrame]? = some row ∧ anchorSeek row.anchor = some (a, us)) ∧
        AllDelivered S plan m a s) → RightFrames S s := by
      rintro s ⟨m, a, hAlignment, hAll⟩ x hx
      exact hAll.right hAlignment hx fun hMisread => hNone ⟨_, hMisread⟩
    exact wp_mono (extractRgbaPlan_delivers hIndex hOpens rfl) (fun _ => hDelivered)
      (fun _ => hDelivered)

end Spec

section Samples

local instance : ContentHash := constantHash

/-- The second frame alone. -/
def secondFrameOnly : ExtractionPlan := ⟨1, 1, .one, 1⟩

theorem extraction_exact_iff_sample :
    IndexOf sampleSequence sampleIndex ∧
      validatePlan sampleIndex secondFrameOnly = .ok 1 ∧
      (ExtractsRightly sampleSequence sampleIndex secondFrameOnly ↔
        ¬ Misreads sampleSequence secondFrameOnly) :=
  ⟨sampleIndex_indexOf, rfl, extraction_exact_iff sampleIndex_indexOf rfl⟩

/-- Two clean keyframes with one timestamp and different pixels. -/
def repeatedSequence : List DecodedRgbaFrame := [sampleFrame 0 10, sampleFrame 0 20]

def repeatedIndex : FrameIndex :=
  toIndex sampleSource sampleStream (completeState repeatedSequence)

theorem repeatedTimeline_shaped : Shaped sampleStream (timeline repeatedSequence) where
  numbered := entriesFrom_numbered 0 .streamStart (framesOf repeatedSequence)
  valid := by
    intro e he
    change e ∈ [_, _] at he
    simp only [List.mem_cons, List.not_mem_nil, or_false] at he
    rcases he with rfl | rfl
    · rfl
    · rfl
  bounded := by decide

/-- A seek that lands at the first of the two exports its pixels as frame 1. -/
theorem repeated_timestamp_misread :
    IndexOf repeatedSequence repeatedIndex ∧
      validatePlan repeatedIndex secondFrameOnly = .ok 1 ∧
      OpensConforming repeatedSequence (landingAt repeatedSequence repeatedIndex 0) ∧
      (∃ report s x, extractRgbaPlan neverCancelled repeatedIndex secondFrameOnly takeAll
          (landingAt repeatedSequence repeatedIndex 0) (BatchState.start ()) = .ok report s ∧
        s.handed = [x] ∧ x.progress.frameId = 1 ∧ x.pixels.pixels = [10, 10, 10, 255] ∧
        ¬ IsFrameAt repeatedSequence 1 x.pixels) ∧
      ¬ ExtractsRightly repeatedSequence repeatedIndex secondFrameOnly := by
  have hConforming : OpensConforming repeatedSequence (landingAt repeatedSequence repeatedIndex 0) :=
    landingAt_conforming (Nat.zero_le _)
  have hRun : ∃ report s x, extractRgbaPlan neverCancelled repeatedIndex secondFrameOnly takeAll
      (landingAt repeatedSequence repeatedIndex 0) (BatchState.start ()) = .ok report s ∧
      s.handed = [x] ∧ x.progress.frameId = 1 ∧ x.pixels.pixels = [10, 10, 10, 255] :=
    ⟨_, _, _, rfl, rfl, rfl, rfl⟩
  have hWrong : ∀ pixels : OwnedRgbaFrame, pixels.pixels = [10, 10, 10, 255] →
      ¬ IsFrameAt repeatedSequence 1 pixels := by
    rintro pixels hPixels ⟨f, hFrame, hOwned⟩
    cases hFrame
    have hSame := (OwnedRgbaFrame.new_ok hOwned).2.2.2
    rw [hPixels] at hSame
    exact absurd hSame (by decide)
  obtain ⟨report, s, x, hResult, hHanded, hId, hPixels⟩ := hRun
  refine ⟨indexOf_toIndex repeatedTimeline_shaped, rfl, hConforming,
    ⟨report, s, x, hResult, hHanded, hId, hPixels, hWrong x.pixels hPixels⟩, ?_⟩
  intro hRight
  have hAll := wp_ok (hRight Unit Unit _ neverCancelled takeAll () hConforming) hResult
  have hShown := hAll x (hHanded ▸ List.mem_singleton_self x)
  rw [hId] at hShown
  exact hWrong x.pixels hPixels hShown

end Samples

end FrameScope.Ports.BatchExactness
