import FrameScope.Ports.GroupFaultless

/-!
# When a group export shows the right frames

A group export runs one batch over the frames from the first representative to
the last, so it inherits what that batch misreads.  Its labels are always those
of the groups; its pixels are those of the representatives exactly when none of
them can be misread.
-/

namespace FrameScope.Ports.GroupExactness

open FrameScope.Verified.Fallible
open FrameScope.Ports.Core
open FrameScope.Ports.Decoder
open FrameScope.Ports.FrameIndexModel
open FrameScope.Ports.SourceBinding
open FrameScope.Ports.FrameIndexStore
open FrameScope.Ports.FrameTimeline
open FrameScope.Ports.FrameIndexState
open FrameScope.Ports.IndexingCall
open FrameScope.Ports.IndexingRuns
open FrameScope.Ports.CompleteIndex
open FrameScope.Ports.FrameCache
open FrameScope.Ports.Extraction
open FrameScope.Ports.BatchExtraction
open FrameScope.Ports.BatchAlignment
open FrameScope.Ports.BatchFaultless
open FrameScope.Ports.BatchExactness
open FrameScope.Ports.ExtractionImage
open FrameScope.Ports.Manifest
open FrameScope.Ports.Export
open FrameScope.Ports.ExportLaw
open FrameScope.Ports.GroupNavigation
open FrameScope.Ports.GroupExport
open FrameScope.Ports.GroupExportLaw
open FrameScope.Ports.GroupFaultless

section Spec

variable [ContentHash] {S : List DecodedRgbaFrame} {index : FrameIndex}
  {groups : List FrameGroup}

/-- Whatever the sessions, the sink, the manifest's output and the flag do, an
export of `groups` commits and records the representatives of the groups, one
for each, as `GroupManifest` says. -/
def ExportsExactly (S : List DecodedRgbaFrame) (index : FrameIndex)
    (groups : List FrameGroup) : Prop :=
  ∀ (E τ : Type) (format : ExtractionImageFormat) (sink : FrameOutputSink E τ) (device : Device)
    (cancelled : Nat → Bool) (opens : Opener) (output : Output) (t : τ),
    OpensConforming S opens →
    let run := exportGroupRepresentatives format sink device cancelled index (navigatorOf groups)
      opens (ExportState.start output t)
    GroupManifest groups (IsFrameAt S) output.accepted (outcome run) (finalState run)

/-- Some group's representative can be read wrongly. -/
def MisreadsRepresentative (S : List DecodedRgbaFrame) (groups : List FrameGroup) : Prop :=
  ∃ g ∈ groups, MisreadAt S (representativePlan groups) g.representativeFrame

/-- What the batch hands over is right or was misread. -/
theorem handsGood_or_misread (hIndex : IndexOf S index) {opens : Opener}
    (hOpens : OpensConforming S opens) {E σ : Type} {visitor : Visitor E σ}
    {cancelled : Nat → Bool} (v : σ) :
    wp (extractRgbaPlan cancelled index (representativePlan groups) visitor opens)
      (fun _ => HandsGood fun i px => MisreadAt S (representativePlan groups) i ∨ IsFrameAt S i px)
      (fun _ => HandsGood fun i px => MisreadAt S (representativePlan groups) i ∨ IsFrameAt S i px)
      (BatchState.start v) := by
  have hDelivered : ∀ s : BatchState σ, (∃ m a, ((m = 0 ∧ a = 0) ∨ ∃ row us,
      (timeline S)[(representativePlan groups).firstFrame]? = some row ∧
      anchorSeek row.anchor = some (a, us)) ∧ AllDelivered S (representativePlan groups) m a s) →
      HandsGood (fun i px => MisreadAt S (representativePlan groups) i ∨ IsFrameAt S i px) s := by
    rintro s ⟨m, a, hAlignment, hAll⟩ x hx
    by_cases hMisread : MisreadAt S (representativePlan groups) x.progress.frameId
    · exact .inl hMisread
    · exact .inr (hAll.right hAlignment hx hMisread)
  exact wp_mono (extractRgbaPlan_delivers hIndex hOpens rfl) (fun _ => hDelivered)
    (fun _ => hDelivered)

/-- **A group export is exact** exactly when no representative can be misread. -/
theorem group_export_exact_iff (hIndex : IndexOf S index)
    (hGroups : Partitions S.length groups) :
    ExportsExactly S index groups ↔ ¬ MisreadsRepresentative S groups := by
  constructor
  · rintro hExact ⟨g, hMem, row, a, us, m, pixels, hRow, hAnchor, hDelivers, hWrong⟩
    obtain ⟨i, hg⟩ := List.getElem?_of_mem hMem
    have hLanding : m ≤ S.length := by
      obtain ⟨f, -, hFrame, -⟩ := hDelivers.shifted 0 (Nat.succ_pos _)
      exact Nat.le_of_lt (List.getElem?_eq_some_iff.1 hFrame).1
    have hGood := (hExact Unit Unit .png acceptingSink openDevice neverCancelled
      (landingAt S index m) ⟨[], 0⟩ () (landingAt_conforming hLanding)).committed
    -- The landing that misreads the representative commits its pixels.
    obtain ⟨commit, hCommit, hId, hPixels⟩ :=
      (wp_iff_ends (P := fun _ (s : ExportState Unit) =>
          Committed g.representativeFrame pixels s.commits)).1
        (misread_exported hIndex hGroups hg hRow hAnchor hDelivers
          (ExportState.start ⟨[], 0⟩ ()))
    obtain ⟨j, hj⟩ := List.getElem?_of_mem hCommit
    obtain ⟨g', -, hProgress, hShown⟩ := hGood j commit hj
    rw [hProgress] at hId
    change g'.representativeFrame = g.representativeFrame at hId
    rw [hId, hPixels] at hShown
    exact hWrong hShown
  · intro hNone E τ format sink device cancelled opens output t hOpens run
    have hLeaves : LeavesManifest groups
        (fun i px => MisreadAt S (representativePlan groups) i ∨ IsFrameAt S i px) output.accepted
        (exportGroupRepresentatives format sink device cancelled index (navigatorOf groups) opens)
        (ExportState.start output t) :=
      exportGroupRepresentatives_manifest rfl (handsGood_or_misread hIndex hOpens)
    have hEnd := (wp_iff_ends (P := GroupManifest groups _ output.accepted)).1 hLeaves
    refine ⟨?_, hEnd.complete⟩
    intro j commit hj
    obtain ⟨g, hg, hProgress, hShown⟩ := hEnd.committed j commit hj
    refine ⟨g, hg, hProgress, hShown.resolve_left ?_⟩
    intro hMisread
    exact hNone ⟨g, List.mem_of_getElem? hg, hMisread⟩

end Spec

/-! ## Two frames with one timestamp -/

section Samples

local instance : ContentHash := constantHash

/-- The group of both frames of a sequence of two, represented by frame `r`. -/
def pairGroup (r : Nat) : FrameGroup where
  representativeFrame := r
  firstFrame := 0
  lastFrame := 1
  frameCount := 2
  startTimestamp := ⟨0, sampleTimeBase⟩
  endTimestamp := ⟨0, sampleTimeBase⟩
  startDuration := none
  endDuration := none
  representativeSimilarityFloor := 0

theorem pairGroup_partitions : Partitions 2 [pairGroup 1] where
  valid := by
    intro g hg
    rw [List.mem_singleton] at hg
    subst hg
    refine ⟨by decide, by decide, rfl, by decide, ?_, ?_⟩
    · intro d hDuration
      cases hDuration
    · intro d hDuration
      cases hDuration
  tiles := ⟨rfl, by decide, rfl⟩

theorem group_export_exact_iff_sample :
    IndexOf sampleSequence sampleIndex ∧ Partitions 2 [pairGroup 1] ∧
      (ExportsExactly sampleSequence sampleIndex [pairGroup 1] ↔
        ¬ MisreadsRepresentative sampleSequence [pairGroup 1]) :=
  ⟨sampleIndex_indexOf, pairGroup_partitions,
    group_export_exact_iff sampleIndex_indexOf pairGroup_partitions⟩

/-- The two frames are one group with frame 1 as its representative.  A seek
that lands at the first of them exports its pixels as frame 1. -/
theorem repeated_timestamp_group_misread :
    let run := exportGroupRepresentatives .png acceptingSink openDevice neverCancelled
      repeatedIndex (navigatorOf [pairGroup 1]) (landingAt repeatedSequence repeatedIndex 0)
      (ExportState.start ⟨[], 0⟩ ())
    IndexOf repeatedSequence repeatedIndex ∧ Partitions 2 [pairGroup 1] ∧
      OpensConforming repeatedSequence (landingAt repeatedSequence repeatedIndex 0) ∧
      (∃ report, outcome run = .ok report) ∧
      (finalState run).commits.map (fun c => (c.output.progress.frameId, c.output.pixels.pixels)) =
        [(1, [10, 10, 10, 255])] ∧
      ¬ ExportsExactly repeatedSequence repeatedIndex [pairGroup 1] := by
  intro run
  have hConforming : OpensConforming repeatedSequence
      (landingAt repeatedSequence repeatedIndex 0) := landingAt_conforming (Nat.zero_le _)
  have hCommits : (finalState (exportGroupRepresentatives .png acceptingSink openDevice
      neverCancelled repeatedIndex (navigatorOf [pairGroup 1])
      (landingAt repeatedSequence repeatedIndex 0) (ExportState.start ⟨[], 0⟩ ()))).commits.map
      (fun c => (c.output.progress.frameId, c.output.pixels.pixels)) =
      [(1, [10, 10, 10, 255])] := by
    decide
  have hOk : (outcome (exportGroupRepresentatives .png acceptingSink openDevice
      neverCancelled repeatedIndex (navigatorOf [pairGroup 1])
      (landingAt repeatedSequence repeatedIndex 0) (ExportState.start ⟨[], 0⟩ ()))).isOk = true := by
    decide
  refine ⟨indexOf_toIndex repeatedTimeline_shaped, pairGroup_partitions, hConforming,
    ?_, hCommits, ?_⟩
  · generalize outcome _ = result at hOk
    cases result with
    | ok report => exact ⟨report, rfl⟩
    | error e => cases hOk
  · intro hExact
    have hGood := (hExact Unit Unit .png acceptingSink openDevice neverCancelled _ ⟨[], 0⟩ ()
      hConforming).committed
    obtain ⟨commit, hCommit, hIs⟩ := List.mem_map.1 (hCommits ▸ List.mem_singleton_self _)
    rw [Prod.mk.injEq] at hIs
    obtain ⟨j, hj⟩ := List.getElem?_of_mem hCommit
    obtain ⟨g, -, hProgress, f, hFrame, hOwned⟩ := hGood j commit hj
    have hOne : g.representativeFrame = 1 := by
      rw [← hIs.1, hProgress]
      rfl
    rw [hOne] at hFrame
    cases hFrame
    have hSame := (OwnedRgbaFrame.new_ok hOwned).2.2.2
    rw [hIs.2] at hSame
    exact absurd hSame (by decide)

end Samples

end FrameScope.Ports.GroupExactness
