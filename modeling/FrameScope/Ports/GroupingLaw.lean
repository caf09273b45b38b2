import FrameScope.Verified.Segmentation
import FrameScope.Verified.Tiling
import FrameScope.Ports.Grouping

/-!
# What the groups of a stream are

Both groupers cut a stream greedily.  `PushRules` says what one push does in
terms of the engine's verdicts, and each grouper obeys it; the hybrid grouper's
short circuit is not visible there, since a pair of frames of one size always
has a verdict.  The law of whole streams follows from `PushRules` alone.

The invariant of a run of pushes (`Tracks`) is the greedy segmentation of what
has been pushed: its last run is the open group, the runs before it are the
groups already handed out.
-/

namespace FrameScope.Ports.GroupingLaw

open FrameScope.Verified.Segmentation
open FrameScope.Verified.Tiling
open FrameScope.Ports.Core
open FrameScope.Ports.FrameIndexModel
open FrameScope.Ports.FrameCache
open FrameScope.Ports.GroupNavigation (FrameGroup)
open FrameScope.Ports.Similarity
open FrameScope.Ports.Perceptual
open FrameScope.Ports.Grouping

/-! ## Streams and their groups -/

/-- Timestamped frames of one size whose ids follow each other from `start`.
Ids are `u64` and dimensions `u32`. -/
structure ContiguousStream (start : Nat) (frames : List StreamFrame) : Prop where
  ids : ∀ (i : Nat) (f : StreamFrame), frames[i]? = some f → f.entry.frameId = start + i
  ids_lt : start + frames.length ≤ 2 ^ 64
  timestamped : ∀ f ∈ frames, f.entry.presentationTimestamp.isSome
  oneSize : ∀ f ∈ frames, ∀ g ∈ frames, SameSize f.pixels g.pixels

section Laws

variable {δ : Type} (verdict : OwnedRgbaFrame → OwnedRgbaFrame → Except δ (Option Nat))

/-- The similarity test accepts `b` against `a`. -/
def Accepts (a b : StreamFrame) : Prop := ∃ score, verdict a.pixels b.pixels = .ok (some score)

/-- The similarity test turns `b` away when compared with `a`. -/
def Rejects (a b : StreamFrame) : Prop := verdict a.pixels b.pixels = .ok none

/-- The scores of the members against the representative, itself included. -/
def representativeScores (r : Run StreamFrame) : Set Nat :=
  { score | ∃ m ∈ r.members, verdict r.first.pixels m.pixels = .ok (some score) }

/-- `g` records the run `r`. -/
structure Describes (r : Run StreamFrame) (g : FrameGroup) : Prop where
  representative : g.representativeFrame = r.first.entry.frameId
  first : g.firstFrame = r.first.entry.frameId
  last : g.lastFrame = r.last.entry.frameId
  count : g.frameCount = r.members.length % 2 ^ 64
  startTimestamp : r.first.entry.presentationTimestamp = some g.startTimestamp
  endTimestamp : r.last.entry.presentationTimestamp = some g.endTimestamp
  startDuration : g.startDuration = r.first.entry.duration
  endDuration : g.endDuration = r.last.entry.duration
  floor : IsLeast (representativeScores verdict r) g.representativeSimilarityFloor
  floor_single : r.rest = [] → g.representativeSimilarityFloor = similarityScale

/-- The groups are the greedy segmentation of the stream, and their spans tile
its frame ids. -/
structure GroupsOf (start : Nat) (frames : List StreamFrame) (groups : List FrameGroup) :
    Prop where
  segments : ∃ runs, Segments (Accepts verdict) (Rejects verdict) frames runs ∧
    List.Forall₂ (Describes verdict) runs groups
  tiles : TilesFrom (·.firstFrame) (·.lastFrame) start (start + frames.length) groups

/-- What one push of a grouper does.  `state` is the grouper with a given open
group. -/
structure PushRules {G ε : Type}
    (push : G → FrameIndexEntry → OwnedRgbaFrame → Except ε (G × Option FrameGroup))
    (state : Option ActiveGroup → G) : Prop where
  opens : ∀ entry timestamp pixels, entry.presentationTimestamp = some timestamp →
    push (state none) entry pixels =
      .ok (state (some (activeGroup entry timestamp pixels)), none)
  joins : ∀ active entry timestamp pixels previous score,
    entry.presentationTimestamp = some timestamp →
    checkedAddU64 active.metadata.lastFrame 1 = some entry.frameId →
    verdict active.previous pixels = .ok (some previous) →
    verdict active.representative pixels = .ok (some score) →
    push (state (some active)) entry pixels =
      .ok (state (some (active.joined entry timestamp pixels score)), none)
  cuts : ∀ active entry timestamp pixels previous representative,
    entry.presentationTimestamp = some timestamp →
    checkedAddU64 active.metadata.lastFrame 1 = some entry.frameId →
    verdict active.previous pixels = .ok previous →
    verdict active.representative pixels = .ok representative →
    previous = none ∨ representative = none →
    push (state (some active)) entry pixels =
      .ok (state (some (activeGroup entry timestamp pixels)), some active.metadata)

end Laws

/-! ## The two groupers -/

/-- A verdict is a comparison whose score was held against the threshold. -/
theorem SimilarityEngine.verdict_ok {engine : SimilarityEngine} {left right : OwnedRgbaFrame}
    {answer : Option Nat} (h : engine.verdict left right = .ok answer) :
    ∃ score, engine.compare left right = .ok score ∧
      answer = if engine.accepts score then some score.basisPoints else none := by
  unfold SimilarityEngine.verdict at h
  obtain ⟨score, hScore, hAnswer⟩ := bind_eq_ok.1 h
  cases hAnswer
  exact ⟨score, hScore, rfl⟩

theorem frameGrouper_rules (engine : SimilarityEngine) :
    PushRules engine.verdict FrameGrouper.push (FrameGrouper.mk engine) := by
  constructor
  · intro entry timestamp pixels hTimestamp
    unfold FrameGrouper.push
    rw [okOr_eq_ok.2 hTimestamp]
    rfl
  · intro active entry timestamp pixels previous score hTimestamp hNext hPrevious hScore
    obtain ⟨previousScore, hCompare, hAccept⟩ := SimilarityEngine.verdict_ok hPrevious
    obtain ⟨score', hCompare', hAccept'⟩ := SimilarityEngine.verdict_ok hScore
    unfold FrameGrouper.push
    rw [okOr_eq_ok.2 hTimestamp]
    simp only [bind, Except.bind]
    rw [ensureContiguous_ok hNext, hCompare, hCompare']
    simp only
    split_ifs at hAccept with hOk
    split_ifs at hAccept' with hOk'
    cases hAccept'
    rw [hOk, hOk']
    rfl
  · intro active entry timestamp pixels previous representative hTimestamp hNext hPrevious
      hRepresentative hNone
    obtain ⟨score, hCompare, rfl⟩ := SimilarityEngine.verdict_ok hPrevious
    obtain ⟨score', hCompare', rfl⟩ := SimilarityEngine.verdict_ok hRepresentative
    have hNot : (engine.accepts score && engine.accepts score') = false := by
      rw [Bool.and_eq_false_iff]
      simpa using hNone
    unfold FrameGrouper.push
    rw [okOr_eq_ok.2 hTimestamp]
    simp only [bind, Except.bind]
    rw [ensureContiguous_ok hNext, hCompare, hCompare']
    simp only
    rw [hNot]
    rfl

theorem hybridVerdict_ok {engine : HybridSimilarityEngine} {left right : OwnedRgbaFrame}
    {answer : Option Nat} (h : hybridVerdict engine left right = .ok answer) :
    ∃ decision, engine.compare left right = .ok decision ∧
      answer = (acceptedConfirmation decision).map (·.basisPoints) := by
  unfold hybridVerdict at h
  obtain ⟨decision, hDecision, hAnswer⟩ := bind_eq_ok.1 h
  cases hAnswer
  exact ⟨decision, hDecision, rfl⟩

theorem hybridFrameGrouper_rules (engine : HybridSimilarityEngine) :
    PushRules (hybridVerdict engine) HybridFrameGrouper.push (HybridFrameGrouper.mk engine) := by
  constructor
  · intro entry timestamp pixels hTimestamp
    unfold HybridFrameGrouper.push
    rw [okOr_eq_ok.2 hTimestamp]
    rfl
  · intro active entry timestamp pixels previous score hTimestamp hNext hPrevious hScore
    obtain ⟨decision, hCompare, hAccept⟩ := hybridVerdict_ok hPrevious
    obtain ⟨decision', hCompare', hAccept'⟩ := hybridVerdict_ok hScore
    obtain ⟨confirmation, hSome, -⟩ := Option.map_eq_some_iff.1 hAccept.symm
    obtain ⟨confirmation', hSome', rfl⟩ := Option.map_eq_some_iff.1 hAccept'.symm
    unfold HybridFrameGrouper.push
    rw [okOr_eq_ok.2 hTimestamp]
    simp only [bind, Except.bind]
    rw [ensureContiguous_ok hNext, hCompare]
    simp only [Except.mapError]
    rw [hSome, hCompare']
    simp only
    rw [hSome']
  · intro active entry timestamp pixels previous representative hTimestamp hNext hPrevious
      hRepresentative hNone
    obtain ⟨decision, hCompare, rfl⟩ := hybridVerdict_ok hPrevious
    obtain ⟨decision', hCompare', rfl⟩ := hybridVerdict_ok hRepresentative
    rw [Option.map_eq_none_iff, Option.map_eq_none_iff] at hNone
    unfold HybridFrameGrouper.push
    rw [okOr_eq_ok.2 hTimestamp]
    simp only [bind, Except.bind]
    rw [ensureContiguous_ok hNext, hCompare]
    simp only [Except.mapError]
    cases hDecision : acceptedConfirmation decision with
    | none => rfl
    | some confirmation =>
        -- The previous frame accepts, so the representative has to reject.
        have hDecision' : acceptedConfirmation decision' = none := by
          rcases hNone with hNone | hNone
          · rw [hDecision] at hNone
            cases hNone
          · exact hNone
        simp only
        rw [hCompare']
        simp only
        rw [hDecision']

/-- The hybrid engine has a verdict on every pair of frames of one size. -/
theorem hybridVerdict_total {left right : OwnedRgbaFrame} (engine : HybridSimilarityEngine)
    (h : SameSize left right) : ∃ answer, hybridVerdict engine left right = .ok answer := by
  obtain ⟨decision, hDecision⟩ := engine.compare_total h
  unfold hybridVerdict
  rw [hDecision]
  exact ⟨_, rfl⟩

theorem hybridVerdict_self {f : OwnedRgbaFrame} {policy : HybridSimilarityPolicy}
    {engine : HybridSimilarityEngine} (h : HybridSimilarityEngine.new policy = .ok engine)
    (hWidth : f.width < 2 ^ 32) : hybridVerdict engine f f = .ok (some similarityScale) := by
  unfold hybridVerdict
  rw [HybridSimilarityEngine.compare_self h hWidth]
  rfl

/-! ## Whole streams -/

section Streams

variable {G ε δ : Type}
  {push : G → FrameIndexEntry → OwnedRgbaFrame → Except ε (G × Option FrameGroup)}
  {state : Option ActiveGroup → G}
  {verdict : OwnedRgbaFrame → OwnedRgbaFrame → Except δ (Option Nat)}
  {start : Nat} {frames pushed : List StreamFrame} {frame : StreamFrame}
  {runs : List (Run StreamFrame)} {r : Run StreamFrame} {groups : List FrameGroup}
  {g : FrameGroup} {active : ActiveGroup} {timestamp : MediaTimestamp} {score : Nat}

/-- A group of one frame. -/
theorem describes_single (hTimestamp : frame.entry.presentationTimestamp = some timestamp)
    (hSelf : verdict frame.pixels frame.pixels = .ok (some similarityScale)) :
    Describes verdict (Run.single frame)
      (activeGroup frame.entry timestamp frame.pixels).metadata where
  representative := rfl
  first := rfl
  last := rfl
  count := rfl
  startTimestamp := hTimestamp
  endTimestamp := hTimestamp
  startDuration := rfl
  endDuration := rfl
  floor := by
    constructor
    · exact ⟨frame, by simp, hSelf⟩
    · intro score hScore
      obtain ⟨m, hm, hVerdict⟩ := hScore
      rw [Run.members_single, List.mem_singleton] at hm
      subst hm
      rw [Run.first_single, hSelf] at hVerdict
      cases hVerdict
      exact le_refl _
  floor_single := fun _ => rfl

/-- A group that another frame joins. -/
theorem Describes.joined (h : Describes verdict r active.metadata)
    (hTimestamp : frame.entry.presentationTimestamp = some timestamp)
    (hScore : verdict r.first.pixels frame.pixels = .ok (some score)) :
    Describes verdict (r.extend frame)
      (active.joined frame.entry timestamp frame.pixels score).metadata where
  representative := h.representative
  first := h.first
  last := by simp [ActiveGroup.joined]
  count := by
    show (active.metadata.frameCount + 1) % 2 ^ 64 = (r.members ++ [frame]).length % 2 ^ 64
    rw [h.count, List.length_append, List.length_singleton, Nat.mod_add_mod]
  startTimestamp := h.startTimestamp
  endTimestamp := by
    rw [Run.last_extend]
    exact hTimestamp
  startDuration := h.startDuration
  endDuration := by simp [ActiveGroup.joined]
  floor := by
    -- The scores are the old ones and the score of the new member.
    have hScores : representativeScores verdict (r.extend frame) =
        insert score (representativeScores verdict r) := by
      ext s
      simp only [representativeScores, Run.members_extend, Run.first_extend, List.mem_append,
        List.mem_singleton, Set.mem_ofPred_eq, Set.mem_insert_iff]
      constructor
      · rintro ⟨m, hm | rfl, hs⟩
        · exact Or.inr ⟨m, hm, hs⟩
        · rw [hScore] at hs
          cases hs
          exact Or.inl rfl
      · rintro (rfl | ⟨m, hm, hs⟩)
        · exact ⟨frame, Or.inr rfl, hScore⟩
        · exact ⟨m, Or.inl hm, hs⟩
    rw [hScores]
    show IsLeast _ (min active.metadata.representativeSimilarityFloor score)
    rw [min_comm]
    exact h.floor.insert score
  floor_single := by
    intro hRest
    simp [Run.extend] at hRest

/-- What the pushes so far have made of the frames `pushed`. -/
structure Tracks (verdict : OwnedRgbaFrame → OwnedRgbaFrame → Except δ (Option Nat))
    (pushed : List StreamFrame) (runs : List (Run StreamFrame)) (r : Run StreamFrame)
    (groups : List FrameGroup) (active : ActiveGroup) : Prop where
  segments : Segments (Accepts verdict) (Rejects verdict) pushed (runs ++ [r])
  groups : List.Forall₂ (Describes verdict) runs groups
  opened : Describes verdict r active.metadata
  representative : active.representative = r.first.pixels
  previous : active.previous = r.last.pixels

/-- The first frame of a stream opens a group. -/
theorem tracks_single (hTimestamp : frame.entry.presentationTimestamp = some timestamp)
    (hSelf : verdict frame.pixels frame.pixels = .ok (some similarityScale)) :
    Tracks verdict [frame] [] (Run.single frame) []
      (activeGroup frame.entry timestamp frame.pixels) where
  segments := Segments.single frame
  groups := List.Forall₂.nil
  opened := describes_single hTimestamp hSelf
  representative := rfl
  previous := rfl

/-- The frame after the open group is judged by two verdicts, and the push does
what they say. -/
theorem Tracks.push_next (rules : PushRules verdict push state)
    (h : Tracks verdict pushed runs r groups active)
    (hNext : checkedAddU64 active.metadata.lastFrame 1 = some frame.entry.frameId)
    (hTimestamp : frame.entry.presentationTimestamp = some timestamp)
    (hSelf : verdict frame.pixels frame.pixels = .ok (some similarityScale))
    (hTotal : ∀ f ∈ r.members, ∃ answer, verdict f.pixels frame.pixels = .ok answer) :
    ∃ active' emitted runs' r',
      push (state (some active)) frame.entry frame.pixels = .ok (state (some active'), emitted) ∧
      Tracks verdict (pushed ++ [frame]) runs' r' (groups ++ emitted.toList) active' ∧
      active'.metadata.lastFrame = frame.entry.frameId := by
  obtain ⟨previous, hPrevious⟩ := hTotal r.last (List.mem_of_getLast? r.members_getLast?)
  obtain ⟨representative, hRepresentative⟩ := hTotal r.first (by simp [Run.members])
  rw [← h.previous] at hPrevious
  rw [← h.representative] at hRepresentative
  by_cases hBoth : previous.isSome ∧ representative.isSome
  · -- Both tests accept: the frame joins.
    obtain ⟨previousScore, hPreviousSome⟩ := Option.isSome_iff_exists.1 hBoth.1
    obtain ⟨score, hSome⟩ := Option.isSome_iff_exists.1 hBoth.2
    subst hPreviousSome hSome
    refine ⟨_, none, runs, r.extend frame,
      rules.joins active frame.entry timestamp frame.pixels previousScore score hTimestamp hNext
        hPrevious hRepresentative, ?_, rfl⟩
    rw [h.previous] at hPrevious
    rw [h.representative] at hRepresentative
    exact
      { segments := h.segments.join ⟨previousScore, hPrevious⟩ ⟨score, hRepresentative⟩
        groups := by simpa using h.groups
        opened := h.opened.joined hTimestamp hRepresentative
        representative := h.representative
        previous := by simp [ActiveGroup.joined] }
  · -- One of them rejects: the open group is handed out.
    have hNone : previous = none ∨ representative = none := by
      rcases previous with - | previous
      · exact Or.inl rfl
      · rcases representative with - | representative
        · exact Or.inr rfl
        · exact absurd ⟨rfl, rfl⟩ hBoth
    refine ⟨_, some active.metadata, runs ++ [r], Run.single frame,
      rules.cuts active frame.entry timestamp frame.pixels previous representative hTimestamp
        hNext hPrevious hRepresentative hNone, ?_, rfl⟩
    rw [h.previous] at hPrevious
    rw [h.representative] at hRepresentative
    exact
      { segments := by
          apply h.segments.open_next
          rcases hNone with rfl | rfl
          · exact Or.inl hPrevious
          · exact Or.inr hRepresentative
        groups := List.rel_append h.groups (List.Forall₂.cons h.opened List.Forall₂.nil)
        opened := describes_single hTimestamp hSelf
        representative := rfl
        previous := rfl }

/-- Every later push answers too, and keeps the segmentation. -/
theorem Tracks.pushFrames (rules : PushRules verdict push state)
    (hTotal : ∀ f ∈ frames, ∀ g ∈ frames, ∃ answer, verdict f.pixels g.pixels = .ok answer)
    (hSelf : ∀ f ∈ frames, verdict f.pixels f.pixels = .ok (some similarityScale))
    (hStream : ContiguousStream start frames) {rest : List StreamFrame}
    (hSplit : pushed ++ rest = frames) (h : Tracks verdict pushed runs r groups active)
    (hLast : active.metadata.lastFrame + 1 = start + pushed.length) :
    ∃ active' emitted runs' r',
      pushFrames push (state (some active)) rest = .ok (state (some active'), emitted) ∧
      Tracks verdict frames runs' r' (groups ++ emitted) active' := by
  induction rest generalizing pushed runs r groups active with
  | nil =>
      rw [List.append_nil] at hSplit
      subst hSplit
      exact ⟨active, [], runs, r, rfl, by simpa using h⟩
  | cons frame rest ih =>
      have hMem : frame ∈ frames := by
        rw [← hSplit]
        simp
      have hAt : frames[pushed.length]? = some frame := by
        rw [← hSplit]
        simp
      have hId := hStream.ids _ _ hAt
      have hRoom : pushed.length < frames.length := (List.getElem?_eq_some_iff.1 hAt).1
      have hNext : checkedAddU64 active.metadata.lastFrame 1 = some frame.entry.frameId := by
        rw [checkedAddU64_eq_some]
        have := hStream.ids_lt
        omega
      obtain ⟨timestamp, hTimestamp⟩ := Option.isSome_iff_exists.1 (hStream.timestamped _ hMem)
      have hMembers : ∀ f ∈ r.members, f ∈ frames := by
        intro f hf
        rw [← hSplit, ← h.segments.flatten]
        simp [hf]
      obtain ⟨active', emitted, runs', r', hPush, hTracks, hLast'⟩ :=
        h.push_next rules hNext hTimestamp (hSelf _ hMem)
          (fun f hf => hTotal f (hMembers f hf) _ hMem)
      have hSplit' : (pushed ++ [frame]) ++ rest = frames := by simpa using hSplit
      have hCount : active'.metadata.lastFrame + 1 = start + (pushed ++ [frame]).length := by
        rw [hLast', hId, List.length_append, List.length_singleton]
        omega
      obtain ⟨active'', emitted', runs'', r'', hRest, hTracks'⟩ := ih hSplit' hTracks hCount
      refine ⟨active'', emitted.toList ++ emitted', runs'', r'', ?_, by simpa using hTracks'⟩
      unfold Grouping.pushFrames
      exact bind_eq_ok.2 ⟨_, hPush, bind_eq_ok.2 ⟨_, hRest, rfl⟩⟩

/-- The spans of the groups follow the frame ids of the stream. -/
theorem tiles_of_describes (hGroups : List.Forall₂ (Describes verdict) runs groups)
    (hIds : ∀ (i : Nat) (f : StreamFrame), (runs.flatMap Run.members)[i]? = some f →
      f.entry.frameId = start + i) :
    TilesFrom (·.firstFrame) (·.lastFrame) start
      (start + (runs.flatMap Run.members).length) groups := by
  induction hGroups generalizing start with
  | nil => exact rfl
  | @cons r g runs groups hg hRest ih =>
      rw [List.flatMap_cons] at hIds ⊢
      have hFirst : r.first.entry.frameId = start := hIds 0 r.first rfl
      have hLast : r.last.entry.frameId = start + (r.members.length - 1) := by
        apply hIds
        rw [List.getElem?_append_left (by simp [Run.members]), ← List.getLast?_eq_getElem?,
          r.members_getLast?]
      have hLength : 1 ≤ r.members.length := by simp [Run.members]
      have hShift : ∀ (i : Nat) (f : StreamFrame), (runs.flatMap Run.members)[i]? = some f →
          f.entry.frameId = (g.lastFrame + 1) + i := by
        intro i f hf
        have hAt := hIds (r.members.length + i) f (by
          rw [List.getElem?_append_right (by omega), Nat.add_sub_cancel_left]
          exact hf)
        rw [hAt, hg.last, hLast]
        omega
      have hStop : g.lastFrame + 1 + (runs.flatMap Run.members).length =
          start + (r.members ++ runs.flatMap Run.members).length := by
        rw [hg.last, hLast, List.length_append]
        omega
      show g.firstFrame = start ∧ start ≤ g.lastFrame ∧ TilesFrom _ _ (g.lastFrame + 1) _ groups
      refine ⟨by rw [hg.first, hFirst], by rw [hg.last, hLast]; omega, ?_⟩
      rw [← hStop]
      exact ih hShift

/-- A grouper that obeys the rules groups every contiguous stream. -/
theorem PushRules.groupFrames {finish : G → G × Option FrameGroup}
    (rules : PushRules verdict push state)
    (hFinish : ∀ active, (finish (state active)).2 = active.map (·.metadata))
    (hTotal : ∀ f ∈ frames, ∀ g ∈ frames, ∃ answer, verdict f.pixels g.pixels = .ok answer)
    (hSelf : ∀ f ∈ frames, verdict f.pixels f.pixels = .ok (some similarityScale))
    (hStream : ContiguousStream start frames) :
    ∃ groups, groupFrames push finish (state none) frames = .ok groups ∧
      GroupsOf verdict start frames groups := by
  cases frames with
  | nil =>
      refine ⟨[], ?_, ⟨[], Segments.nil, List.Forall₂.nil⟩, rfl⟩
      unfold Grouping.groupFrames
      refine bind_eq_ok.2 ⟨_, rfl, ?_⟩
      rw [hFinish]
      rfl
  | cons frame rest =>
      have hMem : frame ∈ frame :: rest := List.mem_cons_self ..
      obtain ⟨timestamp, hTimestamp⟩ := Option.isSome_iff_exists.1 (hStream.timestamped _ hMem)
      have hId : frame.entry.frameId = start := hStream.ids 0 frame rfl
      obtain ⟨active, emitted, runs, r, hRest, hTracks⟩ :=
        (tracks_single hTimestamp (hSelf _ hMem)).pushFrames rules hTotal hSelf hStream
          (show [frame] ++ rest = frame :: rest from rfl) (by
            show frame.entry.frameId + 1 = start + 1
            rw [hId])
      rw [List.nil_append] at hTracks
      have hAll : List.Forall₂ (Describes verdict) (runs ++ [r]) (emitted ++ [active.metadata]) :=
        List.rel_append hTracks.groups (List.Forall₂.cons hTracks.opened List.Forall₂.nil)
      refine ⟨emitted ++ [active.metadata], ?_, ⟨_, hTracks.segments, hAll⟩, ?_⟩
      · have hPushed : Grouping.pushFrames push (state none) (frame :: rest) =
            .ok (state (some active), emitted) := by
          unfold Grouping.pushFrames
          rw [rules.opens _ _ _ hTimestamp]
          exact bind_eq_ok.2 ⟨_, rfl, bind_eq_ok.2 ⟨_, hRest, rfl⟩⟩
        unfold Grouping.groupFrames
        rw [hPushed]
        show Except.ok (emitted ++ (finish (state (some active))).2.toList) = _
        rw [hFinish]
        rfl
      · have hIds := hStream.ids
        rw [← hTracks.segments.flatten] at hIds ⊢
        exact tiles_of_describes hAll hIds

end Streams

/-- **Grouping is a faithful greedy partition.**  On every contiguous stream both
groupers answer every push, and the groups they hand out are the segmentation of
the stream by the engine's verdicts, each with the floor of its scores. -/
theorem groupers_partition {start : Nat} {frames : List StreamFrame}
    (hStream : ContiguousStream start frames) :
    (∀ mode grouper, FrameGrouper.new mode = .ok grouper →
      ∃ groups, groupFrames FrameGrouper.push FrameGrouper.finish grouper frames = .ok groups ∧
        GroupsOf (SimilarityEngine.verdict ⟨mode⟩) start frames groups) ∧
    (∀ policy grouper, HybridFrameGrouper.new policy = .ok grouper →
      ∃ groups, groupFrames HybridFrameGrouper.push HybridFrameGrouper.finish grouper frames =
          .ok groups ∧
        GroupsOf (hybridVerdict ⟨policy⟩) start frames groups) := by
  have hWidth : ∀ f ∈ frames, f.pixels.width < 2 ^ 32 :=
    fun f hf => (hStream.oneSize f hf f hf).width_lt
  constructor
  · intro mode grouper hNew
    unfold FrameGrouper.new at hNew
    obtain ⟨engine, hEngine, hGrouper⟩ := bind_eq_ok.1 hNew
    cases hGrouper
    obtain ⟨hMode, -⟩ := SimilarityEngine.new_ok hEngine
    subst hMode
    apply (frameGrouper_rules engine).groupFrames (fun _ => rfl) _ _ hStream
    · intro f hf g hg
      exact engine.verdict_total (hStream.oneSize f hf g hg)
    · intro f hf
      exact SimilarityEngine.verdict_self hEngine (hWidth f hf)
  · intro policy grouper hNew
    unfold HybridFrameGrouper.new at hNew
    obtain ⟨engine, hEngine, hGrouper⟩ := bind_eq_ok.1 hNew
    cases hGrouper
    rw [mapError_eq_ok] at hEngine
    obtain ⟨hPolicy, -⟩ := HybridSimilarityEngine.new_ok hEngine
    subst hPolicy
    apply (hybridFrameGrouper_rules engine).groupFrames (fun _ => rfl) _ _ hStream
    · intro f hf g hg
      exact hybridVerdict_total engine (hStream.oneSize f hf g hg)
    · intro f hf
      exact hybridVerdict_self hEngine (hWidth f hf)

/-- A frame of one grey pixel. -/
def greyFrame (id : Nat) (value : UInt8) : StreamFrame where
  entry :=
    { frameId := id
      presentationTimestamp := some ⟨40 * id, sampleTimeBase⟩
      duration := some ⟨40, sampleTimeBase⟩
      keyframe := false
      corrupt := false
      anchor := .streamStart }
  pixels :=
    { width := 1
      height := 1
      strideBytes := 4
      pixels := [value, value, value, 255]
      width_pos := Nat.one_pos
      height_pos := Nat.one_pos
      stride_ge := stride_onePixel
      pixels_length := rfl }

/-- Three shades, the last one far from the first two. -/
def greyStream : List StreamFrame := [greyFrame 0 10, greyFrame 1 12, greyFrame 2 200]

theorem greyStream_contiguous : ContiguousStream 0 greyStream where
  ids := by
    intro i f hf
    have hBound : i < 3 := (List.getElem?_eq_some_iff.1 hf).1
    interval_cases i <;> (cases hf; rfl)
  ids_lt := by decide
  timestamped := by decide
  oneSize := by
    have hSize : ∀ f ∈ greyStream, f.pixels.width = 1 ∧ f.pixels.height = 1 := by decide
    intro f hf g hg
    obtain ⟨hWidth, hHeight⟩ := hSize f hf
    obtain ⟨hWidth', hHeight'⟩ := hSize g hg
    exact ⟨by rw [hWidth, hWidth'], by rw [hHeight, hHeight'], by rw [hWidth]; decide⟩

theorem groupers_partition_greyStream :
    (∃ groups, groupFrames FrameGrouper.push FrameGrouper.finish
        ⟨⟨.lumaMeanAbsolute 9000⟩, none⟩ greyStream = .ok groups ∧
      GroupsOf (SimilarityEngine.verdict ⟨.lumaMeanAbsolute 9000⟩) 0 greyStream groups) ∧
    (∃ groups, groupFrames HybridFrameGrouper.push HybridFrameGrouper.finish
        ⟨⟨⟨8, 9700⟩⟩, none⟩ greyStream = .ok groups ∧
      GroupsOf (hybridVerdict ⟨⟨8, 9700⟩⟩) 0 greyStream groups) :=
  ⟨(groupers_partition greyStream_contiguous).1 _ _ rfl,
    (groupers_partition greyStream_contiguous).2 _ _ rfl⟩

example :
    (groupFrames HybridFrameGrouper.push HybridFrameGrouper.finish ⟨⟨⟨8, 9700⟩⟩, none⟩
      greyStream).toOption.map (·.map fun g =>
        (g.firstFrame, g.lastFrame, g.representativeSimilarityFloor)) =
      some [(0, 1, 9922), (2, 2, 10000)] := by
  decide

end FrameScope.Ports.GroupingLaw
