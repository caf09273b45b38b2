import FrameScope.Ports.ExportLaw
import FrameScope.Ports.GroupExport

/-!
# What a group export commits

Whatever the decoder, the sink and the cancellation do, the frames a group
export commits are labelled with the representatives of the first groups, in
order, and a successful export has gone through all groups.  The cursor and the
batch are advanced in different places; what keeps them in step is that the
group the filter waits for is always the one whose ordinal is the number of
frames already exported.
-/

namespace FrameScope.Ports.GroupExportLaw

open FrameScope.Verified.Fallible
open FrameScope.Ports.Core
open FrameScope.Ports.Decoder
open FrameScope.Ports.FrameIndexModel
open FrameScope.Ports.FrameIndexStore
open FrameScope.Ports.FrameCache
open FrameScope.Ports.Extraction
open FrameScope.Ports.BatchExtraction
open FrameScope.Ports.BatchAlignment
open FrameScope.Ports.BatchOrder
open FrameScope.Ports.ExtractionImage
open FrameScope.Ports.Manifest
open FrameScope.Ports.Export
open FrameScope.Ports.ExportLaw
open FrameScope.Ports.GroupNavigation
open FrameScope.Ports.GroupExport

/-! ## The cursor -/

section Cursor

variable {groups : List FrameGroup} {cursor cursor' : GroupRepresentativeCursor}
  {next : Option GroupNavigationTarget}

/-- A target that the cursor accepts is that of the group with its ordinal. -/
theorem locate_ok {previous : Option Nat} {target : GroupNavigationTarget}
    (h : GroupRepresentativeCursor.locate (navigatorOf groups) previous = .ok target) :
    ∃ g, groups[target.ordinal]? = some g ∧
      target = targetOf groups.length target.ordinal g := by
  have hRead : ∀ {i}, (navigatorOf groups).groupByOrdinal i = .ok target →
      ∃ g, groups[target.ordinal]? = some g ∧
        target = targetOf groups.length target.ordinal g := by
    intro i hTarget
    obtain ⟨g, hg, rfl⟩ := groupByOrdinal_ok hTarget
    exact ⟨g, hg, rfl⟩
  cases previous with
  | none =>
      obtain ⟨i, -, hTarget⟩ := bind_eq_ok.1 h
      exact hRead hTarget
  | some previous =>
      obtain ⟨current, -, h⟩ := bind_eq_ok.1 h
      obtain ⟨i, -, hTarget⟩ := bind_eq_ok.1 h
      exact hRead hTarget

/-- The cursor has yielded the first `n` groups. -/
structure Yielded (groups : List FrameGroup) (n : Nat) (cursor : GroupRepresentativeCursor) :
    Prop where
  count : cursor.groupCount = groups.length
  emitted : cursor.emitted = n

/-- The next group of the cursor is the one after those it has yielded. -/
theorem nextGroup_ok {n : Nat} (hCursor : Yielded groups n cursor)
    (h : cursor.nextGroup (navigatorOf groups) = .ok (next, cursor')) :
    (groups.length ≤ n ∧ next = none ∧ Yielded groups n cursor') ∨
      ∃ g, groups[n]? = some g ∧ next = some (targetOf groups.length n g) ∧
        Yielded groups (n + 1) cursor' := by
  unfold GroupRepresentativeCursor.nextGroup at h
  rw [hCursor.count, hCursor.emitted] at h
  split_ifs at h with hDone
  · cases h
    exact .inl ⟨hDone, rfl, hCursor⟩
  · obtain ⟨target, hTarget, h⟩ := bind_eq_ok.1 h
    obtain ⟨u, hValidated, h⟩ := bind_eq_ok.1 h
    obtain ⟨u', -, h⟩ := bind_eq_ok.1 h
    obtain ⟨emitted, hEmitted, h⟩ := bind_eq_ok.1 h
    cases h
    obtain ⟨u'', hOrdinal, -⟩ := bind_eq_ok.1 hValidated
    rw [ensure_eq_ok] at hOrdinal
    obtain ⟨g, hg, hIs⟩ := locate_ok (mapError_eq_ok.1 hTarget)
    rw [hOrdinal] at hg hIs
    rw [okOr_eq_ok, checkedAddU64_eq_some] at hEmitted
    exact .inr ⟨g, hg, congrArg some hIs, rfl, hEmitted.2⟩

end Cursor

/-! ## The plan -/

/-- All frames from the first representative to the last. -/
def representativePlan (groups : List FrameGroup) : ExtractionPlan :=
  let first := (groups.head?.map (·.representativeFrame)).getD 0
  let last := (groups.getLast?.map (·.representativeFrame)).getD 0
  ⟨first, last, .one, last - first + 1⟩

/-- A frame range that is planned is planned as asked. -/
theorem planExtraction_range {index : FrameIndex} {first last : Nat} {plan : ExtractionPlan}
    (h : planExtraction index ⟨.frameRangeInclusive first last, .everyFrame⟩ = .ok plan) :
    plan = ⟨first, last, .one, last - first + 1⟩ := by
  obtain ⟨status, -, h⟩ := bind_eq_ok.1 h
  obtain ⟨_, -, h⟩ := bind_eq_ok.1 h
  obtain ⟨frameCount, -, h⟩ := bind_eq_ok.1 h
  obtain ⟨_, -, h⟩ := bind_eq_ok.1 h
  obtain ⟨bounds, hBounds, h⟩ := bind_eq_ok.1 h
  obtain ⟨_, -, hBounds⟩ := bind_eq_ok.1 hBounds
  obtain ⟨_, -, hBounds⟩ := bind_eq_ok.1 hBounds
  obtain ⟨_, -, hBounds⟩ := bind_eq_ok.1 hBounds
  cases hBounds
  obtain ⟨_, -, h⟩ := bind_eq_ok.1 h
  obtain ⟨count, hCount, h⟩ := bind_eq_ok.1 h
  cases h
  rw [okOr_eq_ok, checkedAddU64_eq_some] at hCount
  rw [hCount.2]
  change (⟨first, last, .one, (last - first) / 1 + 1⟩ : ExtractionPlan) = _
  rw [Nat.div_one]

/-- What the preparation settles. -/
theorem prepareRepresentatives_ok {E : Type} {groups : List FrameGroup} {index : FrameIndex}
    {plan : ExtractionPlan} {cursor : GroupRepresentativeCursor}
    {firstGroup : GroupNavigationTarget}
    (h : prepareRepresentatives (E := E) (navigatorOf groups) index =
      .ok (plan, cursor, firstGroup)) :
    plan = representativePlan groups ∧ Yielded groups 1 cursor ∧
      ∃ g, groups[0]? = some g ∧ firstGroup = targetOf groups.length 0 g := by
  obtain ⟨status, -, h⟩ := bind_eq_ok.1 h
  obtain ⟨_, -, h⟩ := bind_eq_ok.1 h
  obtain ⟨frameCount, -, h⟩ := bind_eq_ok.1 h
  obtain ⟨_, -, h⟩ := bind_eq_ok.1 h
  obtain ⟨_, hSome, h⟩ := bind_eq_ok.1 h
  obtain ⟨⟨found, cursor'⟩, hFound, h⟩ := bind_eq_ok.1 h
  obtain ⟨first, hFirst, h⟩ := bind_eq_ok.1 h
  obtain ⟨last, hLast, h⟩ := bind_eq_ok.1 h
  obtain ⟨_, hFinal, h⟩ := bind_eq_ok.1 h
  obtain ⟨_, -, h⟩ := bind_eq_ok.1 h
  obtain ⟨plan', hPlan, h⟩ := bind_eq_ok.1 h
  cases h
  rw [okOr_eq_ok] at hFirst
  subst hFirst
  rw [ensure_eq_ok] at hFinal
  obtain ⟨i, -, hTarget⟩ := bind_eq_ok.1 (mapError_eq_ok.1 hLast)
  obtain ⟨gLast, hgLast, rfl⟩ := groupByOrdinal_ok hTarget
  have hNew : Yielded groups 0 (GroupRepresentativeCursor.new (navigatorOf groups)) := ⟨rfl, rfl⟩
  rcases nextGroup_ok hNew (mapError_eq_ok.1 hFound) with
    ⟨-, hNone, -⟩ | ⟨g, hg, hTargetFirst, hYielded⟩
  · cases hNone
  · rw [Option.some.injEq] at hTargetFirst
    subst hTargetFirst
    refine ⟨?_, hYielded, g, hg, rfl⟩
    rw [planExtraction_range (mapError_eq_ok.1 hPlan)]
    have hHead : groups.head? = some g := by rw [List.head?_eq_getElem?, hg]
    have hGetLast : groups.getLast? = some gLast := by
      have hOrdinal : i + 1 = groups.length := by
        have hChecked := hFinal.2
        rw [checkedAddU64_eq_some] at hChecked
        exact hChecked.2.symm
      rw [List.getLast?_eq_getElem?, ← hOrdinal, Nat.add_sub_cancel]
      exact hgLast
    unfold representativePlan
    rw [hHead, hGetLast]
    rfl

/-! ## The filter -/

section Filter

variable {E τ : Type} {format : ExtractionImageFormat} {sink : FrameOutputSink E τ}
  {device : Device} {base : List Piece} {header : ManifestHeader} {groups : List FrameGroup}
  {frames : List ManifestFrame} {handed : List ExtractedRgbaFrame}

/-- The progress of the export at group `j`. -/
def groupProgress (groups : List FrameGroup) (j : Nat) (g : FrameGroup) : ExtractionProgress :=
  ⟨g.representativeFrame, j + 1, groups.length⟩

/-- Commit `j` is labelled as the representative of group `j`, and the batch
handed its pixels over for that frame. -/
def CommitsOf (groups : List FrameGroup) (handed : List ExtractedRgbaFrame)
    (commits : List Commit) : Prop :=
  ∀ j commit, commits[j]? = some commit → ∃ g, groups[j]? = some g ∧
    commit.output.progress = groupProgress groups j g ∧
    ∃ x ∈ handed, x.progress.frameId = g.representativeFrame ∧ x.pixels = commit.output.pixels

/-- Record `j` is that of group `j`, with its span and count. -/
def RecordsOf (groups : List FrameGroup) (frames : List ManifestFrame) : Prop :=
  ∀ j f, frames[j]? = some f → ∃ g, groups[j]? = some g ∧
    f.progress = groupProgress groups j g ∧
    f.group = some (manifestGroup (targetOf groups.length j g))

theorem CommitsOf.mono {handed' : List ExtractedRgbaFrame} {commits : List Commit}
    (h : CommitsOf groups handed commits) (hHanded : ∀ x ∈ handed, x ∈ handed') :
    CommitsOf groups handed' commits := by
  intro j commit hj
  obtain ⟨g, hg, hProgress, x, hx, hFrame⟩ := h j commit hj
  exact ⟨g, hg, hProgress, x, hHanded x hx, hFrame⟩

theorem CommitsOf.concat {commits : List Commit} {commit : Commit} {g : FrameGroup}
    {x : ExtractedRgbaFrame} (h : CommitsOf groups handed commits)
    (hg : groups[commits.length]? = some g)
    (hProgress : commit.output.progress = groupProgress groups commits.length g)
    (hx : x ∈ handed) (hFrame : x.progress.frameId = g.representativeFrame)
    (hPixels : x.pixels = commit.output.pixels) :
    CommitsOf groups handed (commits ++ [commit]) := by
  intro j c hj
  rcases Nat.lt_trichotomy j commits.length with hLt | rfl | hGt
  · rw [List.getElem?_append_left hLt] at hj
    exact h j c hj
  · rw [List.getElem?_concat_length, Option.some.injEq] at hj
    subst hj
    exact ⟨g, hg, hProgress, x, hx, hFrame, hPixels⟩
  · have := (List.getElem?_eq_some_iff.1 hj).1
    rw [List.length_append, List.length_singleton] at this
    omega

theorem RecordsOf.concat {frame : ManifestFrame} {g : FrameGroup} (h : RecordsOf groups frames)
    (hg : groups[frames.length]? = some g)
    (hProgress : frame.progress = groupProgress groups frames.length g)
    (hGroup : frame.group = some (manifestGroup (targetOf groups.length frames.length g))) :
    RecordsOf groups (frames ++ [frame]) := by
  intro j f hj
  rcases Nat.lt_trichotomy j frames.length with hLt | rfl | hGt
  · rw [List.getElem?_append_left hLt] at hj
    exact h j f hj
  · rw [List.getElem?_concat_length, Option.some.injEq] at hj
    subst hj
    exact ⟨g, hg, hProgress, hGroup⟩
  · have := (List.getElem?_eq_some_iff.1 hj).1
    rw [List.length_append, List.length_singleton] at this
    omega

/-- The cursor, the manifest and the sink are in step: the filter waits for the
group whose ordinal is the number of frames exported. -/
structure InStep (base : List Piece) (header : ManifestHeader) (groups : List FrameGroup)
    (frames : List ManifestFrame) (handed : List ExtractedRgbaFrame)
    (s : FilterState (ExportState τ)) : Prop where
  waiting : s.nextGroup =
    (groups[frames.length]?).map (targetOf groups.length frames.length)
  cursor : s.nextGroup ≠ none → Yielded groups (frames.length + 1) s.cursor
  count : s.representativeFrames = frames.length
  exported : Exported base header frames s.visitor
  commits_length : s.visitor.commits.length = frames.length
  commits : CommitsOf groups handed s.visitor.commits
  records : RecordsOf groups frames

/-- The representative of the awaited group is exported, and the filter waits
for the next group. -/
theorem emitRepresentative_inStep {s : FilterState (ExportState τ)} {x : ExtractedRgbaFrame}
    {g : FrameGroup} (h : InStep base header groups frames handed s)
    (hg : groups[frames.length]? = some g) (hId : x.progress.frameId = g.representativeFrame)
    (hx : x ∈ handed) :
    wp (emitRepresentative (navigatorOf groups) (writeRepresentative format sink device) x
        (targetOf groups.length frames.length g))
      (fun _ s' => ∃ frames', InStep base header groups frames' handed s')
      (fun _ s' => CommitsOf groups handed s'.visitor.commits) s := by
  have hYielded : Yielded groups (frames.length + 1) s.cursor := by
    apply h.cursor
    rw [h.waiting, hg]
    exact nofun
  unfold emitRepresentative
  rw [wp_bind, wp_get, wp_bind, wp_set, wp_bind, wp_ofExcept]
  refine ⟨?_, fun _ _ => h.commits⟩
  intro count hCount
  rw [okOr_eq_ok, checkedAddU64_eq_some, h.count] at hCount
  rw [wp_bind, wp_modify, wp_bind, wp_adaptExcept, wp_zoom]
  -- Every commit of this visit is the one of the awaited group.
  have hCommit : ∀ (v : ExportState τ) (commit : Commit),
      v.commits = s.visitor.commits ++ [commit] →
      commit.output = ⟨⟨x.progress.frameId, count, groups.length⟩, x.indexEntry,
        frameFileName x.progress.frameId format, format, x.pixels⟩ →
      CommitsOf groups handed v.commits := by
    intro v commit hNew hOutput
    rw [hNew]
    refine h.commits.concat (h.commits_length ▸ hg) ?_ hx hId (by rw [hOutput])
    rw [hOutput, h.commits_length, groupProgress, hId, hCount.2]
  refine wp_mono (commitAndRecord_exported h.exported h.commits_length) ?_ ?_
  · rintro _ v ⟨bytes, commit, hExported, hNew, hOutput⟩
    have hCommits := hCommit v commit hNew hOutput
    rw [wp_bind, wp_ofExcept]
    refine ⟨?_, fun _ _ => hCommits⟩
    rintro ⟨next, cursor⟩ hNext
    rw [wp_modify]
    have hLength : ∀ frame : ManifestFrame, (frames ++ [frame]).length = frames.length + 1 := by
      intro frame
      rw [List.length_append, List.length_singleton]
    refine ⟨_, ⟨?_, ?_, ?_, hExported, ?_, hCommits, ?_⟩⟩
    · rw [hLength]
      rcases nextGroup_ok hYielded hNext with ⟨hDone, hNone, -⟩ | ⟨g', hg', hSome, -⟩
      · rw [List.getElem?_eq_none hDone]
        exact hNone
      · rw [hg']
        exact hSome
    · rw [hLength]
      intro hWaiting
      rcases nextGroup_ok hYielded hNext with ⟨-, hNone, -⟩ | ⟨g', -, -, hAfter⟩
      · exact absurd hNone hWaiting
      · exact hAfter
    · rw [hLength]
      exact hCount.2
    · rw [hLength]
      change v.commits.length = _
      rw [hNew, List.length_append, h.commits_length, List.length_singleton]
    · refine h.records.concat hg ?_ rfl
      change (⟨x.progress.frameId, count, groups.length⟩ : ExtractionProgress) = _
      rw [groupProgress, hId, hCount.2]
  · intro e v hVisited
    cases e with
    | output error =>
        change CommitsOf groups handed v.commits
        rw [hVisited.2]
        exact h.commits
    | sinkContract message =>
        obtain ⟨-, commit, hNew, hOutput⟩ := hVisited
        exact hCommit v commit hNew hOutput
    | manifest error =>
        obtain ⟨commit, hNew, hOutput⟩ := hVisited
        exact hCommit v commit hNew hOutput

/-- One frame of the batch keeps them in step. -/
theorem filterRepresentative_inStep {s : FilterState (ExportState τ)} {x : ExtractedRgbaFrame}
    (h : InStep base header groups frames handed s) (hx : x ∈ handed) :
    wp (filterRepresentative (navigatorOf groups) (writeRepresentative format sink device) x)
      (fun _ s' => ∃ frames', InStep base header groups frames' handed s')
      (fun _ s' => CommitsOf groups handed s'.visitor.commits) s := by
  unfold filterRepresentative
  rw [wp_bind, wp_get]
  split
  · exact h.commits
  · rename_i expected hExpected
    obtain ⟨g, hg, rfl⟩ := Option.map_eq_some_iff.1 (h.waiting.symm.trans hExpected)
    split_ifs with hEarly hOther
    · exact ⟨frames, h⟩
    · exact h.commits
    · exact emitRepresentative_inStep h hg (not_not.1 hOther) hx

theorem InStep.mono {handed' : List ExtractedRgbaFrame} {s : FilterState (ExportState τ)}
    (h : InStep base header groups frames handed s) (hHanded : ∀ x ∈ handed, x ∈ handed') :
    InStep base header groups frames handed' s :=
  ⟨h.waiting, h.cursor, h.count, h.exported, h.commits_length, h.commits.mono hHanded, h.records⟩

/-- The whole batch keeps them in step. -/
theorem filterRepresentative_rule (plan : ExtractionPlan) :
    VisitRule plan
      (filterRepresentative (navigatorOf groups) (writeRepresentative format sink device))
      (fun _ s => ∃ frames, InStep base header groups frames s.handed s.visitor)
      (fun _ s => CommitsOf groups s.handed s.visitor.visitor.commits) where
  quiet := by
    intro n s s' hR hQuiet
    rwa [hQuiet.1, hQuiet.2]
  visit := by
    rintro n id s entry pixels - - ⟨frames, hInStep⟩
    refine runVisitor_wp (filterRepresentative_inStep (hInStep.mono ?_) ?_)
    · intro x hx
      exact List.mem_append_left _ hx
    · exact List.mem_append_right _ (List.mem_singleton_self _)
  stop := by
    rintro n s e - ⟨frames, hInStep⟩
    exact hInStep.commits

end Filter

/-! ## The export -/

section Export

variable {E τ : Type} {format : ExtractionImageFormat} {sink : FrameOutputSink E τ}
  {device : Device} {base : List Piece} {header : ManifestHeader} {groups : List FrameGroup}
  {frames : List ManifestFrame} {Good : Nat → OwnedRgbaFrame → Prop} {cancelled : Nat → Bool}
  {index : FrameIndex} {opens : Opener}

/-- Commit `j` is labelled as the representative of group `j`, with pixels that
are good for it. -/
def CommitsGood (groups : List FrameGroup) (Good : Nat → OwnedRgbaFrame → Prop)
    (commits : List Commit) : Prop :=
  ∀ j commit, commits[j]? = some commit → ∃ g, groups[j]? = some g ∧
    commit.output.progress = groupProgress groups j g ∧
    Good g.representativeFrame commit.output.pixels

/-- Every frame the batch hands over is good for its identity. -/
def HandsGood (Good : Nat → OwnedRgbaFrame → Prop) {σ : Type} (s : BatchState σ) : Prop :=
  ∀ x ∈ s.handed, Good x.progress.frameId x.pixels

theorem CommitsOf.good {σ : Type} {s : BatchState σ} {commits : List Commit}
    (h : CommitsOf groups s.handed commits) (hGood : HandsGood Good s) :
    CommitsGood groups Good commits := by
  intro j commit hj
  obtain ⟨g, hg, hProgress, x, hx, hFrame, hPixels⟩ := h j commit hj
  refine ⟨g, hg, hProgress, ?_⟩
  rw [← hFrame, ← hPixels]
  exact hGood x hx

/-- All groups have been exported. -/
structure AllExported (base : List Piece) (header : ManifestHeader) (groups : List FrameGroup)
    (frames : List ManifestFrame) (s : ExportState τ) : Prop where
  length : frames.length = groups.length
  exported : Exported base header frames s
  commits_length : s.commits.length = groups.length
  records : RecordsOf groups frames

/-- A batch of representatives, when the frames it hands over are good. -/
theorem extractGroupRepresentatives_exported {s : ExportState τ}
    (hStart : Exported base header [] s) (hCommits : s.commits = [])
    (hGood : ∀ f, wp (extractRgbaPlan cancelled index (representativePlan groups)
        (filterRepresentative (navigatorOf groups) (writeRepresentative format sink device)) opens)
      (fun _ => HandsGood Good) (fun _ => HandsGood Good) (BatchState.start f)) :
    wp (extractGroupRepresentatives (navigatorOf groups) (writeRepresentative format sink device)
        index cancelled opens)
      (fun _ s' => CommitsGood groups Good s'.commits ∧
        ∃ frames, AllExported base header groups frames s')
      (fun _ s' => CommitsGood groups Good s'.commits) s := by
  have hNone : CommitsGood groups Good s.commits := by
    intro j commit hj
    rw [hCommits, List.getElem?_nil] at hj
    cases hj
  unfold extractGroupRepresentatives
  rw [wp_bind, wp_ofExcept]
  refine ⟨?_, fun _ _ => hNone⟩
  rintro ⟨plan, cursor, firstGroup⟩ hPrepared
  obtain ⟨rfl, hYielded, g, hg, rfl⟩ := prepareRepresentatives_ok hPrepared
  dsimp only
  rw [wp_bind, wp_adaptExcept, wp_zoom]
  unfold extractFiltered
  rw [wp_bind]
  have hInStep : InStep base header groups [] []
      (⟨cursor, some (targetOf groups.length 0 g), 0, s⟩ : FilterState (ExportState τ)) := by
    refine ⟨?_, fun _ => hYielded, rfl, hStart, congrArg List.length hCommits, ?_, ?_⟩
    · rw [List.length_nil, hg]
      rfl
    · intro j commit hj
      change s.commits[j]? = some commit at hj
      rw [hCommits, List.getElem?_nil] at hj
      cases hj
    · intro j f hj
      rw [List.getElem?_nil] at hj
      cases hj
  refine wp_mono (wp_and
    (extractRgbaPlan_visits (filterRepresentative_rule (representativePlan groups))
      (s := BatchState.start _) ⟨[], hInStep⟩) (hGood _)) ?_ ?_
  · rintro report s' ⟨⟨-, frames, hEnd⟩, hHands⟩
    rw [wp_bind, wp_get, wp_pure]
    have hCommitsGood := hEnd.commits.good hHands
    dsimp only
    split_ifs with hShort
    · exact hCommitsGood
    · rw [not_or] at hShort
      have hAll : frames.length = groups.length := by
        rw [← hEnd.count]
        exact not_not.1 hShort.1
      exact ⟨hCommitsGood, frames, hAll, hEnd.exported, hEnd.commits_length.trans hAll,
        hEnd.records⟩
  · rintro e s' ⟨hCommitsOf, hHands⟩
    exact hCommitsOf.good hHands

/-- What a group export leaves: each commit is good for its group, and a
successful one has committed and recorded every group, with its span and count. -/
structure GroupManifest (groups : List FrameGroup) (Good : Nat → OwnedRgbaFrame → Prop)
    (base : List Piece)
    (result : Except (GroupStreamingExtractionError E) GroupStreamingExtractionReport)
    (s : ExportState τ) : Prop where
  committed : CommitsGood groups Good s.commits
  complete : ∀ report, result = .ok report → s.commits.length = groups.length ∧
    ∃ header frames terminal, frames.length = groups.length ∧ RecordsOf groups frames ∧
      s.manifest.writer.accepted = base ++ wholeLines
        (.header header :: (frames.map fun f => .frame f.line) ++ [.terminal terminal]) ∧
      terminal.status = .complete

/-- A failed export leaves nothing to show but its commits. -/
theorem GroupManifest.of_error {e : GroupStreamingExtractionError E} {s : ExportState τ}
    (h : CommitsGood groups Good s.commits) : GroupManifest groups Good base (.error e) s :=
  ⟨h, nofun⟩

/-- Every end of `x` leaves such a manifest. -/
def LeavesManifest (groups : List FrameGroup) (Good : Nat → OwnedRgbaFrame → Prop)
    (base : List Piece)
    (x : EStateM (GroupStreamingExtractionError E) (ExportState τ) GroupStreamingExtractionReport)
    (s : ExportState τ) : Prop :=
  wp x (fun report => GroupManifest groups Good base
      (.ok report : Except (GroupStreamingExtractionError E) _))
    (fun e => GroupManifest groups Good base (.error e)) s

/-- A failed extraction ends the manifest, changes nothing else, and throws. -/
theorem failRepresentatives_throws {error : GroupBatchExtractionError (VisitorError E)}
    {s : ExportState τ} {R : ExportState τ → Prop} (h : ∀ w, R { s with manifest := w }) :
    wp (failRepresentatives sink device error) (fun _ _ => False) (fun _ => R) s := by
  have hClosing : ∀ (x : Writing Unit) (e : GroupStreamingExtractionError E),
      wp (do closing .manifest x; throw e :
          EStateM (GroupStreamingExtractionError E) (ExportState τ) GroupStreamingExtractionReport)
        (fun _ _ => False) (fun _ => R) s := by
    intro x e
    rw [wp_bind]
    refine closing_wp (P := fun _ => True) ?_ (fun w _ => h w) (fun _ w => h w)
    unfold wp
    split
    · trivial
    · trivial
  unfold failRepresentatives
  split
  · exact hClosing _ _
  · exact hClosing _ _
  · exact hClosing _ _
  · exact h s.manifest
  · exact hClosing _ _
  · exact hClosing _ _
  · exact hClosing _ _
  · exact hClosing _ _
  · exact hClosing _ _
  · exact hClosing _ _
  · exact hClosing _ _
  · exact hClosing _ _
  · exact hClosing _ _

theorem failRepresentatives_manifest {error : GroupBatchExtractionError (VisitorError E)}
    {s : ExportState τ} (h : CommitsGood groups Good s.commits) :
    LeavesManifest groups Good base (failRepresentatives sink device error) s :=
  wp_mono (failRepresentatives_throws (R := fun s' => CommitsGood groups Good s'.commits)
    fun _ => h) (fun _ _ hNever => hNever.elim) (fun _ _ hGood => .of_error hGood)

theorem completeRepresentatives_manifest {s : ExportState τ} {batch : GroupBatchExtractionReport}
    (h : CommitsGood groups Good s.commits) (hAll : AllExported base header groups frames s) :
    LeavesManifest (E := E) groups Good base
      (completeRepresentatives device groups.length batch) s := by
  unfold LeavesManifest completeRepresentatives
  rw [wp_bind, wp_get]
  dsimp only
  split_ifs
  · rw [wp_bind]
    refine closing_wp hAll.exported.recorded.finishFailed (fun _ _ => .of_error h)
      (fun _ _ => .of_error h)
  · rw [wp_bind]
    refine closing_wp hAll.exported.recorded.finishComplete ?_ (fun _ _ => .of_error h)
    intro w hEnded
    rw [wp_pure]
    refine ⟨h, ?_⟩
    intro report _
    exact ⟨hAll.commits_length, header, frames, _, hAll.length, hAll.records, hEnded, rfl⟩

/-- **What a group export leaves**, when the frames its batch hands over are
good. -/
theorem exportGroupRepresentatives_manifest {s : ExportState τ} (hCommits : s.commits = [])
    (hGood : ∀ f, wp (extractRgbaPlan cancelled index (representativePlan groups)
        (filterRepresentative (navigatorOf groups) (writeRepresentative format sink device)) opens)
      (fun _ => HandsGood Good) (fun _ => HandsGood Good) (BatchState.start f)) :
    LeavesManifest groups Good s.manifest.writer.accepted
      (exportGroupRepresentatives format sink device cancelled index (navigatorOf groups) opens)
      s := by
  have hNone : ∀ w, CommitsGood groups Good ({ s with manifest := w } : ExportState τ).commits := by
    intro w j commit hj
    change s.commits[j]? = some commit at hj
    rw [hCommits, List.getElem?_nil] at hj
    cases hj
  unfold LeavesManifest exportGroupRepresentatives
  rw [wp_bind, wp_ofExcept]
  refine ⟨fun _ _ => ?_, fun _ _ => .of_error (hNone s.manifest)⟩
  rw [wp_bind, wp_ofExcept]
  refine ⟨?_, fun _ _ => .of_error (hNone s.manifest)⟩
  intro header _
  rw [wp_bind]
  refine closing_wp newManifest_recorded ?_ (fun _ w => .of_error (hNone w))
  intro w hRecorded
  rw [wp_bind, wp_attempt]
  have hStart : Exported s.manifest.writer.accepted header [] { s with manifest := w } := by
    refine ⟨hRecorded, ?_⟩
    intro j f hf
    rw [List.getElem?_nil] at hf
    cases hf
  refine wp_mono (extractGroupRepresentatives_exported hStart hCommits hGood) ?_ ?_
  · rintro batch s' ⟨hCommitsGood, frames, hAll⟩
    exact completeRepresentatives_manifest hCommitsGood hAll
  · intro error s' hCommitsGood
    exact failRepresentatives_manifest hCommitsGood

end Export

end FrameScope.Ports.GroupExportLaw
