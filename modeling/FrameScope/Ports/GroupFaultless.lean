import FrameScope.Ports.BatchExactness
import FrameScope.Ports.GroupExportLaw

/-!
# Group exports that nothing stops

Over a partition the cursor finds every group in turn, so the preparation of a
group export succeeds, and so does each visit as long as the sink and the
manifest accept what they are given.  A batch that reads without a fault
therefore comes to every representative.
-/

namespace FrameScope.Ports.GroupFaultless

open FrameScope.Verified.Fallible
open FrameScope.Ports.Core
open FrameScope.Ports.Decoder
open FrameScope.Ports.FrameIndexModel
open FrameScope.Ports.SourceBinding
open FrameScope.Ports.FrameIndexStore
open FrameScope.Ports.FrameTimeline
open FrameScope.Ports.IndexingCall
open FrameScope.Ports.CompleteIndex
open FrameScope.Ports.FrameCache
open FrameScope.Ports.Extraction
open FrameScope.Ports.BatchExtraction
open FrameScope.Ports.BatchAlignment
open FrameScope.Ports.BatchFaultless
open FrameScope.Ports.BatchExactness
open FrameScope.Ports.ExtractionImage
open FrameScope.Ports.Manifest
open FrameScope.Ports.Export
open FrameScope.Ports.ExportLaw
open FrameScope.Ports.GroupNavigation
open FrameScope.Ports.GroupExport
open FrameScope.Ports.GroupExportLaw

variable {frameCount i j k : Nat} {groups : List FrameGroup} {g g' gLast : FrameGroup}

/-! ## Representatives of a partition -/

theorem representative_lt (h : Partitions frameCount groups) (hg : groups[i]? = some g) :
    g.representativeFrame < frameCount := by
  have hSpan := h.tiles.span hg
  have hLast := (h.validAt hg).le_last
  omega

/-- Representatives ascend with the groups. -/
theorem representative_mono (h : Partitions frameCount groups) (hij : i < j)
    (hg : groups[i]? = some g) (hg' : groups[j]? = some g') :
    g.representativeFrame < g'.representativeFrame := by
  have hOrder := h.tiles.ordered hij hg hg'
  have hLast := (h.validAt hg).le_last
  have hFirst := (h.validAt hg').first_le
  omega

theorem representative_le (h : Partitions frameCount groups) (hij : i ≤ j)
    (hg : groups[i]? = some g) (hg' : groups[j]? = some g') :
    g.representativeFrame ≤ g'.representativeFrame := by
  rcases Nat.lt_or_eq_of_le hij with hLt | rfl
  · exact Nat.le_of_lt (representative_mono h hLt hg hg')
  · rw [hg, Option.some.injEq] at hg'
    rw [hg']

/-- The plan of a partition runs from the first representative to the last. -/
theorem representativePlan_eq (hg : groups[0]? = some g)
    (hLast : groups[groups.length - 1]? = some gLast) :
    representativePlan groups = ⟨g.representativeFrame, gLast.representativeFrame, .one,
      gLast.representativeFrame - g.representativeFrame + 1⟩ := by
  unfold representativePlan
  rw [List.head?_eq_getElem?, hg, List.getLast?_eq_getElem?, hLast]
  rfl

/-- A partition with a group has a first and a last one. -/
theorem ends_of_getElem? (hg : groups[i]? = some g) :
    ∃ gFirst gLast, groups[0]? = some gFirst ∧ groups[groups.length - 1]? = some gLast := by
  have hi := (List.getElem?_eq_some_iff.1 hg).1
  exact ⟨_, _, List.getElem?_eq_getElem (by omega), List.getElem?_eq_getElem (by omega)⟩

/-! ## The cursor -/

/-- The cursor once it has yielded group `k`. -/
def cursorAt (groups : List FrameGroup) (k : Nat) (g : FrameGroup) : GroupRepresentativeCursor :=
  ⟨groups.length, k + 1, some g.representativeFrame⟩

theorem validateTarget_of (hValid : g.Valid) (hFits : g.lastFrame + 1 < 2 ^ 64) :
    validateTarget (targetOf groups.length k g) k groups.length = .ok () := by
  have hFirst := hValid.first_le
  have hLast := hValid.le_last
  refine bind_eq_ok.2 ⟨(), ensure_eq_ok.2 rfl, ?_⟩
  refine bind_eq_ok.2 ⟨(), ensure_eq_ok.2 rfl, ?_⟩
  refine bind_eq_ok.2 ⟨(), ensure_eq_ok.2 ⟨Nat.le_trans hFirst hLast, hFirst, hLast⟩, ?_⟩
  refine bind_eq_ok.2 ⟨g.lastFrame - g.firstFrame + 1, ?_, ensure_eq_ok.2 hValid.count⟩
  refine okOr_eq_ok.2 (checkedAddU64_eq_some.2 ⟨?_, rfl⟩)
  change g.lastFrame - g.firstFrame + 1 < 2 ^ 64
  omega

/-- The cursor accepts the group it has located. -/
theorem nextGroup_of (h : Partitions frameCount groups) (hBound : frameCount < 2 ^ 63)
    (hg : groups[k]? = some g) {previous : Option Nat}
    (hLocate : GroupRepresentativeCursor.locate (navigatorOf groups) previous =
      .ok (targetOf groups.length k g))
    (hFollows : checkFollows (targetOf groups.length k g) previous = .ok ()) :
    GroupRepresentativeCursor.nextGroup (navigatorOf groups) ⟨groups.length, k, previous⟩ =
      .ok (some (targetOf groups.length k g), cursorAt groups k g) := by
  have hk := (List.getElem?_eq_some_iff.1 hg).1
  have hLt := h.lt hBound hg
  have hSpan := h.tiles.span hg
  unfold GroupRepresentativeCursor.nextGroup
  rw [if_neg (Nat.not_le.2 hk)]
  refine bind_eq_ok.2 ⟨_, mapError_eq_ok.2 hLocate, ?_⟩
  refine bind_eq_ok.2 ⟨(), validateTarget_of (h.validAt hg) (by omega), ?_⟩
  refine bind_eq_ok.2 ⟨(), hFollows, ?_⟩
  refine bind_eq_ok.2 ⟨k + 1, okOr_eq_ok.2 (checkedAddU64_eq_some.2 ⟨?_, rfl⟩), rfl⟩
  change k + 1 < 2 ^ 64
  omega

theorem nextGroup_first (h : Partitions frameCount groups) (hBound : frameCount < 2 ^ 63)
    (hg : groups[0]? = some g) :
    (GroupRepresentativeCursor.new (navigatorOf groups)).nextGroup (navigatorOf groups) =
      .ok (some (targetOf groups.length 0 g), cursorAt groups 0 g) := by
  refine nextGroup_of h hBound hg ?_ rfl
  have hFirst := h.tiles.first_eq hg
  exact groupContaining_of h hBound hg (Nat.le_of_eq hFirst) (Nat.zero_le _)

theorem nextGroup_next (h : Partitions frameCount groups) (hBound : frameCount < 2 ^ 63)
    (hg : groups[k]? = some g) (hg' : groups[k + 1]? = some g') :
    (cursorAt groups k g).nextGroup (navigatorOf groups) =
      .ok (some (targetOf groups.length (k + 1) g'), cursorAt groups (k + 1) g') := by
  have hValid := h.validAt hg
  refine nextGroup_of h hBound hg' ?_ ?_
  · exact adjacentGroup_next_of h hBound hg hValid.first_le hValid.le_last hg'
  · exact ensure_eq_ok.2 (representative_mono h (Nat.lt_succ_self k) hg hg')

/-! ## The preparation -/

section Preparation

variable [ContentHash] {S : List DecodedRgbaFrame} {index : FrameIndex}

/-- A frame range inside the index can be planned. -/
theorem planExtraction_of (hIndex : IndexOf S index) {first last : Nat} (hOrder : first ≤ last)
    (hLast : last < S.length) :
    planExtraction index ⟨.frameRangeInclusive first last, .everyFrame⟩ =
      .ok ⟨first, last, .one, last - first + 1⟩ := by
  have hBound := hIndex.bounded
  refine bind_eq_ok.2 ⟨_, mapError_eq_ok.2 hIndex.status, ?_⟩
  refine bind_eq_ok.2 ⟨(), ensure_eq_ok.2 rfl, ?_⟩
  refine bind_eq_ok.2 ⟨S.length, okOr_eq_ok.2 rfl, ?_⟩
  refine bind_eq_ok.2 ⟨(), ensure_eq_ok.2 (by omega), ?_⟩
  refine bind_eq_ok.2 ⟨(first, last), ?_, ?_⟩
  · refine bind_eq_ok.2 ⟨(), ensure_eq_ok.2 hOrder, ?_⟩
    refine bind_eq_ok.2 ⟨(), ensure_eq_ok.2 (by omega), ?_⟩
    exact bind_eq_ok.2 ⟨(), ensure_eq_ok.2 hLast, rfl⟩
  · refine bind_eq_ok.2 ⟨(), ensure_eq_ok.2 hOrder, ?_⟩
    refine bind_eq_ok.2 ⟨last - first + 1, okOr_eq_ok.2 (checkedAddU64_eq_some.2 ⟨?_, ?_⟩), rfl⟩
    · change (last - first) / 1 + 1 < 2 ^ 64
      rw [Nat.div_one]
      omega
    · change last - first + 1 = (last - first) / 1 + 1
      rw [Nat.div_one]

/-- `validate_plan` accepts the plan of a partition. -/
theorem validatePlan_of (hIndex : IndexOf S index) {first last : Nat} (hOrder : first ≤ last)
    (hLast : last < S.length) :
    validatePlan index ⟨first, last, .one, last - first + 1⟩ = .ok last := by
  have hBound := hIndex.bounded
  have hOne : (last - first) / NonZeroU64.one.get = last - first := Nat.div_one _
  refine bind_eq_ok.2 ⟨_, mapError_eq_ok.2 hIndex.status, ?_⟩
  refine bind_eq_ok.2 ⟨(), ensure_eq_ok.2 rfl, ?_⟩
  refine bind_eq_ok.2 ⟨S.length, okOr_eq_ok.2 rfl, ?_⟩
  refine bind_eq_ok.2 ⟨(), ensure_eq_ok.2 (Nat.succ_ne_zero _), ?_⟩
  refine bind_eq_ok.2 ⟨(), ensure_eq_ok.2 hOrder, ?_⟩
  refine bind_eq_ok.2 ⟨(), ensure_eq_ok.2 hLast, ?_⟩
  refine bind_eq_ok.2 ⟨last - first + 1, okOr_eq_ok.2 (checkedAddU64_eq_some.2 ⟨?_, ?_⟩), ?_⟩
  · rw [hOne]
    omega
  · rw [hOne]
  refine bind_eq_ok.2 ⟨(), ensure_eq_ok.2 rfl, ?_⟩
  refine bind_eq_ok.2 ⟨last - first, okOr_eq_ok.2 (checkedMulU64_eq_some.2 ⟨?_, ?_⟩), ?_⟩
  · change (last - first + 1 - 1) * 1 < 2 ^ 64
    omega
  · change last - first = (last - first + 1 - 1) * 1
    omega
  refine bind_eq_ok.2 ⟨last, okOr_eq_ok.2 (checkedAddU64_eq_some.2 ⟨?_, ?_⟩), ?_⟩
  · change first + (last - first) < 2 ^ 64
    omega
  · change last = first + (last - first)
    omega
  exact bind_eq_ok.2 ⟨(), ensure_eq_ok.2 (Nat.le_refl last), rfl⟩

/-- **The preparation succeeds** over a partition of the index. -/
theorem prepareRepresentatives_of {E : Type} (hIndex : IndexOf S index)
    (h : Partitions S.length groups) (hg : groups[0]? = some g) :
    prepareRepresentatives (E := E) (navigatorOf groups) index =
      .ok (representativePlan groups, cursorAt groups 0 g, targetOf groups.length 0 g) := by
  have hBound := hIndex.bounded
  have hPos := (List.getElem?_eq_some_iff.1 hg).1
  obtain ⟨-, gLast, -, hLast⟩ := ends_of_getElem? hg
  have hSpan := h.tiles.span hLast
  have hEnd := h.tiles.last_eq hLast (by omega)
  have hOrder := representative_le h (Nat.zero_le _) hg hLast
  refine bind_eq_ok.2 ⟨_, mapError_eq_ok.2 hIndex.status, ?_⟩
  refine bind_eq_ok.2 ⟨(), ensure_eq_ok.2 rfl, ?_⟩
  refine bind_eq_ok.2 ⟨S.length, okOr_eq_ok.2 rfl, ?_⟩
  refine bind_eq_ok.2 ⟨(), ensure_eq_ok.2 (by omega), ?_⟩
  refine bind_eq_ok.2 ⟨(), ensure_eq_ok.2 (Nat.pos_iff_ne_zero.1 hPos), ?_⟩
  refine bind_eq_ok.2 ⟨_, mapError_eq_ok.2 (nextGroup_first h hBound hg), ?_⟩
  refine bind_eq_ok.2 ⟨_, okOr_eq_ok.2 rfl, ?_⟩
  refine bind_eq_ok.2 ⟨targetOf groups.length (groups.length - 1) gLast, mapError_eq_ok.2 ?_, ?_⟩
  · exact groupContaining_of h hBound hLast (by omega) (by omega)
  refine bind_eq_ok.2 ⟨(), ensure_eq_ok.2 ⟨rfl, checkedAddU64_eq_some.2 ⟨?_, ?_⟩⟩, ?_⟩
  · have := h.lt hBound hLast
    change groups.length - 1 + 1 < 2 ^ 64
    omega
  · change groups.length = groups.length - 1 + 1
    omega
  refine bind_eq_ok.2 ⟨(), ensure_eq_ok.2 hOrder, ?_⟩
  refine bind_eq_ok.2 ⟨representativePlan groups, mapError_eq_ok.2 ?_, rfl⟩
  rw [representativePlan_eq hg hLast]
  exact planExtraction_of hIndex hOrder (representative_lt h hLast)

end Preparation

/-! ## Visits -/

/-- A sink that puts every image in place, in one byte. -/
def acceptingSink : FrameOutputSink Unit Unit where
  writeFrame output := pure ⟨output.format, 1⟩
  errorText _ := ""

/-- The manifest of `groups` once the lines of the first `k` are written, for
images of one byte each. -/
structure HasRoom (groups : List FrameGroup) (k : Nat) (w : ExtractionManifestWriter) : Prop where
  expected : w.expectedFrames = groups.length
  emitted : w.emittedFrames = k
  bytes : w.encodedBytes = k
  unfinished : w.finished = false

/-- The export waits for group `k`, and the manifest has room for it. -/
structure Awaits (groups : List FrameGroup) (k : Nat) (g : FrameGroup)
    (f : FilterState (ExportState Unit)) : Prop where
  next : f.nextGroup = some (targetOf groups.length k g)
  cursor : f.cursor = cursorAt groups k g
  count : f.representativeFrames = k
  room : HasRoom groups k f.visitor.manifest

/-- An image with these pixels was put in place under this identity. -/
def Committed (frameId : Nat) (pixels : OwnedRgbaFrame) (commits : List Commit) : Prop :=
  ∃ commit ∈ commits, commit.output.progress.frameId = frameId ∧ commit.output.pixels = pixels

section Visit

variable {format : ExtractionImageFormat} {entry : FrameIndexEntry} {pixels : OwnedRgbaFrame}

theorem openDevice_never_fails : ¬ openDevice.Fails := fun ⟨_, hFails⟩ => hFails rfl

theorem newManifest_room {header : ManifestHeader} {w : ExtractionManifestWriter}
    (hHeader : ManifestHeader.new .uniqueGroupRepresentatives format groups.length =
      .ok header) :
    wp (newManifest openDevice header) (fun _ w' => HasRoom groups 0 w') (fun _ _ => False) w := by
  obtain ⟨_, -, hHeader⟩ := bind_eq_ok.1 hHeader
  obtain ⟨⟨⟩, hPositive, hHeader⟩ := bind_eq_ok.1 hHeader
  cases hHeader
  rw [ensure_eq_ok] at hPositive
  unfold newManifest
  rw [wp_bind, wp_ofExcept]
  refine ⟨fun _ _ => ?_, nofun⟩
  rw [wp_bind, wp_ofExcept]
  refine ⟨fun _ _ => ?_, fun e hRefused => absurd hRefused (ensure_ne_error ⟨rfl, hPositive⟩)⟩
  rw [wp_bind, wp_get, wp_bind, wp_set]
  refine writeJsonLine_wp ?_ (fun hFails => absurd hFails openDevice_never_fails)
  intro calls
  exact ⟨rfl, rfl, rfl, rfl⟩

theorem validateGroup_of (hk : k < groups.length) (hValid : g.Valid)
    (hFits : g.lastFrame + 1 < 2 ^ 64) :
    validateGroup g.representativeFrame (manifestGroup (targetOf groups.length k g)) = .ok () := by
  have hFirst := hValid.first_le
  have hLast := hValid.le_last
  refine bind_eq_ok.2 ⟨(), ensure_eq_ok.2 ⟨?_, hk⟩, ?_⟩
  · change groups.length ≠ 0
    omega
  refine bind_eq_ok.2 ⟨(), ensure_eq_ok.2 ⟨hFirst, hLast, rfl⟩, ?_⟩
  refine bind_eq_ok.2 ⟨g.lastFrame - g.firstFrame + 1, ?_, ensure_eq_ok.2 hValid.count⟩
  refine okOr_eq_ok.2 (checkedAddU64_eq_some.2 ⟨?_, rfl⟩)
  change g.lastFrame - g.firstFrame + 1 < 2 ^ 64
  omega

/-- The line of the awaited group is written. -/
theorem writeFrame_room (h : Partitions frameCount groups) (hBound : frameCount < 2 ^ 63)
    (hg : groups[k]? = some g) {w : ExtractionManifestWriter} (hRoom : HasRoom groups k w)
    (hEntry : entry.frameId = g.representativeFrame) :
    wp (writeFrame openDevice ⟨⟨g.representativeFrame, k + 1, groups.length⟩, entry,
        frameFileName g.representativeFrame format, 1,
        some (manifestGroup (targetOf groups.length k g))⟩)
      (fun _ w' => HasRoom groups (k + 1) w') (fun _ _ => False) w := by
  have hk := (List.getElem?_eq_some_iff.1 hg).1
  have hLt := h.lt hBound hg
  have hSpan := h.tiles.span hg
  have hEmitted := hRoom.emitted
  have hBytes := hRoom.bytes
  have hCheck : checkFrame w ⟨⟨g.representativeFrame, k + 1, groups.length⟩, entry,
      frameFileName g.representativeFrame format, 1,
      some (manifestGroup (targetOf groups.length k g))⟩ =
      .ok (w.emittedFrames + 1, w.encodedBytes + 1) := by
    refine checkFrame_of hRoom.unfinished ?_ ?_ hRoom.expected.symm hEntry.symm
      (frameFileName_leaf _ format) Nat.one_ne_zero ?_ ?_
    · change k + 1 = w.emittedFrames + 1
      rw [hEmitted]
    · omega
    · exact validateGroup_of hk (h.validAt hg) (by omega)
    · change w.encodedBytes + 1 < 2 ^ 64
      omega
  refine writeFrame_wp ?_ ?_
  · intro ordinal bytes calls hOk
    rw [hCheck] at hOk
    cases hOk
    exact ⟨hRoom.expected, congrArg (· + 1) hEmitted, congrArg (· + 1) hBytes, hRoom.unfinished⟩
  · rintro e w' (hRefused | hFails)
    · rw [hCheck] at hRefused
      cases hRefused
    · exact openDevice_never_fails hFails

/-- The representative of the awaited group is committed and recorded. -/
theorem writeRepresentative_room (h : Partitions frameCount groups) (hBound : frameCount < 2 ^ 63)
    (hg : groups[k]? = some g) {v : ExportState Unit} (hRoom : HasRoom groups k v.manifest)
    (hEntry : entry.frameId = g.representativeFrame) :
    wp (writeRepresentative format acceptingSink openDevice
        ⟨⟨g.representativeFrame, k + 1, groups.length⟩, targetOf groups.length k g, entry, pixels⟩)
      (fun _ v' => HasRoom groups (k + 1) v'.manifest ∧
        Committed g.representativeFrame pixels v'.commits) (fun _ _ => False) v := by
  unfold writeRepresentative commitAndRecord commitOutput
  rw [wp_bind, wp_adaptExcept, wp_bind, wp_zoom]
  change wp (do ofExcept _ _; _) _ _ _
  rw [wp_bind, wp_ofExcept]
  refine ⟨fun _ _ => ?_, fun e hRefused => absurd hRefused (ensure_ne_error rfl)⟩
  rw [wp_bind, wp_ofExcept]
  refine ⟨fun _ _ => ?_, fun e hRefused => absurd hRefused (ensure_ne_error Nat.one_ne_zero)⟩
  rw [wp_adaptExcept]
  unfold onManifest
  rw [wp_zoom]
  refine wp_mono (writeFrame_room h hBound hg hRoom hEntry) ?_ (fun _ _ hNever => hNever)
  intro _ w hNext
  exact ⟨hNext, _, List.mem_append_right _ (List.mem_singleton_self _), rfl, rfl⟩

theorem Committed.append {frameId : Nat} {commits more : List Commit}
    (h : Committed frameId pixels commits) : Committed frameId pixels (commits ++ more) := by
  obtain ⟨commit, hMem, hIs⟩ := h
  exact ⟨commit, List.mem_append_left _ hMem, hIs⟩

/-- A frame before the awaited representative is passed over. -/
theorem filterRepresentative_passes {f : FilterState (ExportState Unit)} {x : ExtractedRgbaFrame}
    (h : Awaits groups k g f) (hBefore : x.progress.frameId < g.representativeFrame) :
    filterRepresentative (navigatorOf groups) (writeRepresentative format acceptingSink openDevice)
      x f = .ok () f := by
  have hPass : wp (filterRepresentative (navigatorOf groups)
      (writeRepresentative format acceptingSink openDevice) x) (fun _ f' => f' = f)
      (fun _ _ => False) f := by
    unfold filterRepresentative
    rw [wp_bind, wp_get, h.next]
    change wp (if x.progress.frameId < g.representativeFrame then pure () else _) _ _ _
    rw [if_pos hBefore, wp_pure]
  obtain ⟨_, f', hRun, rfl⟩ := wp_returns hPass
  exact hRun

/-- At the awaited representative the image is put in place.  The filter goes
on to the next group, if there is one. -/
theorem filterRepresentative_emits (h : Partitions frameCount groups) (hBound : frameCount < 2 ^ 63)
    (hg : groups[k]? = some g) {f : FilterState (ExportState Unit)} {x : ExtractedRgbaFrame}
    (hAwaits : Awaits groups k g f) (hId : x.progress.frameId = g.representativeFrame)
    (hEntry : x.indexEntry.frameId = g.representativeFrame) :
    wp (filterRepresentative (navigatorOf groups)
        (writeRepresentative format acceptingSink openDevice) x)
      (fun _ f' => Committed g.representativeFrame x.pixels f'.visitor.commits ∧
        ∀ g', groups[k + 1]? = some g' → Awaits groups (k + 1) g' f')
      (fun _ f' => Committed g.representativeFrame x.pixels f'.visitor.commits ∧
        groups[k + 1]? = none) f := by
  have hLt := h.lt hBound hg
  unfold filterRepresentative
  rw [wp_bind, wp_get, hAwaits.next]
  change wp (if x.progress.frameId < g.representativeFrame then pure ()
    else if x.progress.frameId ≠ g.representativeFrame then throw _ else _) _ _ _
  rw [if_neg (Nat.not_lt.2 (Nat.le_of_eq hId.symm)), if_neg (not_not.2 hId)]
  unfold emitRepresentative
  rw [wp_bind, wp_get, wp_bind, wp_set, wp_bind, hAwaits.count,
    okOr_eq_ok.2 (checkedAddU64_eq_some.2 ⟨by omega, rfl⟩), wp_ofExcept_ok]
  rw [wp_bind, wp_modify, wp_bind, wp_adaptExcept, wp_zoom, hId]
  refine wp_mono (writeRepresentative_room h hBound hg hAwaits.room hEntry) ?_
    (fun _ _ hNever => hNever.elim)
  rintro _ v ⟨hRoom, hCommitted⟩
  rw [wp_bind, wp_ofExcept, hAwaits.cursor]
  constructor
  · rintro ⟨next, cursor⟩ hNext
    rw [wp_modify]
    refine ⟨hCommitted, ?_⟩
    intro g' hg'
    rw [nextGroup_next h hBound hg hg'] at hNext
    cases hNext
    exact ⟨rfl, rfl, rfl, hRoom⟩
  · intro e hStopped
    refine ⟨hCommitted, ?_⟩
    cases hg' : groups[k + 1]? with
    | none => rfl
    | some g' =>
        rw [nextGroup_next h hBound hg hg'] at hStopped
        cases hStopped

/-- The filter takes no image back. -/
theorem filterRepresentative_keeps {E τ : Type} {sink : FrameOutputSink E τ} {device : Device}
    {navigator : SimilarityGroupNavigator} {f : FilterState (ExportState τ)}
    {x : ExtractedRgbaFrame} {frameId : Nat} (h : Committed frameId pixels f.visitor.commits) :
    wp (filterRepresentative navigator (writeRepresentative format sink device) x)
      (fun _ f' => Committed frameId pixels f'.visitor.commits)
      (fun _ f' => Committed frameId pixels f'.visitor.commits) f := by
  have hVisit : ∀ (rep : ExtractedGroupRepresentative),
      wp (writeRepresentative format sink device rep)
        (fun _ v => Committed frameId pixels v.commits)
        (fun _ v => Committed frameId pixels v.commits) f.visitor := by
    intro rep
    unfold writeRepresentative commitAndRecord
    rw [wp_bind, wp_adaptExcept]
    refine commitOutput_wp ?_ (fun _ _ _ => h)
    intro report t
    rw [wp_bind, wp_ofExcept]
    refine ⟨fun _ _ => ?_, fun _ _ => h.append⟩
    rw [wp_bind, wp_ofExcept]
    refine ⟨fun _ _ => ?_, fun _ _ => h.append⟩
    rw [wp_adaptExcept]
    unfold onManifest
    rw [wp_zoom]
    exact writeFrame_wp (fun _ _ _ _ => h.append) (fun _ _ _ => h.append)
  unfold filterRepresentative
  rw [wp_bind, wp_get]
  split
  · exact h
  · split_ifs
    · exact h
    · exact h
    · unfold emitRepresentative
      rw [wp_bind, wp_get, wp_bind, wp_set, wp_bind, wp_ofExcept]
      refine ⟨fun _ _ => ?_, fun _ _ => h⟩
      rw [wp_bind, wp_modify, wp_bind, wp_adaptExcept, wp_zoom]
      refine wp_mono (hVisit _) ?_ (fun _ _ hKept => hKept)
      intro _ v hKept
      rw [wp_bind, wp_ofExcept]
      exact ⟨fun _ _ => hKept, fun _ _ => hKept⟩

theorem completeRepresentatives_keeps {E τ : Type} {device : Device} {n frameId : Nat}
    {batch : GroupBatchExtractionReport} {s : ExportState τ} (h : Committed frameId pixels s.commits) :
    wp (completeRepresentatives (E := E) device n batch)
      (fun _ s' => Committed frameId pixels s'.commits)
      (fun _ s' => Committed frameId pixels s'.commits) s := by
  have hAny : ∀ {x : Writing Unit}, wp x (fun _ _ => True) (fun _ _ => True) s.manifest := by
    intro x
    unfold wp
    split
    · trivial
    · trivial
  unfold completeRepresentatives
  rw [wp_bind, wp_get]
  dsimp only
  split_ifs
  · rw [wp_bind]
    exact closing_wp hAny (fun _ _ => h) (fun _ _ => h)
  · rw [wp_bind]
    exact closing_wp hAny (fun _ _ => h) (fun _ _ => h)

end Visit

/-! ## The whole export -/

section Run

variable [ContentHash] {S : List DecodedRgbaFrame} {index : FrameIndex}
  {format : ExtractionImageFormat} {m a : Nat} {pixels : OwnedRgbaFrame}

/-- Up to group `i`, the filter waits for the next group whose representative
has not been passed. -/
theorem filterRepresentative_accepts (hIndex : IndexOf S index) (h : Partitions S.length groups)
    (hg : groups[i]? = some g) :
    Accepts S (representativePlan groups)
      (filterRepresentative (navigatorOf groups)
        (writeRepresentative format acceptingSink openDevice)) g.representativeFrame
      fun c _ f => ∃ k gk, groups[k]? = some gk ∧ Awaits groups k gk f ∧
        c ≤ gk.representativeFrame ∧ k ≤ i := by
  have hBound := hIndex.bounded
  -- A frame that is passed over or emitted leaves a group at or after it.
  have hPlanned : ∀ {c}, c < g.representativeFrame →
      ∀ {k gk}, groups[k]? = some gk → k ≤ i → c = gk.representativeFrame → k + 1 ≤ i := by
    intro c hc k gk hgk hk hHere
    rcases Nat.lt_or_eq_of_le hk with hLt | rfl
    · exact hLt
    · rw [hg, Option.some.injEq] at hgk
      rw [hgk] at hc
      omega
  constructor
  · rintro c n f hc hSkip ⟨k, gk, hgk, hAwaits, hLe, hk⟩
    refine ⟨k, gk, hgk, hAwaits, ?_, hk⟩
    -- The plan leaves no frame between its ends out.
    rcases Nat.lt_or_eq_of_le hLe with hLt | hHere
    · exact hLt
    · obtain ⟨gFirst, gLast, hFirst, hLast⟩ := ends_of_getElem? hg
      have hBelow := representative_le h (Nat.zero_le k) hFirst hgk
      have hIn := (List.getElem?_eq_some_iff.1 hgk).1
      have hAbove := representative_le h (by omega) hgk hLast
      rw [representativePlan_eq hFirst hLast] at hSkip
      unfold ExtractionPlan.contains at hSkip
      rw [if_neg (by simp only [not_or, Nat.not_lt]; omega), decide_eq_false_iff_not] at hSkip
      exact absurd (Nat.mod_one _) hSkip
  · rintro c n f entry hc - ⟨k, gk, hgk, hAwaits, hLe, hk⟩ hRow pixels
    rcases Nat.lt_or_eq_of_le hLe with hLt | rfl
    · exact ⟨f, filterRepresentative_passes hAwaits hLt, k, gk, hgk, hAwaits, hLt, hk⟩
    · have hNext := hPlanned hc hgk hk rfl
      have hi := (List.getElem?_eq_some_iff.1 hg).1
      obtain ⟨g', hg'⟩ : ∃ g', groups[k + 1]? = some g' :=
        ⟨_, List.getElem?_eq_getElem (by omega)⟩
      have hRun : wp (filterRepresentative (navigatorOf groups)
          (writeRepresentative format acceptingSink openDevice)
          ⟨⟨gk.representativeFrame, n + 1, (representativePlan groups).selectedCount⟩, entry, pixels⟩)
          (fun _ f' => Awaits groups (k + 1) g' f') (fun _ _ => False) f := by
        refine wp_mono (filterRepresentative_emits h hBound hgk hAwaits rfl (row_frameId hRow)) ?_ ?_
        · rintro _ f' ⟨-, hNow⟩
          exact hNow g' hg'
        · rintro e f' ⟨-, hNone⟩
          rw [hg'] at hNone
          cases hNone
      obtain ⟨_, f', hReturns, hNow⟩ := wp_returns hRun
      exact ⟨f', hReturns, k + 1, g', hg', hNow,
        representative_mono h (Nat.lt_succ_self k) hgk hg', hNext⟩

/-- The batch of a group export commits what its alignment delivers for a
representative. -/
theorem representatives_committed (hIndex : IndexOf S index) (h : Partitions S.length groups)
    (hg : groups[i]? = some g) {row : FrameIndexEntry} {us : Int}
    (hRow : (timeline S)[(representativePlan groups).firstFrame]? = some row)
    (hAnchor : anchorSeek row.anchor = some (a, us))
    (hDelivers : Delivers S (representativePlan groups) m a g.representativeFrame pixels)
    {gFirst : FrameGroup} (hFirst : groups[0]? = some gFirst)
    {f : FilterState (ExportState Unit)} (hAwaits : Awaits groups 0 gFirst f) :
    wp (extractRgbaPlan neverCancelled index (representativePlan groups)
        (filterRepresentative (navigatorOf groups)
          (writeRepresentative format acceptingSink openDevice)) (landingAt S index m))
      (fun _ s => Committed g.representativeFrame pixels s.visitor.visitor.commits)
      (fun _ s => Committed g.representativeFrame pixels s.visitor.visitor.commits)
      (BatchState.start f) := by
  have hBound := hIndex.bounded
  obtain ⟨-, gLast, -, hLast⟩ := ends_of_getElem? hg
  have hi := (List.getElem?_eq_some_iff.1 hg).1
  have hOrder := representative_le h (Nat.zero_le _) hFirst hLast
  have hPlan : validatePlan index (representativePlan groups) = .ok gLast.representativeFrame := by
    rw [representativePlan_eq hFirst hLast]
    exact validatePlan_of hIndex hOrder (representative_lt h hLast)
  have hStart : (representativePlan groups).firstFrame = gFirst.representativeFrame := by
    rw [representativePlan_eq hFirst hLast]
  obtain ⟨t, hKeyframe⟩ := anchorSeek_some hAnchor
  obtain ⟨ha, -⟩ := anchor_spec hIndex.shaped hRow hKeyframe
  refine extractRgbaPlan_faultless (P := fun s =>
      Committed g.representativeFrame pixels s.visitor.visitor.commits)
    hIndex hPlan hRow hAnchor ha (contains_first_le hDelivers.planned).1
    (representative_le h (by omega) hg hLast) hDelivers.shifted hDelivers.ready
    (filterRepresentative_accepts hIndex h hg)
    ⟨0, gFirst, hFirst, hAwaits, Nat.le_of_eq hStart, Nat.zero_le i⟩ ?_
  rintro rounds n decoded decoder s hHere hn ⟨k, gk, hgk, hWaiting, hLe, hk⟩
  -- The group that is awaited when its representative comes is group `i`.
  obtain rfl : k = i := by
    rcases Nat.lt_or_eq_of_le hk with hLt | hEq
    · have := representative_mono h hLt hgk hg
      omega
    · exact hEq
  rw [hg, Option.some.injEq] at hgk
  subst hgk
  refine extractOnward_hands hIndex hDelivers.shifted hHere hn hDelivers.planned hDelivers.pixels
    ?_ ?_ ?_
  · intro entry s' hEntry hQuiet
    refine runVisitor_wp (wp_mono (filterRepresentative_emits h hBound hg ?_ rfl
      (row_frameId hEntry)) (fun _ _ hDone => hDone.1) (fun _ _ hDone => hDone.1))
    rw [hQuiet.2]
    exact hWaiting
  · intro frame s' hCommitted
    exact runVisitor_wp (filterRepresentative_keeps hCommitted)
  · intro s' s'' hCommitted hQuiet
    rwa [hQuiet.2]

theorem extractGroupRepresentatives_committed (hIndex : IndexOf S index)
    (h : Partitions S.length groups) (hg : groups[i]? = some g) {row : FrameIndexEntry} {us : Int}
    (hRow : (timeline S)[(representativePlan groups).firstFrame]? = some row)
    (hAnchor : anchorSeek row.anchor = some (a, us))
    (hDelivers : Delivers S (representativePlan groups) m a g.representativeFrame pixels)
    {s : ExportState Unit} (hRoom : HasRoom groups 0 s.manifest) :
    wp (extractGroupRepresentatives (navigatorOf groups)
        (writeRepresentative format acceptingSink openDevice) index neverCancelled
        (landingAt S index m))
      (fun _ s' => Committed g.representativeFrame pixels s'.commits)
      (fun _ s' => Committed g.representativeFrame pixels s'.commits) s := by
  obtain ⟨gFirst, -, hFirst, -⟩ := ends_of_getElem? hg
  unfold extractGroupRepresentatives
  rw [wp_bind, prepareRepresentatives_of hIndex h hFirst, wp_ofExcept_ok]
  dsimp only
  rw [wp_bind, wp_adaptExcept, wp_zoom]
  unfold extractFiltered
  rw [wp_bind]
  refine wp_mono (representatives_committed hIndex h hg hRow hAnchor hDelivers hFirst
    ⟨rfl, rfl, rfl, hRoom⟩) ?_ (fun _ _ hCommitted => hCommitted)
  intro report s' hCommitted
  rw [wp_bind, wp_get, wp_pure]
  dsimp only
  split_ifs
  · exact hCommitted
  · exact hCommitted

/-- **A misread representative is exported** when nothing stops the export. -/
theorem misread_exported (hIndex : IndexOf S index) (h : Partitions S.length groups)
    (hg : groups[i]? = some g) {row : FrameIndexEntry} {us : Int}
    (hRow : (timeline S)[(representativePlan groups).firstFrame]? = some row)
    (hAnchor : anchorSeek row.anchor = some (a, us))
    (hDelivers : Delivers S (representativePlan groups) m a g.representativeFrame pixels)
    (s : ExportState Unit) :
    wp (exportGroupRepresentatives format acceptingSink openDevice neverCancelled index
        (navigatorOf groups) (landingAt S index m))
      (fun _ s' => Committed g.representativeFrame pixels s'.commits)
      (fun _ s' => Committed g.representativeFrame pixels s'.commits) s := by
  have hPos : groups.length ≠ 0 := by
    have := (List.getElem?_eq_some_iff.1 hg).1
    omega
  obtain ⟨header, hHeader⟩ : ∃ header, ManifestHeader.new .uniqueGroupRepresentatives format
      (navigatorOf groups).groupCount = .ok header :=
    ⟨_, bind_eq_ok.2 ⟨(), rfl, bind_eq_ok.2 ⟨(), ensure_eq_ok.2 hPos, rfl⟩⟩⟩
  unfold exportGroupRepresentatives
  rw [wp_bind, wp_ofExcept]
  refine ⟨fun _ _ => ?_, fun e hRefused => absurd hRefused (ensure_ne_error hPos)⟩
  rw [wp_bind, hHeader, wp_ofExcept_ok]
  rw [wp_bind]
  unfold closing
  rw [wp_adaptExcept]
  unfold onManifest
  rw [wp_zoom]
  refine wp_mono (newManifest_room hHeader) ?_ (fun _ _ hNever => hNever.elim)
  intro _ w hRoom
  rw [wp_bind, wp_attempt]
  refine wp_mono (extractGroupRepresentatives_committed hIndex h hg hRow hAnchor hDelivers hRoom)
    ?_ ?_
  · intro batch s' hCommitted
    exact completeRepresentatives_keeps hCommitted
  · intro e s' hCommitted
    exact wp_mono (failRepresentatives_throws fun _ => hCommitted)
      (fun _ _ hNever => hNever.elim) (fun _ _ hKept => hKept)

end Run

end FrameScope.Ports.GroupFaultless
