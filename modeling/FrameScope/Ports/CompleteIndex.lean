import FrameScope.Ports.IndexingRuns

/-!
# The finished index of a decode sequence

Navigation and extraction start from a complete index.  `IndexOf S index`
says that `index` is the finished index of `S`; every indexing run that
succeeds leaves one.  Its readers are then functions of `S`: an identity looks
up the row of the frame at that position, and an anchor names a clean keyframe
at or before it.

The last section is what makes a timestamp seek trustworthy.  In a timeline
that is safe to seek, only the keyframe itself matches the row of a clean
keyframe.
-/

namespace FrameScope.Ports.CompleteIndex

open FrameScope.Verified.Runs
open FrameScope.Ports.Core
open FrameScope.Ports.Decoder
open FrameScope.Ports.FrameIndexModel
open FrameScope.Ports.SourceBinding
open FrameScope.Ports.FrameIndexStore
open FrameScope.Ports.FrameTimeline
open FrameScope.Ports.FrameIndexState
open FrameScope.Ports.FrameIndexInvariant
open FrameScope.Ports.Indexing
open FrameScope.Ports.IndexingCall
open FrameScope.Ports.IndexingRuns

/-! ## Rows of a timeline -/

/-- The row at position `i` is the entry of the frame there, and the frame
matches it. -/
theorem row_spec {S : List DecodedRgbaFrame} {i : Nat} {row : FrameIndexEntry}
    (h : (timeline S)[i]? = some row) :
    ∃ f, S[i]? = some f ∧ matchesIndexEntry f.frame row = true := by
  rw [timeline_getElem?, Option.map_eq_some_iff] at h
  obtain ⟨f, hFrame, rfl⟩ := h
  exact ⟨f, hFrame, matches_entryFromDecoded _ _ _⟩

/-- Every frame has a row, and matches it. -/
theorem row_of_frame {S : List DecodedRgbaFrame} {i : Nat} {f : DecodedRgbaFrame}
    (h : S[i]? = some f) :
    ∃ row, (timeline S)[i]? = some row ∧ matchesIndexEntry f.frame row = true := by
  rw [timeline_getElem?, h]
  exact ⟨_, rfl, matches_entryFromDecoded _ _ _⟩

theorem row_frameId {S : List DecodedRgbaFrame} {i : Nat} {row : FrameIndexEntry}
    (h : (timeline S)[i]? = some row) : row.frameId = i := by
  rw [timeline_getElem?, Option.map_eq_some_iff] at h
  obtain ⟨f, -, rfl⟩ := h
  rfl

/-- A frame that matches a row of the timeline has the metadata of the frame of
that row. -/
theorem matches_row_iff {S : List DecodedRgbaFrame} {i : Nat} {f : DecodedRgbaFrame}
    {row : FrameIndexEntry} (hRow : (timeline S)[i]? = some row) (hFrame : S[i]? = some f)
    (g : DecodedFrame) :
    matchesIndexEntry g row = true ↔
      g.presentationTimestamp = f.frame.presentationTimestamp ∧
        g.duration = f.frame.duration ∧ g.keyframe = f.frame.keyframe ∧
        g.corrupt = f.frame.corrupt := by
  obtain ⟨f', hFrame', hMatches⟩ := row_spec hRow
  rw [hFrame, Option.some.injEq] at hFrame'
  subst hFrame'
  obtain ⟨hTime, hDuration, hKey, hCorrupt⟩ := (matchesIndexEntry_iff _ _).1 hMatches
  rw [matchesIndexEntry_iff, hTime, hDuration, hKey, hCorrupt]

/-- An anchor names a clean keyframe at or before its row. -/
theorem anchor_spec {stream : FrameIndexStreamIdentity} {S : List DecodedRgbaFrame}
    (hShaped : Shaped stream (timeline S)) {i a : Nat} {row : FrameIndexEntry}
    {t : Option MediaTimestamp} (hRow : (timeline S)[i]? = some row)
    (hAnchor : row.anchor = .keyframe a t) :
    a ≤ i ∧ ∃ key, (timeline S)[a]? = some key ∧ key.isClean = true ∧
      key.presentationTimestamp = t := by
  have hMem := List.mem_of_getElem? hRow
  have hValid := (validate_iff stream row).1 (hShaped.valid row hMem)
  have hBack := (hValid.keyframe a t hAnchor).1
  have hId : row.frameId = i := row_frameId hRow
  obtain ⟨key, hKey, hKeyId, hClean, hTime⟩ :=
    (indexEntries_anchored (framesOf S)).1 row hMem a t hAnchor
  refine ⟨hId ▸ hBack, key, ?_, hClean, hTime⟩
  rw [← hKeyId]
  exact getElem?_frameId hShaped hKey

/-- **A safe timeline aligns.**  Only the keyframe itself matches the row of a
clean keyframe. -/
theorem aligned_position {S : List DecodedRgbaFrame}
    (hSafe : seekSafetyOf (timeline S) = .unambiguous) {a q : Nat} {key : FrameIndexEntry}
    {f : DecodedRgbaFrame} (hKey : (timeline S)[a]? = some key) (hClean : key.isClean = true)
    (hFrame : S[q]? = some f) (hMatches : matchesIndexEntry f.frame key = true) : q = a := by
  obtain ⟨row, hRow, hOwn⟩ := row_of_frame hFrame
  have hTime : row.presentationTimestamp = key.presentationTimestamp :=
    ((matchesIndexEntry_iff _ _).1 hOwn).1.symm.trans ((matchesIndexEntry_iff _ _).1 hMatches).1
  have hRowClean : row.isClean = true := by
    rw [← isClean_of_matches hOwn, isClean_of_matches hMatches, hClean]
  exact clean_position_unique hSafe hRow hKey hRowClean hClean hTime

/-! ## Reading a complete index -/

section Reading

variable [ContentHash]

/-- `index` is the finished index of `S`. -/
structure IndexOf (S : List DecodedRgbaFrame) (index : FrameIndex) : Prop where
  shaped : Shaped index.streamIdentity (timeline S)
  content : index = toIndex index.sourceIdentity index.streamIdentity (completeState S)

/-- An indexing run that succeeds, after any runs before it, leaves one. -/
theorem indexOf_of_runs {source : SourceIdentity} {stream : FrameIndexStreamIdentity}
    {S : List DecodedRgbaFrame} (earlier : List IndexingRun) (last : IndexingRun)
    (hRuns : Meets IndexingRun.step (Decodes S) (toIndex source stream IndexState.fresh)
      (earlier ++ [last]))
    {report : IndexingReport} {session : Session}
    (hOk : last.result (earlier.foldl IndexingRun.step
      (toIndex source stream IndexState.fresh)) = (.ok report, session)) :
    IndexOf S session.index := by
  obtain ⟨hEarlier, hLast⟩ := meets_concat hRuns
  obtain ⟨st, hIndex, hSt⟩ := run_invariant step_progressing (fresh_progressing S) hEarlier
  rw [hIndex] at hLast hOk
  rcases run_spec last hSt hLast with
    ⟨report', session', hRun, hState, hSound⟩ | ⟨error, session', st', hRun, -⟩
  · rw [hOk] at hRun
    cases hRun
    rw [hState]
    exact ⟨hSound.shaped, rfl⟩
  · rw [hOk] at hRun
    cases hRun

theorem indexOf_toIndex {source : SourceIdentity} {stream : FrameIndexStreamIdentity}
    {S : List DecodedRgbaFrame} (h : Shaped stream (timeline S)) :
    IndexOf S (toIndex source stream (completeState S)) := ⟨h, rfl⟩

variable {S : List DecodedRgbaFrame} {index : FrameIndex}

theorem IndexOf.bounded (h : IndexOf S index) : S.length < 2 ^ 63 := by
  have hBound := h.shaped.bounded
  rwa [timeline_length] at hBound

theorem IndexOf.status (h : IndexOf S index) :
    index.status = .ok (completeState S).status := by
  rw [h.content]
  exact status_toIndex h.shaped

theorem IndexOf.timestampSeekSafety (h : IndexOf S index) :
    index.timestampSeekSafety = .ok (seekSafetyOf (timeline S)) := by
  rw [h.content, timestampSeekSafety_toIndex]
  rfl

theorem IndexOf.entry (h : IndexOf S index) {i : Nat} (hi : i < 2 ^ 63) :
    index.entry i = .ok (timeline S)[i]? := by
  rw [h.content]
  exact entry_toIndex h.shaped hi

theorem IndexOf.entry_some (h : IndexOf S index) {i : Nat} {row : FrameIndexEntry}
    (hEntry : index.entry i = .ok (some row)) : (timeline S)[i]? = some row := by
  rw [h.content] at hEntry
  exact entry_toIndex_some h.shaped hEntry

end Reading

/-! ## A sample index -/

theorem sampleTimeline_shaped : Shaped sampleStream (timeline sampleSequence) where
  numbered := entriesFrom_numbered 0 .streamStart (framesOf sampleSequence)
  valid := by
    intro e he
    change e ∈ [_, _] at he
    simp only [List.mem_cons, List.not_mem_nil, or_false] at he
    rcases he with rfl | rfl
    · rfl
    · rfl
  bounded := by decide

section Samples

local instance : ContentHash := constantHash

/-- The finished index of `sampleSequence`. -/
def sampleIndex : FrameIndex := toIndex sampleSource sampleStream (completeState sampleSequence)

theorem sampleIndex_indexOf : IndexOf sampleSequence sampleIndex :=
  indexOf_toIndex sampleTimeline_shaped

end Samples

theorem sampleOpener_conforming : OpensConforming sampleSequence sampleOpener := by
  intro n d hOpen
  cases hOpen
  exact faultlessDecoder_conforms _ _ _ fun _ => Nat.zero_le _

end FrameScope.Ports.CompleteIndex
