import FrameScope.Ports.IndexingAttempt

/-!
# What one indexing call makes of the index

A call of `build_or_resume_frame_index` leaves the stored rows as they were, or
rows that belong to the decoded sequence.  When it succeeds without a bounded
resume, the rows are the timeline of that sequence whatever was stored before.
When the stored rows are already a prefix of the timeline and safe to seek, a
bounded resume continues exactly where the prefix ends (`resume_aligned`).
-/

namespace FrameScope.Ports.IndexingCall

open FrameScope.Verified.KeyedTable
open FrameScope.Ports.Core
open FrameScope.Ports.Decoder
open FrameScope.Ports.FrameIndexModel
open FrameScope.Ports.SourceBinding
open FrameScope.Ports.FrameIndexStore
open FrameScope.Ports.FrameTimeline
open FrameScope.Ports.FrameIndexState
open FrameScope.Ports.FrameIndexInvariant
open FrameScope.Ports.Indexing
open FrameScope.Ports.IndexingAttempt

/-- The metadata of the decoded frames. -/
def framesOf (S : List DecodedRgbaFrame) : List DecodedFrame := S.map (·.frame)

/-- The timeline of a decode sequence. -/
def timeline (S : List DecodedRgbaFrame) : List FrameIndexEntry := indexEntries (framesOf S)

@[simp] theorem framesOf_length (S : List DecodedRgbaFrame) : (framesOf S).length = S.length :=
  List.length_map _

@[simp] theorem timeline_length (S : List DecodedRgbaFrame) : (timeline S).length = S.length := by
  simp [timeline]

/-- Row `i` of the timeline is the entry of frame `i`. -/
theorem timeline_getElem? (S : List DecodedRgbaFrame) (i : Nat) :
    (timeline S)[i]? = (S[i]?).map fun f =>
      entryFromDecoded i f.frame (anchorAfter 0 .streamStart ((framesOf S).take i)) := by
  rw [timeline, indexEntries, entriesFrom_getElem?, framesOf, List.getElem?_map, Option.map_map,
    Nat.zero_add]
  rfl

/-- The timeline splits at any identity. -/
theorem timeline_split (S : List DecodedRgbaFrame) (c : Nat) (hc : c ≤ S.length) :
    timeline S = (timeline S).take c ++
      entriesFrom c (anchorAfter 0 .streamStart ((framesOf S).take c)) ((framesOf S).drop c) := by
  have hLen : ((framesOf S).take c).length = c := by simp [hc]
  have hSplit := entriesFrom_append 0 .streamStart ((framesOf S).take c) ((framesOf S).drop c)
  rw [List.take_append_drop, hLen, Nat.zero_add, ← entriesFrom_take] at hSplit
  exact hSplit

/-- A stored row of a prefix of the timeline is the entry of its frame. -/
theorem stored_row {S : List DecodedRgbaFrame} {entries : List FrameIndexEntry}
    (hStored : entries <+: timeline S) {i : Nat} (hi : i < entries.length) :
    ∃ f anchor, S[i]? = some f ∧ entries[i]? = some (entryFromDecoded i f.frame anchor) := by
  have hRow := List.getElem?_eq_getElem hi
  have hTimeline : (timeline S)[i]? = some entries[i] := List.prefix_iff_getElem?.1 hStored i hi
  rw [timeline_getElem?] at hTimeline
  cases hFrame : S[i]? with
  | none => simp [hFrame] at hTimeline
  | some f =>
      rw [hFrame, Option.map_some, Option.some.injEq] at hTimeline
      exact ⟨f, _, rfl, by rw [hRow, ← hTimeline]⟩

/-- Every session the factory opens decodes the source from its start. -/
def OpensFresh (S : List DecodedRgbaFrame) (opens : Opener) : Prop :=
  ∀ n d, opens n = .ok d → d.script.Emits S 0

/-! ## How a call leaves the index -/

/-- What a call that fails leaves of the state `st`. -/
structure Kept (stream : FrameIndexStreamIdentity) (T : List FrameIndexEntry)
    (st st' : IndexState) : Prop where
  shaped : Shaped stream st'.entries
  safety : ExactSafety st → ExactSafety st'
  rows : st'.entries = st.entries ∨ st'.entries <+: T
  incomplete : st.lifecycle ≠ .complete → st'.lifecycle ≠ .complete
  frameCount : st.frameCount = none → st'.frameCount = none

/-- What a call that succeeds leaves of the state `st`. -/
structure Built (stream : FrameIndexStreamIdentity) (T : List FrameIndexEntry)
    (st st' : IndexState) : Prop where
  shaped : Shaped stream st'.entries
  safety : ExactSafety st → ExactSafety st'
  rows : st'.entries = T
  complete : st'.lifecycle = .complete
  frameCount : st'.frameCount = some T.length
  lastError : st'.lastError = none

variable {stream : FrameIndexStreamIdentity} {T : List FrameIndexEntry} {st st' : IndexState}

theorem Kept.refl (hShaped : Shaped stream st.entries) : Kept stream T st st :=
  ⟨hShaped, id, .inl rfl, id, id⟩

theorem Kept.mark (h : Kept stream T st st') (lifecycle : FrameIndexLifecycle)
    (error : Option String) (hPartial : lifecycle ≠ .complete) :
    Kept stream T st (st'.mark lifecycle error) :=
  ⟨h.shaped, h.safety, h.rows, fun _ => hPartial, fun _ => rfl⟩

/-- A built state is determined by the timeline and the seek-safety decision. -/
theorem Built.state_eq (h : Built stream T st st') :
    st' = ⟨.complete, some T.length, none, st'.seekSafety, T⟩ := by
  have hRows := h.rows
  have hComplete := h.complete
  have hCount := h.frameCount
  have hError := h.lastError
  cases st'
  simp_all

/-- A mark before the call does not show in what the call leaves. -/
theorem Kept.of_mark {lifecycle : FrameIndexLifecycle} {error : Option String}
    (h : Kept stream T (st.mark lifecycle error) st') (hPartial : lifecycle ≠ .complete) :
    Kept stream T st st' :=
  ⟨h.shaped, h.safety, h.rows, fun _ => h.incomplete hPartial, fun _ => h.frameCount rfl⟩

theorem Built.of_mark {lifecycle : FrameIndexLifecycle} {error : Option String}
    (h : Built stream T (st.mark lifecycle error) st') : Built stream T st st' :=
  ⟨h.shaped, h.safety, h.rows, h.complete, h.frameCount, h.lastError⟩

/-- After a rebuild nothing of the earlier rows is left. -/
theorem Kept.of_fresh (h : Kept stream T IndexState.fresh st') : Kept stream T st st' where
  shaped := h.shaped
  safety := fun _ => h.safety rfl
  rows := by
    rcases h.rows with hNone | hPrefix
    · right
      rw [hNone]
      exact List.nil_prefix
    · exact .inr hPrefix
  incomplete := fun _ => h.incomplete nofun
  frameCount := fun _ => h.frameCount rfl

theorem Built.of_fresh (h : Built stream T IndexState.fresh st') : Built stream T st st' :=
  ⟨h.shaped, fun _ => h.safety rfl, h.rows, h.complete, h.frameCount, h.lastError⟩

/-! ## From attempts to calls -/

theorem built_of_completes {c : Nat} {frames : List DecodedFrame}
    (h : Completes stream (st.mark .building none) c frames st')
    (hRows : st.entries.take c ++ entriesFrom c .streamStart frames = T) :
    Built stream T st st' where
  shaped := h.shaped
  safety := h.safety
  rows := h.rows.trans hRows
  complete := h.complete
  frameCount := by rw [h.frameCount, h.rows.trans hRows]
  lastError := h.lastError

theorem kept_of_extends {c : Nat} {frames : List DecodedFrame}
    (h : Extends stream (st.mark .building none) c frames st')
    (hRows : st.entries.take c ++ entriesFrom c .streamStart frames <+: T) :
    Kept stream T st st' where
  shaped := h.shaped
  safety := h.safety
  rows := by
    rcases h.rows with hSame | ⟨-, hPrefix⟩
    · exact .inl hSame
    · exact .inr (hPrefix.trans hRows)
  incomplete := fun _ => h.incomplete
  frameCount := fun _ => h.frameCount

/-- A session that emits `S` from `c` on has the frames of `S` from `c` on, as
far as they go. -/
theorem pending_frames {S : List DecodedRgbaFrame} {c : Nat} {pending : List Emission}
    {ending : Option FrameScopeError} (h : EmitsFrom S c pending ending) :
    pending.map (·.rgba.frame) <+: (framesOf S).drop c ∧
      (ending = none → pending.map (·.rgba.frame) = (framesOf S).drop c) := by
  have hMap : pending.map (·.rgba.frame) = (pending.map (·.rgba)).map (·.frame) := by
    rw [List.map_map]
    rfl
  rw [hMap, framesOf, ← List.map_drop]
  constructor
  · rw [h.map_rgba]
    exact (List.take_prefix _ _).map _
  · intro hEof
    subst hEof
    rw [h.map_rgba_of_eof]

theorem entriesFrom_initial {xs ys : List DecodedFrame} (c : Nat) (anchor : KeyframeAnchor)
    (h : xs <+: ys) : entriesFrom c anchor xs <+: entriesFrom c anchor ys := by
  obtain ⟨rest, rfl⟩ := h
  rw [entriesFrom_append]
  exact List.prefix_append _ _

/-- The rows a bounded resume starts from, continued by the frames it decodes,
are rows of the timeline. -/
theorem resume_rows {S : List DecodedRgbaFrame} {c : Nat} {e : Emission}
    {pending : List Emission} {ending : Option FrameScopeError}
    (hStored : st.entries <+: timeline S) (hBelow : c < st.entries.length)
    (hEmits : EmitsFrom S c (e :: pending) ending) (hClean : e.rgba.frame.isClean = true) :
    st.entries.take c ++ entriesFrom c .streamStart ((e :: pending).map (·.rgba.frame)) <+:
        timeline S ∧
      (ending = none →
        st.entries.take c ++ entriesFrom c .streamStart ((e :: pending).map (·.rgba.frame)) =
          timeline S) := by
  obtain ⟨hPrefix, hWhole⟩ := pending_frames hEmits
  have hLen : c ≤ S.length := by
    have hLe := hStored.length_le
    rw [timeline_length] at hLe
    omega
  have hTake : st.entries.take c = (timeline S).take c := by
    obtain ⟨more, hMore⟩ := hStored
    rw [← hMore, List.take_append_of_le_length hBelow.le]
  have hAnchor : entriesFrom c .streamStart ((e :: pending).map (·.rgba.frame)) =
      entriesFrom c (anchorAfter 0 .streamStart ((framesOf S).take c))
        ((e :: pending).map (·.rgba.frame)) :=
    entriesFrom_cons_clean c .streamStart hClean _ _
  rw [hAnchor, hTake]
  constructor
  · conv_rhs => rw [timeline_split S c hLen]
    exact List.prefix_append_right_inj _ |>.2 (entriesFrom_initial c _ hPrefix)
  · intro hEof
    rw [hWhole hEof, ← timeline_split S c hLen]

section Call

variable [ContentHash] {source : SourceIdentity}

/-- How a call can leave the state `st`. -/
inductive CallLeaves (source : SourceIdentity) (stream : FrameIndexStreamIdentity)
    (T : List FrameIndexEntry) (st : IndexState) : BuildResult → Prop
  | ok {report : IndexingReport} {session : Session} {st' : IndexState}
      (hIndex : session.index = toIndex source stream st') (hBuilt : Built stream T st st') :
      CallLeaves source stream T st (.ok report, session)
  | error {error : IndexingError} {session : Session} {st' : IndexState}
      (hIndex : session.index = toIndex source stream st') (hKept : Kept stream T st st') :
      CallLeaves source stream T st (.error error, session)

theorem CallLeaves.of_mark {lifecycle : FrameIndexLifecycle} {error : Option String}
    {result : BuildResult} (h : CallLeaves source stream T (st.mark lifecycle error) result)
    (hPartial : lifecycle ≠ .complete) : CallLeaves source stream T st result := by
  cases h with
  | ok hIndex hBuilt => exact .ok hIndex hBuilt.of_mark
  | error hIndex hKept => exact .error hIndex (hKept.of_mark hPartial)

/-! ## Opening a decoder -/

/-- A decoder is opened on the stream of the index, or the index is at most
marked. -/
theorem openCheckedDecoder_spec (opens : Opener) {session : Session}
    (hShaped : Shaped stream st.entries) (hIndex : session.index = toIndex source stream st) :
    (∃ decoder session', openCheckedDecoder opens session = (.ok decoder, session') ∧
      opens session.counters.decoderOpenCount = .ok decoder ∧
      session'.index = toIndex source stream st) ∨
    (∃ error session' st', openCheckedDecoder opens session = (.error error, session') ∧
      session'.index = toIndex source stream st' ∧ Kept stream T st st') := by
  unfold openCheckedDecoder
  cases hOpen : opens session.counters.decoderOpenCount with
  | error error =>
      right
      exact ⟨_, _, _, rfl, mark_failedRecoverable error.toText hIndex,
        (Kept.refl hShaped).mark .failedRecoverable _ nofun⟩
  | ok decoder =>
      dsimp only
      cases FrameIndexStreamIdentity.fromStream decoder.stream with
      | error error => exact .inr ⟨_, _, st, rfl, hIndex, Kept.refl hShaped⟩
      | ok actual =>
          dsimp only
          split
          · right
            exact ⟨_, _, _, rfl,
              mark_failedRecoverable "selected stream identity changed" hIndex,
              (Kept.refl hShaped).mark .failedRecoverable _ nofun⟩
          · exact .inl ⟨decoder, _, rfl, rfl, hIndex⟩

/-! ## The full replay and the rebuild -/

/-- A replay from the start reconciles, or breaks with the rows untouched. -/
theorem replay_spec {S : List DecodedRgbaFrame} {opens : Opener} (options : IndexingOptions)
    (restarted : Bool) (hOpens : OpensFresh S opens) {session : Session}
    (hShaped : Shaped stream st.entries) (hIndex : session.index = toIndex source stream st) :
    match replay options opens restarted st.entries.length session with
    | .finished report session => CallLeaves source stream (timeline S) st (.ok report, session)
    | .failed error session => CallLeaves source stream (timeline S) st (.error error, session)
    | .broke session =>
        session.index = toIndex source stream (st.mark .building none) ∧ st.entries ≠ [] := by
  unfold replay
  rcases openCheckedDecoder_spec (T := timeline S) opens hShaped hIndex with
    ⟨decoder, session', hOpen, hDecoder, hIndex'⟩ | ⟨error, session', st', hOpen, hIndex', hKept⟩
  · rw [hOpen]
    dsimp only
    obtain ⟨hPrefix, hWhole⟩ := pending_frames (hOpens _ _ hDecoder)
    rw [List.drop_zero] at hPrefix hWhole
    have hLeaves := beginAttempt_spec (c := 0) options false restarted decoder.script.ending
      (remainingFrames decoder) (Nat.zero_le _) hShaped hIndex'
    cases hOutcome : beginAttempt options false restarted st.entries.length 0
        (remainingFrames decoder) decoder.script.ending session' with
    | broke session =>
        rw [hOutcome] at hLeaves
        cases hLeaves with
        | broke hIndex hStored => exact ⟨hIndex, hStored⟩
    | finished report session =>
        rw [hOutcome] at hLeaves
        cases hLeaves with
        | finished hIndex hState hEof _ =>
            refine .ok hIndex (built_of_completes hState ?_)
            rw [List.take_zero, List.nil_append, remainingFrames, hWhole hEof]
            rfl
    | failed error session =>
        rw [hOutcome] at hLeaves
        cases hLeaves with
        | failed hIndex hState =>
            refine .error hIndex (kept_of_extends hState ?_)
            rw [List.take_zero, List.nil_append]
            exact entriesFrom_initial 0 .streamStart hPrefix
  · rw [hOpen]
    exact .error hIndex' hKept

/-- A rebuild leaves nothing of the rows it found. -/
theorem rebuild_spec {S : List DecodedRgbaFrame} {opens : Opener} (options : IndexingOptions)
    (hOpens : OpensFresh S opens) {session : Session}
    (hIndex : session.index = toIndex source stream st) :
    CallLeaves source stream (timeline S) st (rebuild options opens session) := by
  let told := session.emit ⟨.rebuildingIndex, 0, 0, 0, none⟩
  let cleared : Session := { told with index := told.index.clearForRebuild }
  have hCleared : cleared.index = toIndex source stream IndexState.fresh := by
    change session.index.clearForRebuild = _
    rw [hIndex, clearForRebuild_toIndex]
  have hNil : Shaped stream IndexState.fresh.entries := Shaped.nil
  have hSpec := replay_spec options true hOpens hNil hCleared
  change CallLeaves source stream (timeline S) st (match replay options opens true 0 cleared with
    | .finished report session => (.ok report, session)
    | .failed error session => (.error error, session)
    | .broke session => partialIndexMismatch session)
  cases hReplay : replay options opens true 0 cleared with
  | finished report session =>
      simp only [IndexState.fresh, List.length_nil, hReplay] at hSpec
      cases hSpec with
      | ok hIndex hBuilt => exact .ok hIndex hBuilt.of_fresh
  | failed error session =>
      simp only [IndexState.fresh, List.length_nil, hReplay] at hSpec
      cases hSpec with
      | error hIndex hKept => exact .error hIndex hKept.of_fresh
  | broke session =>
      simp [IndexState.fresh, hReplay] at hSpec

/-- **Full reconciliation**: the rows are replaced by the timeline, or kept. -/
theorem reconcile_spec {S : List DecodedRgbaFrame} {opens : Opener} (options : IndexingOptions)
    (hOpens : OpensFresh S opens) {session : Session} (hShaped : Shaped stream st.entries)
    (hIndex : session.index = toIndex source stream st) :
    CallLeaves source stream (timeline S) st
      (reconcile options opens st.entries.length session) := by
  have hSpec := replay_spec options false hOpens hShaped hIndex
  unfold reconcile
  cases hReplay : replay options opens false st.entries.length session with
  | finished report session =>
      rw [hReplay] at hSpec
      exact hSpec
  | failed error session =>
      rw [hReplay] at hSpec
      exact hSpec
  | broke session =>
      rw [hReplay] at hSpec
      obtain ⟨hBroke, hStored⟩ := hSpec
      have hPos := List.length_pos_iff.2 hStored
      dsimp only
      rw [if_pos hPos]
      exact (rebuild_spec options hOpens hBroke).of_mark nofun

/-! ## The bounded resume -/

/-- A checkpoint is an identity below the stored count, and is chosen only when
the stored timeline is safe to seek. -/
theorem selectResumeCheckpoint_spec {expected id : Nat} {t : MediaTimestamp}
    (h : selectResumeCheckpoint (toIndex source stream st) expected = .ok (some (id, t))) :
    id < expected ∧ st.seekSafety = .unambiguous := by
  unfold selectResumeCheckpoint at h
  split at h
  · cases h
  · obtain ⟨safety, hSafety, h⟩ := bind_eq_ok.1 h
    rw [timestampSeekSafety_toIndex] at hSafety
    cases hSafety
    split at h
    · cases h
    · rename_i hPermits
      obtain ⟨probe, -, h⟩ := bind_eq_ok.1 h
      have hSafe : st.seekSafety = .unambiguous := by
        cases hSafety : st.seekSafety with
        | unambiguous => rfl
        | ambiguous => exact absurd (by rw [hSafety]; rfl) hPermits
      refine ⟨?_, hSafe⟩
      -- Every branch that names an identity has checked it against the count.
      repeat' split at h
      all_goals first
        | cases h; done
        | (cases h; omega)

/-- The checkpoint of a bounded resume is a stored clean keyframe. -/
theorem resumeCheckpoint_spec (hShaped : Shaped stream st.entries)
    {checkpoint : FrameIndexEntry} {expected id : Nat} {us : Int}
    (h : resumeCheckpoint (toIndex source stream st) expected =
      .ok (some (checkpoint, id, us))) :
    id < expected ∧ st.seekSafety = .unambiguous ∧ st.entries[id]? = some checkpoint ∧
      checkpoint.isClean = true := by
  obtain ⟨selected, hSelect, h⟩ := bind_eq_ok.1 h
  rcases selected with - | ⟨selectedId, t⟩
  · cases h
  · obtain ⟨hBelow, hSafe⟩ := selectResumeCheckpoint_spec hSelect
    obtain ⟨found, hEntry, h⟩ := bind_eq_ok.1 h
    rcases found with - | found
    · cases h
    · dsimp only at h
      split at h
      · cases h
      · rename_i hChecks
        simp only [Except.ok.injEq, Option.map_eq_some_iff] at h
        obtain ⟨us', -, hEq⟩ := h
        cases hEq
        refine ⟨hBelow, hSafe, entry_toIndex_some hShaped hEntry, ?_⟩
        simp only [not_or, Bool.not_eq_false, Bool.not_eq_true, ne_eq, not_not] at hChecks
        simp [FrameIndexEntry.isClean, hChecks.1, hChecks.2.1]

/-- How the scan for the checkpoint can leave the state `st`. -/
inductive ScanLeaves (source : SourceIdentity) (stream : FrameIndexStreamIdentity)
    (st : IndexState) (checkpoint : FrameIndexEntry) (pending : List Emission) :
    Except IndexingError (Option (Emission × List Emission)) × Session → Prop
  | found {before : List Emission} {e : Emission} {rest : List Emission} {session : Session}
      (hIndex : session.index = toIndex source stream st)
      (hSplit : pending = before ++ e :: rest)
      (hMatch : matchesIndexEntry e.rgba.frame checkpoint = true)
      (hFirst : ∀ y ∈ before, matchesIndexEntry y.rgba.frame checkpoint = false) :
      ScanLeaves source stream st checkpoint pending (.ok (some (e, rest)), session)
  | absent {session : Session} (hIndex : session.index = toIndex source stream st) :
      ScanLeaves source stream st checkpoint pending (.ok none, session)
  | cancelled {error : IndexingError} {session : Session}
      (hIndex : session.index =
        toIndex source stream (st.mark .incomplete (some "cancelled"))) :
      ScanLeaves source stream st checkpoint pending (.error error, session)

private theorem ScanLeaves.cons {checkpoint : FrameIndexEntry} {e : Emission}
    {rest : List Emission} {r : Except IndexingError (Option (Emission × List Emission)) × Session}
    (hSkip : matchesIndexEntry e.rgba.frame checkpoint = false)
    (h : ScanLeaves source stream st checkpoint rest r) :
    ScanLeaves source stream st checkpoint (e :: rest) r := by
  cases h with
  | @found before _ _ _ hIndex hSplit hMatch hFirst =>
      have hFirst' : ∀ y ∈ e :: before, matchesIndexEntry y.rgba.frame checkpoint = false := by
        intro y hy
        rcases List.mem_cons.1 hy with rfl | hy
        · exact hSkip
        · exact hFirst y hy
      exact .found hIndex (congrArg (e :: ·) hSplit) hMatch hFirst'
  | absent hIndex => exact .absent hIndex
  | cancelled hIndex => exact .cancelled hIndex

/-- The scan stops at the first frame that matches the checkpoint. -/
theorem scanToCheckpoint_spec (checkpoint : FrameIndexEntry) (ending : Option FrameScopeError)
    (limit : Nat) (pending : List Emission) {session : Session}
    (hIndex : session.index = toIndex source stream st) :
    ScanLeaves source stream st checkpoint pending
      (scanToCheckpoint checkpoint ending limit pending session) := by
  induction pending generalizing limit session with
  | nil =>
      cases limit with
      | zero => exact .absent hIndex
      | succ limit =>
          unfold scanToCheckpoint
          split
          · exact .cancelled (mark_incomplete (some "cancelled") hIndex)
          · exact .absent hIndex
  | cons e rest ih =>
      cases limit with
      | zero => exact .absent hIndex
      | succ limit =>
          unfold scanToCheckpoint
          by_cases hMatch : matchesIndexEntry e.rgba.frame checkpoint = true
          · rw [if_pos hMatch]
            have hFirst : ∀ y ∈ ([] : List Emission),
                matchesIndexEntry y.rgba.frame checkpoint = false := by
              intro y hy
              cases hy
            exact .found hIndex rfl hMatch hFirst
          · rw [if_neg hMatch]
            refine ScanLeaves.cons (by simpa using hMatch) (ih limit ?_)
            exact hIndex

/-- Where a bounded resume starts: at the first emission after the seek that
matches the stored checkpoint. -/
structure Resumes (source : SourceIdentity) (stream : FrameIndexStreamIdentity)
    (st : IndexState) (opens : Opener) (start : BoundedResumeStart) (checkpoint : FrameIndexEntry)
    (us : Int) (script : Script) (before : List Emission) (e : Emission) : Prop where
  chosen : resumeCheckpoint (toIndex source stream st) st.entries.length =
    .ok (some (checkpoint, start.checkpointFrameId, us))
  seek : ∃ n decoder, opens n = .ok decoder ∧ decoder.seekOutcome us = .ok script
  split : script.pending = before ++ e :: start.decoder.script.pending
  ending : start.decoder.script.ending = script.ending
  frame : start.checkpointFrame = e.rgba.frame
  matched : matchesIndexEntry e.rgba.frame checkpoint = true
  first : ∀ y ∈ before, matchesIndexEntry y.rgba.frame checkpoint = false

/-- How the attempt to open a bounded resume can leave the state `st`. -/
inductive StartLeaves (source : SourceIdentity) (stream : FrameIndexStreamIdentity)
    (T : List FrameIndexEntry) (st : IndexState) (opens : Opener) :
    Except IndexingError (Option BoundedResumeStart) × Session → Prop
  | found {start : BoundedResumeStart} {session : Session} {checkpoint : FrameIndexEntry}
      {us : Int} {script : Script} {before : List Emission} {e : Emission}
      (hIndex : session.index = toIndex source stream st)
      (hResumes : Resumes source stream st opens start checkpoint us script before e) :
      StartLeaves source stream T st opens (.ok (some start), session)
  | absent {session : Session} (hIndex : session.index = toIndex source stream st) :
      StartLeaves source stream T st opens (.ok none, session)
  | failed {error : IndexingError} {session : Session} {st' : IndexState}
      (hIndex : session.index = toIndex source stream st') (hKept : Kept stream T st st') :
      StartLeaves source stream T st opens (.error error, session)

theorem tryOpenBoundedResume_spec (T : List FrameIndexEntry) (opens : Opener)
    {session : Session} (hShaped : Shaped stream st.entries)
    (hIndex : session.index = toIndex source stream st) :
    StartLeaves source stream T st opens
      (tryOpenBoundedResume opens st.entries.length session) := by
  unfold tryOpenBoundedResume
  rw [hIndex]
  cases hCheckpoint : resumeCheckpoint (toIndex source stream st) st.entries.length with
  | error error => exact .failed hIndex (Kept.refl hShaped)
  | ok found =>
      rcases found with - | ⟨checkpoint, id, us⟩
      · exact .absent hIndex
      · dsimp only
        set noted := session.count fun c =>
          { c with boundedResumeAttempted := true, resumeCheckpointFrameId := some id }
        have hNoted : noted.index = toIndex source stream st := hIndex
        rcases openCheckedDecoder_spec (T := T) opens hShaped hNoted with
          ⟨decoder, session', hOpen, hDecoder, hIndex'⟩ |
          ⟨error, session', st', hOpen, hIndex', hKept⟩
        · rw [hOpen]
          dsimp only [VideoDecoder.seekToTimestampUs]
          cases hSeek : decoder.seekOutcome us with
          | error error =>
              cases error
              case cancelled =>
                exact .failed (mark_incomplete (some "cancelled") hIndex')
                  ((Kept.refl hShaped).mark .incomplete _ nofun)
              all_goals exact .absent hIndex'
          | ok script =>
              dsimp only
              have hScan := scanToCheckpoint_spec checkpoint script.ending resumeSeekScanLimit
                script.pending hIndex'
              generalize scanToCheckpoint checkpoint script.ending resumeSeekScanLimit
                script.pending session' = scanned at hScan
              cases hScan with
              | found hIndex hSplit hMatch hFirst =>
                  exact .found hIndex
                    ⟨hCheckpoint, ⟨_, decoder, hDecoder, hSeek⟩, hSplit, rfl, rfl, hMatch, hFirst⟩
              | absent hIndex => exact .absent hIndex
              | cancelled hIndex =>
                  exact .failed hIndex ((Kept.refl hShaped).mark .incomplete _ nofun)
        · rw [hOpen]
          exact .failed hIndex' hKept

/-- **Alignment of a bounded resume.**  The stored rows are a prefix of the
timeline that is safe to seek, so the checkpoint is the only indexed clean
keyframe with its timestamp; a scan that starts at or before it stops there. -/
theorem resume_aligned {S : List DecodedRgbaFrame} {opens : Opener} {start : BoundedResumeStart}
    {checkpoint : FrameIndexEntry} {us : Int} {script : Script} {before : List Emission}
    {e : Emission} (hResumes : Resumes source stream st opens start checkpoint us script before e)
    (hShaped : Shaped stream st.entries) (hExact : ExactSafety st)
    (hStored : st.entries <+: timeline S)
    (hLands : ∃ p, p ≤ start.checkpointFrameId ∧ script.Emits S p) :
    EmitsFrom S start.checkpointFrameId (e :: start.decoder.script.pending) script.ending ∧
      e.rgba.frame.isClean = true := by
  obtain ⟨hBelow, hSafe, hRow, hClean⟩ := resumeCheckpoint_spec hShaped hResumes.chosen
  obtain ⟨p, hp, hEmits⟩ := hLands
  unfold Script.Emits at hEmits
  rw [hResumes.split] at hEmits
  have hHere := hEmits.drop
  have hHead := hHere.head
  refine ⟨?_, by rw [isClean_of_matches hResumes.matched, hClean]⟩
  suffices hEq : p + before.length = start.checkpointFrameId by rwa [hEq] at hHere
  set c := start.checkpointFrameId
  have hSafety : seekSafetyOf st.entries = .unambiguous := by rw [← hSafe]; exact hExact.symm
  obtain ⟨f, anchor, hFrame, hOwn⟩ := stored_row hStored hBelow
  rw [hRow, Option.some.injEq] at hOwn
  rcases Nat.lt_trichotomy (p + before.length) c with hEarly | hEq | hLate
  · -- The match lies in the indexed prefix, where the checkpoint is unique.
    obtain ⟨f', anchor', hFrame', hRow'⟩ := stored_row hStored (hEarly.trans hBelow)
    rw [hHead, Option.some.injEq] at hFrame'
    subst hFrame'
    have hTime := ((matchesIndexEntry_iff _ _).1 hResumes.matched).1
    exact clean_position_unique hSafety hRow' hRow
      (by rw [entryFromDecoded_isClean, isClean_of_matches hResumes.matched, hClean]) hClean hTime
  · exact hEq
  · -- The scan has passed the checkpoint, which it would have matched.
    have hPast : c - p < before.length := by omega
    have hGet : (before ++ e :: start.decoder.script.pending)[c - p]? = some before[c - p] := by
      rw [List.getElem?_append_left hPast, List.getElem?_eq_getElem hPast]
    have hPassed := hEmits.getElem? hGet
    rw [show p + (c - p) = c by omega, hFrame, Option.some.injEq] at hPassed
    have hMissed := hResumes.first _ (List.getElem_mem hPast)
    rw [← hPassed, hOwn, matches_entryFromDecoded] at hMissed
    cases hMissed

/-! ## The whole call -/

/-- How a call on a partial index ends: as a full reconciliation would, or with
a bounded attempt that did not break. -/
theorem buildFrom_spec {S : List DecodedRgbaFrame} {opens : Opener} (options : IndexingOptions)
    (hOpens : OpensFresh S opens) {session : Session} (hShaped : Shaped stream st.entries)
    (hIndex : session.index = toIndex source stream st) :
    CallLeaves source stream (timeline S) st
      (buildFrom options opens st.entries.length session) ∨
    ∃ start checkpoint us script before e outcome,
      Resumes source stream st opens start checkpoint us script before e ∧
      Leaves source stream (st.mark .building none) start.checkpointFrameId
        (start.checkpointFrame :: remainingFrames start.decoder) script.ending true outcome ∧
      ((∃ report session', outcome = .finished report session' ∧
          buildFrom options opens st.entries.length session = (.ok report, session')) ∨
        (∃ error session', outcome = .failed error session' ∧
          buildFrom options opens st.entries.length session = (.error error, session'))) := by
  unfold buildFrom
  by_cases hStored : 0 < st.entries.length
  · rw [if_pos hStored]
    have hStart := tryOpenBoundedResume_spec (timeline S) opens hShaped hIndex
    generalize tryOpenBoundedResume opens st.entries.length session = started at hStart
    cases hStart with
    | absent hIndex => exact .inl (reconcile_spec options hOpens hShaped hIndex)
    | failed hIndex hKept => exact .inl (.error hIndex hKept)
    | @found start session checkpoint us script before e hIndex hResumes =>
        dsimp only
        have hBelow := (resumeCheckpoint_spec hShaped hResumes.chosen).1
        have hLeaves := beginAttempt_spec options true false start.decoder.script.ending
          (start.checkpointFrame :: remainingFrames start.decoder) hBelow.le hShaped hIndex
        rw [hResumes.ending] at hLeaves ⊢
        generalize beginAttempt options true false st.entries.length start.checkpointFrameId
          (start.checkpointFrame :: remainingFrames start.decoder) script.ending session =
            outcome at hLeaves
        cases outcome with
        | broke session' =>
            left
            cases hLeaves with
            | broke hIndex hStored =>
                have hMarked : Shaped stream (st.mark .building none).entries := hShaped
                refine CallLeaves.of_mark (reconcile_spec options hOpens hMarked ?_) nofun
                exact hIndex
        | finished report session' =>
            exact .inr ⟨start, checkpoint, us, script, before, e, _, hResumes, hLeaves,
              .inl ⟨report, session', rfl, rfl⟩⟩
        | failed error session' =>
            exact .inr ⟨start, checkpoint, us, script, before, e, _, hResumes, hLeaves,
              .inr ⟨error, session', rfl, rfl⟩⟩
  · rw [if_neg hStored]
    exact .inl (reconcile_spec options hOpens hShaped hIndex)

/-- On a partial index the call is `buildFrom` after the first progress event. -/
theorem buildOrResume_partial (source : SourceIdentity) (options : IndexingOptions) (opens : Opener)
    (hShaped : Shaped stream st.entries) (hPartial : st.lifecycle ≠ .complete) :
    ∃ session : Session,
      buildOrResumeFrameIndex options opens (toIndex source stream st) =
        buildFrom options opens st.entries.length session ∧
      session.index = toIndex source stream st ∧ session.counters = .default := by
  unfold buildOrResumeFrameIndex
  rw [if_neg (Nat.pos_iff_ne_zero.1 options.positive), status_toIndex hShaped]
  dsimp only [IndexState.status]
  rw [if_neg hPartial]
  exact ⟨_, rfl, rfl, rfl⟩

/-- On a complete index the call reports success and changes nothing. -/
theorem buildOrResume_complete (source : SourceIdentity) (options : IndexingOptions) (opens : Opener)
    (hShaped : Shaped stream st.entries) (hComplete : st.lifecycle = .complete) :
    ∃ report session,
      buildOrResumeFrameIndex options opens (toIndex source stream st) = (.ok report, session) ∧
      session.index = toIndex source stream st := by
  unfold buildOrResumeFrameIndex
  rw [if_neg (Nat.pos_iff_ne_zero.1 options.positive), status_toIndex hShaped]
  dsimp only [IndexState.status]
  rw [if_pos hComplete]
  exact ⟨_, _, rfl, rfl⟩

/-- **Full reconciliation never trusts stale rows.**  Whatever shaped rows a
partial index holds, a call that succeeds without a bounded resume leaves
exactly the timeline of the decoded sequence. -/
theorem fullReconciliation_exact (source : SourceIdentity) (stream : FrameIndexStreamIdentity)
    (S : List DecodedRgbaFrame) (opens : Opener) (options : IndexingOptions) (st : IndexState)
    (hOpens : OpensFresh S opens) (hShaped : Shaped stream st.entries)
    (hPartial : st.lifecycle ≠ .complete) {report : IndexingReport} {session : Session}
    (hOk : buildOrResumeFrameIndex options opens (toIndex source stream st) =
      (.ok report, session))
    (hFull : report.counters.boundedResumeSucceeded = false) :
    ∃ safety, session.index = toIndex source stream
      ⟨.complete, some S.length, none, safety, indexEntries (framesOf S)⟩ := by
  obtain ⟨begun, hCall, hBegun, -⟩ := buildOrResume_partial source options opens hShaped hPartial
  rw [hCall] at hOk
  rcases buildFrom_spec options hOpens hShaped hBegun with
    hLeaves | ⟨start, checkpoint, us, script, before, e, outcome, -, hLeaves, hEnd⟩
  · rw [hOk] at hLeaves
    cases hLeaves with
    | @ok _ _ st' hIndex hBuilt =>
        refine ⟨st'.seekSafety, ?_⟩
        have hState := hBuilt.state_eq
        rw [timeline_length] at hState
        rw [hIndex]
        exact congrArg (toIndex source stream) hState
  · -- A bounded attempt that finishes has set the flag.
    rcases hEnd with ⟨report', session', rfl, hEq⟩ | ⟨error, session', -, hEq⟩
    · rw [hOk] at hEq
      cases hEq
      cases hLeaves with
      | finished _ _ _ hFlag => rw [hFlag rfl] at hFull; cases hFull
    · rw [hOk] at hEq
      cases hEq

end Call

section Samples

local instance : ContentHash := constantHash

/-- Two frames. -/
def sampleSequence : List DecodedRgbaFrame := [sampleFrame 0 10, sampleFrame 1 20]

/-- A factory of faultless sessions on `sampleSequence`. -/
def sampleOpener : Opener :=
  fun _ => .ok (faultlessDecoder sampleSequence sampleStream.toStream fun _ => 0)

/-- A partial index with one stale row. -/
def staleState : IndexState :=
  ⟨.incomplete, none, none, .unambiguous, [{ sampleEntry with
    presentationTimestamp := none, anchor := .keyframe 0 none }]⟩

theorem sampleOpener_fresh : OpensFresh sampleSequence sampleOpener := by
  intro n d hOpen
  cases hOpen
  exact faultlessScript_emits sampleSequence 0

theorem fullReconciliation_exact_sample :
    ∃ report session safety,
      buildOrResumeFrameIndex .default sampleOpener
          (toIndex sampleSource sampleStream staleState) = (.ok report, session) ∧
        report.counters.boundedResumeSucceeded = false ∧
        session.index = toIndex sampleSource sampleStream
          ⟨.complete, some 2, none, safety, indexEntries (framesOf sampleSequence)⟩ := by
  have hShaped : Shaped sampleStream staleState.entries := by
    refine ⟨⟨rfl, trivial⟩, ?_, by decide⟩
    intro e he
    rw [staleState, List.mem_singleton] at he
    subst he
    rfl
  obtain ⟨safety, hIndex⟩ := fullReconciliation_exact sampleSource sampleStream sampleSequence
    sampleOpener .default staleState sampleOpener_fresh hShaped nofun rfl rfl
  exact ⟨_, _, safety, rfl, rfl, hIndex⟩

end Samples

end FrameScope.Ports.IndexingCall
