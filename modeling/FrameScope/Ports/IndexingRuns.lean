import FrameScope.Ports.IndexingCall

/-!
# Series of indexing runs

Runs of `build_or_resume_frame_index` on one index, each ended by whatever ends
it.  A state on the way to the index of `S` is sound and its rows are a prefix
of the timeline; every run keeps that, and a run that succeeds leaves the
finished index.  So a series that ends in success leaves the index that one
uninterrupted build leaves, and every state in between is reused by the next
open.
-/

namespace FrameScope.Ports.IndexingRuns

open FrameScope.Verified.Runs
open FrameScope.Ports.Core
open FrameScope.Ports.Decoder
open FrameScope.Ports.FrameIndexModel
open FrameScope.Ports.SourceBinding
open FrameScope.Ports.FrameIndexStore
open FrameScope.Ports.FrameTimeline
open FrameScope.Ports.FrameIndexState
open FrameScope.Ports.FrameIndexInvariant
open FrameScope.Ports.Indexing
open FrameScope.Ports.IndexingAttempt
open FrameScope.Ports.IndexingCall

/-! ## Anchors of a timeline -/

/-- Every anchor of a timeline names a clean keyframe of it, and so does the
anchor the next frame would get. -/
theorem indexEntries_anchored (frames : List DecodedFrame) :
    Anchored (indexEntries frames) ∧
      ∀ id t, anchorAfter 0 .streamStart frames = .keyframe id t →
        NamesKeyframe (indexEntries frames) id t := by
  induction frames using List.reverseRecOn with
  | nil =>
      constructor
      · intro e he
        cases he
      · intro id t h
        simp [anchorAfter] at h
  | append_singleton frames f ih =>
      obtain ⟨hAnchored, hNext⟩ := ih
      have hConcat : indexEntries (frames ++ [f]) = indexEntries frames ++
          [entryFromDecoded (0 + frames.length) f (anchorAfter 0 .streamStart frames)] :=
        entriesFrom_concat 0 .streamStart frames f
      -- The anchor of the new frame is the frame itself or the anchor before it.
      have hOwn : ∀ id t,
          nextAnchor (0 + frames.length) f (anchorAfter 0 .streamStart frames) = .keyframe id t →
          NamesKeyframe (indexEntries (frames ++ [f])) id t := by
        intro id t hAnchor
        rw [hConcat]
        unfold nextAnchor at hAnchor
        split at hAnchor
        · rename_i hClean
          cases hAnchor
          exact ⟨_, List.mem_append_right _ (List.mem_singleton_self _), rfl, hClean, rfl⟩
        · obtain ⟨a, ha, hNamed⟩ := hNext id t hAnchor
          exact ⟨a, List.mem_append_left _ ha, hNamed⟩
      constructor
      · rw [hConcat]
        refine hAnchored.append ?_
        intro e he id t hAnchor
        rw [List.mem_singleton] at he
        subst he
        rw [← hConcat]
        exact hOwn id t hAnchor
      · intro id t hAnchor
        rw [anchorAfter_concat] at hAnchor
        exact hOwn id t hAnchor

theorem anchored_of_prefix {S : List DecodedRgbaFrame} {entries : List FrameIndexEntry}
    (h : entries <+: timeline S) : Anchored entries := by
  have hTake : entries = indexEntries ((framesOf S).take entries.length) := by
    rw [indexEntries, ← entriesFrom_take]
    exact List.prefix_iff_eq_take.1 h
  rw [hTake]
  exact (indexEntries_anchored _).1

/-! ## States on the way to an index -/

variable {stream : FrameIndexStreamIdentity} {st st' : IndexState}

/-- The state of a finished index. -/
def completeState (S : List DecodedRgbaFrame) : IndexState :=
  ⟨.complete, some S.length, none, seekSafetyOf (timeline S), timeline S⟩

/-- A sound state on the way to the index of `S`. -/
structure OnTheWay (stream : FrameIndexStreamIdentity) (S : List DecodedRgbaFrame)
    (st : IndexState) : Prop where
  sound : Sound stream st
  rows : st.entries <+: timeline S
  complete : st.lifecycle = .complete → st = completeState S

theorem onTheWay_of_kept {S : List DecodedRgbaFrame} (h : OnTheWay stream S st)
    (hPartial : st.lifecycle ≠ .complete) (hKept : Kept stream (timeline S) st st') :
    OnTheWay stream S st' ∧ st'.lifecycle ≠ .complete := by
  have hIncomplete := hKept.incomplete hPartial
  have hCount : st'.frameCount = none := by
    apply hKept.frameCount
    have hCounted := h.sound.counted
    rwa [IndexState.Counted, if_neg hPartial] at hCounted
  have hRows : st'.entries <+: timeline S := by
    rcases hKept.rows with hSame | hPrefix
    · rw [hSame]
      exact h.rows
    · exact hPrefix
  refine ⟨⟨⟨hKept.shaped, anchored_of_prefix hRows, ?_, hKept.safety h.sound.safety⟩, hRows,
    fun hComplete => absurd hComplete hIncomplete⟩, hIncomplete⟩
  rw [IndexState.Counted, if_neg hIncomplete, hCount]

theorem state_of_built {S : List DecodedRgbaFrame} (hExact : ExactSafety st)
    (hBuilt : Built stream (timeline S) st st') :
    st' = completeState S ∧ Sound stream (completeState S) := by
  have hState : st' = completeState S := by
    have hEq := hBuilt.state_eq
    have hSafety : st'.seekSafety = seekSafetyOf (timeline S) := by
      rw [hBuilt.safety hExact, hBuilt.rows]
    rw [hSafety, timeline_length] at hEq
    exact hEq
  have hShaped := hBuilt.shaped
  rw [hState] at hShaped
  refine ⟨hState, hShaped, anchored_of_prefix (List.prefix_refl _), ?_, rfl⟩
  simp [IndexState.Counted, completeState]

theorem completeState_onTheWay {S : List DecodedRgbaFrame}
    (h : Sound stream (completeState S)) : OnTheWay stream S (completeState S) :=
  ⟨h, List.prefix_refl _, fun _ => rfl⟩

section Runs

variable [ContentHash] {source : SourceIdentity}

/-! ## Series of runs -/

/-- One call of `build_or_resume_frame_index`. -/
structure IndexingRun where
  options : IndexingOptions
  opens : Opener

def IndexingRun.result (index : FrameIndex) (run : IndexingRun) : BuildResult :=
  buildOrResumeFrameIndex run.options run.opens index

/-- The index that a call leaves. -/
def IndexingRun.step (index : FrameIndex) (run : IndexingRun) : FrameIndex :=
  (run.result index).2.index

/-- What the decoder owes a call on `index`: a fresh session emits `S`, and
after a seek to the checkpoint of a bounded resume a session emits `S` from a
position at or before that checkpoint. -/
def Decodes (S : List DecodedRgbaFrame) (index : FrameIndex) (run : IndexingRun) : Prop :=
  OpensFresh S run.opens ∧
    ∀ checkpoint id us,
      resumeCheckpoint index (indexedFrames index) = .ok (some (checkpoint, id, us)) →
      ∀ n decoder script, run.opens n = .ok decoder → decoder.seekOutcome us = .ok script →
        ∃ p, p ≤ id ∧ script.Emits S p

/-- The index represents a sound state on the way to the index of `S`. -/
def Progressing (source : SourceIdentity) (stream : FrameIndexStreamIdentity)
    (S : List DecodedRgbaFrame) (index : FrameIndex) : Prop :=
  ∃ st, index = toIndex source stream st ∧ OnTheWay stream S st

/-- **One run.**  From a state on the way to the index of `S`, a run that
succeeds leaves the finished index, and any other run leaves a partial state on
the way. -/
theorem run_spec {S : List DecodedRgbaFrame} (run : IndexingRun) (h : OnTheWay stream S st)
    (hDecodes : Decodes S (toIndex source stream st) run) :
    (∃ report session, run.result (toIndex source stream st) = (.ok report, session) ∧
      session.index = toIndex source stream (completeState S) ∧
      Sound stream (completeState S)) ∨
    (∃ error session st', run.result (toIndex source stream st) = (.error error, session) ∧
      session.index = toIndex source stream st' ∧ OnTheWay stream S st' ∧
      st'.lifecycle ≠ .complete) := by
  have hShaped := h.sound.shaped
  have hExact : ExactSafety st := h.sound.safety
  unfold IndexingRun.result
  by_cases hComplete : st.lifecycle = .complete
  · obtain ⟨report, session, hCall, hIndex⟩ :=
      buildOrResume_complete source run.options run.opens hShaped hComplete
    have hSound := h.sound
    rw [h.complete hComplete] at hIndex hSound
    exact .inl ⟨report, session, hCall, hIndex, hSound⟩
  · obtain ⟨begun, hCall, hBegun, -⟩ :=
      buildOrResume_partial source run.options run.opens hShaped hComplete
    have hLeaves : CallLeaves source stream (timeline S) st
        (buildFrom run.options run.opens st.entries.length begun) := by
      rcases buildFrom_spec run.options hDecodes.1 hShaped hBegun with
        hLeaves | ⟨start, checkpoint, us, script, before, e, outcome, hResumes, hLeaves, hEnd⟩
      · exact hLeaves
      · obtain ⟨n, decoder, hOpen, hSeek⟩ := hResumes.seek
        have hChosen := hResumes.chosen
        have hBelow := (resumeCheckpoint_spec hShaped hChosen).1
        have hCount : indexedFrames (toIndex source stream st) = st.entries.length :=
          indexedFrames_toIndex
        rw [← hCount] at hChosen
        have hLands := hDecodes.2 checkpoint _ us hChosen n decoder script hOpen hSeek
        obtain ⟨hEmits, hClean⟩ := resume_aligned hResumes hShaped hExact h.rows hLands
        obtain ⟨hPrefix, hWhole⟩ := resume_rows h.rows hBelow hEmits hClean
        have hFrames : start.checkpointFrame :: remainingFrames start.decoder =
            (e :: start.decoder.script.pending).map (·.rgba.frame) := by
          rw [hResumes.frame]
          rfl
        rw [hFrames] at hLeaves
        rcases hEnd with ⟨report, session, rfl, hEq⟩ | ⟨error, session, rfl, hEq⟩
        · rw [hEq]
          cases hLeaves with
          | finished hIndex hState hEof _ =>
              exact .ok hIndex (built_of_completes hState (hWhole hEof))
        · rw [hEq]
          cases hLeaves with
          | failed hIndex hState => exact .error hIndex (kept_of_extends hState hPrefix)
    rw [hCall]
    generalize buildFrom run.options run.opens st.entries.length begun = result at hLeaves
    cases hLeaves with
    | ok hIndex hBuilt =>
        obtain ⟨hState, hSound⟩ := state_of_built hExact hBuilt
        rw [hState] at hIndex
        exact .inl ⟨_, _, rfl, hIndex, hSound⟩
    | error hIndex hKept =>
        exact .inr ⟨_, _, _, rfl, hIndex, onTheWay_of_kept h hComplete hKept⟩

theorem step_progressing {S : List DecodedRgbaFrame} (index : FrameIndex) (run : IndexingRun)
    (h : Progressing source stream S index) (hDecodes : Decodes S index run) :
    Progressing source stream S (run.step index) := by
  obtain ⟨st, rfl, hSt⟩ := h
  unfold IndexingRun.step
  rcases run_spec run hSt hDecodes with
    ⟨report, session, hRun, hIndex, hSound⟩ | ⟨error, session, st', hRun, hIndex, hSt', -⟩
  · rw [hRun]
    exact ⟨_, hIndex, completeState_onTheWay hSound⟩
  · rw [hRun]
    exact ⟨_, hIndex, hSt'⟩

theorem fresh_progressing (S : List DecodedRgbaFrame) :
    Progressing source stream S (toIndex source stream IndexState.fresh) :=
  ⟨_, rfl, IndexState.fresh_sound stream, List.nil_prefix, nofun⟩

/-- A run whose decoder is opened on the stream of the index and reads `S` to
its end. -/
def Uninterrupted (S : List DecodedRgbaFrame) (stream : FrameIndexStreamIdentity)
    (run : IndexingRun) : Prop :=
  ∃ decoder, run.opens 0 = .ok decoder ∧
    FrameIndexStreamIdentity.fromStream decoder.stream = .ok stream ∧
    decoder.script.Emits S 0 ∧ decoder.script.ending = none

/-- An attempt on an empty index over valid frames reaches the end. -/
theorem runAttempt_finishes (options : IndexingOptions) (boundedActive restarted : Bool)
    {before : IndexState} (hNone : before.entries = []) (hPartial : before.lifecycle ≠ .complete)
    (hCount : before.frameCount = none) (frames : List DecodedFrame) :
    ∀ {D : List DecodedFrame} {attempt : Attempt},
      AttemptInv source stream before 0 D attempt →
      (∀ e ∈ entriesFrom 0 .streamStart (D ++ frames), e.validate stream = .ok ()) →
      (D ++ frames).length < 2 ^ 63 →
      ∃ report session,
        runAttempt options boundedActive restarted before.entries.length none frames attempt =
          .finished report session := by
  have hStart : 0 ≤ before.entries.length := Nat.zero_le _
  have hShaped : Shaped stream before.entries := by rw [hNone]; exact Shaped.nil
  induction frames with
  | nil =>
      intro D attempt h hValid hLen
      unfold runAttempt
      rw [List.append_nil] at hLen
      rcases finishAttempt_spec boundedActive restarted h hStart hPartial hCount with
        ⟨session, -, -, hBelow⟩ | ⟨report, session, st, hEnd, -⟩ | ⟨error, session, st, -, -, -, hBig⟩
      · rw [hNone] at hBelow
        exact absurd hBelow (Nat.not_lt_zero _)
      · exact ⟨report, session, hEnd⟩
      · omega
  | cons f rest ih =>
      intro D attempt h hValid hLen
      rw [List.append_cons] at hValid hLen
      unfold runAttempt
      rcases indexFrame_spec options boundedActive f h hStart hShaped hPartial hCount with
        ⟨attempt', hStep, hInv⟩ | ⟨session, -, -, hBelow⟩ | ⟨error, session, st, -, -, -, hCause⟩
      · rw [hStep]
        exact ih hInv hValid hLen
      · rw [hNone] at hBelow
        exact absurd hBelow (Nat.not_lt_zero _)
      · have hMem : nextEntry 0 D f ∈ entriesFrom 0 .streamStart (D ++ [f] ++ rest) := by
          rw [entriesFrom_append, entriesFrom_concat]
          exact List.mem_append_left _ (List.mem_append_right _ (List.mem_singleton_self _))
        rcases hCause with hInvalid | hBig
        · exact absurd (hValid _ hMem) hInvalid
        · simp only [List.length_append, List.length_singleton] at hLen
          omega

theorem beginAttempt_finishes (options : IndexingOptions) {frames : List DecodedFrame}
    {session : Session} (hIndex : session.index = toIndex source stream IndexState.fresh)
    (hShaped : Shaped stream (indexEntries frames)) :
    ∃ report session',
      beginAttempt options false false 0 0 frames none session = .finished report session' := by
  have hLen : frames.length < 2 ^ 63 := by simpa using hShaped.bounded
  let building := IndexState.fresh.mark .building none
  have hNil : Shaped stream building.entries := Shaped.nil
  have hBuilding : building.lifecycle ≠ .complete := nofun
  unfold beginAttempt
  rw [hIndex, markBuilding_toIndex]
  exact runAttempt_finishes options false false rfl hBuilding rfl frames
    (AttemptInv.start hNil _ rfl (Nat.zero_le _)) hShaped.valid hLen

/-- One uninterrupted build on an empty index finishes it, when the timeline is
one the store can hold. -/
theorem uninterrupted_spec {S : List DecodedRgbaFrame} {run : IndexingRun}
    (hClean : Uninterrupted S stream run) (hShaped : Shaped stream (timeline S)) :
    ∃ report session, run.result (toIndex source stream IndexState.fresh) = (.ok report, session) ∧
      session.index = toIndex source stream (completeState S) := by
  obtain ⟨decoder, hOpen, hStream, hEmits, hEof⟩ := hClean
  have hNil : Shaped stream IndexState.fresh.entries := Shaped.nil
  obtain ⟨begun, hCall, hBegun, hCounters⟩ :=
    buildOrResume_partial source run.options run.opens hNil nofun
  have hFrames : remainingFrames decoder = framesOf S := (pending_frames hEmits).2 hEof
  set counted := begun.count fun c =>
    { c with decoderOpenCount := saturatingAddU64 c.decoderOpenCount 1 } with hCounted
  have hOpened : openCheckedDecoder run.opens begun = (.ok decoder, counted) := by
    simp [openCheckedDecoder, hCounters, IndexingCounters.default, hOpen, hStream, hBegun,
      hCounted, Session.count]
  have hIndex : counted.index = toIndex source stream IndexState.fresh := hBegun
  obtain ⟨report, session, hFinished⟩ := beginAttempt_finishes run.options hIndex hShaped
  have hLeaves : Leaves source stream (IndexState.fresh.mark .building none) 0 (framesOf S) none
      false (beginAttempt run.options false false 0 0 (framesOf S) none counted) :=
    beginAttempt_spec run.options false false none (framesOf S) (Nat.zero_le _) hNil hIndex
  rw [hFinished] at hLeaves
  cases hLeaves with
  | finished hState hCompletes _ _ =>
      have hExact : ExactSafety IndexState.fresh := rfl
      obtain ⟨hEq, -⟩ := state_of_built hExact (built_of_completes hCompletes rfl)
      refine ⟨report, session, ?_, by rw [hState, hEq]⟩
      have hReplay : replay run.options run.opens false 0 begun = .finished report session := by
        rw [replay, hOpened]
        dsimp only
        rw [hFrames, hEof, hFinished]
      rw [IndexingRun.result, hCall]
      change buildFrom run.options run.opens 0 begun = _
      rw [buildFrom, if_neg (Nat.lt_irrefl 0)]
      dsimp only
      rw [reconcile, hReplay]

/-- **An interrupted and resumed build equals an uninterrupted one.**  After
any series of runs from a fresh index, however they ended, a run that succeeds
leaves the very index that one uninterrupted build on a fresh index leaves. -/
theorem resumed_build_eq_uninterrupted (source : SourceIdentity)
    (stream : FrameIndexStreamIdentity) (S : List DecodedRgbaFrame)
    {index : FrameIndex} {disposition : FrameIndexOpenDisposition}
    (hFresh : FrameIndex.openOrCreate none source stream = .ok (index, disposition))
    (interrupted : List IndexingRun) (last : IndexingRun)
    (hRuns : Meets IndexingRun.step (Decodes S) index (interrupted ++ [last]))
    {report : IndexingReport} {session : Session}
    (hOk : last.result (interrupted.foldl IndexingRun.step index) = (.ok report, session))
    {clean : IndexingRun} (hClean : Uninterrupted S stream clean) :
    (∃ report' session', clean.result index = (.ok report', session') ∧
      session'.index = session.index) ∧
    session.index = toIndex source stream (completeState S) := by
  rw [openOrCreate_none] at hFresh
  cases hFresh
  obtain ⟨hEarlier, hLast⟩ := meets_concat hRuns
  obtain ⟨st, hIndex, hSt⟩ := run_invariant step_progressing (fresh_progressing S) hEarlier
  rw [hIndex] at hLast hOk
  rcases run_spec last hSt hLast with
    ⟨report', session', hRun, hState, hSound⟩ | ⟨error, session', st', hRun, -⟩
  · rw [hOk] at hRun
    cases hRun
    obtain ⟨report', session', hCleanRun, hCleanState⟩ := uninterrupted_spec hClean hSound.shaped
    exact ⟨⟨report', session', hCleanRun, hCleanState.trans hState.symm⟩, hState⟩
  · rw [hOk] at hRun
    cases hRun

end Runs

section Samples

local instance : ContentHash := constantHash

/-- A run cancelled after the first frame. -/
def cancelledRun : IndexingRun where
  options := .default
  opens := fun _ => .ok
    { faultlessDecoder sampleSequence sampleStream.toStream fun _ => 0 with
      script := ⟨[⟨0, sampleFrame 0 10, none⟩], some .cancelled⟩ }

def completedRun : IndexingRun := ⟨.default, sampleOpener⟩

private theorem cancelledRun_decodes (index : FrameIndex) :
    Decodes sampleSequence index cancelledRun := by
  constructor
  · intro n d hOpen
    cases hOpen
    exact ⟨rfl, rfl, nofun⟩
  · intro checkpoint id us _ n decoder script hOpen hSeek
    cases hOpen
    cases hSeek
    exact ⟨0, Nat.zero_le _, faultlessScript_emits sampleSequence 0⟩

private theorem completedRun_decodes (index : FrameIndex) :
    Decodes sampleSequence index completedRun := by
  refine ⟨sampleOpener_fresh, ?_⟩
  intro checkpoint id us _ n decoder script hOpen hSeek
  cases hOpen
  cases hSeek
  exact ⟨0, Nat.zero_le _, faultlessScript_emits sampleSequence 0⟩

/-- What `cancelledRun` leaves of a fresh index. -/
def cancelledState : IndexState :=
  ⟨.incomplete, none, some "cancelled", .unambiguous,
    (indexEntries (framesOf sampleSequence)).take 1⟩

theorem resumed_build_eq_uninterrupted_sample :
    let index := toIndex sampleSource sampleStream IndexState.fresh
    ∃ report session report' session',
      completedRun.result ([cancelledRun].foldl IndexingRun.step index) = (.ok report, session) ∧
      completedRun.result index = (.ok report', session') ∧ session'.index = session.index := by
  intro index
  obtain ⟨report, session, hLast⟩ : ∃ report session,
      completedRun.result (toIndex sampleSource sampleStream cancelledState) =
        (.ok report, session) := ⟨_, _, rfl⟩
  have hClean : Uninterrupted sampleSequence sampleStream completedRun :=
    ⟨_, rfl, rfl, faultlessScript_emits sampleSequence 0, rfl⟩
  obtain ⟨⟨report', session', hRun, hSame⟩, -⟩ :=
    resumed_build_eq_uninterrupted sampleSource sampleStream sampleSequence openOrCreate_none
      [cancelledRun] completedRun
      ⟨cancelledRun_decodes _, completedRun_decodes _, trivial⟩ hLast hClean
  exact ⟨report, session, report', session', hLast, hRun, hSame⟩

end Samples

end FrameScope.Ports.IndexingRuns
