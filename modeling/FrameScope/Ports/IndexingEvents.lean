import FrameScope.Ports.IndexingProgress

/-!
# The events of an indexing call

An event never counts more reused frames than rows it counts or expects, and
after the first frame of an attempt an event comes at most every
`progressFrameInterval` frames, beside those at the boundary of the stored rows.
So a call emits fewer than `2 ^ 61` events, whatever its decoders emit.
-/

namespace FrameScope.Ports.IndexingEvents

open FrameScope.Ports.Core
open FrameScope.Ports.Decoder
open FrameScope.Ports.FrameIndexModel
open FrameScope.Ports.SourceBinding
open FrameScope.Ports.FrameIndexStore
open FrameScope.Ports.Indexing
open FrameScope.Ports.IndexingProgress

/-- An event reuses no more frames than it counts or expects. -/
def Reuses (event : IndexingProgress) : Prop :=
  event.reusedFrames ≤ max event.indexedFrames event.expectedReuseFrames

/-- At most `n` events so far, and each of them reuses what it counts. -/
structure Emits (session : Session) (n : Nat) : Prop where
  reuses : ∀ event ∈ session.progress, Reuses event
  count : session.progress.length ≤ n

theorem Emits.congr {session session' : Session} {n : Nat} (h : Emits session n)
    (hSame : session'.progress = session.progress) : Emits session' n := by
  constructor
  · rw [hSame]
    exact h.reuses
  · rw [hSame]
    exact h.count

theorem Emits.mono {session : Session} {n m : Nat} (h : Emits session n) (hLe : n ≤ m) :
    Emits session m :=
  ⟨h.reuses, h.count.trans hLe⟩

theorem Emits.emit {session : Session} {n : Nat} {event : IndexingProgress} (h : Emits session n)
    (hEvent : Reuses event) : Emits (session.emit event) (n + 1) := by
  unfold Session.emit
  constructor
  · intro other hOther
    cases List.mem_append.mp hOther with
    | inl hOld => exact h.reuses other hOld
    | inr hNew =>
        rw [List.mem_singleton] at hNew
        rw [hNew]
        exact hEvent
  · have hCount := h.count
    simp only [List.length_append, List.length_singleton]
    omega

/-! ## One attempt -/

/-- The events an attempt may have emitted when it is about to decode `frameId`. -/
def allowance (expected frameId : Nat) : Nat :=
  frameId / progressFrameInterval + (if 1 ≤ frameId then 1 else 0) +
    (if expected ≤ frameId then 1 else 0) + (if saturatingAddU64 expected 1 ≤ frameId then 1 else 0)

/-- The most events an attempt emits between its first one and its end. -/
def attemptEvents : Nat := 2 ^ 58 + 4

theorem allowance_le {expected frameId : Nat} (hFits : frameId < 2 ^ 64) :
    allowance expected frameId ≤ 2 ^ 58 + 3 := by
  unfold allowance progressFrameInterval
  have hQuotient : frameId / 64 ≤ 2 ^ 58 := by omega
  have hFirst : (if 1 ≤ frameId then 1 else 0) ≤ 1 := by split <;> omega
  have hBoundary : (if expected ≤ frameId then 1 else 0) ≤ 1 := by split <;> omega
  have hBeyond : (if saturatingAddU64 expected 1 ≤ frameId then 1 else 0) ≤ 1 := by
    split <;> omega
  omega

/-- A due event is covered by what the next identity allows. -/
theorem allowance_due {expected frameId : Nat} (hFits : frameId + 1 < 2 ^ 64)
    (hDue : frameId + 1 = 1 ∨ frameId + 1 = expected ∨ frameId + 1 = saturatingAddU64 expected 1 ∨
      (frameId + 1) % progressFrameInterval = 0) :
    allowance expected frameId + 1 ≤ allowance expected (frameId + 1) := by
  unfold allowance progressFrameInterval
  unfold progressFrameInterval at hDue
  split <;> split <;> split <;> split <;> split <;> split <;> omega

theorem allowance_mono (expected frameId : Nat) :
    allowance expected frameId ≤ allowance expected (frameId + 1) := by
  unfold allowance progressFrameInterval
  split <;> split <;> split <;> split <;> split <;> split <;> omega

variable {expected n : Nat} {attempt : Attempt}

/-- How an iteration leaves the events. -/
def IterationEmits (expected n : Nat) : FrameOutcome → Prop
  | .next attempt => Emits attempt.session (n + allowance expected attempt.frameId)
  | .broke session => Emits session (n + attemptEvents)
  | .failed _ session => Emits session (n + attemptEvents)

/-- How an attempt leaves the events. -/
def AttemptEmits (n : Nat) : AttemptOutcome → Prop
  | .broke session => Emits session n
  | .finished _ session => Emits session n
  | .failed _ session => Emits session n

theorem Emits.capped (h : Emits attempt.session (n + allowance expected attempt.frameId))
    (hFits : attempt.frameId < 2 ^ 64) : Emits attempt.session (n + attemptEvents) := by
  have hAllowance : allowance expected attempt.frameId ≤ 2 ^ 58 + 3 := allowance_le hFits
  apply h.mono
  unfold attemptEvents
  omega

theorem reportFrame_emits (hReused : attempt.reused ≤ expected)
    (h : Emits attempt.session n) :
    ∃ session, attempt.reportFrame expected = { attempt with session := session } ∧
      (Emits session n ∨ Emits session (n + 1) ∧
        (saturatingAddU64 attempt.frameId 1 = 1 ∨ saturatingAddU64 attempt.frameId 1 = expected ∨
          saturatingAddU64 attempt.frameId 1 = saturatingAddU64 expected 1 ∨
          saturatingAddU64 attempt.frameId 1 % progressFrameInterval = 0)) := by
  unfold Attempt.reportFrame
  dsimp only
  split
  · rename_i hDue
    refine ⟨_, rfl, .inr ⟨h.emit ?_, hDue⟩⟩
    exact hReused.trans (Nat.le_max_right _ _)
  · exact ⟨attempt.session, rfl, .inl h⟩

theorem advance_emits (hFits : attempt.frameId < 2 ^ 64) (hReused : attempt.reused ≤ expected)
    (h : Emits attempt.session (n + allowance expected attempt.frameId)) :
    IterationEmits expected n (attempt.advance expected) := by
  have hAllowance : allowance expected attempt.frameId ≤ 2 ^ 58 + 3 := allowance_le hFits
  obtain ⟨session, hReport, hEmits⟩ := reportFrame_emits hReused h
  unfold Attempt.advance
  rw [hReport]
  dsimp only
  split
  · show Emits session (n + attemptEvents)
    unfold attemptEvents
    cases hEmits with
    | inl hSame => exact hSame.mono (by omega)
    | inr hMore => exact hMore.1.mono (by omega)
  · rename_i next hAdd
    obtain ⟨hBound, rfl⟩ := checkedAddU64_eq_some.1 hAdd
    show Emits session (n + allowance expected (attempt.frameId + 1))
    cases hEmits with
    | inl hSame =>
        have hMono := allowance_mono expected attempt.frameId
        exact hSame.mono (by omega)
    | inr hMore =>
        obtain ⟨hMore, hDue⟩ := hMore
        have hProcessed : saturatingAddU64 attempt.frameId 1 = attempt.frameId + 1 := by
          unfold saturatingAddU64
          omega
        rw [hProcessed] at hDue
        have hNext := allowance_due hBound hDue
        exact hMore.mono (by omega)

section Attempts

variable [ContentHash]

theorem indexFrame_emits (options : IndexingOptions) (boundedActive : Bool)
    (h : Loop expected attempt)
    (hEmits : Emits attempt.session (n + allowance expected attempt.frameId))
    (decoded : DecodedFrame) :
    IterationEmits expected n (indexFrame options boundedActive expected attempt decoded) := by
  have hObserved : Tally expected attempt.frameId (attempt.observe decoded) :=
    ⟨h.tally.reused, h.tally.added, h.tally.stored⟩
  have hCapped := hEmits.capped h.fits
  unfold indexFrame
  dsimp only
  split
  · exact hCapped.congr rfl
  · have hFits : (attempt.observe decoded).frameId < 2 ^ 64 := h.fits
    have hHandles : Handles expected (attempt.observe decoded)
        (if (attempt.observe decoded).frameId < expected then
          reconcileFrame expected (attempt.observe decoded)
            (entryFromDecoded attempt.frameId decoded attempt.anchor)
        else enqueueFrame options boundedActive expected (attempt.observe decoded)
            (entryFromDecoded attempt.frameId decoded attempt.anchor)) :=
      handleFrame_handles options boundedActive hObserved hFits _
    generalize (if (attempt.observe decoded).frameId < expected then _ else _) = outcome
      at hHandles ⊢
    cases outcome with
    | broke session =>
        have hProgress : session.progress = attempt.session.progress := hHandles.1
        exact hCapped.congr hProgress
    | failed error session =>
        have hProgress : session.progress = attempt.session.progress := hHandles
        exact hCapped.congr hProgress
    | next handled =>
        obtain ⟨hId, hTally, hProgress⟩ := hHandles
        have hSame : handled.frameId = attempt.frameId := hId
        have hReused := hTally.reused
        apply advance_emits
        · rw [hSame]
          exact h.fits
        · omega
        · rw [hSame]
          exact hEmits.congr hProgress

theorem finishAttempt_emits (boundedActive restarted : Bool) (h : Loop expected attempt)
    (hEmits : Emits attempt.session (n + allowance expected attempt.frameId)) :
    AttemptEmits (n + attemptEvents) (finishAttempt boundedActive restarted expected attempt) := by
  have hAllowance : allowance expected attempt.frameId ≤ 2 ^ 58 + 3 := allowance_le h.fits
  unfold finishAttempt
  split
  · exact hEmits.capped h.fits
  · obtain ⟨hNoted, hIndex⟩ :=
      noteBoundary_same attempt.session boundedActive attempt.reused expected
    dsimp only
    rcases flushBatch_tally (h.tally.withSession hIndex) with
      ⟨flushed, hFlush, hTally, -, -, hSame⟩ | ⟨error, failed, hFlush, hSame⟩
    · rw [hFlush]
      dsimp only
      have hReused : flushed.reused ≤ expected := by
        have hExact := hTally.reused
        omega
      have hFlushed : Emits flushed.session (n + allowance expected attempt.frameId) :=
        hEmits.congr (hSame.trans hNoted)
      have hEmitted : Emits (flushed.session.emit
          { stage := .finalizing
            indexedFrames := saturatingAddU64 flushed.reused flushed.added
            reusedFrames := flushed.reused
            expectedReuseFrames := expected
            currentTimestampUs := flushed.lastTimestampUs })
          (n + allowance expected attempt.frameId + 1) :=
        hFlushed.emit (hReused.trans (Nat.le_max_right _ _))
      have hLast := Emits.mono (m := n + attemptEvents) hEmitted (by unfold attemptEvents; omega)
      split
      · exact hLast
      · split
        · exact hLast.congr rfl
        · exact hLast.congr rfl
    · rw [hFlush]
      exact (hEmits.capped h.fits).congr (hSame.trans hNoted)

theorem abandonAttempt_emits (error : FrameScopeError) (h : Loop expected attempt)
    (hEmits : Emits attempt.session (n + allowance expected attempt.frameId)) :
    AttemptEmits (n + attemptEvents) (abandonAttempt attempt error) := by
  have hCapped := hEmits.capped h.fits
  unfold abandonAttempt
  rcases flushBatch_tally h.tally with
    ⟨flushed, hFlush, -, -, -, hSame⟩ | ⟨storage, failed, hFlush, hSame⟩
  · rw [hFlush]
    split
    · exact hCapped.congr ((mark_progress _ _).trans hSame)
    · exact hCapped.congr ((mark_progress _ _).trans hSame)
  · rw [hFlush]
    split
    · exact hCapped.congr hSame
    · exact hCapped.congr ((mark_progress _ _).trans hSame)

theorem runAttempt_emits (options : IndexingOptions) (boundedActive restarted : Bool)
    (ending : Option FrameScopeError) (frames : List DecodedFrame) :
    ∀ {attempt : Attempt}, Loop expected attempt →
      Emits attempt.session (n + allowance expected attempt.frameId) →
      AttemptEmits (n + attemptEvents)
        (runAttempt options boundedActive restarted expected ending frames attempt) := by
  induction frames with
  | nil =>
      intro attempt h hEmits
      unfold runAttempt
      cases ending with
      | none => exact finishAttempt_emits boundedActive restarted h hEmits
      | some error => exact abandonAttempt_emits error h hEmits
  | cons decoded rest ih =>
      intro attempt h hEmits
      have hStep := indexFrame_iterates options boundedActive h decoded
      have hEmitted := indexFrame_emits options boundedActive h hEmits decoded
      unfold runAttempt
      generalize indexFrame options boundedActive expected attempt decoded = outcome
        at hStep hEmitted ⊢
      cases outcome with
      | next attempt => exact ih hStep hEmitted
      | broke session => exact hEmitted
      | failed error session => exact hEmitted

theorem beginAttempt_emits (options : IndexingOptions) (boundedActive restarted : Bool)
    {start : Nat} (frames : List DecodedFrame) (ending : Option FrameScopeError)
    {session : Session} (h : Untouched expected session) (hStart : start ≤ expected)
    (hFits : start < 2 ^ 64) (hEmits : Emits session n) :
    AttemptEmits (n + 1 + attemptEvents)
      (beginAttempt options boundedActive restarted expected start frames ending session) := by
  rw [beginAttempt_eq]
  split
  · exact hEmits.mono (by omega)
  · rename_i index hMark
    apply runAttempt_emits
    · exact openingAttempt_loop h hStart hFits hMark
    · have hOpening : Reuses (openingEvent expected start) := by
        unfold Reuses openingEvent
        split
        · exact hStart.trans (Nat.le_max_right _ _)
        · exact Nat.zero_le _
      have hMarked : Emits { session with index := index } n := hEmits.congr rfl
      exact (hMarked.emit hOpening).mono (by omega)

end Attempts

/-! ## The attempts of one call -/

/-- The look for a checkpoint emits nothing. -/
theorem tryOpenBoundedResume_progress (opens : Opener) (expected : Nat) (session : Session) :
    (tryOpenBoundedResume opens expected session).2.progress = session.progress := by
  unfold tryOpenBoundedResume
  split
  · rfl
  · rfl
  · rename_i checkpoint id us hCheckpoint
    dsimp only
    generalize hNoted : session.count _ = noted
    have hSame : noted.progress = session.progress := by
      rw [← hNoted]
      rfl
    have hOpened := (openCheckedDecoder_same opens noted).1
    rcases hOpen : openCheckedDecoder opens noted with ⟨opened, session'⟩
    rw [hOpen] at hOpened
    have hProgress : session'.progress = session.progress := hOpened.trans hSame
    cases opened with
    | error error => exact hProgress
    | ok decoder =>
        dsimp only
        split
        · exact (mark_progress _ _).trans hProgress
        · exact hProgress
        · rename_i sought _
          have hScanned := (scanToCheckpoint_same checkpoint sought.script.ending
            resumeSeekScanLimit sought.script.pending session').1
          rcases hScan : scanToCheckpoint checkpoint sought.script.ending resumeSeekScanLimit
            sought.script.pending session' with ⟨found, scanned⟩
          rw [hScan] at hScanned
          have hStill : scanned.progress = session.progress := hScanned.trans hProgress
          cases found with
          | error error => exact hStill
          | ok found =>
              cases found with
              | none => exact hStill
              | some candidate => exact hStill

/-- The most events of one attempt. -/
def replayEvents : Nat := 1 + attemptEvents

section Calls

variable [ContentHash]

theorem replay_emits (options : IndexingOptions) (opens : Opener) (restarted : Bool)
    {session : Session} (h : Untouched expected session) (hEmits : Emits session n) :
    AttemptEmits (n + replayEvents) (replay options opens restarted expected session) := by
  unfold replay
  have hOpened := openCheckedDecoder_same opens session
  rcases hOpen : openCheckedDecoder opens session with ⟨opened, session'⟩
  rw [hOpen] at hOpened
  obtain ⟨hProgress, hIndex⟩ := hOpened
  have hStill : Emits session' n := hEmits.congr hProgress
  cases opened with
  | error error => exact hStill.mono (by omega)
  | ok decoder =>
      have hReplay := beginAttempt_emits options false restarted (remainingFrames decoder)
        decoder.script.ending (h.congr (hIndex decoder rfl) hProgress) (Nat.zero_le expected)
        (Nat.two_pow_pos 64) hStill
      rwa [Nat.add_assoc] at hReplay

theorem rebuild_emits (options : IndexingOptions) (opens : Opener) {session : Session}
    (h : Untouched expected session) (hEmits : Emits session n) :
    Emits (rebuild options opens session).2 (n + 1 + replayEvents) := by
  have hAnnounced : Reaches (session.emit ⟨.rebuildingIndex, 0, 0, 0, none⟩) 0 :=
    h.reaches.emit (.inl rfl)
  have hCleared : Untouched 0
      { session.emit ⟨.rebuildingIndex, 0, 0, 0, none⟩ with
        index := session.index.clearForRebuild } :=
    ⟨clearForRebuild_storedFrames h.stored, hAnnounced.congr rfl⟩
  have hEvent : Emits (session.emit ⟨.rebuildingIndex, 0, 0, 0, none⟩) (n + 1) :=
    hEmits.emit (Nat.zero_le _)
  unfold rebuild
  dsimp only
  generalize hReplay : replay options opens true 0 _ = outcome
  have hEnds : AttemptEmits (n + 1 + replayEvents) outcome := by
    rw [← hReplay]
    exact replay_emits options opens true hCleared (hEvent.congr rfl)
  cases outcome with
  | finished report session => exact hEnds
  | failed error session => exact hEnds
  | broke session => exact Emits.congr hEnds (mark_progress _ _)

theorem reconcile_emits (options : IndexingOptions) (opens : Opener) {session : Session}
    (h : Untouched expected session) (hEmits : Emits session n) :
    Emits (reconcile options opens expected session).2
      (n + replayEvents + 1 + replayEvents) := by
  have hEnds := replay_ends options opens false h
  have hReplay := replay_emits options opens false h hEmits
  unfold reconcile
  generalize replay options opens false expected session = outcome at hEnds hReplay ⊢
  cases outcome with
  | finished report session => exact Emits.mono hReplay (by omega)
  | failed error session => exact Emits.mono hReplay (by omega)
  | broke session =>
      dsimp only
      split
      · exact rebuild_emits options opens hEnds hReplay
      · have hMarked : Emits (partialIndexMismatch session).2 (n + replayEvents) :=
          hReplay.congr (mark_progress _ _)
        exact hMarked.mono (by omega)

theorem buildFrom_emits (options : IndexingOptions) (opens : Opener) {session : Session}
    (h : Untouched expected session) (hEmits : Emits session n) :
    Emits (buildFrom options opens expected session).2
      (n + replayEvents + replayEvents + 1 + replayEvents) := by
  have hStarts : Starts expected
      (if 0 < expected then tryOpenBoundedResume opens expected session
        else (.ok none, session)) := by
    split
    · exact tryOpenBoundedResume_starts opens h
    · exact h
  have hSame : (if 0 < expected then tryOpenBoundedResume opens expected session
      else (.ok none, session)).2.progress = session.progress := by
    split
    · exact tryOpenBoundedResume_progress opens expected session
    · rfl
  unfold buildFrom
  generalize (if 0 < expected then tryOpenBoundedResume opens expected session
    else (.ok none, session)) = started at hStarts hSame
  obtain ⟨start, session'⟩ := started
  have hStill : Emits session' n := hEmits.congr hSame
  cases start with
  | error error => exact hStill.mono (by omega)
  | ok found =>
      cases found with
      | none => exact (reconcile_emits options opens hStarts hStill).mono (by omega)
      | some start =>
          obtain ⟨hUntouched, hBelow, hFits⟩ := hStarts
          have hEnds := beginAttempt_ends options true false
            (start.checkpointFrame :: remainingFrames start.decoder)
            start.decoder.script.ending hUntouched (Nat.le_of_lt hBelow) hFits
          have hBegun := beginAttempt_emits options true false
            (start.checkpointFrame :: remainingFrames start.decoder)
            start.decoder.script.ending hUntouched (Nat.le_of_lt hBelow) hFits hStill
          rw [Nat.add_assoc] at hBegun
          dsimp only
          generalize beginAttempt options true false expected start.checkpointFrameId
            (start.checkpointFrame :: remainingFrames start.decoder)
            start.decoder.script.ending session' = outcome at hEnds hBegun ⊢
          cases outcome with
          | finished report session =>
              have hFinished : Emits session (n + replayEvents) := hBegun
              exact hFinished.mono (by omega)
          | failed error session =>
              have hFailed : Emits session (n + replayEvents) := hBegun
              exact hFailed.mono (by omega)
          | broke session =>
              have hBroke : Emits session (n + replayEvents) := hBegun
              exact reconcile_emits options opens (hEnds.congr rfl rfl) (hBroke.congr rfl)

/-- **The events of a call.**  Each reuses no more frames than it counts or
expects, and there are fewer than `2 ^ 61` of them. -/
theorem buildOrResumeFrameIndex_emits (options : IndexingOptions) (opens : Opener)
    (index : FrameIndex) : Emits (buildOrResumeFrameIndex options opens index).2 (2 ^ 61) := by
  unfold buildOrResumeFrameIndex
  dsimp only
  rw [if_neg (Nat.pos_iff_ne_zero.1 options.positive)]
  have hNone : Emits ⟨index, .default, [], 0⟩ 0 := ⟨by simp, Nat.le_refl 0⟩
  split
  · exact hNone.mono (Nat.zero_le _)
  · rename_i initial hStatus
    generalize initial.lastPresentationTimestamp.bind MediaTimestamp.toMicroseconds = timestampUs
    have hStart : Reaches ⟨index, .default, [], 0⟩ 0 :=
      ⟨List.isChain_nil, fun e he => by cases he⟩
    have hChecked : Reaches (Session.emit ⟨index, .default, [], 0⟩
        ⟨.checkingExistingIndex, initial.indexedFrames, 0, initial.indexedFrames, timestampUs⟩)
        initial.indexedFrames := hStart.emit (.inr (Nat.zero_le _))
    have hFirst : Emits (Session.emit ⟨index, .default, [], 0⟩
        ⟨.checkingExistingIndex, initial.indexedFrames, 0, initial.indexedFrames, timestampUs⟩) 1 :=
      hNone.emit (Nat.zero_le _)
    split
    · have hWhole : ∀ stage, Reuses ⟨stage, initial.indexedFrames, initial.indexedFrames,
          initial.indexedFrames, timestampUs⟩ := fun _ => Nat.le_max_right _ _
      have hFinal := (hFirst.emit (hWhole .reusingExistingIndex)).emit (hWhole .finalizing)
      exact hFinal.mono (by omega)
    · have hBuilt := buildFrom_emits options opens ⟨status_storedFrames hStatus, hChecked⟩ hFirst
      apply hBuilt.mono
      unfold replayEvents attemptEvents
      omega

end Calls

end FrameScope.Ports.IndexingEvents
