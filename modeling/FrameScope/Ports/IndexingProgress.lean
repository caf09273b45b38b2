import FrameScope.Ports.IndexingRuns

/-!
# The progress of an indexing call

The events of `build_or_resume_frame_index` come from the check of the stored
index, the validation of its rows, the append of new ones, the rebuild and the
end, each with counters of its own.  One invariant relates the counters of an
attempt to the identity it has reached and to the row count the store keeps;
from it, the events of a whole call never fall back except at a rebuild, and a
call that succeeds accounts for every row.

Nothing is asked of the database the call starts from, nor of the decoders.
-/

namespace FrameScope.Ports.IndexingProgress

open FrameScope.Ports.Core
open FrameScope.Ports.Decoder
open FrameScope.Ports.FrameIndexModel
open FrameScope.Ports.SourceBinding
open FrameScope.Ports.FrameIndexStore
open FrameScope.Ports.FrameIndexState
open FrameScope.Ports.FrameIndexInvariant
open FrameScope.Ports.Indexing
open FrameScope.Ports.IndexingCall
open FrameScope.Ports.IndexingRuns

/-! ## Events in order -/

/-- The next event announces a rebuild, or counts at least as many frames. -/
def Follows (earlier later : IndexingProgress) : Prop :=
  later.stage = .rebuildingIndex ∨ earlier.indexedFrames ≤ later.indexedFrames

/-- The events are in order, and the last one counts at most `n` frames. -/
structure Reaches (session : Session) (n : Nat) : Prop where
  ordered : session.progress.IsChain Follows
  last : ∀ e ∈ session.progress.getLast?, e.indexedFrames ≤ n

theorem Reaches.mono {session : Session} {n m : Nat} (h : Reaches session n) (hLe : n ≤ m) :
    Reaches session m :=
  ⟨h.ordered, fun e he => (h.last e he).trans hLe⟩

theorem Reaches.congr {session session' : Session} {n : Nat} (h : Reaches session n)
    (hSame : session'.progress = session.progress) : Reaches session' n := by
  constructor
  · rw [hSame]
    exact h.ordered
  · rw [hSame]
    exact h.last

/-- An event that may follow the last one. -/
theorem Reaches.emit {session : Session} {n : Nat} {event : IndexingProgress}
    (h : Reaches session n) (hNext : event.stage = .rebuildingIndex ∨ n ≤ event.indexedFrames) :
    Reaches (session.emit event) event.indexedFrames := by
  unfold Session.emit
  constructor
  · rw [List.isChain_append]
    refine ⟨h.ordered, List.isChain_singleton _, ?_⟩
    intro earlier hEarlier later hLater
    simp only [List.head?_cons, Option.mem_def, Option.some.injEq] at hLater
    subst hLater
    rcases hNext with hRebuild | hLe
    · exact .inl hRebuild
    · exact .inr ((h.last earlier hEarlier).trans hLe)
  · intro e he
    simp only [List.getLast?_append, List.getLast?_singleton, Option.some_or, Option.mem_def,
      Option.some.injEq] at he
    rw [← he]

/-! ## What leaves the events alone -/

@[simp] theorem count_progress (session : Session) (f : IndexingCounters → IndexingCounters) :
    (session.count f).progress = session.progress := rfl

@[simp] theorem count_index (session : Session) (f : IndexingCounters → IndexingCounters) :
    (session.count f).index = session.index := rfl

@[simp] theorem fallBack_progress (session : Session) :
    session.fallBack.progress = session.progress := rfl

@[simp] theorem fallBack_index (session : Session) :
    session.fallBack.index = session.index := rfl

@[simp] theorem mark_progress (session : Session)
    (mark : FrameIndex → Except FrameIndexError FrameIndex) :
    (session.mark mark).progress = session.progress := by
  unfold Session.mark
  split <;> rfl

/-! ## The row count the store keeps -/

/-- The column `indexed_frames`. -/
def storedFrames (index : FrameIndex) : Option Int :=
  index.connection.indexMeta.map (·.indexedFrames)

variable {index index' : FrameIndex}

theorem loadMeta_storedFrames {row : MetaRow} (h : index.loadMeta = .ok (some row)) :
    storedFrames index = some (row.indexedFrames : Int) := by
  unfold FrameIndex.loadMeta at h
  unfold storedFrames
  cases hMeta : index.connection.indexMeta with
  | none =>
      rw [hMeta] at h
      cases h
  | some columns =>
      rw [hMeta] at h
      obtain ⟨⟨generation, safety, stableKey⟩, -, h⟩ := bind_eq_ok.1 h
      obtain ⟨lifecycle, -, h⟩ := bind_eq_ok.1 h
      obtain ⟨indexedFrames, hCount, h⟩ := bind_eq_ok.1 h
      have hRow : row.indexedFrames = indexedFrames := by
        cases hFrames : columns.frameCount with
        | none =>
            rw [hFrames] at h
            cases h
            rfl
        | some count =>
            rw [hFrames] at h
            obtain ⟨frameCount, -, h⟩ := bind_eq_ok.1 h
            cases h
            rfl
      rw [hRow, Option.map_some]
      unfold fromSqlU64 at hCount
      split at hCount
      · rename_i hPos
        cases hCount
        rw [Int.toNat_of_nonneg hPos]
      · cases hCount

theorem requireMeta_storedFrames {row : MetaRow} (h : index.requireMeta = .ok row) :
    storedFrames index = some (row.indexedFrames : Int) := by
  unfold FrameIndex.requireMeta at h
  obtain ⟨found, hLoad, h⟩ := bind_eq_ok.1 h
  cases found with
  | none => cases h
  | some row' =>
      cases h
      exact loadMeta_storedFrames hLoad

theorem status_storedFrames {status : FrameIndexStatus} (h : index.status = .ok status) :
    storedFrames index = some (status.indexedFrames : Int) := by
  unfold FrameIndex.status at h
  obtain ⟨row, hRow, h⟩ := bind_eq_ok.1 h
  have hSame : status.indexedFrames = row.indexedFrames := by
    dsimp only at h
    split at h
    · cases h
      rfl
    · obtain ⟨last, -, h⟩ := bind_eq_ok.1 h
      cases h
      rfl
  rw [hSame]
  exact requireMeta_storedFrames hRow

theorem updateLifecycle_storedFrames {lifecycle : FrameIndexLifecycle} {frameCount : Option Nat}
    {lastError : Option String}
    (h : index.updateLifecycle lifecycle frameCount lastError = .ok index') :
    storedFrames index' = storedFrames index := by
  have hUpdated : ∃ count, index' = index.updateMeta fun row =>
      { row with lifecycle := lifecycle.asI64, frameCount := count, lastError := lastError } := by
    unfold FrameIndex.updateLifecycle at h
    cases frameCount with
    | none =>
        cases h
        exact ⟨none, rfl⟩
    | some value =>
        obtain ⟨count, -, h⟩ := bind_eq_ok.1 h
        cases h
        exact ⟨count, rfl⟩
  obtain ⟨count, rfl⟩ := hUpdated
  unfold storedFrames FrameIndex.updateMeta
  rw [Option.map_map]
  rfl

theorem markComplete_storedFrames (h : index.markComplete = .ok index') :
    storedFrames index' = storedFrames index := by
  unfold FrameIndex.markComplete at h
  obtain ⟨status, -, h⟩ := bind_eq_ok.1 h
  exact updateLifecycle_storedFrames h

section Rows

variable [ContentHash]

/-- A committed batch adds its length, and the sum fits the column. -/
theorem appendBatch_storedFrames {entries : List FrameIndexEntry} {n : Nat}
    (h : index.appendBatch entries = .ok index') (hSome : entries ≠ [])
    (hCount : storedFrames index = some (n : Int)) :
    storedFrames index' = some ((n + entries.length : Nat) : Int) ∧
      n + entries.length < 2 ^ 63 := by
  unfold FrameIndex.appendBatch at h
  rw [if_neg (by simpa using hSome)] at h
  obtain ⟨row, hRow, h⟩ := bind_eq_ok.1 h
  obtain ⟨_, -, h⟩ := bind_eq_ok.1 h
  obtain ⟨rows, -, h⟩ := bind_eq_ok.1 h
  have hSame := (requireMeta_storedFrames hRow).symm.trans hCount
  rw [Option.some.injEq, Int.natCast_inj] at hSame
  dsimp only at h
  split at h
  · cases h
  · rename_i total hAdd
    obtain ⟨next, hNext, h⟩ := bind_eq_ok.1 h
    cases h
    rw [(checkedAddU64_eq_some.1 hAdd).2, hSame] at hNext
    obtain ⟨hFits, hNextEq⟩ := toSqlU64_eq_ok.1 hNext
    refine ⟨?_, hFits⟩
    unfold storedFrames at hCount ⊢
    obtain ⟨columns, hMeta, -⟩ := Option.map_eq_some_iff.1 hCount
    simp [FrameIndex.updateMeta, FrameIndex.setRows, hMeta, hNextEq]

theorem clearForRebuild_storedFrames {n : Int} (h : storedFrames index = some n) :
    storedFrames index.clearForRebuild = some 0 := by
  unfold storedFrames at h ⊢
  obtain ⟨columns, hMeta, -⟩ := Option.map_eq_some_iff.1 h
  simp [FrameIndex.clearForRebuild, FrameIndex.updateMeta, FrameIndex.setRows, hMeta]

end Rows

/-! ## One attempt -/

/-- The counters of an attempt that has handled the identities below `frames`,
on an index of `expected` rows. -/
structure Tally (expected frames : Nat) (attempt : Attempt) : Prop where
  reused : attempt.reused = min (min frames expected) (2 ^ 64 - 1)
  added : attempt.added + attempt.batch.length = frames - expected
  stored : storedFrames attempt.session.index = some ((expected + attempt.added : Nat) : Int)

/-- The decode loop between two frames. -/
structure Loop (expected : Nat) (attempt : Attempt) : Prop where
  fits : attempt.frameId < 2 ^ 64
  tally : Tally expected attempt.frameId attempt
  reaches : Reaches attempt.session (max expected attempt.frameId)

/-- The session of an attempt that broke: nothing was appended. -/
structure Untouched (expected : Nat) (session : Session) : Prop where
  stored : storedFrames session.index = some (expected : Int)
  reaches : Reaches session expected

theorem Untouched.congr {expected : Nat} {session session' : Session}
    (h : Untouched expected session) (hIndex : session'.index = session.index)
    (hProgress : session'.progress = session.progress) : Untouched expected session' := by
  refine ⟨?_, h.reaches.congr hProgress⟩
  rw [hIndex]
  exact h.stored

variable {expected frames : Nat} {attempt : Attempt}

theorem Tally.withSession {session : Session} (h : Tally expected frames attempt)
    (hIndex : session.index = attempt.session.index) :
    Tally expected frames { attempt with session := session } := by
  refine ⟨h.reused, h.added, ?_⟩
  show storedFrames session.index = _
  rw [hIndex]
  exact h.stored

/-- Before the stored count is passed, nothing is appended. -/
theorem Loop.untouched (h : Loop expected attempt) (hBelow : attempt.frameId ≤ expected) :
    Untouched expected attempt.session := by
  have hAdded := h.tally.added
  have hNone : attempt.added = 0 := by omega
  constructor
  · rw [h.tally.stored, hNone, Nat.add_zero]
  · exact h.reaches.mono (by omega)

theorem refillChunk_same (expected : Nat) (attempt : Attempt) :
    (refillChunk expected attempt).2.progress = attempt.session.progress ∧
      (refillChunk expected attempt).2.index = attempt.session.index := by
  unfold refillChunk
  split
  · unfold loadReconciliationChunk
    dsimp only
    split
    · exact ⟨rfl, rfl⟩
    · split <;> exact ⟨rfl, rfl⟩
  · exact ⟨rfl, rfl⟩

theorem noteBoundary_same (session : Session) (boundedActive : Bool)
    (reused expectedExisting : Nat) :
    (session.noteBoundary boundedActive reused expectedExisting).progress = session.progress ∧
      (session.noteBoundary boundedActive reused expectedExisting).index = session.index := by
  unfold Session.noteBoundary
  split <;> exact ⟨rfl, rfl⟩

/-- The count of the event after a frame: the stored rows while they are
validated, then the frames reached. -/
theorem reported_between (hFits : attempt.frameId < 2 ^ 64)
    (h : Tally expected (attempt.frameId + 1) attempt) {count : Nat}
    (hCount : count =
      if decide (saturatingAddU64 attempt.frameId 1 ≤ expected) = true then expected
      else saturatingAddU64 (saturatingAddU64 attempt.reused attempt.added) attempt.batch.length) :
    max expected attempt.frameId ≤ count ∧ count ≤ max expected (attempt.frameId + 1) := by
  have hReused := h.reused
  have hAdded := h.added
  unfold saturatingAddU64 at hCount
  by_cases hValidating : min (attempt.frameId + 1) (2 ^ 64 - 1) ≤ expected
  · rw [if_pos (by simpa using hValidating)] at hCount
    omega
  · rw [if_neg (by simpa using hValidating)] at hCount
    omega

/-- How the handling of a frame leaves the attempt, before its event. -/
def Handles (expected : Nat) (attempt : Attempt) : FrameOutcome → Prop
  | .next handled =>
      handled.frameId = attempt.frameId ∧ Tally expected (attempt.frameId + 1) handled ∧
        handled.session.progress = attempt.session.progress
  | .broke session =>
      session.progress = attempt.session.progress ∧
        session.index = attempt.session.index ∧ attempt.frameId < expected
  | .failed _ session => session.progress = attempt.session.progress

theorem reconcileFrame_handles (h : Tally expected attempt.frameId attempt)
    (hBelow : attempt.frameId < expected) (entry : FrameIndexEntry) :
    Handles expected attempt (reconcileFrame expected attempt entry) := by
  have hSame := refillChunk_same expected attempt
  have hReused := h.reused
  have hAdded := h.added
  unfold reconcileFrame
  rcases hRefill : refillChunk expected attempt with ⟨loaded, session⟩
  rw [hRefill] at hSame
  obtain ⟨hProgress, hIndex⟩ := hSame
  dsimp only at hProgress hIndex
  cases loaded with
  | error error => exact hProgress
  | ok entries =>
      cases entries with
      | nil => exact ⟨hProgress, hIndex, hBelow⟩
      | cons existing chunk =>
          dsimp only
          split
          · refine ⟨rfl, ⟨?_, ?_, ?_⟩, hProgress⟩
            · show saturatingAddU64 attempt.reused 1 = _
              unfold saturatingAddU64
              omega
            · show attempt.added + attempt.batch.length = _
              omega
            · show storedFrames session.index = _
              rw [hIndex]
              exact h.stored
          · exact ⟨hProgress, hIndex, hBelow⟩

theorem reportFrame_reaches (hFits : attempt.frameId < 2 ^ 64)
    (h : Tally expected (attempt.frameId + 1) attempt)
    (hReaches : Reaches attempt.session (max expected attempt.frameId)) :
    ∃ session, attempt.reportFrame expected = { attempt with session := session } ∧
      session.index = attempt.session.index ∧
      Reaches session (max expected (attempt.frameId + 1)) := by
  obtain ⟨hLow, hHigh⟩ := reported_between hFits h rfl
  unfold Attempt.reportFrame
  dsimp only
  split
  · exact ⟨_, rfl, rfl, (hReaches.emit (.inr hLow)).mono hHigh⟩
  · exact ⟨attempt.session, rfl, rfl, hReaches.mono (by omega)⟩

/-- How an iteration leaves the attempt. -/
def Iterates (expected : Nat) : FrameOutcome → Prop
  | .next attempt => Loop expected attempt
  | .broke session => Untouched expected session
  | .failed _ session => session.progress.IsChain Follows

theorem advance_iterates (hFits : attempt.frameId < 2 ^ 64)
    (h : Tally expected (attempt.frameId + 1) attempt)
    (hReaches : Reaches attempt.session (max expected attempt.frameId)) :
    Iterates expected (attempt.advance expected) := by
  obtain ⟨session, hReport, hIndex, hNext⟩ := reportFrame_reaches hFits h hReaches
  unfold Attempt.advance
  rw [hReport]
  dsimp only
  split
  · exact hNext.ordered
  · rename_i next hAdd
    obtain ⟨hBound, rfl⟩ := checkedAddU64_eq_some.1 hAdd
    exact ⟨hBound, ⟨h.reused, h.added, (h.withSession hIndex).stored⟩, hNext⟩

section Attempts

variable [ContentHash]

/-- A flush moves the batch into the index. -/
theorem flushBatch_tally (h : Tally expected frames attempt) :
    (∃ flushed, flushBatch attempt = (.ok (), flushed) ∧ Tally expected frames flushed ∧
      flushed.batch = [] ∧ flushed.frameId = attempt.frameId ∧
      flushed.session.progress = attempt.session.progress) ∨
    (∃ error failed, flushBatch attempt = (.error error, failed) ∧
      failed.session.progress = attempt.session.progress) := by
  unfold flushBatch
  split
  · rename_i hEmpty
    exact .inl ⟨attempt, rfl, h, List.isEmpty_iff.1 hEmpty, rfl, rfl⟩
  · rename_i hSome
    split
    · rename_i index hAppend
      left
      obtain ⟨hStored, hBound⟩ := appendBatch_storedFrames hAppend (by simpa using hSome) h.stored
      have hFits : saturatingAddU64 attempt.added attempt.batch.length =
          attempt.added + attempt.batch.length := by
        unfold saturatingAddU64
        omega
      refine ⟨_, rfl, ⟨h.reused, ?_, ?_⟩, rfl, rfl, rfl⟩
      · rw [hFits]
        exact h.added
      · rw [hFits, ← Nat.add_assoc]
        exact hStored
    · right
      exact ⟨_, _, rfl, mark_progress _ _⟩

/-! ### One frame -/

theorem enqueueFrame_handles (options : IndexingOptions) (boundedActive : Bool)
    (h : Tally expected attempt.frameId attempt) (hFits : attempt.frameId < 2 ^ 64)
    (hBeyond : expected ≤ attempt.frameId) (entry : FrameIndexEntry) :
    Handles expected attempt (enqueueFrame options boundedActive expected attempt entry) := by
  have hReused := h.reused
  have hAdded := h.added
  obtain ⟨hProgress, hIndex⟩ :=
    noteBoundary_same attempt.session boundedActive attempt.reused expected
  have hPushed : Tally expected (attempt.frameId + 1)
      (attempt.push boundedActive expected entry) := by
    refine ⟨?_, ?_, ?_⟩
    · show attempt.reused = _
      omega
    · show attempt.added + (attempt.batch ++ [entry]).length = _
      rw [List.length_append, List.length_singleton]
      omega
    · show storedFrames (attempt.session.noteBoundary boundedActive attempt.reused expected).index = _
      rw [hIndex]
      exact h.stored
  unfold enqueueFrame
  dsimp only
  split
  · rcases flushBatch_tally hPushed with
      ⟨flushed, hFlush, hTally, -, hId, hSame⟩ | ⟨error, failed, hFlush, hSame⟩
    · rw [hFlush]
      exact ⟨hId, hTally, hSame.trans hProgress⟩
    · rw [hFlush]
      exact hSame.trans hProgress
  · exact ⟨rfl, hPushed, hProgress⟩

/-- A decoded frame is compared with its row, or queued. -/
theorem handleFrame_handles (options : IndexingOptions) (boundedActive : Bool)
    (h : Tally expected attempt.frameId attempt) (hFits : attempt.frameId < 2 ^ 64)
    (entry : FrameIndexEntry) :
    Handles expected attempt
      (if attempt.frameId < expected then reconcileFrame expected attempt entry
      else enqueueFrame options boundedActive expected attempt entry) := by
  split
  · rename_i hBelow
    exact reconcileFrame_handles h hBelow entry
  · rename_i hBeyond
    exact enqueueFrame_handles options boundedActive h hFits (Nat.not_lt.1 hBeyond) entry

/-- **One iteration of the decode loop.** -/
theorem indexFrame_iterates (options : IndexingOptions) (boundedActive : Bool)
    (h : Loop expected attempt) (decoded : DecodedFrame) :
    Iterates expected (indexFrame options boundedActive expected attempt decoded) := by
  have hObserved : Tally expected attempt.frameId (attempt.observe decoded) :=
    ⟨h.tally.reused, h.tally.added, h.tally.stored⟩
  unfold indexFrame
  dsimp only
  split
  · exact h.reaches.ordered
  · have hFits : (attempt.observe decoded).frameId < 2 ^ 64 := h.fits
    have hHandles : Handles expected (attempt.observe decoded)
        (if (attempt.observe decoded).frameId < expected then
          reconcileFrame expected (attempt.observe decoded)
            (entryFromDecoded attempt.frameId decoded attempt.anchor)
        else enqueueFrame options boundedActive expected (attempt.observe decoded)
            (entryFromDecoded attempt.frameId decoded attempt.anchor)) :=
      handleFrame_handles options boundedActive hObserved hFits _
    generalize (if (attempt.observe decoded).frameId < expected then _ else _) = outcome
      at hHandles ⊢
    cases outcome with
    | broke session =>
        obtain ⟨hProgress, hIndex, hBelow⟩ := hHandles
        exact (h.untouched (Nat.le_of_lt hBelow)).congr hIndex hProgress
    | failed error session =>
        have hProgress : session.progress = attempt.session.progress := hHandles
        exact (h.reaches.congr hProgress).ordered
    | next handled =>
        obtain ⟨hId, hTally, hProgress⟩ := hHandles
        have hSame : handled.frameId = attempt.frameId := hId
        apply advance_iterates
        · rw [hSame]
          exact h.fits
        · rw [hSame]
          exact hTally
        · rw [hSame]
          exact h.reaches.congr hProgress

/-! ### The end of an attempt -/

/-- A report that accounts for every row of the index it leaves. -/
structure Accounts (report : IndexingReport) (session : Session) : Prop where
  total : report.reusedExistingFrames + report.newlyIndexedFrames = report.status.indexedFrames
  status : session.index.status = .ok report.status

/-- How an attempt ends. -/
def Ends (expected : Nat) : AttemptOutcome → Prop
  | .broke session => Untouched expected session
  | .finished report session => session.progress.IsChain Follows ∧ Accounts report session
  | .failed _ session => session.progress.IsChain Follows

theorem finishAttempt_ends (boundedActive restarted : Bool) (h : Loop expected attempt) :
    Ends expected (finishAttempt boundedActive restarted expected attempt) := by
  unfold finishAttempt
  split
  · rename_i hBelow
    exact h.untouched (Nat.le_of_lt hBelow)
  · rename_i hBeyond
    obtain ⟨hNoted, hIndex⟩ :=
      noteBoundary_same attempt.session boundedActive attempt.reused expected
    dsimp only
    rcases flushBatch_tally (h.tally.withSession hIndex) with
      ⟨flushed, hFlush, hTally, hEmpty, hId, hSame⟩ | ⟨error, failed, hFlush, hSame⟩
    · rw [hFlush]
      dsimp only
      have hFits := h.fits
      have hReused := hTally.reused
      have hAdded := hTally.added
      rw [hEmpty, List.length_nil] at hAdded
      have hFlushed : Reaches flushed.session (max expected attempt.frameId) :=
        h.reaches.congr (hSame.trans hNoted)
      have hTotal : max expected attempt.frameId ≤
          saturatingAddU64 flushed.reused flushed.added := by
        unfold saturatingAddU64
        omega
      have hEmitted : Reaches (flushed.session.emit
          { stage := .finalizing
            indexedFrames := saturatingAddU64 flushed.reused flushed.added
            reusedFrames := flushed.reused
            expectedReuseFrames := expected
            currentTimestampUs := flushed.lastTimestampUs }) _ := hFlushed.emit (.inr hTotal)
      split
      · exact hEmitted.ordered
      · rename_i index hMark
        split
        · exact hEmitted.ordered
        · rename_i status hStatus
          refine ⟨hEmitted.ordered, ?_, hStatus⟩
          have hStored := (status_storedFrames hStatus).symm.trans
            ((markComplete_storedFrames hMark).trans hTally.stored)
          rw [Option.some.injEq, Int.natCast_inj] at hStored
          show flushed.reused + flushed.added = status.indexedFrames
          omega
    · rw [hFlush]
      exact (h.reaches.congr (hSame.trans hNoted)).ordered

theorem abandonAttempt_ends (error : FrameScopeError) (h : Loop expected attempt) :
    Ends expected (abandonAttempt attempt error) := by
  have hOrdered := h.reaches.ordered
  unfold abandonAttempt
  rcases flushBatch_tally h.tally with
    ⟨flushed, hFlush, -, -, -, hSame⟩ | ⟨storage, failed, hFlush, hSame⟩
  · rw [hFlush]
    split
    · show (Session.mark _ _).progress.IsChain Follows
      rwa [mark_progress, hSame]
    · show (Session.mark _ _).progress.IsChain Follows
      rwa [mark_progress, hSame]
  · rw [hFlush]
    split
    · show failed.session.progress.IsChain Follows
      rwa [hSame]
    · show (Session.mark _ _).progress.IsChain Follows
      rwa [mark_progress, hSame]

/-- **The decode loop**, by recursion on the frames the decoder emits. -/
theorem runAttempt_ends (options : IndexingOptions) (boundedActive restarted : Bool)
    (ending : Option FrameScopeError) (frames : List DecodedFrame) :
    ∀ {attempt : Attempt}, Loop expected attempt →
      Ends expected
        (runAttempt options boundedActive restarted expected ending frames attempt) := by
  induction frames with
  | nil =>
      intro attempt h
      unfold runAttempt
      cases ending with
      | none => exact finishAttempt_ends boundedActive restarted h
      | some error => exact abandonAttempt_ends error h
  | cons decoded rest ih =>
      intro attempt h
      have hStep := indexFrame_iterates options boundedActive h decoded
      unfold runAttempt
      generalize indexFrame options boundedActive expected attempt decoded = outcome at hStep ⊢
      cases outcome with
      | next attempt => exact ih hStep
      | broke session => exact hStep
      | failed error session => exact hStep

/-- The first event of an attempt. -/
def openingEvent (expected start : Nat) : IndexingProgress :=
  if 0 < expected then
    { stage := .validatingExistingIndex
      indexedFrames := expected
      reusedFrames := start
      expectedReuseFrames := expected
      currentTimestampUs := none }
  else
    { stage := .indexing
      indexedFrames := 0
      reusedFrames := 0
      expectedReuseFrames := 0
      currentTimestampUs := none }

/-- An attempt that has announced itself. -/
def openingAttempt (expected start : Nat) (session : Session) (index : FrameIndex) : Attempt where
  session := ({ session with index := index }).emit (openingEvent expected start)
  frameId := start
  reused := start
  anchor := .streamStart
  batch := []
  persistedChunk := []
  added := 0
  lastTimestampUs := none

omit [ContentHash] in
theorem openingAttempt_loop {start : Nat} {session : Session} {index : FrameIndex}
    (h : Untouched expected session) (hStart : start ≤ expected) (hFits : start < 2 ^ 64)
    (hMark : session.index.markBuilding = .ok index) :
    Loop expected (openingAttempt expected start session index) := by
  have hStored : storedFrames index = some (expected : Int) :=
    (updateLifecycle_storedFrames hMark).trans h.stored
  have hMarked : Reaches { session with index := index } expected := h.reaches.congr rfl
  refine ⟨hFits, ⟨?_, ?_, hStored⟩, ?_⟩
  · show start = min (min start expected) (2 ^ 64 - 1)
    omega
  · show 0 = start - expected
    omega
  · rw [show max expected (openingAttempt expected start session index).frameId = expected from
      Nat.max_eq_left hStart]
    show Reaches (Session.emit _ (openingEvent expected start)) expected
    unfold openingEvent
    split
    · exact hMarked.emit (.inr (Nat.le_refl expected))
    · rename_i hNone
      have hZero : expected = 0 := by omega
      rw [hZero] at hMarked ⊢
      exact hMarked.emit (.inr (Nat.le_refl 0))

theorem beginAttempt_eq (options : IndexingOptions) (boundedActive restarted : Bool)
    (expected start : Nat) (frames : List DecodedFrame) (ending : Option FrameScopeError)
    (session : Session) :
    beginAttempt options boundedActive restarted expected start frames ending session =
      match session.index.markBuilding with
      | .error error => .failed (.storage error) session
      | .ok index => runAttempt options boundedActive restarted expected ending frames
          (openingAttempt expected start session index) := rfl

theorem beginAttempt_ends (options : IndexingOptions) (boundedActive restarted : Bool)
    {start : Nat} (frames : List DecodedFrame) (ending : Option FrameScopeError)
    {session : Session} (h : Untouched expected session) (hStart : start ≤ expected)
    (hFits : start < 2 ^ 64) :
    Ends expected
      (beginAttempt options boundedActive restarted expected start frames ending session) := by
  rw [beginAttempt_eq]
  split
  · exact h.reaches.ordered
  · rename_i index hMark
    apply runAttempt_ends
    exact openingAttempt_loop h hStart hFits hMark

end Attempts

/-! ## Decoders and checkpoints -/

theorem openCheckedDecoder_same (opens : Opener) (session : Session) :
    (openCheckedDecoder opens session).2.progress = session.progress ∧
      ∀ decoder, (openCheckedDecoder opens session).1 = .ok decoder →
        (openCheckedDecoder opens session).2.index = session.index := by
  unfold openCheckedDecoder
  dsimp only
  split
  · exact ⟨mark_progress _ _, fun decoder hOk => by cases hOk⟩
  · split
    · exact ⟨rfl, fun decoder hOk => by cases hOk⟩
    · split
      · exact ⟨mark_progress _ _, fun decoder hOk => by cases hOk⟩
      · exact ⟨rfl, fun decoder _ => rfl⟩

theorem scanToCheckpoint_same (checkpoint : FrameIndexEntry) (ending : Option FrameScopeError)
    (limit : Nat) :
    ∀ (pending : List Emission) (session : Session),
      (scanToCheckpoint checkpoint ending limit pending session).2.progress = session.progress ∧
        ∀ found, (scanToCheckpoint checkpoint ending limit pending session).1 = .ok found →
          (scanToCheckpoint checkpoint ending limit pending session).2.index = session.index := by
  induction limit with
  | zero =>
      intro pending session
      exact ⟨rfl, fun found _ => rfl⟩
  | succ limit ih =>
      intro pending session
      cases pending with
      | nil =>
          unfold scanToCheckpoint
          split
          · exact ⟨mark_progress _ _, fun found hOk => by cases hOk⟩
          · exact ⟨rfl, fun found _ => rfl⟩
      | cons e rest =>
          unfold scanToCheckpoint
          dsimp only
          split
          · exact ⟨rfl, fun found _ => rfl⟩
          · exact ih rest _

theorem selectResumeCheckpoint_below {index : FrameIndex} {id : Nat} {timestamp : MediaTimestamp}
    (h : selectResumeCheckpoint index expected = .ok (some (id, timestamp))) : id < expected := by
  unfold selectResumeCheckpoint at h
  split at h
  · cases h
  · obtain ⟨safety, -, h⟩ := bind_eq_ok.1 h
    split at h
    · cases h
    · obtain ⟨probe, -, h⟩ := bind_eq_ok.1 h
      cases probe with
      | none => cases h
      | some probe =>
          dsimp only at h
          split at h
          · rename_i anchorId anchorTimestamp _
            split at h
            · cases h
            · rename_i hInside
              split at h
              · cases h
              · split at h
                · cases h
                · cases h
                  omega
          · cases h

/-- A checkpoint lies below the stored count and is a row of the store. -/
theorem resumeCheckpoint_below {index : FrameIndex} {checkpoint : FrameIndexEntry} {id : Nat}
    {us : Int} (h : resumeCheckpoint index expected = .ok (some (checkpoint, id, us))) :
    id < expected ∧ id < 2 ^ 63 := by
  unfold resumeCheckpoint at h
  obtain ⟨selected, hSelected, h⟩ := bind_eq_ok.1 h
  cases selected with
  | none => cases h
  | some chosen =>
      obtain ⟨chosenId, timestamp⟩ := chosen
      obtain ⟨row, hRow, h⟩ := bind_eq_ok.1 h
      have hId : id = chosenId := by
        cases row with
        | none => cases h
        | some row =>
            dsimp only at h
            split at h
            · cases h
            · rw [Except.ok.injEq, Option.map_eq_some_iff] at h
              obtain ⟨_, -, hEq⟩ := h
              cases hEq
              rfl
      rw [hId]
      constructor
      · exact selectResumeCheckpoint_below hSelected
      · unfold FrameIndex.entry at hRow
        obtain ⟨key, hKey, -⟩ := bind_eq_ok.1 hRow
        exact (toSqlU64_eq_ok.1 hKey).1

/-- How the attempt to open a bounded resume ends. -/
def Starts (expected : Nat) : Except IndexingError (Option BoundedResumeStart) × Session → Prop
  | (.error _, session) => session.progress.IsChain Follows
  | (.ok none, session) => Untouched expected session
  | (.ok (some start), session) =>
      Untouched expected session ∧ start.checkpointFrameId < expected ∧
        start.checkpointFrameId < 2 ^ 64

theorem tryOpenBoundedResume_starts (opens : Opener) {session : Session}
    (h : Untouched expected session) :
    Starts expected (tryOpenBoundedResume opens expected session) := by
  unfold tryOpenBoundedResume
  split
  · exact h.reaches.ordered
  · exact h
  · rename_i checkpoint id us hCheckpoint
    obtain ⟨hBelow, hFits⟩ := resumeCheckpoint_below hCheckpoint
    dsimp only
    generalize hNoted : session.count _ = noted
    have hNotedUntouched : Untouched expected noted := by
      rw [← hNoted]
      exact h.congr rfl rfl
    have hOpened := openCheckedDecoder_same opens noted
    rcases hOpen : openCheckedDecoder opens noted with ⟨opened, session'⟩
    rw [hOpen] at hOpened
    obtain ⟨hProgress, hIndex⟩ := hOpened
    cases opened with
    | error error => exact (hNotedUntouched.reaches.congr hProgress).ordered
    | ok decoder =>
        have hUntouched : Untouched expected session' :=
          hNotedUntouched.congr (hIndex decoder rfl) hProgress
        dsimp only
        split
        · show (Session.mark _ _).progress.IsChain Follows
          rw [mark_progress]
          exact hUntouched.reaches.ordered
        · exact hUntouched.congr rfl rfl
        · rename_i sought _
          have hScanned := scanToCheckpoint_same checkpoint sought.script.ending
            resumeSeekScanLimit sought.script.pending session'
          rcases hScan : scanToCheckpoint checkpoint sought.script.ending resumeSeekScanLimit
            sought.script.pending session' with ⟨found, scanned⟩
          rw [hScan] at hScanned
          obtain ⟨hProgress, hIndex⟩ := hScanned
          cases found with
          | error error => exact (hUntouched.reaches.congr hProgress).ordered
          | ok found =>
              have hStill : Untouched expected scanned :=
                hUntouched.congr (hIndex found rfl) hProgress
              cases found with
              | none => exact hStill
              | some candidate =>
                  have hIdFits : id < 2 ^ 64 := by omega
                  exact ⟨hStill, hBelow, hIdFits⟩

/-! ## The attempts of one call -/

/-- What a call leaves: events in order, and on success a report that accounts
for every row. -/
def Answers : BuildResult → Prop
  | (.ok report, session) => session.progress.IsChain Follows ∧ Accounts report session
  | (.error _, session) => session.progress.IsChain Follows

theorem partialIndexMismatch_answers {session : Session}
    (h : session.progress.IsChain Follows) : Answers (partialIndexMismatch session) := by
  show (Session.mark _ _).progress.IsChain Follows
  rwa [mark_progress]

section Calls

variable [ContentHash]

theorem replay_ends (options : IndexingOptions) (opens : Opener) (restarted : Bool)
    {session : Session} (h : Untouched expected session) :
    Ends expected (replay options opens restarted expected session) := by
  unfold replay
  have hOpened := openCheckedDecoder_same opens session
  rcases hOpen : openCheckedDecoder opens session with ⟨opened, session'⟩
  rw [hOpen] at hOpened
  obtain ⟨hProgress, hIndex⟩ := hOpened
  cases opened with
  | error error => exact (h.reaches.congr hProgress).ordered
  | ok decoder =>
      apply beginAttempt_ends
      · exact h.congr (hIndex decoder rfl) hProgress
      · exact Nat.zero_le expected
      · exact Nat.two_pow_pos 64

theorem rebuild_answers (options : IndexingOptions) (opens : Opener) {session : Session}
    (h : Untouched expected session) : Answers (rebuild options opens session) := by
  have hAnnounced : Reaches (session.emit ⟨.rebuildingIndex, 0, 0, 0, none⟩) 0 :=
    h.reaches.emit (.inl rfl)
  have hCleared : Untouched 0
      { session.emit ⟨.rebuildingIndex, 0, 0, 0, none⟩ with
        index := session.index.clearForRebuild } :=
    ⟨clearForRebuild_storedFrames h.stored, hAnnounced.congr rfl⟩
  unfold rebuild
  dsimp only
  generalize hReplay : replay options opens true 0 _ = outcome
  have hEnds : Ends 0 outcome := by
    rw [← hReplay]
    exact replay_ends options opens true hCleared
  cases outcome with
  | finished report session => exact hEnds
  | failed error session => exact hEnds
  | broke session => exact partialIndexMismatch_answers hEnds.reaches.ordered

theorem reconcile_answers (options : IndexingOptions) (opens : Opener) {session : Session}
    (h : Untouched expected session) : Answers (reconcile options opens expected session) := by
  have hEnds := replay_ends options opens false h
  unfold reconcile
  generalize replay options opens false expected session = outcome at hEnds ⊢
  cases outcome with
  | finished report session => exact hEnds
  | failed error session => exact hEnds
  | broke session =>
      dsimp only
      split
      · exact rebuild_answers options opens hEnds
      · exact partialIndexMismatch_answers hEnds.reaches.ordered

theorem buildFrom_answers (options : IndexingOptions) (opens : Opener) {session : Session}
    (h : Untouched expected session) : Answers (buildFrom options opens expected session) := by
  have hStarts : Starts expected
      (if 0 < expected then tryOpenBoundedResume opens expected session
        else (.ok none, session)) := by
    split
    · exact tryOpenBoundedResume_starts opens h
    · exact h
  unfold buildFrom
  generalize (if 0 < expected then tryOpenBoundedResume opens expected session
    else (.ok none, session)) = started at hStarts
  obtain ⟨start, session'⟩ := started
  cases start with
  | error error => exact hStarts
  | ok found =>
      cases found with
      | none => exact reconcile_answers options opens hStarts
      | some start =>
          obtain ⟨hUntouched, hBelow, hFits⟩ := hStarts
          have hEnds := beginAttempt_ends options true false
            (start.checkpointFrame :: remainingFrames start.decoder)
            start.decoder.script.ending hUntouched (Nat.le_of_lt hBelow) hFits
          dsimp only
          generalize beginAttempt options true false expected start.checkpointFrameId
            (start.checkpointFrame :: remainingFrames start.decoder)
            start.decoder.script.ending session' = outcome at hEnds ⊢
          cases outcome with
          | finished report session => exact hEnds
          | failed error session => exact hEnds
          | broke session => exact reconcile_answers options opens (hEnds.congr rfl rfl)

/-- **Progress and totals of an indexing call.**  Whatever database the call
starts from and whatever its decoders do, no event counts fewer frames than the
one before it unless it announces a rebuild; and when the index was not already
complete, a call that succeeds reports as many reused and new frames together
as the index it leaves holds. -/
theorem indexing_progress_monotone (options : IndexingOptions) (opens : Opener)
    (index : FrameIndex) :
    let result := buildOrResumeFrameIndex options opens index
    result.2.progress.IsChain Follows ∧
      ∀ initial report, index.status = .ok initial → initial.lifecycle ≠ .complete →
        result.1 = .ok report →
          report.reusedExistingFrames + report.newlyIndexedFrames =
              report.status.indexedFrames ∧
            result.2.index.status = .ok report.status := by
  unfold buildOrResumeFrameIndex
  dsimp only
  rw [if_neg (Nat.pos_iff_ne_zero.1 options.positive)]
  split
  · rename_i hStatus
    refine ⟨List.isChain_nil, ?_⟩
    intro initial report hInitial
    rw [hStatus] at hInitial
    cases hInitial
  · rename_i initial hStatus
    generalize initial.lastPresentationTimestamp.bind MediaTimestamp.toMicroseconds = timestampUs
    have hNone : Reaches ⟨index, .default, [], 0⟩ 0 :=
      ⟨List.isChain_nil, fun e he => by cases he⟩
    have hChecked : Reaches (Session.emit ⟨index, .default, [], 0⟩
        ⟨.checkingExistingIndex, initial.indexedFrames, 0, initial.indexedFrames, timestampUs⟩)
        initial.indexedFrames := hNone.emit (.inr (Nat.zero_le _))
    split
    · rename_i hComplete
      constructor
      · apply Reaches.ordered (n := initial.indexedFrames)
        apply Reaches.emit (n := initial.indexedFrames)
        · apply Reaches.emit hChecked
          exact .inr (Nat.le_refl _)
        · exact .inr (Nat.le_refl _)
      · intro initial' report hInitial hPartial
        rw [hStatus] at hInitial
        cases hInitial
        exact absurd hComplete hPartial
    · have hAnswers := buildFrom_answers options opens
        ⟨status_storedFrames hStatus, hChecked⟩
      generalize buildFrom options opens initial.indexedFrames _ = result at hAnswers
      obtain ⟨outcome, session⟩ := result
      cases outcome with
      | error error => exact ⟨hAnswers, fun initial report _ _ hOk => by cases hOk⟩
      | ok report =>
          obtain ⟨hOrdered, hAccounts⟩ := hAnswers
          refine ⟨hOrdered, ?_⟩
          intro initial' report' _ _ hOk
          cases hOk
          exact ⟨hAccounts.total, hAccounts.status⟩

end Calls

section Samples

local instance : ContentHash := constantHash

/-- A build that resumes the index a cancelled one left. -/
theorem indexing_progress_monotone_sample :
    ∃ report, (completedRun.result (toIndex sampleSource sampleStream cancelledState)).1 =
        .ok report ∧
      report.reusedExistingFrames + report.newlyIndexedFrames = report.status.indexedFrames := by
  obtain ⟨report, hOk⟩ : ∃ report,
      (completedRun.result (toIndex sampleSource sampleStream cancelledState)).1 = .ok report :=
    ⟨_, rfl⟩
  have hPartial : cancelledState.status.lifecycle ≠ .complete := by decide
  have hTotals := (indexing_progress_monotone completedRun.options completedRun.opens
    (toIndex sampleSource sampleStream cancelledState)).2 cancelledState.status report rfl
    hPartial hOk
  exact ⟨report, hOk, hTotals.1⟩

end Samples

end FrameScope.Ports.IndexingProgress
