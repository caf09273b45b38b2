import FrameScope.Ports.Indexing
import FrameScope.Ports.FrameIndexInvariant

/-!
# What one indexing attempt does to the index

`AttemptInv` is the invariant of the decode loop.  Of the frames `D` consumed
since the start identity `c`, those below the stored count agree with the stored
rows; the ones above are split between the rows appended so far and the batch
held in memory.  Every way an attempt can end follows from it: a `break` leaves
the stored rows as they were, a failure leaves them extended by some of the
decoded frames, and a normal end leaves exactly the rows before `c` followed by
the entries of all decoded frames.
-/

namespace FrameScope.Ports.IndexingAttempt

open FrameScope.Verified.KeyedTable
open FrameScope.Ports.Core
open FrameScope.Ports.Decoder
open FrameScope.Ports.FrameIndexModel
open FrameScope.Ports.SourceBinding
open FrameScope.Ports.FrameIndexStore
open FrameScope.Ports.FrameTimeline
open FrameScope.Ports.FrameIndexState
open FrameScope.Ports.FrameIndexInvariant
open FrameScope.Ports.Indexing

/-- The persisted decision is the one a recomputation takes. -/
def ExactSafety (st : IndexState) : Prop := st.seekSafety = seekSafetyOf st.entries

/-- The state `before` after `more` rows were appended to it. -/
def grown (before : IndexState) (more : List FrameIndexEntry)
    (safety : TimestampSeekSafety) : IndexState :=
  { before with entries := before.entries ++ more, seekSafety := safety }

theorem grown_append (before : IndexState) (more batch : List FrameIndexEntry)
    (safety : TimestampSeekSafety) :
    (grown before more safety).append batch =
      grown before (more ++ batch)
        (appendSeekSafety safety ((before.entries ++ more).map rowOf) batch) := by
  simp [grown, IndexState.append]

/-- What a run that does not complete leaves of the state `before`: its rows,
or those rows extended by some entries of the decoded frames. -/
structure Extends (stream : FrameIndexStreamIdentity) (before : IndexState) (c : Nat)
    (frames : List DecodedFrame) (st : IndexState) : Prop where
  shaped : Shaped stream st.entries
  safety : ExactSafety before → ExactSafety st
  rows : st.entries = before.entries ∨
    before.entries <+: st.entries ∧
      st.entries <+: before.entries.take c ++ entriesFrom c .streamStart frames
  incomplete : st.lifecycle ≠ .complete
  frameCount : st.frameCount = none

/-- What a run that completes leaves of the state `before`. -/
structure Completes (stream : FrameIndexStreamIdentity) (before : IndexState) (c : Nat)
    (frames : List DecodedFrame) (st : IndexState) : Prop where
  shaped : Shaped stream st.entries
  safety : ExactSafety before → ExactSafety st
  rows : st.entries = before.entries.take c ++ entriesFrom c .streamStart frames
  complete : st.lifecycle = .complete
  frameCount : st.frameCount = some st.entries.length
  lastError : st.lastError = none

theorem Extends.mark {stream : FrameIndexStreamIdentity} {before : IndexState} {c : Nat}
    {frames : List DecodedFrame} {st : IndexState} (h : Extends stream before c frames st)
    (lifecycle : FrameIndexLifecycle) (error : Option String) (hPartial : lifecycle ≠ .complete) :
    Extends stream before c frames (st.mark lifecycle error) :=
  ⟨h.shaped, h.safety, h.rows, hPartial, rfl⟩

theorem Extends.mono {stream : FrameIndexStreamIdentity} {before : IndexState} {c : Nat}
    {frames : List DecodedFrame} {st : IndexState} (h : Extends stream before c frames st)
    (more : List DecodedFrame) : Extends stream before c (frames ++ more) st where
  shaped := h.shaped
  safety := h.safety
  rows := by
    rcases h.rows with hSame | ⟨hGrown, hPrefix⟩
    · exact .inl hSame
    · refine .inr ⟨hGrown, hPrefix.trans ?_⟩
      rw [entriesFrom_append, ← List.append_assoc]
      exact List.prefix_append _ _
  incomplete := h.incomplete
  frameCount := h.frameCount

private theorem append_nil (st : IndexState) : st.append [] = st := by
  unfold IndexState.append appendSeekSafety
  cases st with
  | mk lifecycle frameCount lastError seekSafety entries =>
      cases seekSafety <;> simp [TimestampSeekSafety.permitsTimestampSeek, seekSafetyOfTicks]

@[simp] theorem mark_counters (session : Session)
    (mark : FrameIndex → Except FrameIndexError FrameIndex) :
    (session.mark mark).counters = session.counters := by
  unfold Session.mark
  split <;> rfl

private theorem drop_of_below {before : IndexState} {c : Nat} {D : List DecodedFrame}
    (hBelow : c + D.length ≤ before.entries.length) :
    (entriesFrom c .streamStart D).drop (before.entries.length - c) = [] := by
  rw [List.drop_eq_nil_iff, entriesFrom_length]
  omega

@[simp] theorem noteBoundary_index (session : Session) (boundedActive : Bool)
    (reused expectedExisting : Nat) :
    (session.noteBoundary boundedActive reused expectedExisting).index = session.index := by
  unfold Session.noteBoundary
  split <;> rfl

private theorem tail_numbered {before : IndexState} {c : Nat} (D : List DecodedFrame)
    (hStart : c ≤ before.entries.length) :
    Numbered before.entries.length
      ((entriesFrom c .streamStart D).drop (before.entries.length - c)) := by
  have hDrop := Consecutive.drop (entriesFrom_numbered c .streamStart D)
    (before.entries.length - c)
  rwa [show c + (before.entries.length - c) = before.entries.length by omega] at hDrop

theorem reportFrame_eq (attempt : Attempt) (expectedExisting : Nat) :
    ∃ session, attempt.reportFrame expectedExisting = { attempt with session := session } ∧
      session.index = attempt.session.index := by
  unfold Attempt.reportFrame
  dsimp only
  split
  · exact ⟨_, rfl, rfl⟩
  · exact ⟨attempt.session, rfl, rfl⟩

section Attempt

variable [ContentHash] {source : SourceIdentity} {stream : FrameIndexStreamIdentity}

/-! ## Flushing a batch -/

theorem mark_failedRecoverable {session : Session} {st : IndexState} (reason : String)
    (h : session.index = toIndex source stream st) :
    (session.mark (·.markFailedRecoverable reason)).index =
      toIndex source stream (st.mark .failedRecoverable (some reason)) := by
  simp only [Session.mark, h, markFailedRecoverable_toIndex]

theorem mark_incomplete {session : Session} {st : IndexState} (reason : Option String)
    (h : session.index = toIndex source stream st) :
    (session.mark (·.markIncomplete reason)).index =
      toIndex source stream (st.mark .incomplete reason) := by
  simp only [Session.mark, h, markIncomplete_toIndex]

/-- A flush appends the batch, or fails and only marks the index. -/
theorem flushBatch_spec {attempt : Attempt} {st : IndexState}
    (hIndex : attempt.session.index = toIndex source stream st)
    (hShaped : Shaped stream st.entries) (hNum : Numbered st.entries.length attempt.batch)
    (hValid : ∀ e ∈ attempt.batch, e.validate stream = .ok ()) :
    (∃ session added,
      flushBatch attempt =
        (.ok (), { attempt with session := session, batch := [], added := added }) ∧
      session.index = toIndex source stream (st.append attempt.batch) ∧
      Shaped stream (st.entries ++ attempt.batch) ∧
      session.counters.boundedResumeSucceeded =
        attempt.session.counters.boundedResumeSucceeded) ∨
    (∃ error,
      flushBatch attempt =
        (.error (.storage error), { attempt with
          session := attempt.session.mark (·.markFailedRecoverable error.toText) }) ∧
      2 ^ 63 ≤ st.entries.length + attempt.batch.length) := by
  by_cases hEmpty : attempt.batch = []
  · refine .inl ⟨attempt.session, attempt.added, ?_, ?_, ?_, rfl⟩
    · obtain ⟨session, frameId, reused, anchor, batch, chunk, added, last⟩ := attempt
      cases hEmpty
      rfl
    · rw [hEmpty, append_nil, hIndex]
    · rwa [hEmpty, List.append_nil]
  · have hIsEmpty : attempt.batch.isEmpty = false := by
      simpa using hEmpty
    by_cases hLen : st.entries.length + attempt.batch.length < 2 ^ 63
    · have hAppend : (toIndex source stream st).appendBatch attempt.batch =
          .ok (toIndex source stream (st.append attempt.batch)) :=
        appendBatch_toIndex hShaped hEmpty hNum hValid hLen
      refine .inl ⟨attempt.session.committed (toIndex source stream (st.append attempt.batch))
        attempt.batch.length, saturatingAddU64 attempt.added attempt.batch.length, ?_, rfl,
        hShaped.append hNum hValid hLen, rfl⟩
      simp only [flushBatch, hIsEmpty, hIndex, hAppend, Bool.false_eq_true, if_false]
    · cases hAppend : (toIndex source stream st).appendBatch attempt.batch with
      | ok index => exact absurd (appendBatch_toIndex_inv hEmpty hAppend).2.2 hLen
      | error error =>
          refine .inr ⟨error, ?_, by omega⟩
          simp only [flushBatch, hIsEmpty, hIndex, hAppend, Bool.false_eq_true, if_false]

/-! ## The loop invariant -/

/-- The entries `tail` beyond the stored ones are split between the rows
appended and the batch. -/
def RowsInv (source : SourceIdentity) (stream : FrameIndexStreamIdentity)
    (before : IndexState) (tail : List FrameIndexEntry) (attempt : Attempt) : Prop :=
  ∃ more safety,
    attempt.session.index = toIndex source stream (grown before more safety) ∧
    more ++ attempt.batch = tail ∧
    Shaped stream (before.entries ++ more) ∧
    (more = [] → safety = before.seekSafety) ∧
    (ExactSafety before → safety = seekSafetyOf (before.entries ++ more))

/-- The decode loop after the frames `D`, started at identity `c` on the state
`before`. -/
structure AttemptInv (source : SourceIdentity) (stream : FrameIndexStreamIdentity)
    (before : IndexState) (c : Nat) (D : List DecodedFrame) (attempt : Attempt) : Prop where
  rows : RowsInv source stream before
    ((entriesFrom c .streamStart D).drop (before.entries.length - c)) attempt
  /-- The stored rows that were reached are the entries decoded for them. -/
  agrees : before.entries.take (c + D.length) =
    (before.entries.take c ++ entriesFrom c .streamStart D).take before.entries.length
  frameId : attempt.frameId = c + D.length
  anchor : attempt.anchor = anchorAfter c .streamStart D
  chunk : ∃ m, attempt.persistedChunk = (before.entries.drop attempt.frameId).take m
  valid : ∀ e ∈ entriesFrom c .streamStart D, e.validate stream = .ok ()
  reused : attempt.reused = min (c + D.length) before.entries.length

section Invariant

variable {before : IndexState} {c : Nat} {D : List DecodedFrame} {attempt : Attempt}

theorem AttemptInv.start (hShaped : Shaped stream before.entries) (session : Session)
    (hIndex : session.index = toIndex source stream before)
    (hStart : c ≤ before.entries.length) :
    AttemptInv source stream before c []
      { session := session
        frameId := c
        reused := c
        anchor := .streamStart
        batch := []
        persistedChunk := []
        added := 0
        lastTimestampUs := none } where
  rows := by
    refine ⟨[], before.seekSafety, ?_, ?_, ?_, fun _ => rfl, ?_⟩
    · simpa [grown] using hIndex
    · simp [entriesFrom]
    · simpa using hShaped
    · intro hExact
      rw [List.append_nil]
      exact hExact
  agrees := by
    simp only [entriesFrom, List.append_nil, List.length_nil, Nat.add_zero, List.take_take]
    rw [Nat.min_eq_right hStart]
  frameId := rfl
  anchor := rfl
  chunk := ⟨0, by simp⟩
  valid := by simp [entriesFrom]
  reused := by simp [hStart]

/-- Until the stored count is passed, nothing is appended and nothing held. -/
theorem AttemptInv.untouched (h : AttemptInv source stream before c D attempt)
    (hBelow : c + D.length ≤ before.entries.length) :
    attempt.session.index = toIndex source stream before ∧ attempt.batch = [] := by
  obtain ⟨more, safety, hIndex, hSplit, -, hSafety, -⟩ := h.rows
  rw [drop_of_below hBelow, List.append_eq_nil_iff] at hSplit
  refine ⟨?_, hSplit.2⟩
  rw [hIndex, hSplit.1, hSafety hSplit.1]
  simp [grown]

/-- Once the stored rows are passed, they and the entries beyond them are the
rows before `c` and all decoded entries. -/
theorem AttemptInv.whole (h : AttemptInv source stream before c D attempt)
    (hStart : c ≤ before.entries.length) (hBeyond : before.entries.length ≤ c + D.length) :
    before.entries ++ (entriesFrom c .streamStart D).drop (before.entries.length - c) =
      before.entries.take c ++ entriesFrom c .streamStart D := by
  have hAgrees := h.agrees
  rw [List.take_of_length_le hBeyond, List.take_append, List.take_take, List.length_take,
    Nat.min_eq_left hStart, Nat.min_eq_right hStart] at hAgrees
  calc
    before.entries ++ (entriesFrom c .streamStart D).drop (before.entries.length - c) =
        (before.entries.take c ++
          (entriesFrom c .streamStart D).take (before.entries.length - c)) ++
            (entriesFrom c .streamStart D).drop (before.entries.length - c) :=
      congrArg (· ++ _) hAgrees
    _ = before.entries.take c ++ entriesFrom c .streamStart D := by
      rw [List.append_assoc, List.take_append_drop]

/-- Whatever happens next, the index holds the stored rows and some entries of
the decoded frames. -/
theorem AttemptInv.extends_ (h : AttemptInv source stream before c D attempt)
    (hStart : c ≤ before.entries.length)
    (hPartial : before.lifecycle ≠ .complete) (hCount : before.frameCount = none) :
    ∃ st, attempt.session.index = toIndex source stream st ∧
      Extends stream before c D st := by
  obtain ⟨more, safety, hIndex, hSplit, hShaped, -, hSafety⟩ := h.rows
  refine ⟨_, hIndex, hShaped, hSafety, ?_, hPartial, hCount⟩
  by_cases hBelow : c + D.length ≤ before.entries.length
  · left
    rw [drop_of_below hBelow, List.append_eq_nil_iff] at hSplit
    simp [grown, hSplit.1]
  · right
    refine ⟨List.prefix_append _ _, ?_⟩
    rw [← h.whole hStart (by omega), ← hSplit, ← List.append_assoc]
    exact List.prefix_append _ _

/-! ## One frame -/

/-- The chunk starts at the row of the frame to compare. -/
theorem refillChunk_spec {st : IndexState}
    (hIndex : attempt.session.index = toIndex source stream st)
    (hShaped : Shaped stream st.entries) (hBelow : attempt.frameId < st.entries.length)
    (hChunk : ∃ m, attempt.persistedChunk = (st.entries.drop attempt.frameId).take m) :
    (refillChunk st.entries.length attempt).2.index = attempt.session.index ∧
      ∃ m, (refillChunk st.entries.length attempt).1 =
        .ok ((st.entries.drop attempt.frameId).take (m + 1)) := by
  have hBound := hShaped.bounded
  obtain ⟨m, hChunk⟩ := hChunk
  unfold refillChunk
  by_cases hEmpty : attempt.persistedChunk = []
  · set last := attempt.frameId +
      min (st.entries.length - attempt.frameId) reconciliationChunkSize with hLast
    have hChunkSize : 0 < reconciliationChunkSize := by decide
    have hLt : last < 2 ^ 63 := by omega
    have hVisit : (toIndex source stream st).visitRange attempt.frameId last =
        .ok ((st.entries.take last).drop attempt.frameId) :=
      visitRange_toIndex hShaped (by omega) hLt
    rw [if_pos (by simpa using hEmpty)]
    simp only [loadReconciliationChunk, checkedAddU64, ← hLast, show last < 2 ^ 64 by omega,
      if_true, Session.count, hIndex, hVisit, true_and]
    refine ⟨last - attempt.frameId - 1, ?_⟩
    rw [List.drop_take, show last - attempt.frameId - 1 + 1 = last - attempt.frameId by omega]
  · have hPos : 0 < m := by
      rcases Nat.eq_zero_or_pos m with hZero | hPos
      · simp [hZero] at hChunk
        exact absurd hChunk hEmpty
      · exact hPos
    rw [if_neg (by simpa using hEmpty)]
    refine ⟨rfl, m - 1, ?_⟩
    rw [hChunk, show m - 1 + 1 = m by omega]

/-- Before the stored count, a frame is compared with the row of its identity. -/
theorem reconcileFrame_spec {st : IndexState} (entry : FrameIndexEntry)
    (hIndex : attempt.session.index = toIndex source stream st)
    (hShaped : Shaped stream st.entries) (hBelow : attempt.frameId < st.entries.length)
    (hChunk : ∃ m, attempt.persistedChunk = (st.entries.drop attempt.frameId).take m) :
    ∃ session, session.index = attempt.session.index ∧
      ((∃ m, reconcileFrame st.entries.length attempt entry =
          .next { attempt with
            session := session
            reused := saturatingAddU64 attempt.reused 1
            persistedChunk := (st.entries.drop (attempt.frameId + 1)).take m } ∧
          st.entries[attempt.frameId]? = some entry) ∨
        reconcileFrame st.entries.length attempt entry = .broke session) := by
  have hSpec := refillChunk_spec hIndex hShaped hBelow hChunk
  rcases hRefill : refillChunk st.entries.length attempt with ⟨loaded, session⟩
  rw [hRefill] at hSpec
  obtain ⟨hSame, m, rfl⟩ := hSpec
  have hGet : st.entries[attempt.frameId]? = some st.entries[attempt.frameId] :=
    List.getElem?_eq_getElem hBelow
  have hKey := Consecutive.key_eq hShaped.numbered hGet
  have hId : st.entries[attempt.frameId].frameId = attempt.frameId := by omega
  refine ⟨session, hSame, ?_⟩
  unfold reconcileFrame
  rw [hRefill, List.drop_eq_getElem_cons hBelow, List.take_succ_cons]
  by_cases hEntry : st.entries[attempt.frameId] = entry
  · left
    refine ⟨m, ?_, by rw [hGet, hEntry]⟩
    rw [← hEntry]
    simp [hId]
  · right
    simp [hEntry]

/-- A flush keeps the split, or fails with the index marked. -/
theorem flushBatch_rows {tail : List FrameIndexEntry}
    (hRows : RowsInv source stream before tail attempt)
    (hNum : Numbered before.entries.length tail)
    (hValid : ∀ e ∈ tail, e.validate stream = .ok ()) :
    (∃ session added,
      flushBatch attempt =
        (.ok (), { attempt with session := session, batch := [], added := added }) ∧
      RowsInv source stream before tail
        { attempt with session := session, batch := [], added := added } ∧
      session.counters.boundedResumeSucceeded =
        attempt.session.counters.boundedResumeSucceeded) ∨
    (∃ error,
      flushBatch attempt =
        (.error (.storage error), { attempt with
          session := attempt.session.mark (·.markFailedRecoverable error.toText) }) ∧
      2 ^ 63 ≤ before.entries.length + tail.length) := by
  obtain ⟨more, safety, hIndex, rfl, hShaped, hSame, hExact⟩ := hRows
  have hNumBatch : Numbered (grown before more safety).entries.length attempt.batch := by
    have hTail := Consecutive.append_right hNum
    rw [← List.length_append] at hTail
    exact hTail
  have hValidBatch : ∀ e ∈ attempt.batch, e.validate stream = .ok () :=
    fun e he => hValid e (List.mem_append_right _ he)
  rcases flushBatch_spec hIndex hShaped hNumBatch hValidBatch with
    ⟨session, added, hFlush, hSession, hGrown, hFlag⟩ | ⟨error, hFlush, hLen⟩
  · left
    rw [grown_append] at hSession
    refine ⟨session, added, hFlush,
      ⟨more ++ attempt.batch, _, hSession, List.append_nil _, ?_, ?_, ?_⟩, hFlag⟩
    · rw [← List.append_assoc]
      exact hGrown
    · intro hNone
      obtain ⟨hMore, hBatch⟩ := List.append_eq_nil_iff.1 hNone
      rw [hBatch, hSame hMore]
      exact congrArg IndexState.seekSafety (append_nil { before with entries := _ })
    · intro hBefore
      rw [hExact hBefore, appendSeekSafety_exact, List.append_assoc]
  · right
    refine ⟨error, hFlush, ?_⟩
    simpa [grown, Nat.add_assoc] using hLen

/-- Beyond the stored count, a frame joins the batch, which may be flushed. -/
theorem enqueueFrame_spec {tail : List FrameIndexEntry} {entry : FrameIndexEntry}
    (options : IndexingOptions) (boundedActive : Bool) (expectedExisting : Nat)
    (hRows : RowsInv source stream before tail attempt)
    (hNum : Numbered before.entries.length (tail ++ [entry]))
    (hValid : ∀ e ∈ tail ++ [entry], e.validate stream = .ok ()) :
    (∃ session batch added,
      enqueueFrame options boundedActive expectedExisting attempt entry =
        .next { attempt with session := session, batch := batch, added := added } ∧
      RowsInv source stream before (tail ++ [entry])
        { attempt with session := session, batch := batch, added := added }) ∨
    (∃ error session reason,
      enqueueFrame options boundedActive expectedExisting attempt entry =
        .failed error session ∧
      (∀ st, attempt.session.index = toIndex source stream st →
        session.index = toIndex source stream (st.mark .failedRecoverable (some reason))) ∧
      2 ^ 63 ≤ before.entries.length + (tail.length + 1)) := by
  set held := attempt.push boundedActive expectedExisting entry with hPush
  have hHeldIndex : held.session.index = attempt.session.index :=
    noteBoundary_index attempt.session boundedActive attempt.reused expectedExisting
  have hHeld : RowsInv source stream before (tail ++ [entry]) held := by
    obtain ⟨more, safety, hIndex, hSplit, hRest⟩ := hRows
    refine ⟨more, safety, hHeldIndex.trans hIndex, ?_, hRest⟩
    rw [← hSplit, List.append_assoc]
    rfl
  simp only [enqueueFrame, ← hPush]
  by_cases hFull : options.batchSize ≤ held.batch.length
  · rw [if_pos hFull]
    rcases flushBatch_rows hHeld hNum hValid with
      ⟨session, added, hFlush, hFlushed, -⟩ | ⟨error, hFlush, hLen⟩
    · left
      refine ⟨session, [], added, ?_, hFlushed⟩
      rw [hFlush]
      rfl
    · right
      rw [hFlush]
      refine ⟨.storage error, _, error.toText, rfl, ?_, by simpa using hLen⟩
      intro st hSt
      exact mark_failedRecoverable error.toText (hHeldIndex.trans hSt)
  · left
    rw [if_neg hFull]
    exact ⟨held.session, held.batch, held.added, rfl, hHeld⟩

/-- The entry that `indexFrame` makes of the next frame. -/
def nextEntry (c : Nat) (D : List DecodedFrame) (f : DecodedFrame) : FrameIndexEntry :=
  entryFromDecoded (c + D.length) f (anchorAfter c .streamStart D)

/-- The invariant after a frame that matched its stored row. -/
private theorem inv_of_matched {f : DecodedFrame}
    (h : AttemptInv source stream before c D attempt)
    (hStart : c ≤ before.entries.length) (hShaped : Shaped stream before.entries)
    (hBelow : c + D.length < before.entries.length)
    (hRow : before.entries[c + D.length]? = some (nextEntry c D f))
    (hValid : (nextEntry c D f).validate stream = .ok ()) {session : Session} {m : Nat}
    (hIndex : session.index = toIndex source stream before) :
    AttemptInv source stream before c (D ++ [f])
      { attempt.observe f with
        session := session
        frameId := attempt.frameId + 1
        reused := saturatingAddU64 attempt.reused 1
        persistedChunk := (before.entries.drop (attempt.frameId + 1)).take m } where
  rows := by
    have hNone : (entriesFrom c .streamStart (D ++ [f])).drop (before.entries.length - c) = [] :=
      drop_of_below (by rw [List.length_append, List.length_singleton]; omega)
    refine ⟨[], before.seekSafety, ?_, ?_, ?_, fun _ => rfl, ?_⟩
    · simpa [grown] using hIndex
    · rw [hNone]
      exact (h.untouched hBelow.le).2
    · simpa using hShaped
    · intro hExact
      rw [List.append_nil]
      exact hExact
  agrees := by
    have hPrefix : before.entries.take (c + D.length) =
        before.entries.take c ++ entriesFrom c .streamStart D := by
      rw [h.agrees, List.take_of_length_le (by simp [hStart]; omega)]
    have hNext : before.entries.take (c + D.length + 1) =
        before.entries.take (c + D.length) ++ [nextEntry c D f] := by
      rw [List.take_add_one, hRow]
      rfl
    have hWhole : (before.entries.take c ++ entriesFrom c .streamStart (D ++ [f])).take
        before.entries.length = before.entries.take c ++ entriesFrom c .streamStart (D ++ [f]) :=
      List.take_of_length_le (by simp [hStart]; omega)
    rw [hWhole, entriesFrom_concat, ← List.append_assoc, ← hPrefix, List.length_append,
      List.length_singleton, ← Nat.add_assoc, hNext]
    rfl
  frameId := by simp [h.frameId, Nat.add_assoc]
  anchor := by
    rw [anchorAfter_concat, ← h.anchor, ← h.frameId]
    rfl
  chunk := ⟨m, rfl⟩
  valid := by
    intro e he
    rw [entriesFrom_concat, List.mem_append, List.mem_singleton] at he
    rcases he with he | rfl
    · exact h.valid e he
    · exact hValid
  reused := by
    have hReused := h.reused
    have hBound := hShaped.bounded
    simp only [saturatingAddU64, hReused, List.length_append, List.length_singleton]
    omega

/-- The invariant after a frame beyond the stored rows. -/
private theorem inv_of_enqueued {f : DecodedFrame}
    (h : AttemptInv source stream before c D attempt)
    (hStart : c ≤ before.entries.length) (hBeyond : before.entries.length ≤ c + D.length)
    (hValid : (nextEntry c D f).validate stream = .ok ()) {session : Session}
    {batch : List FrameIndexEntry} {added : Nat}
    (hRows : RowsInv source stream before
      ((entriesFrom c .streamStart (D ++ [f])).drop (before.entries.length - c))
      { attempt.observe f with session := session, batch := batch, added := added }) :
    AttemptInv source stream before c (D ++ [f])
      { attempt.observe f with
        session := session
        frameId := attempt.frameId + 1
        batch := batch
        added := added } where
  rows := hRows
  agrees := by
    have hAgrees := h.agrees
    rw [List.take_of_length_le hBeyond] at hAgrees
    rw [entriesFrom_concat, ← List.append_assoc, List.take_of_length_le (by simp; omega),
      List.take_append_of_le_length (by simp [hStart]; omega)]
    exact hAgrees
  frameId := by simp [h.frameId, Nat.add_assoc]
  anchor := by
    rw [anchorAfter_concat, ← h.anchor, ← h.frameId]
    rfl
  chunk := by
    obtain ⟨m, hChunk⟩ := h.chunk
    have hNil : attempt.persistedChunk = [] := by
      rw [hChunk, h.frameId, List.drop_eq_nil_of_le hBeyond, List.take_nil]
    refine ⟨0, ?_⟩
    rw [List.take_zero]
    exact hNil
  valid := by
    intro e he
    rw [entriesFrom_concat, List.mem_append, List.mem_singleton] at he
    rcases he with he | rfl
    · exact h.valid e he
    · exact hValid
  reused := by
    have hReused := h.reused
    simp only [List.length_append, List.length_singleton]
    change attempt.reused = _
    omega

/-- The invariant depends on the session only through the index. -/
theorem AttemptInv.congr {session : Session}
    (h : AttemptInv source stream before c D attempt)
    (hIndex : session.index = attempt.session.index) :
    AttemptInv source stream before c D { attempt with session := session } := by
  obtain ⟨more, safety, hRows, hRest⟩ := h.rows
  exact ⟨⟨more, safety, hIndex.trans hRows, hRest⟩, h.agrees, h.frameId, h.anchor, h.chunk,
    h.valid, h.reused⟩

private theorem advance_spec (next : Attempt) (expected : Nat) {D' : List DecodedFrame}
    (h : AttemptInv source stream before c D' { next with frameId := next.frameId + 1 })
    (hStart : c ≤ before.entries.length) (hPartial : before.lifecycle ≠ .complete)
    (hCount : before.frameCount = none) :
    (∃ attempt', next.advance expected = .next attempt' ∧
      AttemptInv source stream before c D' attempt') ∨
    (∃ error session st, next.advance expected = .failed error session ∧
      session.index = toIndex source stream st ∧ Extends stream before c D' st ∧
      2 ^ 64 ≤ next.frameId + 1) := by
  obtain ⟨session, hReport, hIndex⟩ := reportFrame_eq next expected
  unfold Attempt.advance checkedAddU64
  rw [hReport]
  dsimp only
  by_cases hFits : next.frameId + 1 < 2 ^ 64
  · left
    rw [if_pos hFits]
    exact ⟨_, rfl, h.congr hIndex⟩
  · right
    rw [if_neg hFits]
    obtain ⟨st, hSt, hExtends⟩ := h.extends_ hStart hPartial hCount
    exact ⟨_, session, st, rfl, hIndex.trans hSt, hExtends, by omega⟩

/-- **One iteration of the decode loop**: it advances the invariant, breaks
with the stored rows untouched, or fails with them extended. -/
theorem indexFrame_spec (options : IndexingOptions) (boundedActive : Bool) (f : DecodedFrame)
    (h : AttemptInv source stream before c D attempt)
    (hStart : c ≤ before.entries.length) (hShaped : Shaped stream before.entries)
    (hPartial : before.lifecycle ≠ .complete) (hCount : before.frameCount = none) :
    (∃ attempt',
      indexFrame options boundedActive before.entries.length attempt f = .next attempt' ∧
      AttemptInv source stream before c (D ++ [f]) attempt') ∨
    (∃ session,
      indexFrame options boundedActive before.entries.length attempt f = .broke session ∧
      session.index = toIndex source stream before ∧ c + D.length < before.entries.length) ∨
    (∃ error session st,
      indexFrame options boundedActive before.entries.length attempt f = .failed error session ∧
      session.index = toIndex source stream st ∧ Extends stream before c (D ++ [f]) st ∧
      ((nextEntry c D f).validate stream ≠ .ok () ∨ 2 ^ 63 ≤ c + D.length + 1)) := by
  obtain ⟨st, hSt, hExtends⟩ := h.extends_ hStart hPartial hCount
  have hEntry : entryFromDecoded attempt.frameId f attempt.anchor = nextEntry c D f := by
    rw [h.frameId, h.anchor]
    rfl
  have hStream : (attempt.observe f).session.index.streamIdentity = stream := by
    change attempt.session.index.streamIdentity = stream
    rw [hSt, toIndex_streamIdentity]
  have hId : (attempt.observe f).frameId = c + D.length := h.frameId
  unfold indexFrame
  simp only [hEntry, hStream]
  cases hValid : (nextEntry c D f).validate stream with
  | error error =>
      right; right
      exact ⟨_, _, st, rfl, hSt, hExtends.mono [f], .inl nofun⟩
  | ok u =>
      dsimp only
      by_cases hBelow : c + D.length < before.entries.length
      · rw [if_pos (by rw [hId]; exact hBelow)]
        have hUntouched : (attempt.observe f).session.index = toIndex source stream before :=
          (h.untouched hBelow.le).1
        obtain ⟨session, hSame, hOutcome⟩ := reconcileFrame_spec (nextEntry c D f)
          hUntouched hShaped (by rw [hId]; exact hBelow) h.chunk
        rw [hUntouched] at hSame
        rcases hOutcome with ⟨m, hNext, hRow⟩ | hBroke
        · rw [hId] at hRow
          rw [hNext]
          let next : Attempt := { attempt.observe f with
            session := session
            reused := saturatingAddU64 attempt.reused 1
            persistedChunk := (before.entries.drop (attempt.frameId + 1)).take m }
          have hInv := inv_of_matched (m := m) h hStart hShaped hBelow hRow hValid hSame
          rcases advance_spec next before.entries.length hInv hStart hPartial hCount
            with hDone | ⟨error, session, st, hFail, hIndex, hExt, hBig⟩
          · exact .inl hDone
          · have hFrame : next.frameId = c + D.length := h.frameId
            exact .inr (.inr ⟨error, session, st, hFail, hIndex, hExt, .inr (by omega)⟩)
        · rw [hBroke]
          exact .inr (.inl ⟨session, rfl, hSame, hBelow⟩)
      · rw [if_neg (by rw [hId]; exact hBelow)]
        have hBeyond : before.entries.length ≤ c + D.length := by omega
        have hTail : (entriesFrom c .streamStart D).drop (before.entries.length - c) ++
            [nextEntry c D f] =
              (entriesFrom c .streamStart (D ++ [f])).drop (before.entries.length - c) := by
          rw [entriesFrom_concat, List.drop_append_of_le_length (by simp; omega)]
          rfl
        have hNum := tail_numbered (D ++ [f]) hStart
        have hValidTail : ∀ e ∈ (entriesFrom c .streamStart (D ++ [f])).drop
            (before.entries.length - c), e.validate stream = .ok () := by
          intro e he
          have hMem := List.mem_of_mem_drop he
          rw [entriesFrom_concat, List.mem_append, List.mem_singleton] at hMem
          rcases hMem with hMem | rfl
          · exact h.valid e hMem
          · exact hValid
        have hRows : RowsInv source stream before
            ((entriesFrom c .streamStart D).drop (before.entries.length - c))
            (attempt.observe f) := h.rows
        rw [← hTail] at hNum hValidTail
        rcases enqueueFrame_spec options boundedActive before.entries.length hRows hNum hValidTail
          with ⟨session, batch, added, hNext, hRows'⟩ | ⟨error, session, reason, hFail, hMark, hLen⟩
        · rw [hNext]
          rw [hTail] at hRows'
          let next : Attempt := { attempt.observe f with
            session := session
            batch := batch
            added := added }
          have hInv := inv_of_enqueued h hStart hBeyond hValid hRows'
          rcases advance_spec next before.entries.length hInv hStart hPartial hCount
            with hDone | ⟨error, session, st, hFail, hIndex, hExt, hBig⟩
          · exact .inl hDone
          · have hFrame : next.frameId = c + D.length := h.frameId
            exact .inr (.inr ⟨error, session, st, hFail, hIndex, hExt, .inr (by omega)⟩)
        · rw [hFail]
          have hMarked : Extends stream before c (D ++ [f])
              (st.mark .failedRecoverable (some reason)) :=
            (hExtends.mono [f]).mark .failedRecoverable (some reason) (by decide)
          refine .inr (.inr ⟨error, session, _, rfl, hMark st hSt, hMarked, .inr ?_⟩)
          rw [List.length_drop, entriesFrom_length] at hLen
          omega

/-! ## The end of the decode loop -/

/-- **The end of the stream**: the attempt breaks when rows are left over, and
otherwise completes the index. -/
theorem finishAttempt_spec (boundedActive restarted : Bool)
    (h : AttemptInv source stream before c D attempt)
    (hStart : c ≤ before.entries.length)
    (hPartial : before.lifecycle ≠ .complete) (hCount : before.frameCount = none) :
    (∃ session,
      finishAttempt boundedActive restarted before.entries.length attempt = .broke session ∧
      session.index = toIndex source stream before ∧ c + D.length < before.entries.length) ∨
    (∃ report session st,
      finishAttempt boundedActive restarted before.entries.length attempt =
        .finished report session ∧
      session.index = toIndex source stream st ∧ Completes stream before c D st ∧
      (boundedActive = true → report.counters.boundedResumeSucceeded = true)) ∨
    (∃ error session st,
      finishAttempt boundedActive restarted before.entries.length attempt =
        .failed error session ∧
      session.index = toIndex source stream st ∧ Extends stream before c D st ∧
      2 ^ 63 ≤ c + D.length) := by
  unfold finishAttempt
  by_cases hBelow : c + D.length < before.entries.length
  · left
    rw [if_pos (by rw [h.frameId]; exact hBelow)]
    exact ⟨_, rfl, (h.untouched hBelow.le).1, hBelow⟩
  · right
    have hBeyond : before.entries.length ≤ c + D.length := by omega
    have hWhole := h.whole hStart hBeyond
    rw [if_neg (by rw [h.frameId]; exact hBelow)]
    dsimp only
    set noted := attempt.session.noteBoundary boundedActive attempt.reused
      before.entries.length with hNoted
    have hIndex : noted.index = attempt.session.index := noteBoundary_index _ _ _ _
    have hFlag : boundedActive = true → noted.counters.boundedResumeSucceeded = true := by
      intro hActive
      have hReused : attempt.reused = before.entries.length := by
        have := h.reused
        omega
      rw [hNoted, Session.noteBoundary, if_pos ⟨hActive, hReused⟩]
      rfl
    have hRows := (h.congr hIndex).rows
    rcases flushBatch_rows hRows (tail_numbered D hStart)
        (fun e he => h.valid e (List.mem_of_mem_drop he)) with
      ⟨session, added, hFlush, hFlushed, hKeep⟩ | ⟨error, hFlush, hLen⟩
    · left
      obtain ⟨more, safety, hSession, hMore, hShaped, -, hExact⟩ := hFlushed
      rw [List.append_nil] at hMore
      rw [hMore, hWhole] at hShaped hExact
      let st : IndexState := { before with
        entries := before.entries.take c ++ entriesFrom c .streamStart D
        seekSafety := safety }
      have hState : session.index = toIndex source stream st := by
        rw [hSession, grown, hMore, hWhole]
      have hMark : (toIndex source stream st).markComplete =
          .ok (toIndex source stream st.complete) := markComplete_toIndex hShaped
      have hStatus : (toIndex source stream st.complete).status = .ok st.complete.status :=
        status_toIndex hShaped
      rw [hFlush]
      simp only [Session.emit, hState, hMark, hStatus]
      refine ⟨_, _, st.complete, rfl, rfl, ⟨hShaped, hExact, rfl, rfl, rfl, rfl⟩, ?_⟩
      intro hActive
      rw [hKeep]
      exact hFlag hActive
    · right
      rw [hFlush]
      obtain ⟨st, hSt, hExtends⟩ := h.extends_ hStart hPartial hCount
      refine ⟨_, _, _, rfl, mark_failedRecoverable error.toText (hIndex.trans hSt),
        hExtends.mark .failedRecoverable (some error.toText) (by decide), ?_⟩
      rw [List.length_drop, entriesFrom_length] at hLen
      omega

/-- **A decoder error**: the batch is flushed and the index marked. -/
theorem abandonAttempt_spec (error : FrameScopeError)
    (h : AttemptInv source stream before c D attempt)
    (hStart : c ≤ before.entries.length)
    (hPartial : before.lifecycle ≠ .complete) (hCount : before.frameCount = none) :
    ∃ error' session st,
      abandonAttempt attempt error = .failed error' session ∧
      session.index = toIndex source stream st ∧ Extends stream before c D st := by
  have hFlush := flushBatch_rows h.rows (tail_numbered D hStart)
    (fun e he => h.valid e (List.mem_of_mem_drop he))
  unfold abandonAttempt
  rcases hFlush with ⟨session, added, hFlush, hFlushed, -⟩ | ⟨storage, hFlush, -⟩
  · let flushed : Attempt := { attempt with session := session, batch := [], added := added }
    have hInv : AttemptInv source stream before c D flushed :=
      ⟨hFlushed, h.agrees, h.frameId, h.anchor, h.chunk, h.valid, h.reused⟩
    obtain ⟨st, hSt, hExtends⟩ := hInv.extends_ hStart hPartial hCount
    rw [hFlush]
    by_cases hCancelled : error = .cancelled
    · rw [if_pos hCancelled]
      exact ⟨_, _, _, rfl, mark_incomplete (some "cancelled") hSt,
        hExtends.mark .incomplete (some "cancelled") (by decide)⟩
    · rw [if_neg hCancelled]
      exact ⟨_, _, _, rfl, mark_failedRecoverable error.toText hSt,
        hExtends.mark .failedRecoverable (some error.toText) (by decide)⟩
  · obtain ⟨st, hSt, hExtends⟩ := h.extends_ hStart hPartial hCount
    have hMark := mark_failedRecoverable storage.toText hSt
    have hMarked := hExtends.mark .failedRecoverable (some storage.toText) (by decide)
    rw [hFlush]
    by_cases hCancelled : error = .cancelled
    · rw [if_pos hCancelled]
      exact ⟨_, _, _, rfl, hMark, hMarked⟩
    · rw [if_neg hCancelled]
      exact ⟨_, _, _, rfl, mark_failedRecoverable _ hMark,
        hMarked.mark .failedRecoverable _ (by decide)⟩

/-- How an attempt over `frames` can leave the state `before`. -/
inductive Leaves (source : SourceIdentity) (stream : FrameIndexStreamIdentity)
    (before : IndexState) (c : Nat) (frames : List DecodedFrame)
    (ending : Option FrameScopeError) (boundedActive : Bool) : AttemptOutcome → Prop
  | broke {session : Session} (hIndex : session.index = toIndex source stream before)
      (hStored : before.entries ≠ []) :
      Leaves source stream before c frames ending boundedActive (.broke session)
  | finished {report : IndexingReport} {session : Session} {st : IndexState}
      (hIndex : session.index = toIndex source stream st)
      (hState : Completes stream before c frames st) (hEof : ending = none)
      (hFlag : boundedActive = true → report.counters.boundedResumeSucceeded = true) :
      Leaves source stream before c frames ending boundedActive (.finished report session)
  | failed {error : IndexingError} {session : Session} {st : IndexState}
      (hIndex : session.index = toIndex source stream st)
      (hState : Extends stream before c frames st) :
      Leaves source stream before c frames ending boundedActive (.failed error session)

/-- **The decode loop.** -/
theorem runAttempt_spec (options : IndexingOptions) (boundedActive restarted : Bool)
    (ending : Option FrameScopeError) (frames : List DecodedFrame)
    (hStart : c ≤ before.entries.length) (hShaped : Shaped stream before.entries)
    (hPartial : before.lifecycle ≠ .complete) (hCount : before.frameCount = none) :
    ∀ {D : List DecodedFrame} {attempt : Attempt},
      AttemptInv source stream before c D attempt →
      Leaves source stream before c (D ++ frames) ending boundedActive
        (runAttempt options boundedActive restarted before.entries.length ending frames
          attempt) := by
  induction frames with
  | nil =>
      intro D attempt h
      rw [List.append_nil]
      unfold runAttempt
      cases ending with
      | none =>
          rcases finishAttempt_spec boundedActive restarted h hStart hPartial hCount with
            ⟨session, hEnd, hIndex, hBelow⟩ | ⟨report, session, st, hEnd, hIndex, hSt, hFlag⟩ |
            ⟨error, session, st, hEnd, hIndex, hSt, -⟩
          · rw [hEnd]
            exact .broke hIndex (List.ne_nil_of_length_pos (by omega))
          · rw [hEnd]
            exact .finished hIndex hSt rfl hFlag
          · rw [hEnd]
            exact .failed hIndex hSt
      | some error =>
          obtain ⟨error', session, st, hEnd, hIndex, hSt⟩ :=
            abandonAttempt_spec error h hStart hPartial hCount
          dsimp only
          rw [hEnd]
          exact .failed hIndex hSt
  | cons f rest ih =>
      intro D attempt h
      unfold runAttempt
      rcases indexFrame_spec options boundedActive f h hStart hShaped hPartial hCount with
        ⟨attempt', hStep, hInv⟩ | ⟨session, hStep, hIndex, hBelow⟩ |
        ⟨error, session, st, hStep, hIndex, hSt, -⟩
      · rw [hStep]
        have hRest := ih hInv
        rwa [List.append_assoc] at hRest
      · rw [hStep]
        exact .broke hIndex (List.ne_nil_of_length_pos (by omega))
      · rw [hStep]
        have hMono := hSt.mono rest
        rw [List.append_assoc] at hMono
        exact .failed hIndex hMono

/-- An attempt works on the state that `mark_building` leaves. -/
theorem beginAttempt_spec (options : IndexingOptions) (boundedActive restarted : Bool)
    (ending : Option FrameScopeError) (frames : List DecodedFrame) {st : IndexState}
    {session : Session} (hStart : c ≤ st.entries.length) (hShaped : Shaped stream st.entries)
    (hIndex : session.index = toIndex source stream st) :
    Leaves source stream (st.mark .building none) c frames ending boundedActive
      (beginAttempt options boundedActive restarted st.entries.length c frames ending
        session) := by
  have hBuildingShaped : Shaped stream (st.mark .building none).entries := hShaped
  have hBuildingStart : c ≤ (st.mark .building none).entries.length := hStart
  have hBuilding : (st.mark .building none).lifecycle ≠ .complete := nofun
  unfold beginAttempt
  rw [hIndex, markBuilding_toIndex]
  exact runAttempt_spec options boundedActive restarted ending frames hBuildingStart
    hBuildingShaped hBuilding rfl (AttemptInv.start hBuildingShaped _ rfl hBuildingStart)

end Invariant

end Attempt

end FrameScope.Ports.IndexingAttempt
