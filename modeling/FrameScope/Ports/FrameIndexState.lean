import FrameScope.Ports.FrameTimeline

/-!
# The state an index stands for

`IndexState` is the frame index without its SQLite representation: a timeline,
a lifecycle, and the persisted seek-safety decision.  `toIndex` is the database
that represents it.  On a shaped timeline every public operation of the port is
the corresponding list operation; these equations are all that the indexing,
navigation and extraction proofs use.
-/

namespace FrameScope.Ports.FrameIndexState

open FrameScope.Verified.KeyedTable
open FrameScope.Ports.Core
open FrameScope.Ports.FrameIndexModel
open FrameScope.Ports.SourceBinding
open FrameScope.Ports.FrameIndexStore
open FrameScope.Ports.FrameTimeline

/-- The abstract content of a frame index. -/
structure IndexState where
  lifecycle : FrameIndexLifecycle
  frameCount : Option Nat
  lastError : Option String
  seekSafety : TimestampSeekSafety
  entries : List FrameIndexEntry
  deriving DecidableEq, Repr

/-- The state of an index that was just created or cleared. -/
def IndexState.fresh : IndexState := ⟨.incomplete, none, none, .unambiguous, []⟩

/-- A partial lifecycle mark drops the frame count. -/
def IndexState.mark (st : IndexState) (lifecycle : FrameIndexLifecycle)
    (error : Option String) : IndexState :=
  { st with lifecycle := lifecycle, frameCount := none, lastError := error }

/-- The completion mark records the frame count. -/
def IndexState.complete (st : IndexState) : IndexState :=
  { st with
    lifecycle := .complete
    frameCount := some st.entries.length
    lastError := none }

section Operations

variable [ContentHash] (source : SourceIdentity) (stream : FrameIndexStreamIdentity)

/-- The open index that represents `st`. -/
def toIndex (st : IndexState) : FrameIndex :=
  { connection :=
      { userVersion := frameIndexSchemaVersion
        indexMeta := some
          { lifecycle := st.lifecycle.asI64
            sourceKey := sourceBindingKey source st.seekSafety
            sourceIdentity := source
            streamIdentity := stream
            indexedFrames := st.entries.length
            frameCount := st.frameCount.map fun n => (n : Int)
            lastError := st.lastError }
        frameIndex := st.entries.map rowOf }
    sourceIdentity := source
    streamIdentity := stream }

/-- The metadata row `st` is read back as. -/
def metaOf (st : IndexState) : MetaRow :=
  { lifecycle := st.lifecycle
    sourceIdentity := source
    sourceBindingStableKey := ContentHash.stableKey source
    timelineContractGeneration := frameTimelineContractGeneration
    timestampSeekSafety := st.seekSafety
    streamIdentity := stream
    indexedFrames := st.entries.length
    frameCount := st.frameCount
    lastError := st.lastError }

/-- What `status` reports of `st`. -/
def IndexState.status (st : IndexState) : FrameIndexStatus :=
  { lifecycle := st.lifecycle
    indexedFrames := st.entries.length
    frameCount := st.frameCount
    lastFrameId := st.entries.getLast?.map (·.frameId)
    lastPresentationTimestamp := st.entries.getLast?.bind (·.presentationTimestamp)
    lastError := st.lastError }

@[simp] theorem toIndex_streamIdentity (st : IndexState) :
    (toIndex source stream st).streamIdentity = stream := rfl

@[simp] theorem toIndex_sourceIdentity (st : IndexState) :
    (toIndex source stream st).sourceIdentity = source := rfl

@[simp] theorem toIndex_rows (st : IndexState) :
    (toIndex source stream st).connection.frameIndex = st.entries.map rowOf := rfl

@[simp] theorem loadMeta_toIndex (st : IndexState) :
    (toIndex source stream st).loadMeta = .ok (some (metaOf source stream st)) := by
  unfold FrameIndex.loadMeta toIndex metaOf
  cases st.frameCount <;>
    simp [fromSqlU64, bind, Except.bind, Except.map]

@[simp] theorem requireMeta_toIndex (st : IndexState) :
    (toIndex source stream st).requireMeta = .ok (metaOf source stream st) := by
  simp [FrameIndex.requireMeta, bind, Except.bind]

@[simp] theorem timestampSeekSafety_toIndex (st : IndexState) :
    (toIndex source stream st).timestampSeekSafety = .ok st.seekSafety := by
  simp [FrameIndex.timestampSeekSafety, Except.map, metaOf]

variable {source stream} {st : IndexState}

/-- Looking an identity up is indexing the timeline. -/
theorem entry_toIndex (h : Shaped stream st.entries) {i : Nat} (hi : i < 2 ^ 63) :
    (toIndex source stream st).entry i = .ok st.entries[i]? := by
  have hFind := (rows_consecutive h.numbered).find? i
  simp only [FrameIndex.entry, toSqlU64, hi, if_true, bind, Except.bind, toIndex_rows]
  rw [hFind, List.getElem?_map]
  cases he : st.entries[i]? with
  | none => rfl
  | some e =>
      have hMem : e ∈ st.entries := List.mem_of_getElem? he
      have hLoad : (toIndex source stream st).loadEntry (rowOf e) = .ok e :=
        loadEntry_rowOf (h.valid e hMem)
      simp [hLoad, Except.map]

/-- An entry that can be read has an identity in the timeline. -/
theorem entry_toIndex_some (h : Shaped stream st.entries) {i : Nat} {e : FrameIndexEntry}
    (he : (toIndex source stream st).entry i = .ok (some e)) : st.entries[i]? = some e := by
  by_cases hi : i < 2 ^ 63
  · rw [entry_toIndex h hi] at he
    exact Except.ok.inj he
  · obtain ⟨id, hId, -⟩ := bind_eq_ok.1 he
    exact absurd (toSqlU64_eq_ok.1 hId).1 hi

/-- A range visit is a slice of the timeline. -/
theorem visitRange_toIndex (h : Shaped stream st.entries) {a b : Nat}
    (hab : a ≤ b) (hb : b < 2 ^ 63) :
    (toIndex source stream st).visitRange a b = .ok ((st.entries.take b).drop a) := by
  have ha : a < 2 ^ 63 := by omega
  have hSlice := (rows_consecutive h.numbered).filter_range a b
  simp only [Nat.zero_add] at hSlice
  simp only [FrameIndex.visitRange, Nat.not_lt.2 hab, if_false, toSqlU64, ha, hb, if_true,
    bind, Except.bind, toIndex_rows]
  rw [hSlice, ← List.map_take, ← List.map_drop]
  apply mapM_loadEntry
  intro e he
  exact h.valid e (List.mem_of_mem_take (List.mem_of_mem_drop he))

@[simp] theorem status_toIndex (h : Shaped stream st.entries) :
    (toIndex source stream st).status = .ok st.status := by
  have hBound := h.bounded
  unfold FrameIndex.status IndexState.status
  simp only [requireMeta_toIndex, bind, Except.bind, metaOf]
  by_cases hEmpty : st.entries.length = 0
  · have hNil : st.entries = [] := List.length_eq_zero_iff.1 hEmpty
    simp [hNil]
  · rw [if_neg hEmpty, entry_toIndex h (by omega), List.getLast?_eq_getElem?]

/-! ### Lifecycle marks -/

theorem markBuilding_toIndex :
    (toIndex source stream st).markBuilding = .ok (toIndex source stream (st.mark .building none)) :=
  rfl

theorem markIncomplete_toIndex (reason : Option String) :
    (toIndex source stream st).markIncomplete reason =
      .ok (toIndex source stream (st.mark .incomplete reason)) := rfl

theorem markFailedRecoverable_toIndex (reason : String) :
    (toIndex source stream st).markFailedRecoverable reason =
      .ok (toIndex source stream (st.mark .failedRecoverable (some reason))) := rfl

theorem markComplete_toIndex (h : Shaped stream st.entries) :
    (toIndex source stream st).markComplete =
      .ok (toIndex source stream st.complete) := by
  simp only [FrameIndex.markComplete, status_toIndex h, bind, Except.bind, IndexState.status,
    FrameIndex.updateLifecycle, toSqlU64, h.bounded, if_true, Except.map]
  rfl

/-! ### Rows -/

theorem clearForRebuild_toIndex :
    (toIndex source stream st).clearForRebuild =
      toIndex source stream IndexState.fresh := rfl

theorem truncateFrom_toIndex (h : Shaped stream st.entries) {n : Nat}
    (hn : n ≤ st.entries.length) :
    (toIndex source stream st).truncateFrom n =
      .ok (toIndex source stream
        ⟨.incomplete, none, none, seekSafetyOf (st.entries.take n), st.entries.take n⟩) := by
  have hBound := h.bounded
  have hFilter := (rows_consecutive h.numbered).filter_lt n
  simp only [Nat.zero_add] at hFilter
  simp only [FrameIndex.truncateFrom, toSqlU64, show n < 2 ^ 63 by omega, if_true, bind,
    Except.bind, toIndex_rows]
  rw [hFilter, ← List.map_take, compute_rows]
  simp [toIndex, FrameIndex.setRows, FrameIndex.updateMeta, hn]

/-- The timeline after a batch. -/
def IndexState.append (st : IndexState) (batch : List FrameIndexEntry) : IndexState :=
  { st with
    entries := st.entries ++ batch
    seekSafety := appendSeekSafety st.seekSafety (st.entries.map rowOf) batch }

theorem appendBatch_nil (index : FrameIndex) : index.appendBatch [] = .ok index := rfl

/-- A batch that continues the timeline is appended. -/
theorem appendBatch_toIndex (h : Shaped stream st.entries) {batch : List FrameIndexEntry}
    (hNe : batch ≠ []) (hNum : Numbered st.entries.length batch)
    (hValid : ∀ e ∈ batch, e.validate stream = .ok ())
    (hLen : st.entries.length + batch.length < 2 ^ 63) :
    (toIndex source stream st).appendBatch batch =
      .ok (toIndex source stream (st.append batch)) := by
  have hCheck : checkBatch stream st.entries.length 0 batch = .ok () := by
    rw [checkBatch_iff]
    exact ⟨hNum, hValid, fun _ => by omega⟩
  have hIsEmpty : batch.isEmpty = false := by
    cases batch with
    | nil => exact absurd rfl hNe
    | cons e rest => rfl
  have hInsert := insertEntries_next batch h.numbered hNum hValid hLen
  simp only [FrameIndex.appendBatch, hIsEmpty, requireMeta_toIndex, bind, Except.bind, metaOf,
    toIndex_streamIdentity, hCheck, toIndex_rows, hInsert, checkedAddU64,
    show st.entries.length + batch.length < 2 ^ 64 by omega, if_true, toSqlU64, hLen]
  simp [toIndex, IndexState.append, FrameIndex.setRows, FrameIndex.updateMeta]

/-- Whatever `append_batch` accepts continues the timeline. -/
theorem appendBatch_toIndex_inv {batch : List FrameIndexEntry}
    {index : FrameIndex} (hNe : batch ≠ [])
    (hOk : (toIndex source stream st).appendBatch batch = .ok index) :
    Numbered st.entries.length batch ∧ (∀ e ∈ batch, e.validate stream = .ok ()) ∧
      st.entries.length + batch.length < 2 ^ 63 := by
  have hIsEmpty : batch.isEmpty = false := by
    cases batch with
    | nil => exact absurd rfl hNe
    | cons e rest => rfl
  unfold FrameIndex.appendBatch at hOk
  rw [hIsEmpty, if_neg Bool.false_ne_true] at hOk
  obtain ⟨row, hRow, hOk⟩ := bind_eq_ok.1 hOk
  rw [requireMeta_toIndex, Except.ok.injEq] at hRow
  subst hRow
  obtain ⟨_, hCheck, hOk⟩ := bind_eq_ok.1 hOk
  obtain ⟨rows, -, hOk⟩ := bind_eq_ok.1 hOk
  obtain ⟨hNum, hValid, -⟩ := (checkBatch_iff stream _ 0 batch).1 hCheck
  refine ⟨hNum, hValid, ?_⟩
  dsimp only at hOk
  split at hOk
  · cases hOk
  · rename_i total hTotal
    obtain ⟨next, hNext, -⟩ := bind_eq_ok.1 hOk
    rw [checkedAddU64_eq_some] at hTotal
    have hSum : total = st.entries.length + batch.length := hTotal.2
    rw [← hSum]
    exact (toSqlU64_eq_ok.1 hNext).1

end Operations

end FrameScope.Ports.FrameIndexState
