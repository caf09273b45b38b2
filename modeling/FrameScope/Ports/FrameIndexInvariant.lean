import FrameScope.Ports.FrameIndexState
import FrameScope.Verified.Runs

/-!
# What the stored index keeps over a run of operations

A `Sound` state is one whose database passes `validate_persistent_state`, so a
reopen with the same identity reuses it.  Two things are proved about runs of
the public operations from a freshly created index.

* The persisted seek-safety decision is the one a recomputation over the stored
  rows would take (`seekSafety_run_exact`).
* The store does not check everything validation asks for: it appends to a
  complete index, it accepts anchors that name no clean keyframe, and it
  truncates past the end.  `StepSound` is the missing precondition, and
  `store_run_valid_iff` shows that it is the only one.
-/

namespace FrameScope.Ports.FrameIndexInvariant

open FrameScope.Verified.KeyedTable
open FrameScope.Verified.Runs
open FrameScope.Ports.Core
open FrameScope.Ports.FrameIndexModel
open FrameScope.Ports.SourceBinding
open FrameScope.Ports.FrameIndexStore
open FrameScope.Ports.FrameTimeline
open FrameScope.Ports.FrameIndexState

/-! ## Sound states -/

/-- The clean keyframe of `entries` that an anchor with this identity and
timestamp names. -/
def NamesKeyframe (entries : List FrameIndexEntry) (id : Nat) (t : Option MediaTimestamp) :
    Prop :=
  ∃ a ∈ entries, a.frameId = id ∧ a.isClean = true ∧ a.presentationTimestamp = t

/-- Every anchor names a clean keyframe of the timeline. -/
def Anchored (entries : List FrameIndexEntry) : Prop :=
  ∀ e ∈ entries, ∀ id t, e.anchor = .keyframe id t → NamesKeyframe entries id t

/-- The frame count is present in a complete index only, and is exact there. -/
def IndexState.Counted (st : IndexState) : Prop :=
  st.frameCount = if st.lifecycle = .complete then some st.entries.length else none

structure Sound (stream : FrameIndexStreamIdentity) (st : IndexState) : Prop where
  shaped : Shaped stream st.entries
  anchored : Anchored st.entries
  counted : IndexState.Counted st
  safety : st.seekSafety = seekSafetyOf st.entries

theorem IndexState.fresh_sound (stream : FrameIndexStreamIdentity) :
    Sound stream IndexState.fresh where
  shaped := Shaped.nil
  anchored := by intro e he; cases he
  counted := rfl
  safety := rfl

/-- An entry of a shaped timeline stands at its own identity. -/
theorem getElem?_frameId {stream : FrameIndexStreamIdentity} {entries : List FrameIndexEntry}
    (h : Shaped stream entries) {a : FrameIndexEntry} (ha : a ∈ entries) :
    entries[a.frameId]? = some a := by
  obtain ⟨i, hi⟩ := List.mem_iff_getElem?.1 ha
  have hKey := Consecutive.key_eq h.numbered hi
  have hId : a.frameId = i := by omega
  rw [hId, hi]

theorem Anchored.append {entries batch : List FrameIndexEntry} (h : Anchored entries)
    (hBatch : ∀ e ∈ batch, ∀ id t, e.anchor = .keyframe id t →
      NamesKeyframe (entries ++ batch) id t) : Anchored (entries ++ batch) := by
  intro e he id t hAnchor
  rcases List.mem_append.1 he with he | he
  · obtain ⟨a, ha, hNamed⟩ := h e he id t hAnchor
    exact ⟨a, List.mem_append_left _ ha, hNamed⟩
  · exact hBatch e he id t hAnchor

/-- Anchors point backwards, so a prefix keeps the keyframes it refers to. -/
theorem Anchored.take {stream : FrameIndexStreamIdentity} {entries : List FrameIndexEntry} (hShaped : Shaped stream entries)
    (h : Anchored entries) (n : Nat) : Anchored (entries.take n) := by
  intro e he id t hAnchor
  have hMem := List.mem_of_mem_take he
  obtain ⟨a, ha, hId, hClean, hTime⟩ := h e hMem id t hAnchor
  have hLe := (((validate_iff stream e).1 (hShaped.valid e hMem)).keyframe id t hAnchor).1
  obtain ⟨i, hi⟩ := List.mem_iff_getElem?.1 he
  have hKey := Consecutive.key_eq (Consecutive.take hShaped.numbered n) hi
  have hLt := (List.getElem?_eq_some_iff.1 hi).1
  rw [List.length_take] at hLt
  refine ⟨a, ?_, hId, hClean, hTime⟩
  have hGet := getElem?_frameId hShaped ha
  rw [← List.getElem?_take_of_lt (show a.frameId < n by omega)] at hGet
  exact List.mem_of_getElem? hGet

/-- A partial lifecycle mark keeps a sound state sound. -/
theorem Sound.mark {stream : FrameIndexStreamIdentity} {st : IndexState} (h : Sound stream st)
    (lifecycle : FrameIndexLifecycle) (error : Option String) (hPartial : lifecycle ≠ .complete) :
    Sound stream (st.mark lifecycle error) where
  shaped := h.shaped
  anchored := h.anchored
  counted := by simp [IndexState.Counted, IndexState.mark, hPartial]
  safety := h.safety

private theorem rowOf_injective : Function.Injective rowOf := by
  intro a b hab
  have hDecode := decodeEntry_rowOf a
  rw [hab, decodeEntry_rowOf b] at hDecode
  exact (Except.ok.inj hDecode).symm

private theorem mem_rows_iff {entries : List FrameIndexEntry} {a : FrameIndexEntry} :
    rowOf a ∈ entries.map rowOf ↔ a ∈ entries := by
  constructor
  · intro h
    obtain ⟨b, hb, hEq⟩ := List.mem_map.1 h
    exact rowOf_injective hEq ▸ hb
  · exact fun h => List.mem_map.2 ⟨a, h, rfl⟩

/-! ## The validation queries on a shaped timeline -/

private theorem timestamp_timeBase {stream : FrameIndexStreamIdentity}
    {t : Option MediaTimestamp} (h : ValidTimestamp stream t) :
    sqlNe (t.map (·.timeBase.numerator)) stream.timeBase.numerator = false ∧
      sqlNe (t.map (·.timeBase.denominator)) stream.timeBase.denominator = false := by
  cases t with
  | none => exact ⟨rfl, rfl⟩
  | some x => simp [sqlNe, (h x rfl).1]

private theorem duration_columns {stream : FrameIndexStreamIdentity} {d : Option MediaDuration}
    (h : ∀ x, d = some x → 0 < x.ticks ∧ x.timeBase = stream.timeBase) :
    (d.map (·.ticks)).any (decide <| · ≤ 0) = false ∧
      sqlNe (d.map (·.timeBase.numerator)) stream.timeBase.numerator = false ∧
      sqlNe (d.map (·.timeBase.denominator)) stream.timeBase.denominator = false := by
  cases d with
  | none => exact ⟨rfl, rfl, rfl⟩
  | some x =>
      obtain ⟨hTicks, hBase⟩ := h x rfl
      simp [sqlNe, hBase, hTicks]

private theorem isNone_toMicroseconds {stream : FrameIndexStreamIdentity}
    {t : Option MediaTimestamp} (h : ValidTimestamp stream t) :
    (t.bind MediaTimestamp.toMicroseconds).isNone = t.isNone := by
  cases t with
  | none => rfl
  | some x =>
      have hSome := (h x rfl).2
      rw [Option.bind_some, Option.isNone_some, ← Option.not_isSome, hSome]
      rfl

private theorem boolColumn_range (b : Bool) :
    (boolColumn b != 0 && boolColumn b != 1) = false := by
  cases b <;> rfl

/-- No valid entry makes an impossible row. -/
theorem impossible_rowOf {stream : FrameIndexStreamIdentity} {e : FrameIndexEntry}
    (h : ValidFor stream e) : (rowOf e).impossible stream.timeBase = false := by
  have hClean := rowOf_isClean e
  have hUs := isNone_toMicroseconds h.timestamp
  obtain ⟨hNum, hDen⟩ := timestamp_timeBase h.timestamp
  obtain ⟨hTicks, hDurationNum, hDurationDen⟩ := duration_columns h.duration
  unfold FrameRow.impossible
  rw [hClean]
  cases hKind : e.anchor with
  | streamStart =>
      simp only [rowOf, hKind, FrameIndexEntry.timestampUs, Option.isNone_map, Option.isSome_map,
        boolColumn_range, hUs, hNum, hDen, hDurationNum, hDurationDen, hTicks,
        h.streamStart hKind]
      simp
  | keyframe id t =>
      obtain ⟨hLe, hValid, hSelf⟩ := h.keyframe id t hKind
      have hAnchorUs := isNone_toMicroseconds hValid
      obtain ⟨hAnchorNum, hAnchorDen⟩ := timestamp_timeBase hValid
      simp only [rowOf, hKind, FrameIndexEntry.timestampUs, Option.isNone_map, Option.isSome_map,
        boolColumn_range, hUs, hNum, hDen, hDurationNum, hDurationDen, hTicks, hAnchorUs,
        hAnchorNum, hAnchorDen]
      have hSelfId : e.isClean = true → (id : Int) = e.frameId := by
        intro hIsClean
        rw [(hSelf hIsClean).1]
      have hNotAfter : ¬ (e.frameId : Int) < id := by omega
      simpa [sqlNe, hNotAfter] using hSelfId

/-- The timestamp columns of two rows agree exactly when the timestamps do. -/
private theorem timestamp_columns_eq_iff (s t : Option MediaTimestamp) :
    (s.map (·.ticks) = t.map (·.ticks) ∧
      s.map (·.timeBase.numerator) = t.map (·.timeBase.numerator) ∧
      s.map (·.timeBase.denominator) = t.map (·.timeBase.denominator)) ↔ s = t := by
  constructor
  · rintro ⟨hTicks, hNum, hDen⟩
    cases s with
    | none => cases t with
      | none => rfl
      | some y => cases hTicks
    | some x => cases t with
      | none => cases hTicks
      | some y =>
          obtain ⟨ticks, base⟩ := x
          obtain ⟨ticks', base'⟩ := y
          simp only [Option.map_some, Option.some.injEq] at hTicks hNum hDen
          cases base
          cases base'
          simp_all
  · rintro rfl
    exact ⟨rfl, rfl, rfl⟩

/-- A row's anchor passes the self-join exactly when it names a clean keyframe. -/
private theorem invalidAnchor_rowOf {stream : FrameIndexStreamIdentity}
    {entries : List FrameIndexEntry} (h : Shaped stream entries) (e : FrameIndexEntry) :
    (rowOf e).invalidAnchor (entries.map rowOf) = false ↔
      ∀ id t, e.anchor = .keyframe id t → NamesKeyframe entries id t := by
  unfold FrameRow.invalidAnchor
  cases hKind : e.anchor with
  | streamStart => simp [rowOf, hKind]
  | keyframe id t =>
      have hFind : (entries.map rowOf).find?
          (fun anchor => (rowOf e).anchorFrameIndex == some anchor.frameIndex) =
            (entries.map rowOf)[id]? := by
        rw [← (rows_consecutive h.numbered).find? id]
        congr 1
        funext r
        simp only [rowOf, hKind]
        exact Bool.beq_comm
      have hOnly : (∀ id' t', KeyframeAnchor.keyframe id t = .keyframe id' t' →
          NamesKeyframe entries id' t') ↔ NamesKeyframe entries id t := by
        constructor
        · exact fun h => h id t rfl
        · rintro h id' t' ⟨⟩
          exact h
      rw [hOnly, hFind, List.getElem?_map]
      cases ha : entries[id]? with
      | none =>
          simp only [rowOf, hKind, Option.map_none]
          constructor
          · intro h; cases h
          · rintro ⟨a, hMem, rfl, -, -⟩
            rw [getElem?_frameId h hMem] at ha
            cases ha
      | some a =>
          have hMem := List.mem_of_getElem? ha
          have hId : a.frameId = id := by
            have hKey := Consecutive.key_eq h.numbered ha
            omega
          have hNames : NamesKeyframe entries id t ↔
              a.isClean = true ∧ t = a.presentationTimestamp := by
            constructor
            · rintro ⟨b, hb, rfl, hClean, rfl⟩
              rw [getElem?_frameId h hb] at ha
              cases ha
              exact ⟨hClean, rfl⟩
            · rintro ⟨hClean, rfl⟩
              exact ⟨a, hMem, hId, hClean, rfl⟩
          rw [hNames]
          simp only [rowOf, hKind, Option.map_some, beq_self_eq_true, Bool.true_and,
            Bool.or_eq_false_iff, bne_eq_false_iff_eq]
          constructor
          · rintro ⟨⟨⟨⟨⟨hKey, hCorrupt⟩, hTicks⟩, hNum⟩, hDen⟩, -⟩
            refine ⟨?_, (timestamp_columns_eq_iff _ _).1 ⟨hTicks, hNum, hDen⟩⟩
            unfold FrameIndexEntry.isClean
            cases hk : a.keyframe <;> cases hc : a.corrupt <;> simp_all [boolColumn]
          · rintro ⟨hClean, rfl⟩
            simp only [FrameIndexEntry.isClean, Bool.and_eq_true, Bool.not_eq_true'] at hClean
            simp [hClean.1, hClean.2, boolColumn, FrameIndexEntry.timestampUs]

private theorem checkContiguous_rows {stream : FrameIndexStreamIdentity}
    {entries : List FrameIndexEntry} (h : Shaped stream entries) :
    checkContiguous entries.length (entries.map rowOf) = .ok () := by
  have hBound := h.bounded
  have hRows := rows_consecutive h.numbered
  unfold checkContiguous
  rw [List.length_map, if_neg (by simp)]
  by_cases hEmpty : entries.length = 0
  · rw [if_pos hEmpty]
  · have hNe : entries.map rowOf ≠ [] := by
      intro hNil
      rw [List.map_eq_nil_iff] at hNil
      exact hEmpty (by rw [hNil]; rfl)
    have hMax := hRows.max?_keys hNe
    rw [List.length_map] at hMax
    rw [if_neg hEmpty]
    simp only [toSqlU64, show entries.length - 1 < 2 ^ 63 by omega, if_true, bind, Except.bind,
      hRows.min?_keys hNe, hMax]
    simp

private theorem frameIndex_column {stream : FrameIndexStreamIdentity}
    {entries : List FrameIndexEntry} (h : Shaped stream entries) :
    (entries.map rowOf).map (·.frameIndex) =
      (List.range entries.length).map fun n : Nat => (n : Int) := by
  apply List.ext_getElem?
  intro i
  simp only [List.getElem?_map]
  cases he : entries[i]? with
  | none =>
      have hLen := List.getElem?_eq_none_iff.1 he
      rw [List.getElem?_eq_none (by simpa using hLen)]
      rfl
  | some e =>
      have hKey := Consecutive.key_eq h.numbered he
      have hLt := (List.getElem?_eq_some_iff.1 he).1
      rw [List.getElem?_eq_getElem (by simpa using hLt)]
      simp only [List.getElem_range, Option.map_some, rowOf_frameIndex, Option.some.injEq]
      omega

section Validation

variable [ContentHash] {source : SourceIdentity} {stream : FrameIndexStreamIdentity}
  {st : IndexState}

/-- On a shaped timeline, validation asks for the rest of soundness. -/
theorem validate_toIndex_iff (h : Shaped stream st.entries) :
    (toIndex source stream st).validatePersistentState (metaOf source stream st) = .ok () ↔
      Sound stream st := by
  have hRows : (st.entries.map rowOf).countP (·.impossible stream.timeBase) = 0 := by
    rw [List.countP_eq_zero]
    intro r hr
    obtain ⟨e, he, rfl⟩ := List.mem_map.1 hr
    simp [impossible_rowOf ((validate_iff stream e).1 (h.valid e he))]
  have hAnchors : (st.entries.map rowOf).countP
      (FrameRow.invalidAnchor (st.entries.map rowOf)) = 0 ↔ Anchored st.entries := by
    rw [List.countP_eq_zero]
    simp only [List.forall_mem_map, Bool.not_eq_true]
    exact forall₂_congr fun e _ => invalidAnchor_rowOf h e
  have hSafety := compute_rows st.entries
  have hContiguous := checkContiguous_rows h
  unfold FrameIndex.validatePersistentState
  simp only [metaOf, toIndex_rows, toIndex_streamIdentity, hContiguous, hRows, hSafety]
  by_cases hCounted : IndexState.Counted st
  · have hFirst : ¬ (st.lifecycle = .complete ∧ st.frameCount ≠ some st.entries.length) := by
      rintro ⟨hComplete, hNe⟩
      rw [IndexState.Counted, if_pos hComplete] at hCounted
      exact hNe hCounted
    have hSecond : ¬ (st.lifecycle ≠ .complete ∧ st.frameCount.isSome = true) := by
      rintro ⟨hPartial, hSome⟩
      rw [IndexState.Counted, if_neg hPartial] at hCounted
      rw [hCounted] at hSome
      cases hSome
    rw [if_neg hFirst, if_neg hSecond, if_neg (by simp)]
    by_cases hAnchored : Anchored st.entries
    · rw [if_neg (by simpa using hAnchors.2 hAnchored)]
      by_cases hSafe : seekSafetyOf st.entries = st.seekSafety
      · rw [if_neg (by simpa using hSafe)]
        exact ⟨fun _ => ⟨h, hAnchored, hCounted, hSafe.symm⟩, fun _ => rfl⟩
      · rw [if_pos hSafe]
        refine iff_of_false ?_ fun hSound => hSafe hSound.safety.symm
        intro hOk
        cases hOk
    · rw [if_pos (fun hZero => hAnchored (hAnchors.1 hZero))]
      refine iff_of_false ?_ fun hSound => hAnchored hSound.anchored
      intro hOk
      cases hOk
  · refine ⟨fun hOk => absurd ?_ hCounted, fun hSound => absurd hSound.counted hCounted⟩
    unfold IndexState.Counted
    by_cases hComplete : st.lifecycle = .complete
    · rw [if_pos hComplete]
      by_contra hNe
      rw [if_pos ⟨hComplete, hNe⟩] at hOk
      cases hOk
    · rw [if_neg hComplete]
      by_contra hSome
      rw [if_neg (fun hBoth => hComplete hBoth.1),
        if_pos ⟨hComplete, Option.isSome_iff_ne_none.2 hSome⟩] at hOk
      cases hOk

/-- A sound index is reused, row for row, by a reopen with its own identity. -/
theorem tryOpen_toIndex (h : Sound stream st) (hReuse : source.isReuseSafe = true) :
    FrameIndex.tryOpen (toIndex source stream st).connection source stream =
      .ok (toIndex source stream st, .reused) := by
  have hMigrate : migrate (toIndex source stream st).connection =
      .ok (toIndex source stream st).connection := rfl
  have hIndex : (⟨(toIndex source stream st).connection, source, stream⟩ : FrameIndex) =
      toIndex source stream st := rfl
  have hValid : (toIndex source stream st).validatePersistentState (metaOf source stream st) =
      .ok () := (validate_toIndex_iff h.shaped).2 h
  simp only [FrameIndex.tryOpen, hMigrate, bind, Except.bind, hIndex, loadMeta_toIndex]
  rw [if_neg (by simp [hReuse]), if_neg (by simp [metaOf]), if_neg (by simp [metaOf]),
    if_neg (by simp [metaOf]), hValid]
  rfl

theorem openOrCreate_toIndex (h : Sound stream st) (hReuse : source.isReuseSafe = true) :
    FrameIndex.openOrCreate (some (toIndex source stream st).connection) source stream =
      .ok (toIndex source stream st, .reused) := by
  simp [FrameIndex.openOrCreate, tryOpen_toIndex h hReuse]

/-- A path with no file gets the fresh index. -/
theorem openOrCreate_none :
    FrameIndex.openOrCreate none source stream =
      .ok (toIndex source stream IndexState.fresh, .created) := rfl

end Validation

/-! ## Runs of the public operations -/

/-- A call of one of the mutating operations. -/
inductive StoreOp where
  | appendBatch (entries : List FrameIndexEntry)
  | truncateFrom (frameId : Nat)
  | clearForRebuild
  | markBuilding
  | markIncomplete (reason : Option String)
  | markFailedRecoverable (reason : String)
  | markComplete
  deriving DecidableEq, Repr

section Runs

variable [ContentHash]

def StoreOp.apply (index : FrameIndex) : StoreOp → Except FrameIndexError FrameIndex
  | .appendBatch entries => index.appendBatch entries
  | .truncateFrom frameId => index.truncateFrom frameId
  | .clearForRebuild => .ok index.clearForRebuild
  | .markBuilding => index.markBuilding
  | .markIncomplete reason => index.markIncomplete reason
  | .markFailedRecoverable reason => index.markFailedRecoverable reason
  | .markComplete => index.markComplete

/-- The index after a call: a failed transaction leaves it as it was. -/
def StoreOp.step (index : FrameIndex) (op : StoreOp) : FrameIndex :=
  match op.apply index with
  | .ok index => index
  | .error _ => index

/-- Frames the metadata row counts. -/
def indexedFrames (index : FrameIndex) : Nat :=
  match index.loadMeta with
  | .ok (some row) => row.indexedFrames
  | _ => 0

/-- The batch continues the stored frames with valid entries. -/
def Continues (index : FrameIndex) (batch : List FrameIndexEntry) : Prop :=
  Numbered (indexedFrames index) batch ∧
    (∀ e ∈ batch, e.validate index.streamIdentity = .ok ()) ∧
    indexedFrames index + batch.length < 2 ^ 63

variable {source : SourceIdentity} {stream : FrameIndexStreamIdentity} {st : IndexState}

@[simp] theorem indexedFrames_toIndex :
    indexedFrames (toIndex source stream st) = st.entries.length := by
  simp [indexedFrames, metaOf]

/-- An append either continues the timeline or changes nothing. -/
theorem step_appendBatch (h : Shaped stream st.entries) (batch : List FrameIndexEntry) :
    (batch ≠ [] ∧ Continues (toIndex source stream st) batch ∧
      StoreOp.step (toIndex source stream st) (.appendBatch batch) =
        toIndex source stream (st.append batch)) ∨
    ((batch = [] ∨ ¬ Continues (toIndex source stream st) batch) ∧
      StoreOp.step (toIndex source stream st) (.appendBatch batch) =
        toIndex source stream st) := by
  by_cases hNe : batch = []
  · subst hNe
    exact .inr ⟨.inl rfl, rfl⟩
  · by_cases hContinues : Continues (toIndex source stream st) batch
    · obtain ⟨hNum, hValid, hLen⟩ := hContinues
      rw [indexedFrames_toIndex] at hNum hLen
      refine .inl ⟨hNe, ⟨by rwa [indexedFrames_toIndex], hValid, by
        rwa [indexedFrames_toIndex]⟩, ?_⟩
      simp only [StoreOp.step, StoreOp.apply, appendBatch_toIndex h hNe hNum hValid hLen]
    · refine .inr ⟨.inr hContinues, ?_⟩
      cases hApply : (toIndex source stream st).appendBatch batch with
      | error error => simp only [StoreOp.step, StoreOp.apply, hApply]
      | ok index =>
          have hInv := appendBatch_toIndex_inv hNe hApply
          exact absurd (by rwa [Continues, indexedFrames_toIndex]) hContinues

/-- A truncation within the timeline is `take`; one beyond SQLite's range is
refused. -/
theorem step_truncateFrom (h : Shaped stream st.entries) {n : Nat}
    (hn : n ≤ st.entries.length) :
    StoreOp.step (toIndex source stream st) (.truncateFrom n) =
      toIndex source stream
        ⟨.incomplete, none, none, seekSafetyOf (st.entries.take n), st.entries.take n⟩ := by
  simp only [StoreOp.step, StoreOp.apply, truncateFrom_toIndex h hn]

theorem step_truncateFrom_refused (index : FrameIndex) {n : Nat} (hn : 2 ^ 63 ≤ n) :
    StoreOp.step index (.truncateFrom n) = index := by
  have hRefused : index.truncateFrom n =
      .error (.invalidState ("frame count" ++ " exceeds SQLite i64 range")) := by
    unfold FrameIndex.truncateFrom
    rw [toSqlU64_of_le hn]
    rfl
  simp only [StoreOp.step, StoreOp.apply, hRefused]

theorem step_markComplete (h : Shaped stream st.entries) :
    StoreOp.step (toIndex source stream st) .markComplete =
      toIndex source stream st.complete := by
  simp only [StoreOp.step, StoreOp.apply, markComplete_toIndex h]

/-! ### Seek safety -/

/-- The index represents a shaped timeline with an exact seek-safety decision. -/
def SafetyExact (source : SourceIdentity) (stream : FrameIndexStreamIdentity)
    (index : FrameIndex) : Prop :=
  ∃ st, index = toIndex source stream st ∧ Shaped stream st.entries ∧
    st.seekSafety = seekSafetyOf st.entries

/-- A truncation stays within the indexed frames. -/
def TruncatesWithin (index : FrameIndex) : StoreOp → Prop
  | .truncateFrom n => n ≤ indexedFrames index
  | _ => True

theorem step_safetyExact (index : FrameIndex) (op : StoreOp)
    (h : SafetyExact source stream index) (hWithin : TruncatesWithin index op) :
    SafetyExact source stream (op.step index) := by
  obtain ⟨st, rfl, hShaped, hSafety⟩ := h
  cases op with
  | appendBatch batch =>
      rcases step_appendBatch hShaped batch with ⟨-, hContinues, hStep⟩ | ⟨-, hStep⟩
      · obtain ⟨hNum, hValid, hLen⟩ := hContinues
        rw [indexedFrames_toIndex] at hNum hLen
        refine ⟨_, hStep, hShaped.append hNum hValid hLen, ?_⟩
        simp only [IndexState.append, hSafety, appendSeekSafety_exact]
      · exact ⟨st, hStep, hShaped, hSafety⟩
  | truncateFrom n =>
      have hn : n ≤ st.entries.length := by simpa [TruncatesWithin] using hWithin
      exact ⟨_, step_truncateFrom hShaped hn, hShaped.take n, rfl⟩
  | clearForRebuild => exact ⟨IndexState.fresh, rfl, Shaped.nil, rfl⟩
  | markComplete => exact ⟨_, step_markComplete hShaped, hShaped, hSafety⟩
  | markBuilding => exact ⟨st.mark .building none, rfl, hShaped, hSafety⟩
  | markIncomplete reason => exact ⟨st.mark .incomplete reason, rfl, hShaped, hSafety⟩
  | markFailedRecoverable reason =>
      exact ⟨st.mark .failedRecoverable (some reason), rfl, hShaped, hSafety⟩

/-- **Incremental seek safety over runs.**  After any run of the public
operations on a fresh index whose truncations stay within the indexed frames,
the persisted decision is the one a recomputation over the stored rows takes. -/
theorem seekSafety_run_exact (source : SourceIdentity) (stream : FrameIndexStreamIdentity)
    {index : FrameIndex} {disposition : FrameIndexOpenDisposition}
    (hFresh : FrameIndex.openOrCreate none source stream = .ok (index, disposition))
    (ops : List StoreOp) (hOps : Meets StoreOp.step TruncatesWithin index ops) :
    (ops.foldl StoreOp.step index).timestampSeekSafety =
      .ok (computeTimestampSeekSafety (ops.foldl StoreOp.step index).connection.frameIndex) := by
  rw [openOrCreate_none] at hFresh
  cases hFresh
  have hInit : SafetyExact source stream (toIndex source stream IndexState.fresh) :=
    ⟨_, rfl, Shaped.nil, rfl⟩
  obtain ⟨st, hIndex, -, hSafety⟩ := run_invariant step_safetyExact hInit hOps
  rw [hIndex, timestampSeekSafety_toIndex, toIndex_rows, compute_rows, hSafety]

/-! ### Validity -/

def isComplete (index : FrameIndex) : Prop :=
  ∃ row, index.loadMeta = .ok (some row) ∧ row.lifecycle = .complete

/-- What a call must satisfy for the stored state to stay valid: a batch that
the store accepts comes before completion and has anchors that name clean
keyframes stored or in the batch, and a truncation point that the store accepts
is not past the end. -/
def StepSound (index : FrameIndex) : StoreOp → Prop
  | .appendBatch batch =>
      batch ≠ [] → Continues index batch →
        ¬ isComplete index ∧
          ∀ e ∈ batch, ∀ id t, e.anchor = .keyframe id t →
            ∃ a, (a ∈ batch ∨ rowOf a ∈ index.connection.frameIndex) ∧
              a.frameId = id ∧ a.isClean = true ∧ a.presentationTimestamp = t
  | .truncateFrom n => n < 2 ^ 63 → n ≤ indexedFrames index
  | _ => True

/-- The index represents a sound state. -/
def Represents (source : SourceIdentity) (stream : FrameIndexStreamIdentity)
    (index : FrameIndex) : Prop :=
  ∃ st, index = toIndex source stream st ∧ Sound stream st

@[simp] theorem isComplete_toIndex :
    isComplete (toIndex source stream st) ↔ st.lifecycle = .complete := by
  simp [isComplete, metaOf]

theorem step_represents (index : FrameIndex) (op : StoreOp)
    (h : Represents source stream index) (hSound : StepSound index op) :
    Represents source stream (op.step index) := by
  obtain ⟨st, rfl, hSt⟩ := h
  have hShaped := hSt.shaped
  cases op with
  | appendBatch batch =>
      rcases step_appendBatch hShaped batch with ⟨hNe, hContinues, hStep⟩ | ⟨-, hStep⟩
      · obtain ⟨hPartial, hAnchors⟩ := hSound hNe hContinues
        obtain ⟨hNum, hValid, hLen⟩ := hContinues
        rw [indexedFrames_toIndex] at hNum hLen
        rw [isComplete_toIndex] at hPartial
        refine ⟨_, hStep, hShaped.append hNum hValid hLen, hSt.anchored.append ?_, ?_, ?_⟩
        · intro e he id t hAnchor
          obtain ⟨a, ha, hNamed⟩ := hAnchors e he id t hAnchor
          rw [toIndex_rows, mem_rows_iff] at ha
          exact ⟨a, List.mem_append.2 ha.symm, hNamed⟩
        · have hCounted := hSt.counted
          simpa [IndexState.Counted, IndexState.append, hPartial] using hCounted
        · simp only [IndexState.append, hSt.safety, appendSeekSafety_exact]
      · exact ⟨st, hStep, hSt⟩
  | truncateFrom n =>
      by_cases hRange : n < 2 ^ 63
      · have hn : n ≤ st.entries.length := by simpa using hSound hRange
        exact ⟨_, step_truncateFrom hShaped hn, hShaped.take n, hSt.anchored.take hShaped n,
          rfl, rfl⟩
      · rw [step_truncateFrom_refused _ (by omega)]
        exact ⟨st, rfl, hSt⟩
  | clearForRebuild => exact ⟨IndexState.fresh, rfl, IndexState.fresh_sound stream⟩
  | markComplete =>
      exact ⟨_, step_markComplete hShaped, hShaped, hSt.anchored, rfl, hSt.safety⟩
  | markBuilding => exact ⟨st.mark .building none, rfl, hSt.mark .building none (by decide)⟩
  | markIncomplete reason =>
      exact ⟨st.mark .incomplete reason, rfl, hSt.mark .incomplete reason (by decide)⟩
  | markFailedRecoverable reason =>
      exact ⟨st.mark .failedRecoverable (some reason), rfl,
        hSt.mark .failedRecoverable (some reason) (by decide)⟩

/-- The stored state in the terms of the tables. -/
structure StoredSoundly (index : FrameIndex) (row : MetaRow) : Prop where
  contiguous : index.connection.frameIndex.map (·.frameIndex) =
    (List.range row.indexedFrames).map fun n : Nat => (n : Int)
  frameCount : row.frameCount =
    if row.lifecycle = .complete then some row.indexedFrames else none
  anchors : ∀ r ∈ index.connection.frameIndex, r.anchorKind = 1 →
    ∃ a ∈ index.connection.frameIndex, r.anchorFrameIndex = some a.frameIndex ∧
      a.isClean = true ∧ a.frameIndex ≤ r.frameIndex
  validates : index.validatePersistentState row = .ok ()

/-- The stored state is valid, and reopening it with the same reuse-safe
identity reuses it. -/
def StoreInvariant (source : SourceIdentity) (stream : FrameIndexStreamIdentity)
    (index : FrameIndex) : Prop :=
  (∃ row, index.loadMeta = .ok (some row) ∧ StoredSoundly index row) ∧
    (source.isReuseSafe = true →
      FrameIndex.openOrCreate (some index.connection) source stream = .ok (index, .reused))

theorem storeInvariant_of_represents (index : FrameIndex)
    (h : Represents source stream index) : StoreInvariant source stream index := by
  obtain ⟨st, rfl, hSt⟩ := h
  refine ⟨⟨_, loadMeta_toIndex source stream st, ?_⟩, openOrCreate_toIndex hSt⟩
  refine ⟨frameIndex_column hSt.shaped, hSt.counted, ?_,
    (validate_toIndex_iff hSt.shaped).2 hSt⟩
  intro r hr hKind
  obtain ⟨e, he, rfl⟩ := List.mem_map.1 hr
  cases hAnchor : e.anchor with
  | streamStart => simp [rowOf, hAnchor] at hKind
  | keyframe id t =>
      obtain ⟨a, ha, hId, hClean, -⟩ := hSt.anchored e he id t hAnchor
      have hValid := (validate_iff stream e).1 (hSt.shaped.valid e he)
      have hLe := (hValid.keyframe id t hAnchor).1
      refine ⟨rowOf a, List.mem_map.2 ⟨a, ha, rfl⟩, ?_, by rw [rowOf_isClean, hClean], ?_⟩
      · simp [rowOf, hAnchor, hId]
      · simp only [rowOf_frameIndex]
        omega

/-- A truncation past the end leaves metadata that counts rows there are not. -/
private theorem truncate_past_end {n : Nat} (hRange : n < 2 ^ 63)
    (hPast : st.entries.length < n)
    (hInv : StoreInvariant source stream
      (StoreOp.step (toIndex source stream st) (.truncateFrom n))) : False := by
  obtain ⟨⟨row, hMeta, hStored⟩, -⟩ := hInv
  have hLen := congrArg List.length hStored.contiguous
  simp only [StoreOp.step, StoreOp.apply, FrameIndex.truncateFrom, toSqlU64, hRange, if_true,
    bind, Except.bind] at hMeta hLen
  simp [FrameIndex.loadMeta, FrameIndex.updateMeta, FrameIndex.setRows, toIndex, fromSqlU64,
    bind, Except.bind] at hMeta
  rw [← hMeta] at hLen
  have hFilter := List.length_filter_le
    (fun row : FrameRow => decide (row.frameIndex < (n : Int))) (st.entries.map rowOf)
  simp [FrameIndex.updateMeta, FrameIndex.setRows] at hLen hFilter
  omega

/-- A step into a valid state met the condition. -/
theorem stepSound_of_storeInvariant (index : FrameIndex) (op : StoreOp)
    (h : Represents source stream index)
    (hInv : StoreInvariant source stream (op.step index)) : StepSound index op := by
  obtain ⟨st, rfl, hSt⟩ := h
  have hShaped := hSt.shaped
  cases op with
  | appendBatch batch =>
      intro hNe hContinues
      rcases step_appendBatch hShaped batch with ⟨-, -, hStep⟩ | ⟨hNot, -⟩
      · rw [hStep] at hInv
        obtain ⟨⟨row, hMeta, hStored⟩, -⟩ := hInv
        rw [loadMeta_toIndex] at hMeta
        cases hMeta
        obtain ⟨hNum, hValid, hLen⟩ := hContinues
        rw [indexedFrames_toIndex] at hNum hLen
        have hGrown : Shaped stream (st.append batch).entries := hShaped.append hNum hValid hLen
        have hSound := (validate_toIndex_iff hGrown).1 hStored.validates
        constructor
        · rw [isComplete_toIndex]
          intro hComplete
          have hBefore := hSt.counted
          have hAfter := hSound.counted
          have hPos := List.length_pos_iff.2 hNe
          simp [IndexState.Counted, IndexState.append, hComplete] at hBefore hAfter
          rw [hBefore] at hAfter
          simp only [Option.some.injEq] at hAfter
          omega
        · intro e he id t hAnchor
          obtain ⟨a, ha, hNamed⟩ :=
            hSound.anchored e (List.mem_append_right _ he) id t hAnchor
          refine ⟨a, ?_, hNamed⟩
          rw [toIndex_rows, mem_rows_iff]
          exact (List.mem_append.1 ha).symm
      · rcases hNot with hNil | hNot
        · exact absurd hNil hNe
        · exact absurd hContinues hNot
  | truncateFrom n =>
      intro hRange
      rw [indexedFrames_toIndex]
      by_contra hPast
      exact truncate_past_end hRange (by omega) hInv
  | clearForRebuild => trivial
  | markComplete => trivial
  | markBuilding => trivial
  | markIncomplete reason => trivial
  | markFailedRecoverable reason => trivial

/-- **The store invariant.**  A run of the public operations on a fresh index
keeps the stored state valid throughout exactly when every call meets
`StepSound`. -/
theorem store_run_valid_iff (source : SourceIdentity) (stream : FrameIndexStreamIdentity)
    {index : FrameIndex} {disposition : FrameIndexOpenDisposition}
    (hFresh : FrameIndex.openOrCreate none source stream = .ok (index, disposition))
    (ops : List StoreOp) :
    (∀ k, StoreInvariant source stream ((ops.take k).foldl StoreOp.step index)) ↔
      Meets StoreOp.step StepSound index ops := by
  rw [openOrCreate_none] at hFresh
  cases hFresh
  exact always_iff_meets step_represents storeInvariant_of_represents
    stepSound_of_storeInvariant ⟨_, rfl, IndexState.fresh_sound stream⟩ ops

end Runs

section Samples

local instance : ContentHash := constantHash

/-- One clean keyframe. -/
def sampleEntry : FrameIndexEntry where
  frameId := 0
  presentationTimestamp := some ⟨0, sampleTimeBase⟩
  duration := none
  keyframe := true
  corrupt := false
  anchor := .keyframe 0 (some ⟨0, sampleTimeBase⟩)

private theorem sampleEntry_continues (lifecycle : FrameIndexLifecycle) (count : Option Nat) :
    Continues (toIndex sampleSource sampleStream ⟨lifecycle, count, none, .unambiguous, []⟩)
      [sampleEntry] := by
  refine ⟨?_, ?_, ?_⟩
  · rw [indexedFrames_toIndex]
    exact ⟨rfl, trivial⟩
  · intro e he
    rw [List.mem_singleton] at he
    subst he
    rfl
  · rw [indexedFrames_toIndex]
    simp

theorem seekSafety_run_exact_sample :
    let index := toIndex sampleSource sampleStream IndexState.fresh
    let ops := [StoreOp.appendBatch [sampleEntry], .truncateFrom 0]
    (ops.foldl StoreOp.step index).timestampSeekSafety =
      .ok (computeTimestampSeekSafety (ops.foldl StoreOp.step index).connection.frameIndex) := by
  intro index ops
  exact seekSafety_run_exact sampleSource sampleStream openOrCreate_none ops
    ⟨trivial, Nat.zero_le _, trivial⟩

theorem store_run_valid_iff_sample :
    let ops := [StoreOp.appendBatch [sampleEntry], .markComplete]
    ∀ k, StoreInvariant sampleSource sampleStream
      ((ops.take k).foldl StoreOp.step (toIndex sampleSource sampleStream IndexState.fresh)) := by
  refine (store_run_valid_iff sampleSource sampleStream openOrCreate_none _).2
    ⟨?_, trivial, trivial⟩
  intro _ _
  refine ⟨by simp [IndexState.fresh], ?_⟩
  intro e he id t hAnchor
  rw [List.mem_singleton] at he
  subst he
  cases hAnchor
  exact ⟨sampleEntry, .inl (by simp), rfl, rfl, rfl⟩

/-- Appending to a complete index leaves the completed frame count behind. -/
theorem append_after_completion_invalid :
    FrameIndex.openOrCreate none sampleSource sampleStream =
        .ok (toIndex sampleSource sampleStream IndexState.fresh, .created) ∧
      ¬ StoreInvariant sampleSource sampleStream
        ([StoreOp.markComplete, .appendBatch [sampleEntry]].foldl StoreOp.step
          (toIndex sampleSource sampleStream IndexState.fresh)) := by
  refine ⟨openOrCreate_none, fun hInv => ?_⟩
  have hFresh := IndexState.fresh_sound sampleStream
  have hRepresents : Represents sampleSource sampleStream
      (StoreOp.step (toIndex sampleSource sampleStream IndexState.fresh) .markComplete) :=
    step_represents _ .markComplete ⟨_, rfl, hFresh⟩ trivial
  have hSound := stepSound_of_storeInvariant _ (.appendBatch [sampleEntry]) hRepresents hInv
  rw [step_markComplete hFresh.shaped] at hSound
  have hPartial := (hSound (by simp) (sampleEntry_continues .complete (some 0))).1
  rw [isComplete_toIndex] at hPartial
  exact hPartial rfl

end Samples

end FrameScope.Ports.FrameIndexInvariant
