import FrameScope.Ports.FrameIndexInvariant

/-!
# Entries that are appended are read back

Batches that continue a timeline go through the nullable columns of
`frame_index` and come back through `entry` and `visit_range` as they were.
Whatever `append_batch` accepts is such a batch.
-/

namespace FrameScope.Ports.FrameIndexRoundTrip

open FrameScope.Verified.KeyedTable
open FrameScope.Ports.Core
open FrameScope.Ports.FrameIndexModel
open FrameScope.Ports.SourceBinding
open FrameScope.Ports.FrameIndexStore
open FrameScope.Ports.FrameTimeline
open FrameScope.Ports.FrameIndexState
open FrameScope.Ports.FrameIndexInvariant

section RoundTrip

variable [ContentHash] {source : SourceIdentity} {stream : FrameIndexStreamIdentity}
  {st : IndexState}

/-- One `append_batch` for each batch. -/
def appendAll : FrameIndex → List (List FrameIndexEntry) → Except FrameIndexError FrameIndex
  | index, [] => .ok index
  | index, batch :: rest => do
      let index ← index.appendBatch batch
      appendAll index rest

/-- What a timeline is continued with. -/
structure ContinuesWith (stream : FrameIndexStreamIdentity) (st : IndexState)
    (entries : List FrameIndexEntry) : Prop where
  numbered : Numbered st.entries.length entries
  valid : ∀ e ∈ entries, e.validate stream = .ok ()
  bounded : st.entries.length + entries.length < 2 ^ 63

/-- A batch that is appended makes the timeline longer by its entries. -/
theorem appendBatch_continues (h : Shaped stream st.entries) {batch : List FrameIndexEntry}
    (hBatch : ContinuesWith stream st batch) :
    ∃ st' : IndexState, (toIndex source stream st).appendBatch batch =
        .ok (toIndex source stream st') ∧
      st'.entries = st.entries ++ batch ∧ Shaped stream st'.entries := by
  by_cases hEmpty : batch = []
  · subst hEmpty
    exact ⟨st, rfl, (List.append_nil _).symm, h⟩
  · exact ⟨st.append batch,
      appendBatch_toIndex h hEmpty hBatch.numbered hBatch.valid hBatch.bounded, rfl,
      h.append hBatch.numbered hBatch.valid hBatch.bounded⟩

/-- A batch is appended exactly when it continues the timeline. -/
theorem appendBatch_ok_iff (h : Shaped stream st.entries) {batch : List FrameIndexEntry}
    (hNe : batch ≠ []) :
    (∃ index, (toIndex source stream st).appendBatch batch = .ok index) ↔
      ContinuesWith stream st batch := by
  constructor
  · intro hOk
    obtain ⟨index, hOk⟩ := hOk
    obtain ⟨hNumbered, hValid, hBounded⟩ := appendBatch_toIndex_inv hNe hOk
    exact ⟨hNumbered, hValid, hBounded⟩
  · intro hBatch
    obtain ⟨st', hOk, -⟩ := appendBatch_continues h hBatch
    exact ⟨_, hOk⟩

/-- A run of batches makes the timeline longer by all their entries. -/
theorem appendAll_continues (batches : List (List FrameIndexEntry)) :
    ∀ {st : IndexState}, Shaped stream st.entries → ContinuesWith stream st batches.flatten →
      ∃ st' : IndexState, appendAll (toIndex source stream st) batches =
          .ok (toIndex source stream st') ∧
        st'.entries = st.entries ++ batches.flatten ∧ Shaped stream st'.entries := by
  induction batches with
  | nil =>
      intro st h _
      exact ⟨st, rfl, (List.append_nil _).symm, h⟩
  | cons batch rest ih =>
      intro st h hAll
      rw [List.flatten_cons] at hAll ⊢
      have hBounded := hAll.bounded
      rw [List.length_append] at hBounded
      have hFirst : Numbered st.entries.length batch := by
        have hTake := Consecutive.take hAll.numbered batch.length
        rwa [List.take_left] at hTake
      have hRest : Numbered (st.entries.length + batch.length) rest.flatten :=
        Consecutive.append_right hAll.numbered
      obtain ⟨st₁, hOk, hEntries, hShaped⟩ := appendBatch_continues h
        ⟨hFirst, fun e he => hAll.valid e (List.mem_append_left _ he), by omega⟩
      obtain ⟨st', hRun, hEntries', hShaped'⟩ := ih hShaped
        ⟨by rw [hEntries, List.length_append]; exact hRest,
          fun e he => hAll.valid e (List.mem_append_right _ he),
          by rw [hEntries, List.length_append]; omega⟩
      refine ⟨st', ?_, ?_, hShaped'⟩
      · unfold appendAll
        rw [hOk]
        exact hRun
      · rw [hEntries', hEntries, List.append_assoc]

omit [ContentHash] in
/-- The entries of a timeline that is continued, from where the continuation begins. -/
theorem entries_slice (entries more : List FrameIndexEntry) (a b : Nat) :
    ((entries ++ more).take (entries.length + b)).drop (entries.length + a) =
      (more.take b).drop a := by
  rw [List.take_length_add_append, List.drop_length_add_append]

/-- **Entries that are appended are read back.**  Batches that continue a timeline are accepted,
and `entry` and `visit_range` over any part of them give exactly the entries that were appended, in
order; nothing else is accepted.  A binding key decodes to what it was made from. -/
theorem index_row_round_trip (h : Shaped stream st.entries)
    (batches : List (List FrameIndexEntry)) (hAll : ContinuesWith stream st batches.flatten) :
    (∃ index, appendAll (toIndex source stream st) batches = .ok index ∧
      (∀ i e, batches.flatten[i]? = some e →
        index.entry (st.entries.length + i) = .ok (some e)) ∧
      ∀ a b, a ≤ b → b ≤ batches.flatten.length →
        index.visitRange (st.entries.length + a) (st.entries.length + b) =
          .ok ((batches.flatten.take b).drop a)) ∧
    (∀ batch : List FrameIndexEntry, batch ≠ [] →
      ((∃ index, (toIndex source stream st).appendBatch batch = .ok index) ↔
        ContinuesWith stream st batch)) ∧
    ∀ (identity : SourceIdentity) (safety : TimestampSeekSafety),
      decodeSourceBindingKey (sourceBindingKey identity safety) =
        .ok (frameTimelineContractGeneration, safety, ContentHash.stableKey identity) := by
  obtain ⟨st', hRun, hEntries, hShaped⟩ := appendAll_continues batches h hAll
  have hBounded := hAll.bounded
  refine ⟨⟨_, hRun, ?_, ?_⟩, fun batch hNe => appendBatch_ok_iff h hNe,
    decode_sourceBindingKey⟩
  · intro i e he
    have hi := (List.getElem?_eq_some_iff.1 he).1
    rw [entry_toIndex hShaped (by omega), hEntries,
      List.getElem?_append_right (Nat.le_add_right _ _), Nat.add_sub_cancel_left, he]
  · intro a b hab hb
    rw [visitRange_toIndex hShaped (by omega) (by omega), hEntries, entries_slice]

end RoundTrip

section Samples

local instance : ContentHash := constantHash

theorem index_row_round_trip_sample :
    ∃ index, appendAll (toIndex sampleSource sampleStream IndexState.fresh) [[sampleEntry]] =
        .ok index ∧ index.entry 0 = .ok (some sampleEntry) := by
  have hSample : ContinuesWith sampleStream IndexState.fresh [[sampleEntry]].flatten :=
    ⟨⟨rfl, trivial⟩, fun e he => by rw [List.mem_singleton.1 he]; rfl, by decide⟩
  obtain ⟨⟨index, hRun, hEntry, -⟩, -⟩ := index_row_round_trip 
    (IndexState.fresh_sound sampleStream).shaped [[sampleEntry]] hSample
  exact ⟨index, hRun, hEntry 0 sampleEntry rfl⟩

end Samples

end FrameScope.Ports.FrameIndexRoundTrip
