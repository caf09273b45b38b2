import FrameScope.Ports.CompleteIndex

/-!
# Timestamp lookups

`timestamp_query` and `timestamp_us_query` order the rows by a timestamp column
and then by identity, downwards for a lookup from below and upwards for one from
above.  On a shaped timeline they return the last entry with the greatest key at
or before the value, and the first with the least key at or after it; which way
the identities run is what decides among repeated timestamps.
-/

namespace FrameScope.Ports.TimestampQueries

open FrameScope.Ports.Core
open FrameScope.Ports.Decoder
open FrameScope.Ports.FrameIndexModel
open FrameScope.Ports.SourceBinding
open FrameScope.Ports.FrameIndexStore
open FrameScope.Ports.FrameTimeline
open FrameScope.Ports.FrameIndexState
open FrameScope.Verified.KeyedTable
open FrameScope.Ports.IndexingCall
open FrameScope.Ports.IndexingRuns
open FrameScope.Ports.CompleteIndex

/-! ## The first row of an order -/

section BestRow

variable {precedes : FrameRow → FrameRow → Bool}

theorem bestRow_eq_none {rows : List FrameRow} : bestRow precedes rows = none ↔ rows = [] := by
  induction rows with
  | nil => simp [bestRow]
  | cons row rest ih =>
      simp only [bestRow, reduceCtorEq, iff_false]
      cases bestRow precedes rest with
      | none => simp
      | some best => by_cases hFirst : precedes best row = true <;> simp [hFirst]

theorem bestRow_mem {rows : List FrameRow} {best : FrameRow}
    (h : bestRow precedes rows = some best) : best ∈ rows := by
  induction rows with
  | nil => cases h
  | cons row rest ih =>
      simp only [bestRow] at h
      cases hRest : bestRow precedes rest with
      | none =>
          rw [hRest] at h
          cases h
          exact List.mem_cons_self ..
      | some other =>
          simp only [hRest] at h
          by_cases hFirst : precedes other row = true
          · rw [if_pos hFirst] at h
            cases h
            exact List.mem_cons_of_mem _ (ih hRest)
          · rw [if_neg hFirst] at h
            cases h
            exact List.mem_cons_self ..

/-- Nothing precedes the first row, when the order is asymmetric and what does
not precede one row cannot precede an earlier one. -/
theorem not_precedes_bestRow {rows : List FrameRow}
    (hAsymm : ∀ a ∈ rows, ∀ b ∈ rows, precedes a b = true → precedes b a = false)
    (hTrans : ∀ a ∈ rows, ∀ b ∈ rows, ∀ c ∈ rows,
      precedes a b = false → precedes b c = false → precedes a c = false)
    {best : FrameRow} (h : bestRow precedes rows = some best) :
    ∀ row ∈ rows, precedes row best = false := by
  have hIrrefl : ∀ a ∈ rows, precedes a a = false := by
    intro a ha
    by_contra hSelf
    rw [Bool.not_eq_false] at hSelf
    have hNot := hAsymm a ha a ha hSelf
    rw [hSelf] at hNot
    cases hNot
  induction rows generalizing best with
  | nil => cases h
  | cons head rest ih =>
      have hHead : head ∈ head :: rest := List.mem_cons_self ..
      have hTail : ∀ a ∈ rest, a ∈ head :: rest := fun a ha => List.mem_cons_of_mem _ ha
      simp only [bestRow] at h
      cases hRest : bestRow precedes rest with
      | none =>
          rw [hRest] at h
          cases h
          rw [bestRow_eq_none] at hRest
          subst hRest
          intro row hRow
          rw [List.mem_singleton] at hRow
          subst hRow
          exact hIrrefl row hHead
      | some other =>
          have hOther := hTail other (bestRow_mem hRest)
          have hLeast := ih (fun a ha b hb => hAsymm a (hTail a ha) b (hTail b hb))
            (fun a ha b hb c hc => hTrans a (hTail a ha) b (hTail b hb) c (hTail c hc)) hRest
            (fun a ha => hIrrefl a (hTail a ha))
          simp only [hRest] at h
          by_cases hFirst : precedes other head = true
          · rw [if_pos hFirst] at h
            rw [Option.some.injEq] at h
            subst h
            intro row hRow
            rcases List.mem_cons.1 hRow with rfl | hRow
            · exact hAsymm other hOther row hHead hFirst
            · exact hLeast row hRow
          · rw [if_neg hFirst] at h
            rw [Bool.not_eq_true] at hFirst
            rw [Option.some.injEq] at h
            subst h
            intro row hRow
            rcases List.mem_cons.1 hRow with rfl | hRow
            · exact hIrrefl row hHead
            · exact hTrans row (hTail row hRow) other hOther head hHead (hLeast row hRow) hFirst

end BestRow

/-! ## What a lookup finds -/

/-- The key that a lookup orders the entries by. -/
abbrev Key := FrameIndexEntry → Option Int

/-- The ticks of an entry, which are in the time base of the stream. -/
def ticks (e : FrameIndexEntry) : Option Int := e.presentationTimestamp.map (·.ticks)

/-- The last of the entries with the greatest key at or before `value`. -/
structure LastAtOrBefore (key : Key) (value : Int) (entries : List FrameIndexEntry)
    (e : FrameIndexEntry) (x : Int) : Prop where
  mem : e ∈ entries
  key_eq : key e = some x
  le : x ≤ value
  greatest : ∀ other ∈ entries, ∀ y, key other = some y → y ≤ value →
    y < x ∨ y = x ∧ other.frameId ≤ e.frameId

/-- The first of the entries with the least key at or after `value`. -/
structure FirstAtOrAfter (key : Key) (value : Int) (entries : List FrameIndexEntry)
    (e : FrameIndexEntry) (x : Int) : Prop where
  mem : e ∈ entries
  key_eq : key e = some x
  le : value ≤ x
  least : ∀ other ∈ entries, ∀ y, key other = some y → value ≤ y →
    x < y ∨ y = x ∧ e.frameId ≤ other.frameId

/-- The entries on the side of a lookup. -/
def candidates (key : Key) (value : Int) (before : Bool) (entries : List FrameIndexEntry) :
    List FrameIndexEntry :=
  entries.filter fun e => (key e).any fun x => if before then x ≤ value else value ≤ x

theorem mem_candidates {key : Key} {value : Int} {before : Bool} {entries : List FrameIndexEntry}
    {e : FrameIndexEntry} : e ∈ candidates key value before entries ↔
      e ∈ entries ∧ ∃ x, key e = some x ∧ (if before then x ≤ value else value ≤ x) := by
  unfold candidates
  rw [List.mem_filter, Option.any_eq_true]
  simp

section Lookup

variable [ContentHash] {source : SourceIdentity} {stream : FrameIndexStreamIdentity}
  {st : IndexState} {key : Key} {column : FrameRow → Option Int}

/-- A lookup loads the first of its candidate rows. -/
theorem timestampQuery_toIndex (h : Shaped stream st.entries)
    (hColumn : ∀ e, column (rowOf e) = key e) (value : Int) (before : Bool) :
    ∃ found, (toIndex source stream st).timestampQuery column value before = .ok found ∧
      (found = none → candidates key value before st.entries = []) ∧
      ∀ e, found = some e → e ∈ candidates key value before st.entries ∧
        ∀ other ∈ candidates key value before st.entries,
          rowPrecedes column before (rowOf other) (rowOf e) = false := by
  have hRows : ((toIndex source stream st).connection.frameIndex.filter fun row =>
      (column row).any fun x => if before then x ≤ value else value ≤ x) =
        (candidates key value before st.entries).map rowOf := by
    rw [toIndex_rows, List.filter_map]
    unfold candidates
    congr 2
    funext e
    simp [hColumn]
  have hKeyed : ∀ row ∈ (candidates key value before st.entries).map rowOf,
      ∃ x, column row = some x := by
    intro row hRow
    obtain ⟨e, he, rfl⟩ := List.mem_map.1 hRow
    obtain ⟨-, x, hx, -⟩ := mem_candidates.1 he
    exact ⟨x, by rw [hColumn, hx]⟩
  have hAsymm : ∀ a ∈ (candidates key value before st.entries).map rowOf,
      ∀ b ∈ (candidates key value before st.entries).map rowOf,
      rowPrecedes column before a b = true → rowPrecedes column before b a = false := by
    intro a ha b hb
    obtain ⟨x, hx⟩ := hKeyed a ha
    obtain ⟨y, hy⟩ := hKeyed b hb
    cases before <;> simp [rowPrecedes, hx, hy] <;> omega
  have hTrans : ∀ a ∈ (candidates key value before st.entries).map rowOf,
      ∀ b ∈ (candidates key value before st.entries).map rowOf,
      ∀ c ∈ (candidates key value before st.entries).map rowOf,
      rowPrecedes column before a b = false → rowPrecedes column before b c = false →
        rowPrecedes column before a c = false := by
    intro a ha b hb c hc
    obtain ⟨x, hx⟩ := hKeyed a ha
    obtain ⟨y, hy⟩ := hKeyed b hb
    obtain ⟨z, hz⟩ := hKeyed c hc
    cases before <;> simp [rowPrecedes, hx, hy, hz] <;> omega
  unfold FrameIndex.timestampQuery
  simp only [hRows]
  cases hBest : bestRow (rowPrecedes column before)
      ((candidates key value before st.entries).map rowOf) with
  | none =>
      refine ⟨none, rfl, fun _ => ?_, (fun e he => by cases he)⟩
      rw [bestRow_eq_none, List.map_eq_nil_iff] at hBest
      exact hBest
  | some row =>
      obtain ⟨e, he, rfl⟩ := List.mem_map.1 (bestRow_mem hBest)
      have hMem := (mem_candidates.1 he).1
      have hLoad : (toIndex source stream st).loadEntry (rowOf e) = .ok e :=
        loadEntry_rowOf (h.valid e hMem)
      refine ⟨some e, by simp [hLoad, Except.map], (fun hNone => by cases hNone), ?_⟩
      intro other hOther
      cases hOther
      refine ⟨he, fun other hOther => ?_⟩
      exact not_precedes_bestRow hAsymm hTrans hBest (rowOf other) (List.mem_map_of_mem hOther)

/-- A lookup from below. -/
theorem timestampQuery_before (h : Shaped stream st.entries)
    (hColumn : ∀ e, column (rowOf e) = key e) (value : Int) :
    ∃ found, (toIndex source stream st).timestampQuery column value true = .ok found ∧
      (found = none → ∀ e ∈ st.entries, ∀ x, key e = some x → value < x) ∧
      ∀ e, found = some e → ∃ x, LastAtOrBefore key value st.entries e x := by
  obtain ⟨found, hFound, hNone, hSome⟩ :=
    timestampQuery_toIndex (h := h) hColumn value true
  refine ⟨found, hFound, ?_, ?_⟩
  · intro hIs e he x hx
    have hEmpty := hNone hIs
    by_contra hLe
    have hMem : e ∈ candidates key value true st.entries :=
      mem_candidates.2 ⟨he, x, hx, Int.not_lt.1 hLe⟩
    rw [hEmpty] at hMem
    cases hMem
  · intro e hIs
    obtain ⟨hMem, hLeast⟩ := hSome e hIs
    obtain ⟨he, x, hx, hLe⟩ := mem_candidates.1 hMem
    refine ⟨x, he, hx, hLe, ?_⟩
    intro other hOther y hy hBefore
    have hNot := hLeast other (mem_candidates.2 ⟨hOther, y, hy, hBefore⟩)
    simp [rowPrecedes, hColumn, hx, hy] at hNot
    omega

/-- A lookup from above. -/
theorem timestampQuery_after (h : Shaped stream st.entries)
    (hColumn : ∀ e, column (rowOf e) = key e) (value : Int) :
    ∃ found, (toIndex source stream st).timestampQuery column value false = .ok found ∧
      (found = none → ∀ e ∈ st.entries, ∀ x, key e = some x → x < value) ∧
      ∀ e, found = some e → ∃ x, FirstAtOrAfter key value st.entries e x := by
  obtain ⟨found, hFound, hNone, hSome⟩ :=
    timestampQuery_toIndex (h := h) hColumn value false
  refine ⟨found, hFound, ?_, ?_⟩
  · intro hIs e he x hx
    have hEmpty := hNone hIs
    by_contra hLe
    have hMem : e ∈ candidates key value false st.entries :=
      mem_candidates.2 ⟨he, x, hx, Int.not_lt.1 hLe⟩
    rw [hEmpty] at hMem
    cases hMem
  · intro e hIs
    obtain ⟨hMem, hLeast⟩ := hSome e hIs
    obtain ⟨he, x, hx, hLe⟩ := mem_candidates.1 hMem
    refine ⟨x, he, hx, hLe, ?_⟩
    intro other hOther y hy hAfter
    have hNot := hLeast other (mem_candidates.2 ⟨hOther, y, hy, hAfter⟩)
    simp [rowPrecedes, hColumn, hx, hy] at hNot
    omega

end Lookup

/-! ## Complete indexes -/

section Complete

variable [ContentHash]

/-- `index` is the complete index of `entries`: whatever their timestamps, they
are numbered, valid and as many as its frame count says. -/
structure CompleteOver (entries : List FrameIndexEntry) (index : FrameIndex) : Prop where
  shaped : Shaped index.streamIdentity entries
  content : ∃ st : IndexState, index = toIndex index.sourceIdentity index.streamIdentity st ∧
    st.entries = entries ∧ st.lifecycle = .complete ∧ st.frameCount = some entries.length

/-- The index that the indexer finishes is one. -/
theorem completeOver_of_indexOf {S : List DecodedRgbaFrame} {index : FrameIndex}
    (h : IndexOf S index) : CompleteOver (timeline S) index := by
  refine ⟨h.shaped, completeState S, h.content, rfl, rfl, ?_⟩
  rw [timeline_length]
  rfl

variable {entries : List FrameIndexEntry} {index : FrameIndex}

theorem CompleteOver.status (h : CompleteOver entries index) :
    ∃ status, index.status = .ok status ∧ status.lifecycle = .complete ∧
      status.frameCount = some entries.length := by
  obtain ⟨hShaped, st, hIndex, rfl, hComplete, hCount⟩ := h
  refine ⟨st.status, ?_, hComplete, hCount⟩
  rw [hIndex]
  exact status_toIndex hShaped

theorem CompleteOver.entry (h : CompleteOver entries index) {i : Nat} (hi : i < 2 ^ 63) :
    index.entry i = .ok entries[i]? := by
  obtain ⟨hShaped, st, hIndex, rfl, -, -⟩ := h
  rw [hIndex]
  exact entry_toIndex hShaped hi

/-- An entry stands at the position of its identity. -/
theorem CompleteOver.at_frameId (h : CompleteOver entries index) {e : FrameIndexEntry}
    (he : e ∈ entries) : entries[e.frameId]? = some e := by
  obtain ⟨i, hi⟩ := List.getElem?_of_mem he
  have hId := Consecutive.key_eq h.shaped.numbered hi
  have hSame : e.frameId = i := by simpa using hId
  rw [hSame, hi]

theorem CompleteOver.frameId_lt (h : CompleteOver entries index) {e : FrameIndexEntry}
    (he : e ∈ entries) : e.frameId < entries.length :=
  (List.getElem?_eq_some_iff.1 (h.at_frameId he)).1

theorem CompleteOver.frameAtOrBeforeUs (h : CompleteOver entries index) (value : Int) :
    ∃ found, index.frameAtOrBeforeUs value = .ok found ∧
      (found = none → ∀ e ∈ entries, ∀ x, e.timestampUs = some x → value < x) ∧
      ∀ e, found = some e →
        ∃ x, LastAtOrBefore FrameIndexEntry.timestampUs value entries e x := by
  obtain ⟨hShaped, st, hIndex, rfl, -, -⟩ := h
  rw [hIndex]
  exact timestampQuery_before hShaped (fun _ => rfl) value

theorem CompleteOver.frameAtOrAfterUs (h : CompleteOver entries index) (value : Int) :
    ∃ found, index.frameAtOrAfterUs value = .ok found ∧
      (found = none → ∀ e ∈ entries, ∀ x, e.timestampUs = some x → x < value) ∧
      ∀ e, found = some e →
        ∃ x, FirstAtOrAfter FrameIndexEntry.timestampUs value entries e x := by
  obtain ⟨hShaped, st, hIndex, rfl, -, -⟩ := h
  rw [hIndex]
  exact timestampQuery_after hShaped (fun _ => rfl) value

end Complete

end FrameScope.Ports.TimestampQueries
