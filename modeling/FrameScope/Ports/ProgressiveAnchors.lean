import FrameScope.Verified.KeyedTable
import FrameScope.Ports.Progressive

/-!
# The anchors of a snapshot

`anchorRows` lists the rows that a snapshot leaves for the clean keyframes it has
seen: each interval ends where the next one starts, and the last one ends where
the caller says.  The visitor keeps the table in this form with the last interval
open (`visitAnchor_wp`), so the whole pass does (`rebuildAnchors_wp`).
-/

namespace FrameScope.Ports.ProgressiveAnchors

open FrameScope.Verified.Fallible
open FrameScope.Verified.KeyedTable
open FrameScope.Ports.Core
open FrameScope.Ports.FrameIndexModel
open FrameScope.Ports.SourceBinding
open FrameScope.Ports.FrameIndexStore (FrameIndex FrameRow)
open FrameScope.Ports.Progressive

/-! ## Conversions -/

theorem toI64_eq_ok {value : Nat} {label : String} {v : Int} :
    toI64 value label = .ok v ↔ value < 2 ^ 63 ∧ v = value := by
  unfold toI64
  split_ifs with hFits
  · rw [Except.ok.injEq, eq_comm, and_iff_right hFits]
  · exact iff_of_false (by simp) fun h => hFits h.1

@[simp] theorem toU64_natCast (value : Nat) (label : String) :
    toU64 (value : Int) label = .ok value := by
  unfold toU64
  rw [if_pos (Int.natCast_nonneg value), Int.toNat_natCast]

@[simp] theorem toU32_toNat (value : UInt32) (label : String) :
    toU32 (value.toNat : Int) label = .ok value := by
  have hLt := value.toNat_lt
  unfold toU32
  rw [if_pos (by omega), Int.toNat_natCast, UInt32.ofNat_toNat]

/-- The column of an optional count. -/
def countColumn : Option Nat → Option Int := Option.map fun (n : Nat) => (n : Int)

@[simp] theorem transposeMap_toU64 (value : Option Nat) (label : String) :
    transposeMap (toU64 · label) (countColumn value) = .ok value := by
  cases value with
  | none => rfl
  | some n =>
      show (toU64 (n : Int) label).map some = _
      rw [toU64_natCast]
      rfl

theorem transposeMap_toI64_eq_ok {value : Option Nat} {label : String} {v : Option Int}
    (h : transposeMap (toI64 · label) value = .ok v) : v = countColumn value := by
  cases value with
  | none => exact (Except.ok.inj h).symm
  | some n =>
      have hMap : (toI64 n label).map some = .ok v := h
      cases hConvert : toI64 n label with
      | error error =>
          rw [hConvert] at hMap
          cases hMap
      | ok x =>
          rw [hConvert] at hMap
          obtain ⟨-, rfl⟩ := toI64_eq_ok.1 hConvert
          exact (Except.ok.inj hMap).symm

theorem getI32_timeBase {column : Nat} {x : Int} (hPos : 0 < x) (hLt : x < 2 ^ 31) :
    FrameIndexStore.getI32 column (some x) = .ok (some x) := by
  show (if -2 ^ 31 ≤ x ∧ x < 2 ^ 31 then Except.ok (some x) else _) = _
  rw [if_pos (by omega)]

/-- Encoded timestamps are read back. -/
@[simp] theorem encodeTimestamp_get (timestamp : Option MediaTimestamp) (column : Nat) :
    (encodeTimestamp timestamp).get column = .ok (encodeTimestamp timestamp) := by
  cases timestamp with
  | none => rfl
  | some t =>
      unfold TimestampColumns.get encodeTimestamp
      rw [getI32_timeBase t.timeBase.numerator_pos t.timeBase.numerator_lt,
        getI32_timeBase t.timeBase.denominator_pos t.timeBase.denominator_lt]
      rfl

@[simp] theorem decodeTimestamp_encodeTimestamp (timestamp : Option MediaTimestamp) :
    decodeTimestamp (encodeTimestamp timestamp) = .ok timestamp := by
  cases timestamp with
  | none => rfl
  | some t =>
      unfold decodeTimestamp encodeTimestamp
      simp only [TimeBase.new_self]

theorem encodeTimestamp_checks (timestamp : Option MediaTimestamp) :
    (encodeTimestamp timestamp).Checks := by
  cases timestamp with
  | none => exact ⟨rfl, rfl⟩
  | some t => exact ⟨rfl, rfl⟩

/-! ## The table -/

/-- The row of a clean keyframe whose interval ends as given. -/
def anchorRow (ordinal : Nat) (e : FrameIndexEntry) (endFrame : Option Nat)
    (endTimestamp : Option MediaTimestamp) : AnchorRow :=
  { openAnchor ordinal e.frameId (encodeTimestamp e.presentationTimestamp) with
    gopEndFrameExclusive := countColumn endFrame
    gopEnd := encodeTimestamp endTimestamp }

/-- The rows of clean keyframes, numbered from `ordinal`. -/
def anchorRows (endFrame : Option Nat) (endTimestamp : Option MediaTimestamp) :
    Nat → List FrameIndexEntry → List AnchorRow
  | _, [] => []
  | ordinal, [e] => [anchorRow ordinal e endFrame endTimestamp]
  | ordinal, e :: next :: rest =>
      anchorRow ordinal e (some next.frameId) next.presentationTimestamp ::
        anchorRows endFrame endTimestamp (ordinal + 1) (next :: rest)

section Table

variable {endFrame : Option Nat} {endTimestamp : Option MediaTimestamp} {ordinal : Nat}
  {clean : List FrameIndexEntry} {e : FrameIndexEntry}

theorem anchorRows_concat (endFrame : Option Nat) (endTimestamp : Option MediaTimestamp)
    (ordinal : Nat) (clean : List FrameIndexEntry) (e : FrameIndexEntry) :
    anchorRows endFrame endTimestamp ordinal (clean ++ [e]) =
      anchorRows (some e.frameId) e.presentationTimestamp ordinal clean ++
        [anchorRow (ordinal + clean.length) e endFrame endTimestamp] := by
  induction clean generalizing ordinal with
  | nil => rfl
  | cons first rest ih =>
      cases rest with
      | nil => rfl
      | cons next rest =>
          have hRest := ih (ordinal + 1)
          have hIndex : ordinal + 1 + (next :: rest).length =
              ordinal + (first :: next :: rest).length := by
            simp only [List.length_cons]
            omega
          rw [List.cons_append, hIndex] at hRest
          rw [List.cons_append, List.cons_append, anchorRows, anchorRows, hRest, List.cons_append]

/-- Closing the last interval changes where it ends. -/
theorem closeRow_anchorRows (endFrame finalEnd : Option Nat)
    (endTimestamp finalTimestamp : Option MediaTimestamp) (ordinal : Nat)
    (clean : List FrameIndexEntry) :
    (anchorRows endFrame endTimestamp ordinal clean).map
        (closeRow (countColumn finalEnd) (encodeTimestamp finalTimestamp)
          ((ordinal + clean.length - 1 : Nat) : Int)) =
      anchorRows finalEnd finalTimestamp ordinal clean := by
  induction clean generalizing ordinal with
  | nil => rfl
  | cons first rest ih =>
      cases rest with
      | nil =>
          show [closeRow _ _ _ _] = _
          unfold closeRow
          rw [if_pos (by show (ordinal : Int) = _; simp)]
          rfl
      | cons next rest =>
          have hRest := ih (ordinal + 1)
          have hLast : ordinal + (first :: next :: rest).length - 1 =
              ordinal + 1 + (next :: rest).length - 1 := by
            simp only [List.length_cons]
            omega
          rw [anchorRows, anchorRows, List.map_cons, hLast, hRest]
          congr 1
          unfold closeRow
          rw [if_neg]
          show ¬ (ordinal : Int) = _
          simp only [List.length_cons]
          omega

theorem anchorRows_length (endFrame : Option Nat) (endTimestamp : Option MediaTimestamp)
    (ordinal : Nat) (clean : List FrameIndexEntry) :
    (anchorRows endFrame endTimestamp ordinal clean).length = clean.length := by
  induction clean generalizing ordinal with
  | nil => rfl
  | cons first rest ih =>
      cases rest with
      | nil => rfl
      | cons next rest =>
          rw [anchorRows, List.length_cons, ih, List.length_cons, List.length_cons, List.length_cons]

theorem anchorRows_consecutive (endFrame : Option Nat) (endTimestamp : Option MediaTimestamp)
    (ordinal : Nat) (clean : List FrameIndexEntry) :
    Consecutive (fun row : AnchorRow => row.ordinal) ordinal
      (anchorRows endFrame endTimestamp ordinal clean) := by
  induction clean generalizing ordinal with
  | nil => trivial
  | cons first rest ih =>
      cases rest with
      | nil => exact ⟨rfl, trivial⟩
      | cons next rest => exact ⟨rfl, ih (ordinal + 1)⟩

end Table

/-! ## The pass -/

/-- The cursor after some clean keyframes. -/
def cursorAfter (clean : List FrameIndexEntry) : AnchorCursor :=
  ⟨clean.length, if clean = [] then none else some ((clean.length - 1 : Nat) : Int)⟩

/-- The table and the cursor after some clean keyframes. -/
def Passed (clean : List FrameIndexEntry) (cursor : AnchorCursor) (rows : List AnchorRow) : Prop :=
  cursor = cursorAfter clean ∧ rows = anchorRows none none 0 clean

theorem tryI64_eq_ok {value : Nat} {message : String} {v : Int} :
    tryI64 value message = .ok v ↔ value < 2 ^ 63 ∧ v = value := by
  unfold tryI64
  split_ifs with hFits
  · rw [Except.ok.injEq, eq_comm, and_iff_right hFits]
  · exact iff_of_false (by simp) fun h => hFits h.1

theorem insertAnchor_wp {row : AnchorRow} {rows : List AnchorRow} :
    wp (insertAnchor row) (fun _ rows' => rows' = rows ++ [row]) (fun _ _ => True) rows := by
  unfold wp insertAnchor
  split_ifs <;> trivial

/-- Closing the interval before the next keyframe. -/
theorem closeIfAny_wp (clean : List FrameIndexEntry) (endFrame : Option Nat)
    (endTimestamp : Option MediaTimestamp) :
    wp (closeIfAny (countColumn endFrame) (encodeTimestamp endTimestamp)
        (cursorAfter clean).previousOrdinal)
      (fun _ rows => rows = anchorRows endFrame endTimestamp 0 clean) (fun _ _ => True)
      (anchorRows none none 0 clean) := by
  unfold cursorAfter
  by_cases hNone : clean = []
  · rw [hNone]
    rfl
  · show wp (closeIfAny _ _ (if clean = [] then none else _)) _ _ _
    rw [if_neg hNone]
    show wp (closePrevious _ _ _ _) _ _ _
    have hClosed := closeRow_anchorRows none endFrame none endTimestamp 0 clean
    rw [Nat.zero_add] at hClosed
    unfold wp closePrevious
    dsimp only
    rw [hClosed]
    split_ifs <;> trivial

/-- One call of the visitor. -/
theorem visitAnchor_wp {clean : List FrameIndexEntry} {cursor : AnchorCursor}
    {rows : List AnchorRow} (h : Passed clean cursor rows) (e : FrameIndexEntry) :
    wp (visitAnchor cursor e) (Passed (clean ++ [e].filter FrameIndexEntry.isClean))
      (fun _ _ => True) rows := by
  obtain ⟨rfl, rfl⟩ := h
  by_cases hClean : e.isClean = true
  · have hVisit : ¬(e.keyframe = false ∨ e.corrupt = true) := by
      simpa [FrameIndexEntry.isClean] using hClean
    rw [List.filter_cons_of_pos hClean, List.filter_nil]
    unfold visitAnchor
    rw [if_neg hVisit]
    simp only [wp_bind, wp_ofExcept, tryI64_eq_ok, okOr_eq_ok, checkedAddU64_eq_some]
    refine ⟨?_, fun _ _ => trivial⟩
    intro ordinal hOrdinal
    refine ⟨?_, fun _ _ => trivial⟩
    intro frame hFrame
    have hClose := closeIfAny_wp clean (some e.frameId) e.presentationTimestamp
    rw [show countColumn (some e.frameId) = some frame by rw [hFrame.2]; rfl] at hClose
    refine wp_mono hClose ?_ fun _ _ _ => trivial
    intro _ closed hClosed
    refine wp_mono insertAnchor_wp ?_ fun _ _ _ => trivial
    intro _ inserted hInserted
    refine ⟨?_, fun _ _ => trivial⟩
    intro next hNext
    constructor
    · show AnchorCursor.mk next (some ordinal) = cursorAfter (clean ++ [e])
      unfold cursorAfter
      rw [if_neg (by simp), List.length_append, hNext.2, hOrdinal.2]
      rfl
    · rw [hInserted, hClosed, anchorRows_concat, hOrdinal.2, hFrame.2, Nat.zero_add]
      rfl
  · have hSkip : e.keyframe = false ∨ e.corrupt = true := by
      rw [FrameIndexEntry.isClean, Bool.and_eq_true, not_and_or] at hClean
      simpa using hClean
    rw [List.filter_cons_of_neg hClean, List.filter_nil, List.append_nil]
    unfold visitAnchor
    rw [if_pos hSkip]
    exact ⟨rfl, rfl⟩

/-- The loop of `visit_range` over some rows of the index. -/
theorem visitRows_wp {index : FrameIndex} {tableRows : List FrameRow}
    {clean : List FrameIndexEntry} {cursor : AnchorCursor} {rows : List AnchorRow}
    (h : Passed clean cursor rows) :
    wp (tableRows.foldlM (fun cursor row => do
        let entry ← ofExcept id (index.loadEntry row)
        visitAnchor cursor entry) cursor)
      (fun cursor' rows' => ∃ entries, tableRows.mapM index.loadEntry = .ok entries ∧
        Passed (clean ++ entries.filter FrameIndexEntry.isClean) cursor' rows')
      (fun _ _ => True) rows := by
  induction tableRows generalizing clean cursor rows with
  | nil => exact ⟨[], rfl, by rwa [List.filter_nil, List.append_nil]⟩
  | cons row rest ih =>
      rw [List.foldlM_cons]
      simp only [wp_bind, wp_ofExcept]
      refine ⟨?_, fun _ _ => trivial⟩
      intro entry hEntry
      refine wp_mono (visitAnchor_wp h entry) ?_ fun _ _ _ => trivial
      intro cursor' rows' hPassed
      refine wp_mono (ih hPassed) ?_ fun _ _ _ => trivial
      rintro cursor'' rows'' ⟨entries, hEntries, hAll⟩
      refine ⟨entry :: entries, ?_, ?_⟩
      · rw [List.mapM_cons, hEntry, ok_bind, hEntries]
        rfl
      · rwa [List.append_assoc, ← List.filter_append, List.singleton_append] at hAll

/-- The whole pass over the indexed prefix. -/
theorem visitRange_wp {index : FrameIndex} {n : Nat} :
    wp (visitRange index 0 n visitAnchor ⟨0, none⟩)
      (fun cursor rows => ∃ entries, index.visitRange 0 n = .ok entries ∧
        Passed (entries.filter FrameIndexEntry.isClean) cursor rows)
      (fun _ _ => True) [] := by
  have hNothing : Passed [] ⟨0, none⟩ [] := ⟨rfl, rfl⟩
  unfold visitRange FrameIndex.visitRange
  rw [if_neg (Nat.not_lt_zero n), if_neg (Nat.not_lt_zero n)]
  simp only [wp_bind, wp_ofExcept]
  refine ⟨?_, fun _ _ => trivial⟩
  intro first hFirst
  refine ⟨?_, fun _ _ => trivial⟩
  intro last hLast
  refine wp_mono (visitRows_wp hNothing) ?_ fun _ _ _ => trivial
  rintro cursor rows ⟨entries, hEntries, hPassed⟩
  refine ⟨entries, ?_, hPassed⟩
  rw [hFirst, ok_bind, hLast, ok_bind, hEntries]

/-- Where the last interval of a snapshot ends. -/
def finalEnd (status : FrameIndexStatus) : Option Nat :=
  if status.lifecycle = .complete then status.frameCount else none

theorem closeLast_wp {status : FrameIndexStatus} {clean : List FrameIndexEntry} :
    wp (closeLast status (cursorAfter clean).previousOrdinal)
      (fun _ rows => rows = anchorRows (finalEnd status) none 0 clean) (fun _ _ => True)
      (anchorRows none none 0 clean) := by
  unfold closeLast finalEnd cursorAfter
  by_cases hComplete : status.lifecycle = .complete
  · rw [if_pos hComplete, if_pos hComplete]
    dsimp only
    by_cases hNone : clean = []
    · rw [hNone]
      rfl
    · rw [if_neg hNone]
      cases hCount : status.frameCount with
      | none => rfl
      | some count =>
          show wp (_ >>= fun count => closePrevious _ (some count) _ _) _ _ _
          rw [wp_bind, wp_ofExcept]
          refine ⟨?_, fun _ _ => trivial⟩
          intro column hColumn
          split_ifs at hColumn
          have hClosed := closeRow_anchorRows none (some count) none none 0 clean
          rw [Nat.zero_add, show countColumn (some count) = some column from
            congrArg some (Except.ok.inj hColumn)] at hClosed
          unfold wp closePrevious
          dsimp only
          rw [show TimestampColumns.mk none none none = encodeTimestamp none from rfl, hClosed]
          split_ifs <;> trivial
  · rw [if_neg hComplete, if_neg hComplete]
    rfl

/-- What a snapshot leaves in the anchor table, and how many anchors it reports. -/
theorem rebuildAnchors_wp {index : FrameIndex} {status : FrameIndexStatus}
    {rows : List AnchorRow} :
    wp (rebuildAnchors index status)
      (fun anchorCount rows' => ∃ entries,
        index.visitRange 0 status.indexedFrames = .ok entries ∧
        rows' = anchorRows (finalEnd status) none 0 (entries.filter FrameIndexEntry.isClean) ∧
        anchorCount = (entries.filter FrameIndexEntry.isClean).length)
      (fun _ _ => True) rows := by
  unfold rebuildAnchors
  simp only [wp_bind, wp_set, wp_adaptExcept]
  refine wp_mono visitRange_wp ?_ fun _ _ _ => trivial
  rintro cursor visited ⟨entries, hEntries, hCursor, hRows⟩
  rw [hCursor, hRows]
  refine wp_mono closeLast_wp ?_ fun _ _ _ => trivial
  intro _ closed hClosed
  exact ⟨entries, hEntries, hClosed, rfl⟩

/-- The table that a snapshot starts from does not matter. -/
theorem rebuildAnchors_start (index : FrameIndex) (status : FrameIndexStatus)
    (rows rows' : List AnchorRow) :
    rebuildAnchors index status rows = rebuildAnchors index status rows' := rfl

end FrameScope.Ports.ProgressiveAnchors
