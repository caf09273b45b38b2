import FrameScope.Verified.Runs
import FrameScope.Ports.FrameIndexInvariant
import FrameScope.Ports.ProgressiveAnchors

/-!
# Snapshots of the authoritative index

After a snapshot the catalog lists the clean keyframes of the index, each with
the interval up to the next one, and the last interval is closed in a complete
index only (`SnapshotOf`).  A snapshot is a function of the index, so taking it
again changes nothing, and an operation that fails leaves the catalog alone.
Every operation keeps what `validate_catalog` asks for, so reopening the catalog
with a reuse-safe authority of the same source and stream keeps it.
-/

namespace FrameScope.Ports.ProgressiveLaw

open FrameScope.Verified.Fallible
open FrameScope.Verified.KeyedTable
open FrameScope.Verified.Runs
open FrameScope.Ports.Core
open FrameScope.Ports.FrameIndexModel
open FrameScope.Ports.SourceBinding
open FrameScope.Ports.FrameIndexStore (FrameIndex FrameRow)
open FrameScope.Ports.FrameTimeline
open FrameScope.Ports.FrameIndexState
open FrameScope.Ports.Progressive
open FrameScope.Ports.ProgressiveAnchors

/-! ## The anchors of some keyframes -/

/-- The anchor of a clean keyframe whose interval ends as given. -/
def gopAnchor (ordinal : Nat) (e : FrameIndexEntry) (endFrame : Option Nat)
    (endTimestamp : Option MediaTimestamp) : StructuralAnchor where
  ordinal := ordinal
  kind := .decodedCleanKeyframe
  frameId := some e.frameId
  presentationTimestamp := e.presentationTimestamp
  gopEndFrameExclusive := endFrame
  gopEndTimestamp := endTimestamp
  packetIndex := none
  byteOffset := none
  packetPts := none
  packetDts := none

/-- The anchors of clean keyframes, numbered from `ordinal`. -/
def gopAnchors (endFrame : Option Nat) : Nat → List FrameIndexEntry → List StructuralAnchor
  | _, [] => []
  | ordinal, [e] => [gopAnchor ordinal e endFrame none]
  | ordinal, e :: next :: rest =>
      gopAnchor ordinal e (some next.frameId) next.presentationTimestamp ::
        gopAnchors endFrame (ordinal + 1) (next :: rest)

/-- The anchors of a snapshot: the clean keyframes in frame order, chained
intervals, and a last interval that is closed at the frame count of a complete
index and open in any other. -/
structure SnapshotOf (status : FrameIndexStatus) (entries : List FrameIndexEntry)
    (anchors : List StructuralAnchor) : Prop where
  frames : anchors.map (·.frameId) =
    (entries.filter FrameIndexEntry.isClean).map (some ·.frameId)
  timestamps : anchors.map (·.presentationTimestamp) =
    (entries.filter FrameIndexEntry.isClean).map (·.presentationTimestamp)
  ascending : (entries.map (·.frameId)).Pairwise (· < ·)
  within : ∀ e ∈ entries, e.frameId < status.indexedFrames
  chained : ∀ (i : Nat) a b, anchors[i]? = some a → anchors[i + 1]? = some b →
    a.gopEndFrameExclusive = b.frameId ∧ a.gopEndTimestamp = b.presentationTimestamp
  last : ∀ a, anchors.getLast? = some a → a.gopEndFrameExclusive =
    if status.lifecycle = .complete then some status.indexedFrames else none
  counted : status.lifecycle = .complete → status.frameCount = some status.indexedFrames

section Anchors

variable {endFrame : Option Nat} {ordinal : Nat} {clean : List FrameIndexEntry}

theorem gopAnchors_frames (endFrame : Option Nat) (ordinal : Nat) (clean : List FrameIndexEntry) :
    (gopAnchors endFrame ordinal clean).map (·.frameId) = clean.map (some ·.frameId) := by
  induction clean generalizing ordinal with
  | nil => rfl
  | cons e rest ih =>
      cases rest with
      | nil => rfl
      | cons next rest =>
          rw [gopAnchors, List.map_cons, ih]
          rfl

theorem gopAnchors_timestamps (endFrame : Option Nat) (ordinal : Nat)
    (clean : List FrameIndexEntry) :
    (gopAnchors endFrame ordinal clean).map (·.presentationTimestamp) =
      clean.map (·.presentationTimestamp) := by
  induction clean generalizing ordinal with
  | nil => rfl
  | cons e rest ih =>
      cases rest with
      | nil => rfl
      | cons next rest =>
          rw [gopAnchors, List.map_cons, ih]
          rfl

/-- The first anchor is the one of the first keyframe. -/
theorem gopAnchors_head {e : FrameIndexEntry} {rest : List FrameIndexEntry} {a : StructuralAnchor}
    (h : (gopAnchors endFrame ordinal (e :: rest))[0]? = some a) :
    a.frameId = some e.frameId ∧ a.presentationTimestamp = e.presentationTimestamp := by
  cases rest with
  | nil =>
      cases h
      exact ⟨rfl, rfl⟩
  | cons next rest =>
      cases h
      exact ⟨rfl, rfl⟩

theorem gopAnchors_chained {i : Nat} {a b : StructuralAnchor}
    (ha : (gopAnchors endFrame ordinal clean)[i]? = some a)
    (hb : (gopAnchors endFrame ordinal clean)[i + 1]? = some b) :
    a.gopEndFrameExclusive = b.frameId ∧ a.gopEndTimestamp = b.presentationTimestamp := by
  induction clean generalizing ordinal i with
  | nil => cases hb
  | cons e rest ih =>
      cases rest with
      | nil => cases hb
      | cons next rest =>
          rw [gopAnchors] at ha hb
          cases i with
          | zero =>
              rw [List.getElem?_cons_zero, Option.some.injEq] at ha
              rw [List.getElem?_cons_succ] at hb
              obtain ⟨hFrame, hTimestamp⟩ := gopAnchors_head hb
              rw [← ha, hFrame, hTimestamp]
              exact ⟨rfl, rfl⟩
          | succ i =>
              rw [List.getElem?_cons_succ] at ha hb
              exact ih ha hb

theorem gopAnchors_last {a : StructuralAnchor}
    (h : (gopAnchors endFrame ordinal clean).getLast? = some a) :
    a.gopEndFrameExclusive = endFrame := by
  induction clean generalizing ordinal with
  | nil => cases h
  | cons e rest ih =>
      cases rest with
      | nil =>
          cases h
          rfl
      | cons next rest =>
          have hRest : gopAnchors endFrame (ordinal + 1) (next :: rest) ≠ [] := by
            cases rest with
            | nil => exact List.cons_ne_nil _ _
            | cons => exact List.cons_ne_nil _ _
          rw [gopAnchors, List.getLast?_cons_of_ne_nil hRest] at h
          exact ih h

/-- The columns of an anchor. -/
def encodeAnchor (anchor : StructuralAnchor) : AnchorRow where
  ordinal := anchor.ordinal
  kind := anchor.kind.asI64
  frameIndex := countColumn anchor.frameId
  presentation := encodeTimestamp anchor.presentationTimestamp
  gopEndFrameExclusive := countColumn anchor.gopEndFrameExclusive
  gopEnd := encodeTimestamp anchor.gopEndTimestamp
  packetIndex := countColumn anchor.packetIndex
  byteOffset := countColumn anchor.byteOffset
  packetPts := encodeTimestamp anchor.packetPts
  packetDts := encodeTimestamp anchor.packetDts

theorem decode_encodeAnchor (anchor : StructuralAnchor) :
    (encodeAnchor anchor).get = .ok (encodeAnchor anchor) ∧
      decodeStructuralAnchor (encodeAnchor anchor) = .ok anchor := by
  have hKind : StructuralAnchorKind.fromI64 anchor.kind.asI64 = .ok anchor.kind := by
    cases anchor.kind with
    | decodedCleanKeyframe => rfl
    | packetSyncPoint => rfl
  constructor
  · unfold AnchorRow.get encodeAnchor
    simp only [encodeTimestamp_get, ok_bind]
  · unfold decodeStructuralAnchor encodeAnchor
    simp only [toU64_natCast, transposeMap_toU64, decodeTimestamp_encodeTimestamp, hKind, ok_bind]

theorem anchorRows_eq_map (endFrame : Option Nat) (ordinal : Nat) (clean : List FrameIndexEntry) :
    anchorRows endFrame none ordinal clean =
      (gopAnchors endFrame ordinal clean).map encodeAnchor := by
  induction clean generalizing ordinal with
  | nil => rfl
  | cons e rest ih =>
      cases rest with
      | nil => rfl
      | cons next rest =>
          rw [anchorRows, gopAnchors, List.map_cons, ← ih]
          rfl

/-- A table of anchors is read back by ordinal. -/
theorem structuralAnchor_anchorRows {catalog : Catalog}
    (h : catalog.anchors = anchorRows endFrame none 0 clean) {i : Nat} (hi : i < 2 ^ 63) :
    catalog.structuralAnchor i = .ok (gopAnchors endFrame 0 clean)[i]? := by
  have hFind := (anchorRows_consecutive endFrame none 0 clean).find? i
  unfold Catalog.structuralAnchor
  rw [toI64_eq_ok.2 ⟨hi, rfl⟩, ok_bind, h, hFind, anchorRows_eq_map, List.getElem?_map]
  cases (gopAnchors endFrame 0 clean)[i]? with
  | none => rfl
  | some anchor =>
      obtain ⟨hGet, hDecode⟩ := decode_encodeAnchor anchor
      show ((encodeAnchor anchor).get >>= fun row => decodeStructuralAnchor row >>= fun anchor =>
        .ok (some anchor)) = _
      rw [hGet, ok_bind, hDecode, ok_bind]

end Anchors

/-! ## The rows of the index -/

/-- An authoritative index; its frame table is listed by primary key. -/
structure AuthoritativeIndex where
  index : FrameIndex
  ordered : (index.connection.frameIndex.map (·.frameIndex)).Pairwise (· < ·)

theorem mapM_loadEntry_frameIds {index : FrameIndex} {rows : List FrameRow}
    {entries : List FrameIndexEntry} (h : rows.mapM index.loadEntry = .ok entries) :
    entries.map (fun e => (e.frameId : Int)) = rows.map (·.frameIndex) := by
  induction rows generalizing entries with
  | nil =>
      cases h
      rfl
  | cons row rest ih =>
      rw [List.mapM_cons] at h
      obtain ⟨e, hHead, hTail⟩ := bind_eq_ok.1 h
      obtain ⟨more, hMore, hEntries⟩ := bind_eq_ok.1 hTail
      rw [← Except.ok.inj hEntries, List.map_cons, List.map_cons, (loadEntry_ok hHead).1, ih hMore]

/-- The entries of the indexed prefix come in frame order. -/
theorem visitRange_ordered {authority : AuthoritativeIndex} {n : Nat}
    {entries : List FrameIndexEntry} (h : authority.index.visitRange 0 n = .ok entries) :
    (entries.map (·.frameId)).Pairwise (· < ·) ∧ ∀ e ∈ entries, e.frameId < n := by
  unfold FrameIndex.visitRange at h
  rw [if_neg (Nat.not_lt_zero n)] at h
  obtain ⟨first, hFirst, hRest⟩ := bind_eq_ok.1 h
  obtain ⟨last, hLast, hRows⟩ := bind_eq_ok.1 hRest
  obtain ⟨-, rfl⟩ := FrameIndexStore.toSqlU64_eq_ok.1 hFirst
  obtain ⟨-, rfl⟩ := FrameIndexStore.toSqlU64_eq_ok.1 hLast
  have hIds := mapM_loadEntry_frameIds hRows
  constructor
  · have hOrdered : (entries.map fun e => (e.frameId : Int)).Pairwise (· < ·) := by
      rw [hIds]
      exact authority.ordered.sublist (List.filter_sublist.map _)
    rw [List.pairwise_map] at hOrdered ⊢
    exact hOrdered.imp Int.ofNat_lt.1
  · intro e he
    have hMem : (e.frameId : Int) ∈ entries.map fun e => (e.frameId : Int) :=
      List.mem_map_of_mem he
    rw [hIds] at hMem
    obtain ⟨row, hRow, hEq⟩ := List.mem_map.1 hMem
    have hRange := (List.mem_filter.1 hRow).2
    rw [decide_eq_true_iff] at hRange
    omega

theorem entry_ok {index : FrameIndex} {id : Nat} {e : FrameIndexEntry}
    (h : index.entry id = .ok (some e)) : ValidFor index.streamIdentity e := by
  obtain ⟨key, _, hFind⟩ := bind_eq_ok.1 h
  split at hFind
  · cases hFind
  · rename_i row _
    cases hLoad : index.loadEntry row with
    | error error =>
        rw [hLoad] at hFind
        cases hFind
    | ok entry =>
        rw [hLoad] at hFind
        cases hFind
        exact (loadEntry_ok hLoad).2

/-- The last timestamp of a status is one of the stream. -/
theorem status_timeBase [ContentHash] {index : FrameIndex} {status : FrameIndexStatus}
    (h : index.status = .ok status) :
    ∀ t ∈ status.lastPresentationTimestamp, t.timeBase = index.streamIdentity.timeBase := by
  obtain ⟨row, _, hRest⟩ := bind_eq_ok.1 h
  dsimp only at hRest
  intro t ht
  by_cases hEmpty : row.indexedFrames = 0
  · rw [if_pos hEmpty, ok_bind] at hRest
    rw [← Except.ok.inj hRest] at ht
    cases ht
  · rw [if_neg hEmpty] at hRest
    obtain ⟨last, hLast, hStatus⟩ := bind_eq_ok.1 hRest
    rw [← Except.ok.inj hStatus] at ht
    cases last with
    | none => cases ht
    | some e => exact ((entry_ok hLast).timestamp t ht).1

/-! ## Layer rows -/

section Layers

variable {status : ProgressiveLayerStatus} {rows rows' : List LayerRow} {row : LayerRow}
  {catalog : Catalog} {stream : FrameIndexStreamIdentity} {source : SourceIdentity}

/-- What `write_layer_status` asks of a status. -/
def Writable (status : ProgressiveLayerStatus) : Prop :=
  status.generation ≠ 0 ∧
    (status.lifecycle = .complete → status.totalUnits = some status.completedUnits)

theorem writeLayerStatus_ok_iff : writeLayerStatus status rows = .ok () rows' ↔
    Writable status ∧ ∃ row, layerRow status = .ok row ∧
      (row.Checks ∨ ∀ old ∈ rows, old.layer ≠ row.layer) ∧ rows' = rows.map row.put := by
  unfold writeLayerStatus Writable
  simp only [bind_ok_iff, ofExcept_ok_iff, ensure_eq_ok]
  constructor
  · rintro ⟨_, _, ⟨hGeneration, h1⟩, _, _, ⟨hTotals, h2⟩, row, _, ⟨hRow, h3⟩, hUpdate⟩
    subst h1 h2 h3
    unfold updateLayer at hUpdate
    split_ifs at hUpdate with hChecks
    cases hUpdate
    exact ⟨⟨hGeneration, hTotals⟩, row, hRow, hChecks, rfl⟩
  · rintro ⟨⟨hGeneration, hTotals⟩, row, hRow, hChecks, hRows⟩
    refine ⟨(), rows, ⟨hGeneration, rfl⟩, (), rows, ⟨hTotals, rfl⟩, row, rows, ⟨hRow, rfl⟩, ?_⟩
    unfold updateLayer
    rw [if_pos hChecks, hRows]

/-- The columns that a status is written to. -/
theorem layerRow_ok (h : layerRow status = .ok row) : row =
    { layer := status.layer.asI64
      lifecycle := status.lifecycle.asI64
      generation := status.generation.toNat
      completedUnits := status.completedUnits
      totalUnits := countColumn status.totalUnits
      coveredFramePrefix := countColumn status.coveredFramePrefix
      covered := encodeTimestamp status.coveredThroughTimestamp
      lastError := status.lastError } := by
  obtain ⟨completed, hCompleted, hRest⟩ := bind_eq_ok.1 h
  obtain ⟨total, hTotal, hRest⟩ := bind_eq_ok.1 hRest
  obtain ⟨covered, hCovered, hRow⟩ := bind_eq_ok.1 hRest
  rw [← Except.ok.inj hRow, (toI64_eq_ok.1 hCompleted).2, transposeMap_toI64_eq_ok hTotal,
    transposeMap_toI64_eq_ok hCovered]

@[simp] theorem put_layer (row old : LayerRow) : (row.put old).layer = old.layer := by
  unfold LayerRow.put
  split_ifs with hSame
  · exact hSame.symm
  · rfl

/-- Putting a row where it already is changes nothing. -/
theorem map_put_eq_self (h : ∀ old ∈ rows, old.layer = row.layer → old = row) :
    rows.map row.put = rows := by
  have hEach : rows.map row.put = rows.map id := by
    apply List.map_congr_left
    intro old hOld
    unfold LayerRow.put
    split_ifs with hSame
    · exact (h old hOld hSame).symm
    · rfl
  rw [hEach, List.map_id]

/-- A status that was written can be written again, and nothing changes. -/
theorem writeLayerStatus_again {later : List LayerRow}
    (h : writeLayerStatus status rows = .ok () rows')
    (hLayers : later.map (·.layer) = rows.map (·.layer))
    (hPut : ∀ r, layerRow status = .ok r → ∀ old ∈ later, old.layer = r.layer → old = r) :
    writeLayerStatus status later = .ok () later := by
  obtain ⟨hWritable, r, hRow, hChecks, -⟩ := writeLayerStatus_ok_iff.1 h
  refine writeLayerStatus_ok_iff.2 ⟨hWritable, r, hRow, ?_, (map_put_eq_self (hPut r hRow)).symm⟩
  refine hChecks.imp_right fun hNone old hOld hSame => ?_
  have hMem : r.layer ∈ later.map (·.layer) := hSame ▸ List.mem_map_of_mem hOld
  rw [hLayers] at hMem
  obtain ⟨x, hx, hEq⟩ := List.mem_map.1 hMem
  exact hNone x hx hEq

theorem find?_map_put (k : Int) :
    (rows.map row.put).find? (fun r => decide (r.layer = k)) =
      (rows.find? fun r => decide (r.layer = k)).map row.put := by
  rw [List.find?_map]
  congr 2
  funext old
  simp

theorem layer_asI64_inj {a b : ProgressiveIndexLayer} (h : a.asI64 = b.asI64) : a = b := by
  cases a <;> cases b <;> first | rfl | exact absurd h (by decide)

/-- A status that was written is read back. -/
theorem layerStatus_put_self {old : ProgressiveLayerStatus}
    (hOld : catalog.layerStatus status.layer = .ok old) (hRow : layerRow status = .ok row) :
    { catalog with layers := catalog.layers.map row.put }.layerStatus status.layer =
      .ok status := by
  obtain ⟨found, hFound, _⟩ := bind_eq_ok.1 hOld
  rw [okOr_eq_ok] at hFound
  have hKey : found.layer = row.layer := by
    rw [layerRow_ok hRow]
    simpa using List.find?_some hFound
  have hPut : row.put found = row := if_pos hKey
  have hLayer : ProgressiveIndexLayer.fromI64 status.layer.asI64 = .ok status.layer := by
    cases status.layer <;> rfl
  have hLifecycle : ProgressiveLayerLifecycle.fromI64 status.lifecycle.asI64 =
      .ok status.lifecycle := by
    cases status.lifecycle <;> rfl
  unfold Catalog.layerStatus
  rw [find?_map_put, hFound, Option.map_some, hPut, layerRow_ok hRow]
  simp only [okOr, ok_bind, encodeTimestamp_get, hLayer, hLifecycle, toU32_toNat, toU64_natCast,
    transposeMap_toU64, decodeTimestamp_encodeTimestamp]

theorem layerStatus_put_other {layer : ProgressiveIndexLayer} (hOther : layer ≠ status.layer)
    (hRow : layerRow status = .ok row) :
    { catalog with layers := catalog.layers.map row.put }.layerStatus layer =
      catalog.layerStatus layer := by
  have hKey : ∀ found, catalog.layers.find? (fun r => decide (r.layer = layer.asI64)) =
      some found → row.put found = found := by
    intro found hFound
    apply if_neg
    intro hSame
    have hLayer : found.layer = layer.asI64 := by simpa using List.find?_some hFound
    rw [layerRow_ok hRow] at hSame
    exact hOther (layer_asI64_inj (hLayer.symm.trans hSame))
  unfold Catalog.layerStatus
  rw [find?_map_put]
  cases hFound : catalog.layers.find? fun r => decide (r.layer = layer.asI64) with
  | none => rfl
  | some found => rw [Option.map_some, hKey found hFound]

/-! ### Validity -/

/-- A status whose layer passes `validate_catalog`. -/
def ValidStatus (stream : FrameIndexStreamIdentity) (status : ProgressiveLayerStatus) : Prop :=
  (∀ t ∈ status.coveredThroughTimestamp, t.timeBase = stream.timeBase) ∧
    (status.lifecycle = .complete → status.totalUnits = some status.completedUnits)

theorem validateLayer_ok_iff {layer : ProgressiveIndexLayer} :
    validateLayer catalog stream layer = .ok () ↔
      ∃ status, catalog.layerStatus layer = .ok status ∧ ValidStatus stream status := by
  unfold validateLayer ensureStreamTimestamp ValidStatus
  simp only [bind_eq_ok, ensure_eq_ok, exists_and_left, exists_const]

/-- The parts of `validate_catalog`. -/
theorem validateCatalog_ok_iff :
    (ProgressiveFrameIndex.mk catalog source stream).validateCatalog = .ok () ↔
      (catalog.layers.filter
          fun row => row.layer = 1 ∨ row.layer = 2 ∨ row.layer = 3).length = 3 ∧
        ∀ layer, ∃ status, catalog.layerStatus layer = .ok status ∧ ValidStatus stream status := by
  unfold ProgressiveFrameIndex.validateCatalog
  simp only [bind_eq_ok, ensure_eq_ok, validateLayer_ok_iff, exists_and_left, exists_const]
  constructor
  · rintro ⟨hCount, _, hStructural, _, hVisual, hExact⟩
    rw [validateLayer_ok_iff] at hStructural hVisual
    refine ⟨hCount, ?_⟩
    intro layer
    cases layer with
    | structuralNavigation => exact hStructural
    | visualAcceleration => exact hVisual
    | authoritativeExact => exact hExact
  · rintro ⟨hCount, hLayers⟩
    exact ⟨hCount, (), validateLayer_ok_iff.2 (hLayers _), (), validateLayer_ok_iff.2 (hLayers _),
      hLayers _⟩

/-- Writing a valid status keeps a catalog valid. -/
theorem validateCatalog_put
    (h : (ProgressiveFrameIndex.mk catalog source stream).validateCatalog = .ok ())
    (hRow : layerRow status = .ok row) (hStatus : ValidStatus stream status) :
    (ProgressiveFrameIndex.mk { catalog with layers := catalog.layers.map row.put }
      source stream).validateCatalog = .ok () := by
  obtain ⟨hCount, hLayers⟩ := validateCatalog_ok_iff.1 h
  refine validateCatalog_ok_iff.2 ⟨?_, ?_⟩
  · rw [← hCount, List.filter_map, List.length_map]
    congr 2
    funext old
    simp
  · intro layer
    by_cases hSame : layer = status.layer
    · rw [hSame]
      obtain ⟨old, hOld, -⟩ := hLayers status.layer
      exact ⟨status, layerStatus_put_self hOld hRow, hStatus⟩
    · rw [layerStatus_put_other hSame hRow]
      exact hLayers layer

theorem writeLayerStatus_valid
    (h : (ProgressiveFrameIndex.mk catalog source stream).validateCatalog = .ok ())
    (hWrite : writeLayerStatus status catalog.layers = .ok () rows)
    (hTime : ∀ t ∈ status.coveredThroughTimestamp, t.timeBase = stream.timeBase) :
    (ProgressiveFrameIndex.mk { catalog with layers := rows } source stream).validateCatalog =
      .ok () := by
  obtain ⟨hWritable, row, hRow, -, rfl⟩ := writeLayerStatus_ok_iff.1 hWrite
  exact validateCatalog_put h hRow ⟨hTime, hWritable.2⟩

end Layers

/-! ## Synchronizing -/

section Synchronizing

variable [ContentHash] {self : ProgressiveFrameIndex} {index : FrameIndex}
  {catalog catalog' : Catalog}

/-- The steps of a snapshot that succeeds. -/
theorem synchronize_ok_iff :
    self.synchronizeAuthoritativeSnapshot index catalog = .ok () catalog' ↔
      self.ensureAuthorityBinding index = .ok () ∧ ∃ status, index.status = .ok status ∧
        ∃ count anchors, rebuildAnchors index status catalog.anchors = .ok count anchors ∧
        ∃ structural, writeLayerStatus (structuralStatus status count) catalog.layers =
            .ok () structural ∧
        ∃ exact, writeLayerStatus (exactStatus status) structural = .ok () exact ∧
          catalog' = { catalog with anchors, layers := exact } := by
  unfold ProgressiveFrameIndex.synchronizeAuthoritativeSnapshot onAnchors onLayers
  simp only [bind_ok_iff, ofExcept_ok_iff, transaction_ok_iff, zoom_ok_iff]
  constructor
  · intro ⟨_, _, ⟨hBound, h1⟩, status, _, ⟨hStatus, h2⟩, count, _, ⟨anchors, hAnchors, h3⟩,
      _, _, ⟨structural, hStructural, h4⟩, exact, hExact, h5⟩
    subst h1 h2 h3 h4
    exact ⟨hBound, status, hStatus, count, anchors, hAnchors, structural, hStructural, exact,
      hExact, h5⟩
  · intro ⟨hBound, status, hStatus, count, anchors, hAnchors, structural, hStructural, exact,
      hExact, h5⟩
    exact ⟨(), catalog, ⟨hBound, rfl⟩, status, catalog, ⟨hStatus, rfl⟩, count, _,
      ⟨anchors, hAnchors, rfl⟩, (), _, ⟨structural, hStructural, rfl⟩, exact, hExact, h5⟩

/-- The anchors of a catalog, read one by one, are a snapshot of an index. -/
def IsSnapshot (index : FrameIndex) (catalog : Catalog) : Prop :=
  ∃ status entries anchors, index.status = .ok status ∧
    index.visitRange 0 status.indexedFrames = .ok entries ∧
    catalog.structuralAnchorCount = .ok anchors.length ∧
    (∀ ordinal < 2 ^ 63, catalog.structuralAnchor ordinal = .ok anchors[ordinal]?) ∧
    SnapshotOf status entries anchors

theorem synchronize_isSnapshot {authority : AuthoritativeIndex}
    (h : self.synchronizeAuthoritativeSnapshot authority.index catalog = .ok () catalog') :
    IsSnapshot authority.index catalog' := by
  obtain ⟨-, status, hStatus, count, anchors, hAnchors, structural, hStructural, exact, hExact,
    rfl⟩ := synchronize_ok_iff.1 h
  obtain ⟨entries, hEntries, hRows, -⟩ := wp_ok rebuildAnchors_wp hAnchors
  obtain ⟨hAscending, hWithin⟩ := visitRange_ordered hEntries
  -- A complete exact layer has a frame count.
  have hCounted : status.lifecycle = .complete →
      status.frameCount = some status.indexedFrames := by
    intro hComplete
    have hWritable := (writeLayerStatus_ok_iff.1 hExact).1.2
    apply hWritable
    show ProgressiveLayerLifecycle.ofIndex status.lifecycle = .complete
    rw [hComplete]
    rfl
  refine ⟨status, entries, gopAnchors (finalEnd status) 0 (entries.filter FrameIndexEntry.isClean),
    hStatus, hEntries, ?_, ?_, ?_⟩
  · show toU64 (anchors.length : Int) _ = _
    rw [hRows, toU64_natCast, anchorRows_eq_map, List.length_map]
  · intro ordinal hOrdinal
    exact structuralAnchor_anchorRows hRows hOrdinal
  · refine ⟨gopAnchors_frames _ _ _, gopAnchors_timestamps _ _ _, hAscending, hWithin,
      fun _ _ _ => gopAnchors_chained, ?_, hCounted⟩
    intro a ha
    rw [gopAnchors_last ha]
    unfold finalEnd
    by_cases hComplete : status.lifecycle = .complete
    · rw [if_pos hComplete, if_pos hComplete, hCounted hComplete]
    · rw [if_neg hComplete, if_neg hComplete]

/-- Taking the same snapshot again changes nothing. -/
theorem synchronize_again
    (h : self.synchronizeAuthoritativeSnapshot index catalog = .ok () catalog') :
    self.synchronizeAuthoritativeSnapshot index catalog' = .ok () catalog' := by
  obtain ⟨hBound, status, hStatus, count, anchors, hAnchors, structural, hStructural, exact,
    hExact, rfl⟩ := synchronize_ok_iff.1 h
  obtain ⟨-, first, hFirst, -, rfl⟩ := writeLayerStatus_ok_iff.1 hStructural
  obtain ⟨-, second, hSecond, -, rfl⟩ := writeLayerStatus_ok_iff.1 hExact
  have hFirstLayer : first.layer = 1 := by
    rw [layerRow_ok hFirst]
    rfl
  have hSecondLayer : second.layer = 3 := by
    rw [layerRow_ok hSecond]
    rfl
  refine synchronize_ok_iff.2 ⟨hBound, status, hStatus, count, anchors, ?_, _,
    writeLayerStatus_again hStructural ?_ ?_, _, writeLayerStatus_again hExact ?_ ?_, rfl⟩
  · rw [← hAnchors]
    exact rebuildAnchors_start index status _ _
  · simp
  · intro r hr old hOld hLayer
    rw [hFirst] at hr
    cases hr
    obtain ⟨x, hx, rfl⟩ := List.mem_map.1 hOld
    obtain ⟨y, hy, rfl⟩ := List.mem_map.1 hx
    rw [put_layer, put_layer] at hLayer
    have hPut : first.put y = first := if_pos hLayer
    rw [hPut]
    exact if_neg (by rw [hFirstLayer, hSecondLayer]; decide)
  · simp
  · intro r hr old hOld hLayer
    rw [hSecond] at hr
    cases hr
    obtain ⟨x, hx, rfl⟩ := List.mem_map.1 hOld
    rw [put_layer] at hLayer
    exact if_pos hLayer

end Synchronizing

/-! ## Runs -/

/-- The mutating operations of an open catalog. -/
inductive CatalogOp where
  | synchronizeAuthoritativeSnapshot (authority : AuthoritativeIndex)
  | updateVisualLayerStatus (status : ProgressiveLayerStatus)
  | recordVisualArtifact (artifact : VisualArtifactMetadata)
  | updateSimilarityFingerprintStatus (status : SimilarityFingerprintStatus)

section Operations

variable [ContentHash] {self : ProgressiveFrameIndex} {source : SourceIdentity}
  {stream : FrameIndexStreamIdentity} {catalog catalog' : Catalog}

def CatalogOp.run (self : ProgressiveFrameIndex) :
    CatalogOp → EStateM ProgressiveIndexError Catalog Unit
  | .synchronizeAuthoritativeSnapshot authority =>
      self.synchronizeAuthoritativeSnapshot authority.index
  | .updateVisualLayerStatus status => self.updateVisualLayerStatus status
  | .recordVisualArtifact artifact => self.recordVisualArtifact artifact
  | .updateSimilarityFingerprintStatus status =>
      Progressive.updateSimilarityFingerprintStatus status

/-- A call on the open catalog. -/
def CatalogOp.step (self : ProgressiveFrameIndex) (op : CatalogOp) : ProgressiveFrameIndex :=
  { self with connection := finalState (op.run self self.connection) }

/-- An operation that fails leaves the catalog as it was. -/
theorem run_error (op : CatalogOp) {error : ProgressiveIndexError}
    (h : op.run self catalog = .error error catalog') : catalog' = catalog := by
  have hRestores : wp (op.run self) (fun _ _ => True) (fun _ c => c = catalog) catalog := by
    cases op with
    | synchronizeAuthoritativeSnapshot authority =>
        show wp (self.synchronizeAuthoritativeSnapshot authority.index) _ _ _
        unfold ProgressiveFrameIndex.synchronizeAuthoritativeSnapshot
        rw [wp_bind, wp_ofExcept]
        refine ⟨?_, fun _ _ => rfl⟩
        intro _ _
        rw [wp_bind, wp_ofExcept]
        exact ⟨fun _ _ => wp_transaction_restores _ _, fun _ _ => rfl⟩
    | updateVisualLayerStatus status =>
        show wp (self.updateVisualLayerStatus status) _ _ _
        unfold ProgressiveFrameIndex.updateVisualLayerStatus
        rw [wp_bind, wp_ofExcept]
        refine ⟨?_, fun _ _ => rfl⟩
        intro _ _
        rw [wp_bind, wp_ofExcept]
        refine ⟨?_, fun _ _ => rfl⟩
        intro _ _
        rw [wp_bind, wp_ofExcept]
        exact ⟨fun _ _ => wp_transaction_restores _ _, fun _ _ => rfl⟩
    | recordVisualArtifact artifact =>
        show wp (self.recordVisualArtifact artifact) _ _ _
        unfold ProgressiveFrameIndex.recordVisualArtifact
        rw [wp_bind, wp_ofExcept]
        refine ⟨?_, fun _ _ => rfl⟩
        intro _ _
        rw [wp_bind, wp_ofExcept]
        refine ⟨?_, fun _ _ => rfl⟩
        intro _ _
        rw [wp_bind, wp_ofExcept]
        refine ⟨?_, fun _ _ => rfl⟩
        intro _ _
        rw [wp_zoom]
        unfold wp upsertArtifact
        split_ifs <;> trivial
    | updateSimilarityFingerprintStatus status =>
        show wp (Progressive.updateSimilarityFingerprintStatus status) _ _ _
        unfold Progressive.updateSimilarityFingerprintStatus
        rw [wp_bind, wp_ofExcept]
        refine ⟨?_, fun _ _ => rfl⟩
        intro _ _
        rw [wp_bind, wp_ofExcept]
        exact ⟨fun _ _ => trivial, fun _ _ => rfl⟩
  have hLeft := wp_error hRestores h
  exact hLeft

/-- A catalog that is bound to its authority and passes `validate_catalog`. -/
structure Opened (index : ProgressiveFrameIndex) : Prop where
  version : index.connection.userVersion = progressiveIndexSchemaVersion
  bound : index.connection.progressiveMeta =
    some (freshMeta index.sourceIdentity index.streamIdentity)
  valid : index.validateCatalog = .ok ()

theorem synchronize_valid {index : FrameIndex}
    (h : (ProgressiveFrameIndex.mk catalog source stream).validateCatalog = .ok ())
    (hRun : (ProgressiveFrameIndex.mk catalog source stream).synchronizeAuthoritativeSnapshot index
      catalog = .ok () catalog') :
    (ProgressiveFrameIndex.mk catalog' source stream).validateCatalog = .ok () := by
  obtain ⟨hBound, status, hStatus, count, anchors, -, structural, hStructural, exact, hExact,
    rfl⟩ := synchronize_ok_iff.1 hRun
  have hTime := status_timeBase hStatus
  rw [(ensure_eq_ok.1 hBound).2] at hTime
  have hFirst := writeLayerStatus_valid h hStructural hTime
  exact writeLayerStatus_valid hFirst hExact hTime

omit [ContentHash] in
theorem updateVisual_ok {status : ProgressiveLayerStatus}
    (hRun : self.updateVisualLayerStatus status catalog = .ok () catalog') :
    (∀ t ∈ status.coveredThroughTimestamp, t.timeBase = self.streamIdentity.timeBase) ∧
      ∃ rows, writeLayerStatus status catalog.layers = .ok () rows ∧
        catalog' = { catalog with layers := rows } := by
  unfold ProgressiveFrameIndex.updateVisualLayerStatus onLayers at hRun
  simp only [bind_ok_iff, ofExcept_ok_iff, transaction_ok_iff, zoom_ok_iff] at hRun
  obtain ⟨_, _, ⟨-, h1⟩, _, _, ⟨-, h2⟩, _, _, ⟨hTime, h3⟩, rows, hWrite, h4⟩ := hRun
  subst h1 h2 h3
  exact ⟨ensure_eq_ok.1 hTime, rows, hWrite, h4⟩

omit [ContentHash] in
theorem recordArtifact_ok {artifact : VisualArtifactMetadata}
    (hRun : self.recordVisualArtifact artifact catalog = .ok () catalog') :
    ∃ artifacts, catalog' = { catalog with artifacts } := by
  unfold ProgressiveFrameIndex.recordVisualArtifact at hRun
  simp only [bind_ok_iff, ofExcept_ok_iff, zoom_ok_iff] at hRun
  obtain ⟨_, _, ⟨-, h1⟩, _, _, ⟨-, h2⟩, _, _, ⟨-, h3⟩, artifacts, -, h4⟩ := hRun
  subst h1 h2 h3
  exact ⟨artifacts, h4⟩

omit [ContentHash] in
theorem updateSimilarity_ok {status : SimilarityFingerprintStatus}
    (hRun : Progressive.updateSimilarityFingerprintStatus status catalog = .ok () catalog') :
    ∃ similarity, catalog' = { catalog with similarity } := by
  unfold Progressive.updateSimilarityFingerprintStatus at hRun
  simp only [bind_ok_iff, ofExcept_ok_iff] at hRun
  obtain ⟨_, _, ⟨-, h1⟩, covered, _, ⟨-, h2⟩, hModify⟩ := hRun
  subst h1 h2
  cases hModify
  exact ⟨_, rfl⟩

/-- Every operation keeps a catalog open. -/
theorem step_opened (self : ProgressiveFrameIndex) (op : CatalogOp) (h : Opened self) :
    Opened (op.step self) := by
  obtain ⟨connection, source, stream⟩ := self
  unfold CatalogOp.step
  cases hRun : op.run ⟨connection, source, stream⟩ connection with
  | error error left =>
      rw [run_error op hRun]
      exact h
  | ok u left =>
      cases op with
      | synchronizeAuthoritativeSnapshot authority =>
          refine ⟨?_, ?_, synchronize_valid h.valid hRun⟩
          · obtain ⟨-, _, -, _, _, -, _, -, _, -, rfl⟩ := synchronize_ok_iff.1 hRun
            exact h.version
          · obtain ⟨-, _, -, _, _, -, _, -, _, -, rfl⟩ := synchronize_ok_iff.1 hRun
            exact h.bound
      | updateVisualLayerStatus status =>
          obtain ⟨hTime, rows, hWrite, rfl⟩ := updateVisual_ok hRun
          exact ⟨h.version, h.bound, writeLayerStatus_valid h.valid hWrite hTime⟩
      | recordVisualArtifact artifact =>
          obtain ⟨artifacts, rfl⟩ := recordArtifact_ok hRun
          exact ⟨h.version, h.bound, h.valid⟩
      | updateSimilarityFingerprintStatus status =>
          obtain ⟨similarity, rfl⟩ := updateSimilarity_ok hRun
          exact ⟨h.version, h.bound, h.valid⟩

/-! ### Opening -/

omit [ContentHash] in
theorem migrate_ok {migrated : Catalog} (h : migrate catalog = .ok migrated) :
    migrated.userVersion = progressiveIndexSchemaVersion := by
  unfold migrate at h
  split_ifs at h with hCurrent
  · rw [← Except.ok.inj h]
    exact hCurrent
  · rw [← Except.ok.inj h]

/-- The row that `load_meta` finds holds the key of its source. -/
theorem loadMeta_ok {row : MetaColumns} (h : catalog.loadMeta = .ok (some row)) :
    catalog.progressiveMeta = some row ∧ row.sourceKey = ContentHash.stableKey row.sourceIdentity := by
  unfold Catalog.loadMeta at h
  cases hMeta : catalog.progressiveMeta with
  | none =>
      rw [hMeta] at h
      cases h
  | some found =>
      rw [hMeta] at h
      obtain ⟨_, hKey, hRest⟩ := bind_eq_ok.1 h
      obtain ⟨_, _, hRow⟩ := bind_eq_ok.1 hRest
      cases hRow
      exact ⟨rfl, ensure_eq_ok.1 hKey⟩

/-- However `try_open` binds a catalog, it is bound to the authority. -/
theorem rebind_bound {found : Option MetaColumns}
    {result : ProgressiveFrameIndex × ProgressiveIndexOpenDisposition}
    (hFound : self.connection.loadMeta = .ok found) (h : self.rebind found = .ok result) :
    result.1.connection.userVersion = self.connection.userVersion ∧
      result.1.sourceIdentity = self.sourceIdentity ∧
      result.1.streamIdentity = self.streamIdentity ∧
      result.1.connection.progressiveMeta =
        some (freshMeta self.sourceIdentity self.streamIdentity) := by
  unfold ProgressiveFrameIndex.rebind at h
  cases found with
  | none =>
      dsimp only at h
      cases hInit : self.initializeMeta with
      | error error =>
          rw [hInit] at h
          cases h
      | ok initialized =>
          rw [hInit] at h
          unfold ProgressiveFrameIndex.initializeMeta at hInit
          split_ifs at hInit
          rw [← Except.ok.inj h, ← Except.ok.inj hInit]
          exact ⟨rfl, rfl, rfl, rfl⟩
  | some row =>
      dsimp only at h
      split_ifs at h with hUnsafe hStale hIncompatible
      · rw [← Except.ok.inj h]
        exact ⟨rfl, rfl, rfl, rfl⟩
      · rw [← Except.ok.inj h]
        exact ⟨rfl, rfl, rfl, rfl⟩
      · rw [← Except.ok.inj h]
        exact ⟨rfl, rfl, rfl, rfl⟩
      · rw [← Except.ok.inj h]
        obtain ⟨hMeta, hKey⟩ := loadMeta_ok hFound
        rw [not_or, not_not, not_not] at hStale hIncompatible
        refine ⟨rfl, rfl, rfl, ?_⟩
        show self.connection.progressiveMeta = _
        obtain ⟨sourceKey, source, stream, schema, generation⟩ := row
        obtain ⟨rfl, rfl⟩ := hStale
        obtain ⟨rfl, rfl⟩ := hIncompatible
        rw [hMeta, show sourceKey = _ from hKey]
        rfl

theorem tryOpen_opened {authoritative : FrameIndex}
    {opened : ProgressiveFrameIndex × ProgressiveIndexOpenDisposition}
    (h : tryOpen catalog authoritative = .ok opened) :
    Opened opened.1 ∧ opened.1.sourceIdentity = authoritative.sourceIdentity ∧
      opened.1.streamIdentity = authoritative.streamIdentity := by
  obtain ⟨migrated, hMigrate, hLoad⟩ := bind_eq_ok.1 h
  obtain ⟨found, hFound, hBind⟩ := bind_eq_ok.1 hLoad
  obtain ⟨result, hResult, hValidate⟩ := bind_eq_ok.1 hBind
  obtain ⟨_, hValid, hOpened⟩ := bind_eq_ok.1 hValidate
  rw [← Except.ok.inj hOpened]
  obtain ⟨hVersion, hSource, hStream, hMeta⟩ := rebind_bound hFound hResult
  refine ⟨⟨hVersion.trans (migrate_ok hMigrate), ?_, hValid⟩, hSource, hStream⟩
  rw [hMeta, hSource, hStream]

/-- Whatever the file held, a catalog that was opened is bound and valid. -/
theorem openOrCreate_opened {file : Option Catalog} {authoritative : FrameIndex}
    {opened : ProgressiveFrameIndex × ProgressiveIndexOpenDisposition}
    (h : openOrCreate file authoritative = .ok opened) :
    Opened opened.1 ∧ opened.1.sourceIdentity = authoritative.sourceIdentity ∧
      opened.1.streamIdentity = authoritative.streamIdentity := by
  unfold openOrCreate at h
  cases hTry : tryOpen (file.getD .empty) authoritative with
  | ok first =>
      have hFirst := tryOpen_opened hTry
      rw [hTry] at h
      rw [← Except.ok.inj h]
      exact hFirst
  | error error =>
      rw [hTry] at h
      cases hDisposition : error.recreationDisposition with
      | none =>
          simp only [hDisposition] at h
          cases h
      | some disposition =>
          simp only [hDisposition] at h
          cases hAgain : tryOpen .empty authoritative with
          | error error =>
              rw [hAgain] at h
              cases h
          | ok second =>
              have hSecond := tryOpen_opened hAgain
              rw [hAgain] at h
              rw [← Except.ok.inj h]
              exact hSecond

/-- Reopening an open catalog with the same reuse-safe authority keeps it. -/
theorem openOrCreate_reused (h : Opened self) {authoritative : FrameIndex}
    (hSource : authoritative.sourceIdentity = self.sourceIdentity)
    (hStream : authoritative.streamIdentity = self.streamIdentity)
    (hReuse : self.sourceIdentity.isReuseSafe = true) :
    openOrCreate (some self.connection) authoritative = .ok (self, .reused) := by
  have hMigrate : migrate self.connection = .ok self.connection := if_pos h.version
  have hLoad : self.connection.loadMeta =
      .ok (some (freshMeta self.sourceIdentity self.streamIdentity)) := by
    unfold Catalog.loadMeta
    rw [h.bound]
    have hKey : (freshMeta self.sourceIdentity self.streamIdentity).sourceKey =
        ContentHash.stableKey self.sourceIdentity := rfl
    show (ensure ((freshMeta self.sourceIdentity self.streamIdentity).sourceKey =
      ContentHash.stableKey self.sourceIdentity) _ >>= fun _ => _) = _
    rw [ensure_true hKey]
    rfl
  have hBind : self.rebind (some (freshMeta self.sourceIdentity self.streamIdentity)) =
      .ok (self, .reused) := by
    unfold ProgressiveFrameIndex.rebind
    dsimp only
    rw [if_neg (by simp [hReuse]), if_neg (by simp [freshMeta]), if_neg (by simp [freshMeta])]
  have hTry : tryOpen self.connection authoritative = .ok (self, .reused) := by
    unfold tryOpen
    rw [hMigrate, ok_bind, hSource, hStream]
    show (self.connection.loadMeta >>= fun found => self.rebind found >>= fun opened =>
      opened.1.validateCatalog >>= fun _ => .ok opened) = _
    rw [hLoad, ok_bind, hBind, ok_bind, h.valid]
    rfl
  unfold openOrCreate
  rw [show (some self.connection).getD Catalog.empty = self.connection from rfl, hTry]
  rfl

/-- An open catalog of an authority. -/
def BoundTo (authoritative : FrameIndex) (index : ProgressiveFrameIndex) : Prop :=
  Opened index ∧ index.sourceIdentity = authoritative.sourceIdentity ∧
    index.streamIdentity = authoritative.streamIdentity

theorem step_boundTo {authoritative : FrameIndex} (index : ProgressiveFrameIndex) (op : CatalogOp)
    (h : BoundTo authoritative index) : BoundTo authoritative (op.step index) :=
  ⟨step_opened index op h.1, h.2⟩

/-- The laws of a catalog that was opened and operated on.  A snapshot that
succeeds makes the anchors those of the index, taking it again changes nothing, a
call that fails changes nothing, the catalog passes `validate_catalog`, and
reopening it with the same authority keeps it if the source is reuse-safe. -/
theorem progressive_snapshot_law {file : Option Catalog} {authoritative : FrameIndex}
    {opened : ProgressiveFrameIndex} {disposition : ProgressiveIndexOpenDisposition}
    (hOpen : openOrCreate file authoritative = .ok (opened, disposition)) (ops : List CatalogOp) :
    let index := ops.foldl CatalogOp.step opened
    (∀ (authority : AuthoritativeIndex) catalog,
      index.synchronizeAuthoritativeSnapshot authority.index index.connection = .ok () catalog →
        IsSnapshot authority.index catalog ∧
          index.synchronizeAuthoritativeSnapshot authority.index catalog = .ok () catalog) ∧
      (∀ (op : CatalogOp) error catalog, op.run index index.connection = .error error catalog →
        catalog = index.connection) ∧
      index.validateCatalog = .ok () ∧
      ∀ reopening : FrameIndex, reopening.sourceIdentity = authoritative.sourceIdentity →
        reopening.streamIdentity = authoritative.streamIdentity →
        authoritative.sourceIdentity.isReuseSafe = true →
        openOrCreate (some index.connection) reopening = .ok (index, .reused) := by
  have hInit : BoundTo authoritative opened := openOrCreate_opened hOpen
  intro index
  obtain ⟨hIndex, hIndexSource, hIndexStream⟩ := run_invariant_of_step step_boundTo hInit ops
  refine ⟨?_, ?_, hIndex.valid, ?_⟩
  · intro authority catalog hRun
    exact ⟨synchronize_isSnapshot hRun, synchronize_again hRun⟩
  · intro op error catalog hRun
    exact run_error op hRun
  · intro reopening hReSource hReStream hReuse
    exact openOrCreate_reused hIndex (hReSource.trans hIndexSource.symm)
      (hReStream.trans hIndexStream.symm) (by rw [hIndexSource]; exact hReuse)

end Operations

section Samples

local instance : ContentHash := constantHash

/-- A complete index of one clean keyframe. -/
def oneKeyframe (source : SourceIdentity) : AuthoritativeIndex where
  index := toIndex source sampleStream
    ⟨.complete, some 1, none, .unambiguous, [FrameIndexInvariant.sampleEntry]⟩
  ordered := List.pairwise_singleton _ _

theorem progressive_snapshot_law_oneKeyframe :
    ∃ opened, openOrCreate none (oneKeyframe sampleSource).index = .ok (opened, .created) ∧
      let index := CatalogOp.step opened
        (.synchronizeAuthoritativeSnapshot (oneKeyframe sampleSource))
      index.validateCatalog = .ok () ∧
        openOrCreate (some index.connection) (oneKeyframe sampleSource).index =
          .ok (index, .reused) := by
  have hOpen : openOrCreate none (oneKeyframe sampleSource).index =
      .ok (⟨⟨1, some (freshMeta sampleSource sampleStream), initialLayers, [], [],
        some initialSimilarity⟩, sampleSource, sampleStream⟩, .created) := by decide
  obtain ⟨-, -, hValid, hReopen⟩ := progressive_snapshot_law hOpen
    [.synchronizeAuthoritativeSnapshot (oneKeyframe sampleSource)]
  exact ⟨_, hOpen, hValid, hReopen _ rfl rfl (by decide)⟩

/-- A source whose content was not hashed. -/
def unverifiableSource : SourceIdentity := ⟨some 4096, some 0, none, none⟩

/-- Reopening a catalog of an unverifiable source discards the anchor that a
snapshot has just listed. -/
theorem reopening_discards_unverifiable :
    ((openOrCreate none (oneKeyframe unverifiableSource).index).toOption.map fun opened =>
      let index := CatalogOp.step opened.1
        (.synchronizeAuthoritativeSnapshot (oneKeyframe unverifiableSource))
      (index.connection.structuralAnchorCount,
        (openOrCreate (some index.connection) (oneKeyframe unverifiableSource).index).toOption.map
          fun reopened => (reopened.2, reopened.1.connection.structuralAnchorCount))) =
      some (.ok 1, some (.rebuiltUnverifiableAuthority, .ok 0)) := by
  decide

end Samples

end FrameScope.Ports.ProgressiveLaw
