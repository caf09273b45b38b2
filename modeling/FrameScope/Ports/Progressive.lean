import FrameScope.Verified.Fallible
import FrameScope.Ports.FrameIndexState

/-!
# The progressive index catalog

Port of `framescope-cache/src/index/progressive.rs`: a second database beside
the authoritative frame index.  It lists the clean keyframes as navigation
anchors with the GOP that each of them opens, it keeps one status row for each
of three layers, and it registers visual artifacts.

The tables are kept as columns, with their `CHECK` clauses; the JSON columns
hold the values they serialise.  A statement is a program on its table, and a
transaction gives back the tables it started from when its body fails.
-/

namespace FrameScope.Ports.Progressive

open FrameScope.Verified.Fallible
open FrameScope.Ports.Core
open FrameScope.Ports.FrameIndexModel
open FrameScope.Ports.SourceBinding
open FrameScope.Ports.FrameIndexStore (FrameIndex getI32)

/-- `PROGRESSIVE_INDEX_SCHEMA_VERSION`. -/
def progressiveIndexSchemaVersion : Int := 1

/-- `STRUCTURAL_INDEX_GENERATION`. -/
def structuralIndexGeneration : UInt32 := 1

/-- `VISUAL_INDEX_GENERATION`. -/
def visualIndexGeneration : UInt32 := 1

/-! ## Errors and enumerations -/

inductive ProgressiveIndexOpenDisposition where
  | created
  | reused
  | rebuiltStaleAuthority
  | rebuiltUnverifiableAuthority
  | rebuiltIncompatibleAuthority
  | recreatedUnsupportedSchema
  | recoveredCorruptState
  deriving DecidableEq, Repr

/-- `noRows` is the `QueryReturnedNoRows` of `query_row`. -/
inductive ProgressiveIndexError where
  | sqlite (error : SqliteError)
  | noRows
  | authority (error : FrameIndexError)
  | invalidState (detail : String)
  | unsupportedSchema (found : Int)
  deriving DecidableEq, Repr

/-- `recreation_disposition`. -/
def ProgressiveIndexError.recreationDisposition :
    ProgressiveIndexError → Option ProgressiveIndexOpenDisposition
  | .unsupportedSchema _ => some .recreatedUnsupportedSchema
  | .invalidState _ => some .recoveredCorruptState
  | .sqlite _ => none
  | .noRows => none
  | .authority _ => none

inductive ProgressiveIndexLayer where
  | structuralNavigation | visualAcceleration | authoritativeExact
  deriving DecidableEq, Repr

def ProgressiveIndexLayer.asI64 : ProgressiveIndexLayer → Int
  | .structuralNavigation => 1
  | .visualAcceleration => 2
  | .authoritativeExact => 3

def ProgressiveIndexLayer.fromI64 (value : Int) :
    Except ProgressiveIndexError ProgressiveIndexLayer :=
  if value = 1 then .ok .structuralNavigation
  else if value = 2 then .ok .visualAcceleration
  else if value = 3 then .ok .authoritativeExact
  else .error (.invalidState ("unknown progressive index layer " ++ toString value))

/-- The `Debug` text of a layer. -/
def ProgressiveIndexLayer.debugText : ProgressiveIndexLayer → String
  | .structuralNavigation => "StructuralNavigation"
  | .visualAcceleration => "VisualAcceleration"
  | .authoritativeExact => "AuthoritativeExact"

inductive ProgressiveLayerLifecycle where
  | notStarted | building | incomplete | complete | failedRecoverable
  deriving DecidableEq, Repr

def ProgressiveLayerLifecycle.asI64 : ProgressiveLayerLifecycle → Int
  | .notStarted => 0
  | .building => 1
  | .incomplete => 2
  | .complete => 3
  | .failedRecoverable => 4

def ProgressiveLayerLifecycle.fromI64 (value : Int) :
    Except ProgressiveIndexError ProgressiveLayerLifecycle :=
  if value = 0 then .ok .notStarted
  else if value = 1 then .ok .building
  else if value = 2 then .ok .incomplete
  else if value = 3 then .ok .complete
  else if value = 4 then .ok .failedRecoverable
  else .error (.invalidState ("unknown progressive layer lifecycle " ++ toString value))

/-- `From<FrameIndexLifecycle>`. -/
def ProgressiveLayerLifecycle.ofIndex : FrameIndexLifecycle → ProgressiveLayerLifecycle
  | .building => .building
  | .incomplete => .incomplete
  | .complete => .complete
  | .failedRecoverable => .failedRecoverable

inductive StructuralAnchorKind where
  | decodedCleanKeyframe | packetSyncPoint
  deriving DecidableEq, Repr

def StructuralAnchorKind.asI64 : StructuralAnchorKind → Int
  | .decodedCleanKeyframe => 1
  | .packetSyncPoint => 2

def StructuralAnchorKind.fromI64 (value : Int) :
    Except ProgressiveIndexError StructuralAnchorKind :=
  if value = 1 then .ok .decodedCleanKeyframe
  else if value = 2 then .ok .packetSyncPoint
  else .error (.invalidState ("unknown structural anchor kind " ++ toString value))

inductive VisualArtifactKind where
  | thumbnail | scrubPreview
  deriving DecidableEq, Repr

def VisualArtifactKind.asI64 : VisualArtifactKind → Int
  | .thumbnail => 1
  | .scrubPreview => 2

structure ProgressiveLayerStatus where
  layer : ProgressiveIndexLayer
  lifecycle : ProgressiveLayerLifecycle
  generation : UInt32
  completedUnits : Nat
  totalUnits : Option Nat
  coveredFramePrefix : Option Nat
  coveredThroughTimestamp : Option MediaTimestamp
  lastError : Option String
  deriving DecidableEq, Repr

structure StructuralAnchor where
  ordinal : Nat
  kind : StructuralAnchorKind
  frameId : Option Nat
  presentationTimestamp : Option MediaTimestamp
  gopEndFrameExclusive : Option Nat
  gopEndTimestamp : Option MediaTimestamp
  packetIndex : Option Nat
  byteOffset : Option Nat
  packetPts : Option MediaTimestamp
  packetDts : Option MediaTimestamp
  deriving DecidableEq, Repr

structure VisualArtifactMetadata where
  kind : VisualArtifactKind
  frameId : Option Nat
  presentationTimestamp : Option MediaTimestamp
  tier : UInt32
  generation : UInt32
  storageKey : String
  width : UInt32
  height : UInt32
  byteSize : Nat
  deriving DecidableEq, Repr

structure SimilarityFingerprintStatus where
  lifecycle : ProgressiveLayerLifecycle
  generation : UInt32
  coveredFrames : Nat
  lastError : Option String
  deriving DecidableEq, Repr

/-! ## Tables -/

/-- The three columns of an optional timestamp. -/
structure TimestampColumns where
  ticks : Option Int
  timeBaseNum : Option Int
  timeBaseDen : Option Int
  deriving DecidableEq, Repr

/-- The two `CHECK` clauses over such columns. -/
def TimestampColumns.Checks (columns : TimestampColumns) : Prop :=
  (columns.ticks.isNone = columns.timeBaseNum.isNone) ∧
    (columns.ticks.isNone = columns.timeBaseDen.isNone)

instance (columns : TimestampColumns) : Decidable columns.Checks :=
  inferInstanceAs (Decidable (_ ∧ _))

/-- `CHECK(column >= 0)` passes on `NULL`. -/
def NonNegative (column : Option Int) : Prop := ∀ x ∈ column, 0 ≤ x

instance (column : Option Int) : Decidable (NonNegative column) := by
  unfold NonNegative
  infer_instance

/-- A row of `progressive_meta`. -/
structure MetaColumns where
  sourceKey : String
  sourceIdentity : SourceIdentity
  streamIdentity : FrameIndexStreamIdentity
  authoritySchemaVersion : Int
  timelineContractGeneration : Int
  deriving DecidableEq, Repr

/-- A row of `layer_status`. -/
structure LayerRow where
  layer : Int
  lifecycle : Int
  generation : Int
  completedUnits : Int
  totalUnits : Option Int
  coveredFramePrefix : Option Int
  covered : TimestampColumns
  lastError : Option String
  deriving DecidableEq, Repr

def LayerRow.Checks (row : LayerRow) : Prop :=
  (1 ≤ row.layer ∧ row.layer ≤ 3) ∧ (0 ≤ row.lifecycle ∧ row.lifecycle ≤ 4) ∧
    0 < row.generation ∧ 0 ≤ row.completedUnits ∧ NonNegative row.totalUnits ∧
    NonNegative row.coveredFramePrefix ∧ row.covered.Checks

instance (row : LayerRow) : Decidable row.Checks := by
  unfold LayerRow.Checks
  infer_instance

/-- A row of `navigation_anchor`. -/
structure AnchorRow where
  ordinal : Int
  kind : Int
  frameIndex : Option Int
  presentation : TimestampColumns
  gopEndFrameExclusive : Option Int
  gopEnd : TimestampColumns
  packetIndex : Option Int
  byteOffset : Option Int
  packetPts : TimestampColumns
  packetDts : TimestampColumns
  deriving DecidableEq, Repr

def AnchorRow.Checks (row : AnchorRow) : Prop :=
  0 ≤ row.ordinal ∧ (row.kind = 1 ∨ row.kind = 2) ∧ NonNegative row.frameIndex ∧
    NonNegative row.gopEndFrameExclusive ∧ NonNegative row.packetIndex ∧
    NonNegative row.byteOffset ∧ row.presentation.Checks ∧ row.gopEnd.Checks ∧
    row.packetPts.Checks ∧ row.packetDts.Checks ∧
    (row.frameIndex.isSome ∨ row.packetIndex.isSome ∨ row.byteOffset.isSome)

instance (row : AnchorRow) : Decidable row.Checks := by
  unfold AnchorRow.Checks
  infer_instance

/-- A row of `visual_artifact`. -/
structure ArtifactRow where
  storageKey : String
  kind : Int
  frameIndex : Option Int
  presentation : TimestampColumns
  tier : Int
  generation : Int
  width : Int
  height : Int
  byteSize : Int
  deriving DecidableEq, Repr

def ArtifactRow.Checks (row : ArtifactRow) : Prop :=
  (row.kind = 1 ∨ row.kind = 2) ∧ NonNegative row.frameIndex ∧ 0 ≤ row.tier ∧
    0 < row.generation ∧ 0 < row.width ∧ 0 < row.height ∧ 0 ≤ row.byteSize ∧
    (row.frameIndex.isSome ∨ row.presentation.ticks.isSome) ∧ row.presentation.Checks

instance (row : ArtifactRow) : Decidable row.Checks := by
  unfold ArtifactRow.Checks
  infer_instance

/-- The row of `similarity_fingerprint_status`. -/
structure SimilarityRow where
  lifecycle : Int
  generation : Int
  coveredFrames : Int
  lastError : Option String
  deriving DecidableEq, Repr

def SimilarityRow.Checks (row : SimilarityRow) : Prop :=
  (0 ≤ row.lifecycle ∧ row.lifecycle ≤ 4) ∧ 0 < row.generation ∧ 0 ≤ row.coveredFrames

instance (row : SimilarityRow) : Decidable row.Checks :=
  inferInstanceAs (Decidable (_ ∧ _))

/-- A database file. -/
structure Catalog where
  userVersion : Int
  progressiveMeta : Option MetaColumns
  layers : List LayerRow
  anchors : List AnchorRow
  artifacts : List ArtifactRow
  similarity : Option SimilarityRow
  deriving DecidableEq, Repr

/-- What `Connection::open` finds at a path with no file. -/
def Catalog.empty : Catalog := ⟨0, none, [], [], [], none⟩

/-- An open catalog. -/
structure ProgressiveFrameIndex where
  connection : Catalog
  sourceIdentity : SourceIdentity
  streamIdentity : FrameIndexStreamIdentity
  deriving DecidableEq, Repr

/-! ## Conversions -/

/-- `to_i64`. -/
def toI64 (value : Nat) (label : String) : Except ProgressiveIndexError Int :=
  if value < 2 ^ 63 then .ok value
  else .error (.invalidState (label ++ " exceeds SQLite i64 range"))

/-- `to_u64`. -/
def toU64 (value : Int) (label : String) : Except ProgressiveIndexError Nat :=
  if 0 ≤ value then .ok value.toNat else .error (.invalidState (label ++ " is negative"))

/-- `to_u32`. -/
def toU32 (value : Int) (label : String) : Except ProgressiveIndexError UInt32 :=
  if 0 ≤ value ∧ value < 2 ^ 32 then .ok (UInt32.ofNat value.toNat)
  else .error (.invalidState (label ++ " is outside the supported u32 range"))

/-- `map(..).transpose()`. -/
def transposeMap {ε α β : Type} (f : α → Except ε β) : Option α → Except ε (Option β)
  | none => .ok none
  | some a => (f a).map some

/-- `encode_timestamp`. -/
def encodeTimestamp : Option MediaTimestamp → TimestampColumns
  | some value => ⟨some value.ticks, some value.timeBase.numerator, some value.timeBase.denominator⟩
  | none => ⟨none, none, none⟩

/-- `decode_timestamp`. -/
def decodeTimestamp (columns : TimestampColumns) :
    Except ProgressiveIndexError (Option MediaTimestamp) :=
  match columns.ticks, columns.timeBaseNum, columns.timeBaseDen with
  | none, none, none => .ok none
  | some ticks, some numerator, some denominator =>
      match TimeBase.new numerator denominator with
      | none => .error (.invalidState "stored timestamp time base is invalid")
      | some timeBase => .ok (some ⟨ticks, timeBase⟩)
  | _, _, _ => .error (.invalidState "stored timestamp fields are only partially populated")

/-- Reading the columns of a timestamp, the first of which is `column`. -/
def TimestampColumns.get (columns : TimestampColumns) (column : Nat) :
    Except ProgressiveIndexError TimestampColumns := do
  let timeBaseNum ← (getI32 (column + 1) columns.timeBaseNum).mapError .sqlite
  let timeBaseDen ← (getI32 (column + 2) columns.timeBaseDen).mapError .sqlite
  .ok ⟨columns.ticks, timeBaseNum, timeBaseDen⟩

/-! ## Reading -/

/-- `layer_status`. -/
def Catalog.layerStatus (catalog : Catalog) (layer : ProgressiveIndexLayer) :
    Except ProgressiveIndexError ProgressiveLayerStatus := do
  let row ← okOr (catalog.layers.find? (·.layer = layer.asI64)) .noRows
  let covered ← row.covered.get 6
  let layer ← ProgressiveIndexLayer.fromI64 row.layer
  let lifecycle ← ProgressiveLayerLifecycle.fromI64 row.lifecycle
  let generation ← toU32 row.generation "layer generation"
  let completedUnits ← toU64 row.completedUnits "completed units"
  let totalUnits ← transposeMap (toU64 · "total units") row.totalUnits
  let coveredFramePrefix ← transposeMap (toU64 · "covered frame prefix") row.coveredFramePrefix
  let coveredThroughTimestamp ← decodeTimestamp covered
  .ok { layer, lifecycle, generation, completedUnits, totalUnits, coveredFramePrefix,
        coveredThroughTimestamp, lastError := row.lastError }

/-- `decode_structural_anchor`. -/
def decodeStructuralAnchor (row : AnchorRow) : Except ProgressiveIndexError StructuralAnchor := do
  let ordinal ← toU64 row.ordinal "anchor ordinal"
  let kind ← StructuralAnchorKind.fromI64 row.kind
  let frameId ← transposeMap (toU64 · "anchor frame id") row.frameIndex
  let presentationTimestamp ← decodeTimestamp row.presentation
  let gopEndFrameExclusive ← transposeMap (toU64 · "GOP end frame") row.gopEndFrameExclusive
  let gopEndTimestamp ← decodeTimestamp row.gopEnd
  let packetIndex ← transposeMap (toU64 · "packet index") row.packetIndex
  let byteOffset ← transposeMap (toU64 · "byte offset") row.byteOffset
  let packetPts ← decodeTimestamp row.packetPts
  let packetDts ← decodeTimestamp row.packetDts
  .ok { ordinal, kind, frameId, presentationTimestamp, gopEndFrameExclusive, gopEndTimestamp,
        packetIndex, byteOffset, packetPts, packetDts }

/-- The typed columns of an anchor. -/
def AnchorRow.get (row : AnchorRow) : Except ProgressiveIndexError AnchorRow := do
  let presentation ← row.presentation.get 3
  let gopEnd ← row.gopEnd.get 7
  let packetPts ← row.packetPts.get 12
  let packetDts ← row.packetDts.get 15
  .ok { row with presentation, gopEnd, packetPts, packetDts }

/-- `structural_anchor`. -/
def Catalog.structuralAnchor (catalog : Catalog) (ordinal : Nat) :
    Except ProgressiveIndexError (Option StructuralAnchor) := do
  let ordinal ← toI64 ordinal "anchor ordinal"
  match catalog.anchors.find? (·.ordinal == ordinal) with
  | none => .ok none
  | some row => do
      let row ← row.get
      let anchor ← decodeStructuralAnchor row
      .ok (some anchor)

/-- `structural_anchor_count`. -/
def Catalog.structuralAnchorCount (catalog : Catalog) : Except ProgressiveIndexError Nat :=
  toU64 catalog.anchors.length "structural anchor count"

/-! ## The snapshot of the authoritative index -/

/-- `visit_range`, row by row. -/
def visitRange {σ α : Type} (index : FrameIndex) (start endExclusive : Nat)
    (visitor : α → FrameIndexEntry → EStateM FrameIndexError σ α) (acc : α) :
    EStateM FrameIndexError σ α :=
  if endExclusive < start then
    throw (.invalidState "frame-index range end precedes start")
  else do
    let first ← ofExcept id (FrameIndexStore.toSqlU64 start "frame id")
    let last ← ofExcept id (FrameIndexStore.toSqlU64 endExclusive "frame id")
    (index.connection.frameIndex.filter
      fun row => decide (first ≤ row.frameIndex ∧ row.frameIndex < last)).foldlM
        (fun acc row => do
          let entry ← ofExcept id (index.loadEntry row)
          visitor acc entry) acc

/-- `INSERT INTO navigation_anchor`. -/
def insertAnchor (row : AnchorRow) : EStateM FrameIndexError (List AnchorRow) Unit := fun rows =>
  if rows.any (·.ordinal = row.ordinal) then
    .error (.sqlite (.constraintViolation
      "UNIQUE constraint failed: navigation_anchor.anchor_ordinal")) rows
  else if row.frameIndex.isSome ∧ rows.any (·.frameIndex = row.frameIndex) then
    .error (.sqlite (.constraintViolation
      "UNIQUE constraint failed: navigation_anchor.frame_index")) rows
  else if row.Checks then .ok () (rows ++ [row])
  else .error (.sqlite (.constraintViolation "CHECK constraint failed: navigation_anchor")) rows

/-- The assignment of `close_previous`. -/
def closeRow (endFrame : Option Int) (endTimestamp : TimestampColumns) (ordinal : Int)
    (row : AnchorRow) : AnchorRow :=
  if row.ordinal = ordinal then
    { row with gopEndFrameExclusive := endFrame, gopEnd := endTimestamp }
  else row

/-- The statement `close_previous`, whose failures the caller wraps. -/
def closePrevious {ε : Type} (wrap : SqliteError → ε) (endFrame : Option Int)
    (endTimestamp : TimestampColumns) (ordinal : Int) : EStateM ε (List AnchorRow) Unit :=
  fun rows =>
    let closed := rows.map (closeRow endFrame endTimestamp ordinal)
    if ∀ row ∈ closed, row.ordinal = ordinal → row.Checks then .ok () closed
    else .error (wrap (.constraintViolation "CHECK constraint failed: navigation_anchor")) rows

/-- `next_ordinal` and `previous_ordinal`. -/
structure AnchorCursor where
  nextOrdinal : Nat
  previousOrdinal : Option Int
  deriving DecidableEq, Repr

/-- `i64::try_from(..).map_err(..)` in the visitor. -/
def tryI64 (value : Nat) (message : String) : Except FrameIndexError Int :=
  if value < 2 ^ 63 then .ok value else .error (.invalidState message)

/-- The row that a clean keyframe is inserted with. -/
def openAnchor (ordinal frame : Int) (timestamp : TimestampColumns) : AnchorRow where
  ordinal := ordinal
  kind := StructuralAnchorKind.decodedCleanKeyframe.asI64
  frameIndex := some frame
  presentation := timestamp
  gopEndFrameExclusive := none
  gopEnd := ⟨none, none, none⟩
  packetIndex := none
  byteOffset := none
  packetPts := ⟨none, none, none⟩
  packetDts := ⟨none, none, none⟩

/-- `if let Some(previous) = previous_ordinal`. -/
def closeIfAny (endFrame : Option Int) (endTimestamp : TimestampColumns) :
    Option Int → EStateM FrameIndexError (List AnchorRow) Unit
  | none => pure ()
  | some previous => closePrevious .sqlite endFrame endTimestamp previous

/-- The visitor of `synchronize_authoritative_snapshot`. -/
def visitAnchor (cursor : AnchorCursor) (entry : FrameIndexEntry) :
    EStateM FrameIndexError (List AnchorRow) AnchorCursor :=
  if entry.keyframe = false ∨ entry.corrupt = true then pure cursor
  else do
    let ordinal ← ofExcept id (tryI64 cursor.nextOrdinal "structural anchor ordinal overflow")
    let frame ← ofExcept id (tryI64 entry.frameId "frame id overflow")
    let timestamp := encodeTimestamp entry.presentationTimestamp
    closeIfAny (some frame) timestamp cursor.previousOrdinal
    insertAnchor (openAnchor ordinal frame timestamp)
    let nextOrdinal ← ofExcept id (okOr (checkedAddU64 cursor.nextOrdinal 1)
      (.invalidState "structural anchor count overflow"))
    pure ⟨nextOrdinal, some ordinal⟩

/-- The statement that closes the last interval of a complete index. -/
def closeLast (status : FrameIndexStatus) (previousOrdinal : Option Int) :
    EStateM ProgressiveIndexError (List AnchorRow) Unit :=
  if status.lifecycle = .complete then
    match previousOrdinal, status.frameCount with
    | some previous, some frameCount => do
        let count ← ofExcept id
          (if frameCount < 2 ^ 63 then .ok (frameCount : Int)
          else .error (.invalidState "frame count overflow"))
        closePrevious .sqlite (some count) ⟨none, none, none⟩ previous
    | _, _ => pure ()
  else pure ()

/-- What the snapshot does to the anchors; it returns how many there are. -/
def rebuildAnchors (index : FrameIndex) (status : FrameIndexStatus) :
    EStateM ProgressiveIndexError (List AnchorRow) Nat := do
  set ([] : List AnchorRow)
  let cursor ← EStateM.adaptExcept .authority
    (visitRange index 0 status.indexedFrames visitAnchor ⟨0, none⟩)
  closeLast status cursor.previousOrdinal
  pure cursor.nextOrdinal

/-- The row of a status. -/
def layerRow (status : ProgressiveLayerStatus) : Except ProgressiveIndexError LayerRow := do
  let completedUnits ← toI64 status.completedUnits "completed units"
  let totalUnits ← transposeMap (toI64 · "total units") status.totalUnits
  let coveredFramePrefix ← transposeMap (toI64 · "covered frame prefix") status.coveredFramePrefix
  .ok
    { layer := status.layer.asI64
      lifecycle := status.lifecycle.asI64
      generation := status.generation.toNat
      completedUnits
      totalUnits
      coveredFramePrefix
      covered := encodeTimestamp status.coveredThroughTimestamp
      lastError := status.lastError }

/-- A row after the assignment of `write_layer_status`. -/
def LayerRow.put (row old : LayerRow) : LayerRow := if old.layer = row.layer then row else old

/-- `UPDATE layer_status … WHERE layer = ?10`. -/
def updateLayer (row : LayerRow) : EStateM ProgressiveIndexError (List LayerRow) Unit := fun rows =>
  if row.Checks ∨ ∀ old ∈ rows, old.layer ≠ row.layer then .ok () (rows.map row.put)
  else .error (.sqlite (.constraintViolation "CHECK constraint failed: layer_status")) rows

/-- `write_layer_status`. -/
def writeLayerStatus (status : ProgressiveLayerStatus) :
    EStateM ProgressiveIndexError (List LayerRow) Unit := do
  ofExcept id (ensure (status.generation ≠ 0)
    (.invalidState "progressive layer generation must be positive"))
  ofExcept id (ensure (status.lifecycle = .complete → status.totalUnits = some status.completedUnits)
    (.invalidState "complete progressive layer must have matching completed and total units"))
  let row ← ofExcept id (layerRow status)
  updateLayer row

/-- A statement on the anchors. -/
def onAnchors {ε α : Type} : EStateM ε (List AnchorRow) α → EStateM ε Catalog α :=
  zoom (·.anchors) fun anchors catalog => { catalog with anchors }

/-- A statement on the layer rows. -/
def onLayers {ε α : Type} : EStateM ε (List LayerRow) α → EStateM ε Catalog α :=
  zoom (·.layers) fun layers catalog => { catalog with layers }

/-- What the snapshot writes for the structural layer. -/
def structuralStatus (status : FrameIndexStatus) (anchorCount : Nat) : ProgressiveLayerStatus where
  layer := .structuralNavigation
  lifecycle := .ofIndex status.lifecycle
  generation := structuralIndexGeneration
  completedUnits := anchorCount
  totalUnits := if status.lifecycle = .complete then some anchorCount else none
  coveredFramePrefix := some status.indexedFrames
  coveredThroughTimestamp := status.lastPresentationTimestamp
  lastError := status.lastError

/-- What the snapshot writes for the exact layer. -/
def exactStatus (status : FrameIndexStatus) : ProgressiveLayerStatus where
  layer := .authoritativeExact
  lifecycle := .ofIndex status.lifecycle
  generation := UInt32.ofNat frameTimelineContractGeneration
  completedUnits := status.indexedFrames
  totalUnits := status.frameCount
  coveredFramePrefix := some status.indexedFrames
  coveredThroughTimestamp := status.lastPresentationTimestamp
  lastError := status.lastError

/-! ## Operations -/

/-- `ensure_authority_binding`. -/
def ProgressiveFrameIndex.ensureAuthorityBinding (self : ProgressiveFrameIndex)
    (authoritative : FrameIndex) : Except ProgressiveIndexError Unit :=
  ensure (authoritative.sourceIdentity = self.sourceIdentity ∧
      authoritative.streamIdentity = self.streamIdentity)
    (.invalidState "progressive index is bound to a different authoritative source or stream")

/-- `synchronize_authoritative_snapshot`. -/
def ProgressiveFrameIndex.synchronizeAuthoritativeSnapshot [ContentHash]
    (self : ProgressiveFrameIndex) (authoritative : FrameIndex) : EStateM ProgressiveIndexError Catalog Unit := do
  ofExcept id (self.ensureAuthorityBinding authoritative)
  let status ← ofExcept .authority authoritative.status
  transaction do
    let anchorCount ← onAnchors (rebuildAnchors authoritative status)
    onLayers (writeLayerStatus (structuralStatus status anchorCount))
    onLayers (writeLayerStatus (exactStatus status))

/-- `ensure_stream_timestamp`. -/
def ensureStreamTimestamp (stream : FrameIndexStreamIdentity) (timestamp : Option MediaTimestamp) :
    Except ProgressiveIndexError Unit :=
  ensure (∀ value ∈ timestamp, value.timeBase = stream.timeBase)
    (.invalidState "progressive layer timestamp uses a different stream time base")

/-- `update_visual_layer_status`. -/
def ProgressiveFrameIndex.updateVisualLayerStatus (self : ProgressiveFrameIndex)
    (status : ProgressiveLayerStatus) : EStateM ProgressiveIndexError Catalog Unit := do
  ofExcept id (ensure (status.layer = .visualAcceleration)
    (.invalidState "only the visual acceleration layer may be updated through this API"))
  ofExcept id (ensure (status.generation ≠ 0)
    (.invalidState "visual layer generation must be positive"))
  ofExcept id (ensureStreamTimestamp self.streamIdentity status.coveredThroughTimestamp)
  transaction (onLayers (writeLayerStatus status))

/-- The pieces of a text between slashes. -/
def pathPieces : List Char → List (List Char)
  | [] => [[]]
  | c :: rest =>
      if c = '/' then [] :: pathPieces rest
      else match pathPieces rest with
        | [] => [[c]]
        | piece :: pieces => (c :: piece) :: pieces

/-- `safe_relative_storage_key`.  A component that is not `Normal` comes from a
leading slash, a leading dot, or two dots; empty pieces and later single dots are
skipped by `Path::components`. -/
def safeRelativeStorageKey (value : String) : Bool :=
  let pieces := pathPieces value.toList
  value ≠ "" && value.utf8ByteSize ≤ 1024 && value.toList.head? ≠ some '/' &&
    pieces.head? ≠ some ['.'] && pieces.all (· ≠ ['.', '.'])

/-- `validate_visual_artifact`. -/
def validateVisualArtifact (artifact : VisualArtifactMetadata) (stream : FrameIndexStreamIdentity) :
    Except ProgressiveIndexError Unit := do
  ensure (artifact.frameId.isSome ∨ artifact.presentationTimestamp.isSome)
    (.invalidState "visual artifact requires an authoritative FrameId or exact stream timestamp")
  ensure (artifact.generation ≠ 0 ∧ artifact.width ≠ 0 ∧ artifact.height ≠ 0)
    (.invalidState "visual artifact generation and dimensions must be positive")
  ensure (∀ value ∈ artifact.presentationTimestamp, value.timeBase = stream.timeBase)
    (.invalidState "visual artifact timestamp uses a different stream time base")
  ensure (safeRelativeStorageKey artifact.storageKey = true)
    (.invalidState "visual artifact storage key must be a confined relative path")

/-- `INSERT … ON CONFLICT(storage_key) DO UPDATE`. -/
def upsertArtifact (row : ArtifactRow) : EStateM ProgressiveIndexError (List ArtifactRow) Unit :=
  fun rows =>
    if ¬row.Checks then
      .error (.sqlite (.constraintViolation "CHECK constraint failed: visual_artifact")) rows
    else if rows.any (·.storageKey = row.storageKey) then
      .ok () (rows.map fun old => if old.storageKey = row.storageKey then row else old)
    else .ok () (rows ++ [row])

/-- `record_visual_artifact`. -/
def ProgressiveFrameIndex.recordVisualArtifact (self : ProgressiveFrameIndex)
    (artifact : VisualArtifactMetadata) : EStateM ProgressiveIndexError Catalog Unit := do
  ofExcept id (validateVisualArtifact artifact self.streamIdentity)
  let frameIndex ← ofExcept id
    (transposeMap (toI64 · "visual artifact frame id") artifact.frameId)
  let byteSize ← ofExcept id (toI64 artifact.byteSize "visual artifact byte size")
  zoom (·.artifacts) (fun artifacts catalog => { catalog with artifacts }) (upsertArtifact
    { storageKey := artifact.storageKey
      kind := artifact.kind.asI64
      frameIndex
      presentation := encodeTimestamp artifact.presentationTimestamp
      tier := artifact.tier.toNat
      generation := artifact.generation.toNat
      width := artifact.width.toNat
      height := artifact.height.toNat
      byteSize })

/-- `update_similarity_fingerprint_status`. -/
def updateSimilarityFingerprintStatus (status : SimilarityFingerprintStatus) :
    EStateM ProgressiveIndexError Catalog Unit := do
  ofExcept id (ensure (status.generation ≠ 0)
    (.invalidState "similarity fingerprint generation must be positive"))
  let coveredFrames ← ofExcept id (toI64 status.coveredFrames "similarity covered frames")
  modify fun catalog => { catalog with
    similarity := catalog.similarity.map fun _ =>
      ⟨status.lifecycle.asI64, status.generation.toNat, coveredFrames, status.lastError⟩ }

/-! ## Opening -/

/-- The checks of `validate_catalog` on one layer. -/
def validateLayer (catalog : Catalog) (stream : FrameIndexStreamIdentity)
    (layer : ProgressiveIndexLayer) : Except ProgressiveIndexError Unit := do
  let status ← catalog.layerStatus layer
  ensureStreamTimestamp stream status.coveredThroughTimestamp
  ensure (status.lifecycle = .complete → status.totalUnits = some status.completedUnits)
    (.invalidState ("complete " ++ status.layer.debugText ++ " layer has inconsistent unit totals"))

/-- `validate_catalog`. -/
def ProgressiveFrameIndex.validateCatalog (self : ProgressiveFrameIndex) :
    Except ProgressiveIndexError Unit := do
  ensure ((self.connection.layers.filter
      fun row => row.layer = 1 ∨ row.layer = 2 ∨ row.layer = 3).length = 3)
    (.invalidState "progressive index must contain exactly three layer status rows")
  validateLayer self.connection self.streamIdentity .structuralNavigation
  validateLayer self.connection self.streamIdentity .visualAcceleration
  validateLayer self.connection self.streamIdentity .authoritativeExact

/-- The row that `initialize_meta` and `reset_and_rebind` insert. -/
def freshMeta [ContentHash] (source : SourceIdentity) (stream : FrameIndexStreamIdentity) : MetaColumns where
  sourceKey := ContentHash.stableKey source
  sourceIdentity := source
  streamIdentity := stream
  authoritySchemaVersion := frameIndexSchemaVersion
  timelineContractGeneration := frameTimelineContractGeneration

/-- A layer row of `initialize_status_rows`. -/
def initialLayer (layer : ProgressiveIndexLayer) (generation : UInt32) : LayerRow where
  layer := layer.asI64
  lifecycle := ProgressiveLayerLifecycle.notStarted.asI64
  generation := generation.toNat
  completedUnits := 0
  totalUnits := none
  coveredFramePrefix := none
  covered := ⟨none, none, none⟩
  lastError := none

def initialLayers : List LayerRow :=
  [initialLayer .structuralNavigation structuralIndexGeneration,
    initialLayer .visualAcceleration visualIndexGeneration,
    initialLayer .authoritativeExact (UInt32.ofNat frameTimelineContractGeneration)]

def initialSimilarity : SimilarityRow where
  lifecycle := ProgressiveLayerLifecycle.notStarted.asI64
  generation := visualIndexGeneration.toNat
  coveredFrames := 0
  lastError := none

/-- `load_meta`: the row, whose source key was checked. -/
def Catalog.loadMeta [ContentHash] (catalog : Catalog) :
    Except ProgressiveIndexError (Option MetaColumns) :=
  match catalog.progressiveMeta with
  | none => .ok none
  | some row => do
      ensure (row.sourceKey = ContentHash.stableKey row.sourceIdentity)
        (.invalidState "stored progressive source key does not match source identity")
      let _ ← toU32 row.timelineContractGeneration "timeline contract generation"
      .ok (some row)

/-- `initialize_meta`; the inserts into tables that already hold rows fail. -/
def ProgressiveFrameIndex.initializeMeta [ContentHash] (self : ProgressiveFrameIndex) :
    Except ProgressiveIndexError ProgressiveFrameIndex :=
  if self.connection.layers.any (fun row => row.layer = 1 ∨ row.layer = 2 ∨ row.layer = 3) then
    .error (.sqlite (.constraintViolation "UNIQUE constraint failed: layer_status.layer"))
  else if self.connection.similarity.isSome then
    .error (.sqlite (.constraintViolation
      "UNIQUE constraint failed: similarity_fingerprint_status.id"))
  else .ok { self with connection := { self.connection with
    progressiveMeta := some (freshMeta self.sourceIdentity self.streamIdentity)
    layers := self.connection.layers ++ initialLayers
    similarity := some initialSimilarity } }

/-- `reset_and_rebind`. -/
def ProgressiveFrameIndex.resetAndRebind [ContentHash] (self : ProgressiveFrameIndex) :
    ProgressiveFrameIndex :=
  { self with connection := { self.connection with
    progressiveMeta := some (freshMeta self.sourceIdentity self.streamIdentity)
    layers := initialLayers
    anchors := []
    artifacts := []
    similarity := some initialSimilarity } }

/-- `migrate`. -/
def migrate (catalog : Catalog) : Except ProgressiveIndexError Catalog :=
  if catalog.userVersion = progressiveIndexSchemaVersion then .ok catalog
  else if catalog.userVersion = 0 then
    .ok ⟨progressiveIndexSchemaVersion, none, [], [], [], none⟩
  else .error (.unsupportedSchema catalog.userVersion)

/-- What `try_open` makes of the metadata it finds. -/
def ProgressiveFrameIndex.rebind [ContentHash] (self : ProgressiveFrameIndex) :
    Option MetaColumns →
      Except ProgressiveIndexError (ProgressiveFrameIndex × ProgressiveIndexOpenDisposition)
  | none => self.initializeMeta.map fun index => (index, .created)
  | some row =>
      if self.sourceIdentity.isReuseSafe = false then
        .ok (self.resetAndRebind, .rebuiltUnverifiableAuthority)
      else if row.sourceIdentity ≠ self.sourceIdentity ∨
          row.streamIdentity ≠ self.streamIdentity then
        .ok (self.resetAndRebind, .rebuiltStaleAuthority)
      else if row.authoritySchemaVersion ≠ frameIndexSchemaVersion ∨
          row.timelineContractGeneration ≠ frameTimelineContractGeneration then
        .ok (self.resetAndRebind, .rebuiltIncompatibleAuthority)
      else .ok (self, .reused)

/-- `try_open`. -/
def tryOpen [ContentHash] (catalog : Catalog) (authoritative : FrameIndex) :
    Except ProgressiveIndexError (ProgressiveFrameIndex × ProgressiveIndexOpenDisposition) := do
  let catalog ← migrate catalog
  let index : ProgressiveFrameIndex :=
    ⟨catalog, authoritative.sourceIdentity, authoritative.streamIdentity⟩
  let found ← index.connection.loadMeta
  let opened ← index.rebind found
  opened.1.validateCatalog
  .ok opened

/-- `open_or_create`; `none` is a path with no file. -/
def openOrCreate [ContentHash] (file : Option Catalog) (authoritative : FrameIndex) :
    Except ProgressiveIndexError (ProgressiveFrameIndex × ProgressiveIndexOpenDisposition) :=
  match tryOpen (file.getD .empty) authoritative with
  | .ok opened => .ok (opened.1, if file.isSome then opened.2 else .created)
  | .error error =>
      match error.recreationDisposition with
      | none => .error error
      | some disposition =>
          (tryOpen .empty authoritative).map fun opened => (opened.1, disposition)

end FrameScope.Ports.Progressive
