import FrameScope.Ports.SourceBinding

/-!
# The persistent frame index

Port of `framescope-cache/src/index/store.rs`.  The two SQLite tables are kept
as columns, so the conversions between entries and rows, the `NULL` handling
and every check of `validate_persistent_state` are those of the source.
`index_meta` has at most one row; `frame_index` is a list of rows in
primary-key order, which is the order all its queries ask for.  The two JSON
columns of `index_meta` hold the values they serialise.

Each mutating operation is one transaction: it returns the new index, or an
error and no new index.
-/

namespace FrameScope.Ports.FrameIndexStore

open FrameScope.Ports.Core
open FrameScope.Ports.FrameIndexModel
open FrameScope.Ports.SourceBinding

/-! ## Tables -/

/-- One row of `frame_index`. -/
structure FrameRow where
  frameIndex : Int
  timestampTicks : Option Int
  timeBaseNum : Option Int
  timeBaseDen : Option Int
  timestampUs : Option Int
  durationTicks : Option Int
  durationTimeBaseNum : Option Int
  durationTimeBaseDen : Option Int
  keyframe : Int
  corrupt : Int
  anchorKind : Int
  anchorFrameIndex : Option Int
  anchorTimestampTicks : Option Int
  anchorTimeBaseNum : Option Int
  anchorTimeBaseDen : Option Int
  anchorTimestampUs : Option Int
  deriving DecidableEq, Repr

/-- The row of `index_meta`. -/
structure MetaColumns where
  lifecycle : Int
  sourceKey : String
  sourceIdentity : SourceIdentity
  streamIdentity : FrameIndexStreamIdentity
  indexedFrames : Int
  frameCount : Option Int
  lastError : Option String
  deriving DecidableEq, Repr

/-- A database file. -/
structure Database where
  userVersion : Int
  indexMeta : Option MetaColumns
  frameIndex : List FrameRow
  deriving DecidableEq, Repr

/-- What `Connection::open` finds at a path with no file. -/
def Database.empty : Database := ⟨0, none, []⟩

/-- `MetaRow`: the decoded metadata. -/
structure MetaRow where
  lifecycle : FrameIndexLifecycle
  sourceIdentity : SourceIdentity
  sourceBindingStableKey : String
  timelineContractGeneration : Nat
  timestampSeekSafety : TimestampSeekSafety
  streamIdentity : FrameIndexStreamIdentity
  indexedFrames : Nat
  frameCount : Option Nat
  lastError : Option String
  deriving DecidableEq, Repr

/-- An open index. -/
structure FrameIndex where
  connection : Database
  sourceIdentity : SourceIdentity
  streamIdentity : FrameIndexStreamIdentity
  deriving DecidableEq, Repr

/-! ## Column conversions -/

/-- `to_sql_u64`. -/
def toSqlU64 (value : Nat) (label : String) : Except FrameIndexError Int :=
  if value < 2 ^ 63 then .ok value
  else .error (.invalidState (label ++ " exceeds SQLite i64 range"))

theorem toSqlU64_eq_ok {value : Nat} {label : String} {n : Int} :
    toSqlU64 value label = .ok n ↔ value < 2 ^ 63 ∧ n = value := by
  unfold toSqlU64
  split_ifs with h
  · rw [Except.ok.injEq, eq_comm, and_iff_right h]
  · exact iff_of_false nofun fun hFits => h hFits.1

theorem toSqlU64_of_le {value : Nat} {label : String} (h : 2 ^ 63 ≤ value) :
    toSqlU64 value label = .error (.invalidState (label ++ " exceeds SQLite i64 range")) :=
  if_neg (Nat.not_lt.2 h)

/-- `from_sql_u64`. -/
def fromSqlU64 (value : Int) (label : String) : Except FrameIndexError Nat :=
  if 0 ≤ value then .ok value.toNat
  else .error (.invalidState (label ++ " is negative"))

/-- `sql_i64_to_u64`. -/
def sqlI64ToU64 (value : Int) (column : Nat) : Except SqliteError Nat :=
  if 0 ≤ value then .ok value.toNat
  else .error (.integralValueOutOfRange column value)

/-- `sql_bool`. -/
def sqlBool (value : Int) (column : Nat) : Except SqliteError Bool :=
  if value = 0 then .ok false
  else if value = 1 then .ok true
  else .error (.integralValueOutOfRange column value)

/-- `row.get::<_, Option<i32>>`. -/
def getI32 (column : Nat) (value : Option Int) : Except SqliteError (Option Int) :=
  match value with
  | none => .ok none
  | some x =>
      if -2 ^ 31 ≤ x ∧ x < 2 ^ 31 then .ok (some x)
      else .error (.integralValueOutOfRange column x)

/-- A nullable rational column triple: ticks, numerator, denominator. -/
def decodeTicks (ticks numerator denominator : Option Int) (column : Nat) :
    Except SqliteError (Option (Int × TimeBase)) := do
  let numerator ← getI32 (column + 1) numerator
  let denominator ← getI32 (column + 2) denominator
  match ticks, numerator, denominator with
  | none, none, none => .ok none
  | some ticks, some numerator, some denominator =>
      match TimeBase.new numerator denominator with
      | none => .error (.integralValueOutOfRange column numerator)
      | some timeBase => .ok (some (ticks, timeBase))
  | _, _, _ => .error .invalidQuery

/-- `decode_timestamp`. -/
def decodeTimestamp (ticks numerator denominator : Option Int) (column : Nat) :
    Except SqliteError (Option MediaTimestamp) :=
  (decodeTicks ticks numerator denominator column).map
    (Option.map fun t => ⟨t.1, t.2⟩)

/-- The duration columns, whose bad time base is reported for column 5. -/
def decodeDuration (ticks numerator denominator : Option Int) :
    Except SqliteError (Option MediaDuration) := do
  let numerator ← getI32 5 numerator
  let denominator ← getI32 6 denominator
  match ticks, numerator, denominator with
  | none, none, none => .ok none
  | some ticks, some numerator, some denominator =>
      match TimeBase.new numerator denominator with
      | none => .error (.integralValueOutOfRange 5 numerator)
      | some timeBase => .ok (some ⟨ticks, timeBase⟩)
  | _, _, _ => .error .invalidQuery

def decodeAnchor (row : FrameRow) : Except SqliteError KeyframeAnchor :=
  if row.anchorKind = 0 then .ok .streamStart
  else if row.anchorKind = 1 then do
    match row.anchorFrameIndex with
    | none => .error .invalidQuery
    | some id =>
        let frameId ← sqlI64ToU64 id 10
        let timestamp ← decodeTimestamp row.anchorTimestampTicks row.anchorTimeBaseNum
          row.anchorTimeBaseDen 11
        .ok (.keyframe frameId timestamp)
  else .error (.integralValueOutOfRange 9 row.anchorKind)

/-- `decode_entry`. -/
def decodeEntry (row : FrameRow) : Except SqliteError FrameIndexEntry := do
  let frameId ← sqlI64ToU64 row.frameIndex 0
  let presentationTimestamp ←
    decodeTimestamp row.timestampTicks row.timeBaseNum row.timeBaseDen 1
  let duration ←
    decodeDuration row.durationTicks row.durationTimeBaseNum row.durationTimeBaseDen
  let anchor ← decodeAnchor row
  let keyframe ← sqlBool row.keyframe 7
  let corrupt ← sqlBool row.corrupt 8
  .ok { frameId, presentationTimestamp, duration, keyframe, corrupt, anchor }

def boolColumn (b : Bool) : Int := if b then 1 else 0

/-- `encode_anchor`, and the row the insert statement binds. -/
def encodeRow (e : FrameIndexEntry) : Except FrameIndexError FrameRow := do
  let (kind, anchorId, anchorTimestamp) ← match e.anchor with
    | .streamStart => Except.ok ((0 : Int), (none : Option Int), none)
    | .keyframe frameId presentationTimestamp =>
        (toSqlU64 frameId "anchor frame id").map fun id =>
          (1, some id, presentationTimestamp)
  let frameIndex ← toSqlU64 e.frameId "frame id"
  .ok
    { frameIndex := frameIndex
      timestampTicks := e.presentationTimestamp.map (·.ticks)
      timeBaseNum := e.presentationTimestamp.map (·.timeBase.numerator)
      timeBaseDen := e.presentationTimestamp.map (·.timeBase.denominator)
      timestampUs := e.timestampUs
      durationTicks := e.duration.map (·.ticks)
      durationTimeBaseNum := e.duration.map (·.timeBase.numerator)
      durationTimeBaseDen := e.duration.map (·.timeBase.denominator)
      keyframe := boolColumn e.keyframe
      corrupt := boolColumn e.corrupt
      anchorKind := kind
      anchorFrameIndex := anchorId
      anchorTimestampTicks := anchorTimestamp.map (·.ticks)
      anchorTimeBaseNum := anchorTimestamp.map (·.timeBase.numerator)
      anchorTimeBaseDen := anchorTimestamp.map (·.timeBase.denominator)
      anchorTimestampUs := anchorTimestamp.bind MediaTimestamp.toMicroseconds }

/-- `INSERT INTO frame_index`: the primary key is unique. -/
def insertRow (row : FrameRow) (rows : List FrameRow) : Except FrameIndexError (List FrameRow) :=
  if rows.any (·.frameIndex == row.frameIndex) then
    .error (.sqlite (.constraintViolation
      "UNIQUE constraint failed: frame_index.frame_index"))
  else
    .ok (rows.takeWhile (fun r => decide (r.frameIndex < row.frameIndex)) ++ row ::
      rows.dropWhile (fun r => decide (r.frameIndex < row.frameIndex)))

/-- `keyframe = 1 AND corrupt = 0`. -/
def FrameRow.isClean (row : FrameRow) : Bool := row.keyframe == 1 && row.corrupt == 0

/-! ## Seek safety -/

/-- Ticks strictly above the clean keyframe before, when there is one. -/
def advances (previous : Option Int) (ticks : Int) : Bool :=
  match previous with
  | none => true
  | some previous => previous < ticks

/-- The loop of `compute_timestamp_seek_safety` over the clean rows' ticks. -/
def seekSafetyOfTicks (previous : Option Int) : List (Option Int) → TimestampSeekSafety
  | [] => .unambiguous
  | none :: _ => .ambiguous
  | some ticks :: rest =>
      if advances previous ticks then seekSafetyOfTicks (some ticks) rest else .ambiguous

/-- `compute_timestamp_seek_safety`. -/
def computeTimestampSeekSafety (rows : List FrameRow) : TimestampSeekSafety :=
  seekSafetyOfTicks none ((rows.filter FrameRow.isClean).map (·.timestampTicks))

/-- The incremental decision of `append_batch_profiled`: only the last stored
clean keyframe and the batch are looked at. -/
def appendSeekSafety (safety : TimestampSeekSafety) (rows : List FrameRow)
    (entries : List FrameIndexEntry) : TimestampSeekSafety :=
  if safety.permitsTimestampSeek then
    seekSafetyOfTicks
      ((rows.filter FrameRow.isClean).getLast?.bind (·.timestampTicks))
      ((entries.filter FrameIndexEntry.isClean).map
        fun e => e.presentationTimestamp.map (·.ticks))
  else safety

section Index

variable [ContentHash]

/-! ## Metadata -/

/-- `load_meta`. -/
def FrameIndex.loadMeta (index : FrameIndex) : Except FrameIndexError (Option MetaRow) :=
  match index.connection.indexMeta with
  | none => .ok none
  | some columns => do
      let (generation, safety, stableKey) ← decodeSourceBindingKey columns.sourceKey
      let lifecycle ← FrameIndexLifecycle.fromI64 columns.lifecycle
      let indexedFrames ← fromSqlU64 columns.indexedFrames "indexed frame count"
      let frameCount ← match columns.frameCount with
        | none => Except.ok none
        | some count => (fromSqlU64 count "complete frame count").map some
      .ok (some
        { lifecycle := lifecycle
          sourceIdentity := columns.sourceIdentity
          sourceBindingStableKey := stableKey
          timelineContractGeneration := generation
          timestampSeekSafety := safety
          streamIdentity := columns.streamIdentity
          indexedFrames := indexedFrames
          frameCount := frameCount
          lastError := columns.lastError })

/-- The metadata, whose absence is an error to every reader but `try_open`. -/
def FrameIndex.requireMeta (index : FrameIndex) : Except FrameIndexError MetaRow := do
  match ← index.loadMeta with
  | none => .error (.invalidState "frame-index metadata row is missing")
  | some row => .ok row

/-- `timestamp_seek_safety`. -/
def FrameIndex.timestampSeekSafety (index : FrameIndex) :
    Except FrameIndexError TimestampSeekSafety :=
  index.requireMeta.map (·.timestampSeekSafety)

/-! ## Reading rows -/

/-- `decode_entry` followed by `validate`. -/
def FrameIndex.loadEntry (index : FrameIndex) (row : FrameRow) :
    Except FrameIndexError FrameIndexEntry :=
  match decodeEntry row with
  | .error e => .error (.sqlite e)
  | .ok entry => (entry.validate index.streamIdentity).map fun _ => entry

/-- `entry`. -/
def FrameIndex.entry (index : FrameIndex) (frameId : Nat) :
    Except FrameIndexError (Option FrameIndexEntry) := do
  let id ← toSqlU64 frameId "frame id"
  match index.connection.frameIndex.find? (·.frameIndex == id) with
  | none => .ok none
  | some row => (index.loadEntry row).map some

/-- `visit_range`, with a visitor that collects the entries. -/
def FrameIndex.visitRange (index : FrameIndex) (start endExclusive : Nat) :
    Except FrameIndexError (List FrameIndexEntry) := do
  if endExclusive < start then
    .error (.invalidState "frame-index range end precedes start")
  else do
    let first ← toSqlU64 start "frame id"
    let last ← toSqlU64 endExclusive "frame id"
    (index.connection.frameIndex.filter
      fun row => decide (first ≤ row.frameIndex ∧ row.frameIndex < last)).mapM index.loadEntry

/-- `ORDER BY … LIMIT 1`: the first row under a strict order. -/
def bestRow (precedes : FrameRow → FrameRow → Bool) : List FrameRow → Option FrameRow
  | [] => none
  | row :: rest =>
      match bestRow precedes rest with
      | none => some row
      | some best => if precedes best row then some best else some row

/-- `ORDER BY column DESC, frame_index DESC` or `… ASC, frame_index ASC`. -/
def rowPrecedes (column : FrameRow → Option Int) (descending : Bool) (a b : FrameRow) : Bool :=
  match column a, column b with
  | some x, some y =>
      if descending then y < x || (x == y && b.frameIndex < a.frameIndex)
      else x < y || (x == y && a.frameIndex < b.frameIndex)
  | _, _ => false

/-- `timestamp_query` and `timestamp_us_query`: the row whose timestamp column
is closest to `value` from below (`before`) or from above. -/
def FrameIndex.timestampQuery (index : FrameIndex) (column : FrameRow → Option Int)
    (value : Int) (before : Bool) : Except FrameIndexError (Option FrameIndexEntry) :=
  let candidates := index.connection.frameIndex.filter fun row =>
    (column row).any fun x => if before then x ≤ value else value ≤ x
  match bestRow (rowPrecedes column before) candidates with
  | none => .ok none
  | some row => (index.loadEntry row).map some

/-- `frame_at_or_before_us`. -/
def FrameIndex.frameAtOrBeforeUs (index : FrameIndex) (timestampUs : Int) :
    Except FrameIndexError (Option FrameIndexEntry) :=
  index.timestampQuery (·.timestampUs) timestampUs true

/-- `frame_at_or_after_us`. -/
def FrameIndex.frameAtOrAfterUs (index : FrameIndex) (timestampUs : Int) :
    Except FrameIndexError (Option FrameIndexEntry) :=
  index.timestampQuery (·.timestampUs) timestampUs false

/-- `status`. -/
def FrameIndex.status (index : FrameIndex) : Except FrameIndexError FrameIndexStatus := do
  let row ← index.requireMeta
  let last ← if row.indexedFrames = 0 then Except.ok none
    else index.entry (row.indexedFrames - 1)
  .ok
    { lifecycle := row.lifecycle
      indexedFrames := row.indexedFrames
      frameCount := row.frameCount
      lastFrameId := last.map (·.frameId)
      lastPresentationTimestamp := last.bind (·.presentationTimestamp)
      lastError := row.lastError }

/-- `frame_count`. -/
def FrameIndex.frameCount (index : FrameIndex) : Except FrameIndexError (Option Nat) := do
  let status ← index.status
  .ok (if status.lifecycle = .complete then status.frameCount else none)

/-! ## Mutation -/

/-- `UPDATE index_meta … WHERE id = 1`. -/
def FrameIndex.updateMeta (index : FrameIndex) (f : MetaColumns → MetaColumns) : FrameIndex :=
  { index with connection :=
      { index.connection with indexMeta := index.connection.indexMeta.map f } }

def FrameIndex.setRows (index : FrameIndex) (rows : List FrameRow) : FrameIndex :=
  { index with connection := { index.connection with frameIndex := rows } }

/-- `update_lifecycle`. -/
def FrameIndex.updateLifecycle (index : FrameIndex) (lifecycle : FrameIndexLifecycle)
    (frameCount : Option Nat) (lastError : Option String) :
    Except FrameIndexError FrameIndex := do
  let frameCount ← match frameCount with
    | none => Except.ok none
    | some value => (toSqlU64 value "frame count").map some
  .ok (index.updateMeta fun row =>
    { row with lifecycle := lifecycle.asI64, frameCount := frameCount, lastError := lastError })

/-- `mark_building`. -/
def FrameIndex.markBuilding (index : FrameIndex) : Except FrameIndexError FrameIndex :=
  index.updateLifecycle .building none none

/-- `mark_incomplete`. -/
def FrameIndex.markIncomplete (index : FrameIndex) (reason : Option String) :
    Except FrameIndexError FrameIndex :=
  index.updateLifecycle .incomplete none reason

/-- `mark_failed_recoverable`. -/
def FrameIndex.markFailedRecoverable (index : FrameIndex) (reason : String) :
    Except FrameIndexError FrameIndex :=
  index.updateLifecycle .failedRecoverable none (some reason)

/-- `mark_complete`. -/
def FrameIndex.markComplete (index : FrameIndex) : Except FrameIndexError FrameIndex := do
  let status ← index.status
  index.updateLifecycle .complete (some status.indexedFrames) none

/-- `clear_for_rebuild`. -/
def FrameIndex.clearForRebuild (index : FrameIndex) : FrameIndex :=
  (index.setRows []).updateMeta fun row =>
    { row with
      lifecycle := FrameIndexLifecycle.incomplete.asI64
      sourceKey := sourceBindingKey index.sourceIdentity .unambiguous
      indexedFrames := 0
      frameCount := none
      lastError := none }

/-- `truncate_from`. -/
def FrameIndex.truncateFrom (index : FrameIndex) (frameId : Nat) :
    Except FrameIndexError FrameIndex := do
  let count ← toSqlU64 frameId "frame count"
  let rows := index.connection.frameIndex.filter fun row => decide (row.frameIndex < count)
  .ok ((index.setRows rows).updateMeta fun row =>
    { row with
      lifecycle := FrameIndexLifecycle.incomplete.asI64
      sourceKey := sourceBindingKey index.sourceIdentity (computeTimestampSeekSafety rows)
      indexedFrames := count
      frameCount := none
      lastError := none })

/-- The contiguity and validity checks a batch passes before the transaction. -/
def checkBatch (stream : FrameIndexStreamIdentity) (current : Nat) :
    Nat → List FrameIndexEntry → Except FrameIndexError Unit
  | _, [] => .ok ()
  | offset, entry :: rest =>
      match checkedAddU64 current offset with
      | none => .error (.invalidState "frame id overflow")
      | some expected =>
          if entry.frameId ≠ expected then
            .error (.invalidState ("batch is not contiguous: expected frame " ++
              toString expected ++ ", got " ++ toString entry.frameId))
          else match entry.validate stream with
            | .error error => .error error
            | .ok () => checkBatch stream current (offset + 1) rest

/-- The insert loop. -/
def insertEntries : List FrameIndexEntry → List FrameRow → Except FrameIndexError (List FrameRow)
  | [], rows => .ok rows
  | entry :: rest, rows => do
      let row ← encodeRow entry
      let rows ← insertRow row rows
      insertEntries rest rows

/-- `append_batch`. -/
def FrameIndex.appendBatch (index : FrameIndex) (entries : List FrameIndexEntry) :
    Except FrameIndexError FrameIndex :=
  if entries.isEmpty then .ok index
  else do
    let row ← index.requireMeta
    checkBatch index.streamIdentity row.indexedFrames 0 entries
    let safety := appendSeekSafety row.timestampSeekSafety index.connection.frameIndex entries
    let rows ← insertEntries entries index.connection.frameIndex
    let next ← match checkedAddU64 row.indexedFrames entries.length with
      | none => Except.error (.invalidState "frame count overflow")
      | some next => toSqlU64 next "frame count"
    .ok ((index.setRows rows).updateMeta fun columns =>
      { columns with
        sourceKey := sourceBindingKey index.sourceIdentity safety
        indexedFrames := next })

/-! ## Validation and opening -/

/-- A nullable column that is present and differs from a value (`!=`). -/
def sqlNe (column : Option Int) (value : Int) : Bool := column.any (· != value)

/-- The `WHERE` clause that counts impossible rows. -/
def FrameRow.impossible (row : FrameRow) (tb : TimeBase) : Bool :=
  (row.keyframe != 0 && row.keyframe != 1)
    || (row.corrupt != 0 && row.corrupt != 1)
    || (row.anchorKind != 0 && row.anchorKind != 1)
    || (row.timestampTicks.isNone != row.timeBaseNum.isNone)
    || (row.timestampTicks.isNone != row.timeBaseDen.isNone)
    || (row.timestampTicks.isNone != row.timestampUs.isNone)
    || (row.timestampTicks.isSome &&
        (sqlNe row.timeBaseNum tb.numerator || sqlNe row.timeBaseDen tb.denominator))
    || (row.durationTicks.isNone != row.durationTimeBaseNum.isNone)
    || (row.durationTicks.isNone != row.durationTimeBaseDen.isNone)
    || (row.durationTicks.isSome &&
        (row.durationTicks.any (decide <| · ≤ 0) ||
          sqlNe row.durationTimeBaseNum tb.numerator ||
          sqlNe row.durationTimeBaseDen tb.denominator))
    || (row.anchorTimestampTicks.isNone != row.anchorTimeBaseNum.isNone)
    || (row.anchorTimestampTicks.isNone != row.anchorTimeBaseDen.isNone)
    || (row.anchorTimestampTicks.isNone != row.anchorTimestampUs.isNone)
    || (row.anchorTimestampTicks.isSome &&
        (sqlNe row.anchorTimeBaseNum tb.numerator || sqlNe row.anchorTimeBaseDen tb.denominator))
    || (row.anchorKind == 0 &&
        (row.anchorFrameIndex.isSome || row.anchorTimestampTicks.isSome))
    || (row.anchorKind == 1 &&
        (row.anchorFrameIndex.isNone || row.anchorFrameIndex.any (decide <| · < 0) ||
          row.anchorFrameIndex.any (decide <| row.frameIndex < ·)))
    || (row.isClean &&
        (row.anchorKind != 1 || sqlNe row.anchorFrameIndex row.frameIndex))

/-- The `WHERE` clause over the self-join that counts invalid anchors. -/
def FrameRow.invalidAnchor (rows : List FrameRow) (row : FrameRow) : Bool :=
  row.anchorKind == 1 &&
    match rows.find? (fun anchor => row.anchorFrameIndex == some anchor.frameIndex) with
    | none => true
    | some anchor =>
        anchor.keyframe != 1 || anchor.corrupt != 0
          || row.anchorTimestampTicks != anchor.timestampTicks
          || row.anchorTimeBaseNum != anchor.timeBaseNum
          || row.anchorTimeBaseDen != anchor.timeBaseDen
          || row.anchorTimestampUs != anchor.timestampUs

/-- The row-count and identity-range check. -/
def checkContiguous (indexedFrames : Nat) (rows : List FrameRow) :
    Except FrameIndexError Unit := do
  if rows.length ≠ indexedFrames then
    .error (.invalidState ("metadata says " ++ toString indexedFrames ++
      " indexed frames but database contains " ++ toString rows.length))
  else if rows.length = 0 then .ok ()
  else do
    let last ← toSqlU64 (rows.length - 1) "maximum frame id"
    if (rows.map (·.frameIndex)).min? ≠ some 0 ∨
        (rows.map (·.frameIndex)).max? ≠ some last then
      .error (.invalidState "stored frame ids are not a contiguous zero-based sequence")
    else .ok ()

/-- `validate_persistent_state`. -/
def FrameIndex.validatePersistentState (index : FrameIndex) (row : MetaRow) :
    Except FrameIndexError Unit :=
  let rows := index.connection.frameIndex
  if row.lifecycle = .complete ∧ row.frameCount ≠ some row.indexedFrames then
    .error (.invalidState "complete index frame count does not match indexed frame count")
  else if row.lifecycle ≠ .complete ∧ row.frameCount.isSome then
    .error (.invalidState "partial index unexpectedly carries a complete frame count")
  else match checkContiguous row.indexedFrames rows with
    | .error error => .error error
    | .ok () =>
        let invalidRows := rows.countP (·.impossible index.streamIdentity.timeBase)
        let invalidAnchors := rows.countP (FrameRow.invalidAnchor rows)
        if invalidRows ≠ 0 then
          .error (.invalidState ("frame index contains " ++ toString invalidRows ++
            " impossible row(s)"))
        else if invalidAnchors ≠ 0 then
          .error (.invalidState ("frame index contains " ++ toString invalidAnchors ++
            " invalid keyframe anchor(s)"))
        else if computeTimestampSeekSafety rows ≠ row.timestampSeekSafety then
          .error (.invalidState
            "stored timestamp-seek safety does not match indexed keyframe timeline")
        else .ok ()

/-- The row `initialize_meta` and `reset_and_rebind` insert. -/
def freshMeta (source : SourceIdentity) (stream : FrameIndexStreamIdentity) : MetaColumns :=
  { lifecycle := FrameIndexLifecycle.incomplete.asI64
    sourceKey := sourceBindingKey source .unambiguous
    sourceIdentity := source
    streamIdentity := stream
    indexedFrames := 0
    frameCount := none
    lastError := none }

/-- `initialize_meta`. -/
def FrameIndex.initializeMeta (index : FrameIndex) : FrameIndex :=
  { index with connection := { index.connection with
      indexMeta := some (freshMeta index.sourceIdentity index.streamIdentity) } }

/-- `reset_and_rebind`. -/
def FrameIndex.resetAndRebind (index : FrameIndex) : FrameIndex :=
  (index.setRows []).initializeMeta

/-- `migrate`. -/
def migrate (db : Database) : Except FrameIndexError Database :=
  if db.userVersion = frameIndexSchemaVersion then .ok db
  else if db.userVersion = 0 then .ok ⟨frameIndexSchemaVersion, none, []⟩
  else .error (.unsupportedSchema db.userVersion)

/-- `try_open`. -/
def FrameIndex.tryOpen (db : Database) (source : SourceIdentity)
    (stream : FrameIndexStreamIdentity) :
    Except FrameIndexError (FrameIndex × FrameIndexOpenDisposition) := do
  let db ← migrate db
  let index : FrameIndex := ⟨db, source, stream⟩
  match ← index.loadMeta with
  | none => .ok (index.initializeMeta, .created)
  | some row =>
      if ¬source.isReuseSafe then
        .ok (index.resetAndRebind, .rebuiltUnverifiableSource)
      else if row.sourceIdentity ≠ source ∨ row.streamIdentity ≠ stream then
        .ok (index.resetAndRebind, .rebuiltStaleSource)
      else if row.timelineContractGeneration ≠ frameTimelineContractGeneration then
        .ok (index.resetAndRebind, .rebuiltIncompatibleTimelineContract)
      else if row.sourceBindingStableKey ≠ ContentHash.stableKey source then
        .error (.invalidState
          "stored source binding key does not match stored source identity")
      else
        (index.validatePersistentState row).map fun _ => (index, .reused)

/-- `open_or_create`; `none` is a path with no file. -/
def FrameIndex.openOrCreate (file : Option Database) (source : SourceIdentity)
    (stream : FrameIndexStreamIdentity) :
    Except FrameIndexError (FrameIndex × FrameIndexOpenDisposition) :=
  match FrameIndex.tryOpen (file.getD .empty) source stream with
  | .ok (index, disposition) =>
      .ok (index, if file.isSome then disposition else .created)
  | .error error =>
      match error.recreationDisposition with
      | none => .error error
      | some disposition =>
          (FrameIndex.tryOpen .empty source stream).map fun opened =>
            (opened.1, disposition)

end Index

end FrameScope.Ports.FrameIndexStore
