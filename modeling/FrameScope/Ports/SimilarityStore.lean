import FrameScope.Ports.SourceBinding
import FrameScope.Ports.GroupNavigation
import FrameScope.Ports.Perceptual

/-!
# The similarity store

Port of `framescope-similarity-store`: one SQLite database for each source,
stream and configuration, written by one writer and read back by visits.

A visit trusts nothing in the file.  The columns of a row may hold any SQLite
value and the metadata any state, key and count; what SQLite itself guarantees
is that the rows of a sound table have distinct keys and come back in key order
(`GroupTable`).  A table whose tree is damaged is one that `quick_check`
reports, and then its rows are not read.

The JSON text of a key is written and parsed outside the repository:
`KeyJson` stands for it.
-/

namespace FrameScope.Ports.SimilarityStore

open FrameScope.Ports.Core
open FrameScope.Ports.SourceBinding
open FrameScope.Ports.FrameIndexModel
open FrameScope.Ports.Perceptual (HybridSimilarityPolicy HybridSimilarityEngine
  hybridSimilarityAlgorithmVersion)
open FrameScope.Ports.Similarity (SimilarityMode)
open FrameScope.Ports.GroupNavigation (FrameGroup Partitions)

/-- `SIMILARITY_STORE_SCHEMA_VERSION`. -/
def similarityStoreSchemaVersion : Int := 4

/-- `STATE_BUILDING`. -/
def stateBuilding : Int := 1

/-- `STATE_COMPLETE`. -/
def stateComplete : Int := 2

/-- `WRITE_BATCH_GROUPS`. -/
def writeBatchGroups : Nat := 128

/-! ## Keys -/

inductive SimilarityStoreConfig where
  | basic (mode : SimilarityMode)
  | hybrid (policy : HybridSimilarityPolicy)
  deriving DecidableEq, Repr

structure SimilarityStoreKey where
  source : SourceIdentity
  stream : FrameIndexStreamIdentity
  config : SimilarityStoreConfig
  deriving DecidableEq, Repr

inductive PersistedConfig where
  | exact
  | lumaMeanAbsolute (minimumSimilarity : Nat)
  | hybrid (algorithmVersion maxHashDistance minimumLumaSimilarity : Nat)
  deriving DecidableEq, Repr

structure PersistedKey where
  source : SourceIdentity
  stream : FrameIndexStreamIdentity
  config : PersistedConfig
  deriving DecidableEq, Repr

def SimilarityStoreConfig.persisted : SimilarityStoreConfig → PersistedConfig
  | .basic .exact => .exact
  | .basic (.lumaMeanAbsolute minimumSimilarity) => .lumaMeanAbsolute minimumSimilarity
  | .hybrid policy =>
      .hybrid hybridSimilarityAlgorithmVersion policy.maxHashDistance policy.minimumLumaSimilarity

def SimilarityStoreKey.persisted (key : SimilarityStoreKey) : PersistedKey :=
  ⟨key.source, key.stream, key.config.persisted⟩

/-- The variants of `SimilarityStoreError` that the constructors of keys report. -/
inductive StoreKeyError where
  | unsafeSourceIdentity
  | invalidConfig (detail : String)
  deriving DecidableEq, Repr

/-- `for_config`. -/
def SimilarityStoreKey.forConfig (source : SourceIdentity) (stream : FrameIndexStreamIdentity)
    (config : SimilarityStoreConfig) : Except StoreKeyError SimilarityStoreKey := do
  ensure (source.isReuseSafe = true) .unsafeSourceIdentity
  .ok ⟨source, stream, config⟩

/-- `new_hybrid`. -/
def SimilarityStoreKey.newHybrid (source : SourceIdentity) (stream : FrameIndexStreamIdentity)
    (policy : HybridSimilarityPolicy) : Except StoreKeyError SimilarityStoreKey := do
  let _ ← (HybridSimilarityEngine.new policy).mapError fun error => .invalidConfig error.toText
  SimilarityStoreKey.forConfig source stream (.hybrid policy)

/-- The JSON codec of persisted keys. -/
class KeyJson where
  toText : PersistedKey → String
  parse : String → Option PersistedKey

/-- The key's text is parsed back to the key. -/
def KeyRoundTrips [KeyJson] (key : SimilarityStoreKey) : Prop :=
  KeyJson.parse (KeyJson.toText key.persisted) = some key.persisted

/-! ## Results and errors -/

inductive SimilarityStoreLoad where
  | missing
  | reused (groupCount : Nat)
  | invalidatedStale
  | invalidatedIncomplete
  | invalidatedCorrupt
  deriving DecidableEq, Repr

inductive SqliteError where
  | notADatabase
  | noSuchTable (name : String)
  | tableExists (name : String)
  | uniqueConstraint
  | invalidColumnType (column : Nat)
  | integralValueOutOfRange (column : Nat) (value : Int)
  | invalidQuery
  deriving DecidableEq, Repr

inductive SimilarityStoreError where
  | invalidGroup (detail : String)
  | numericRange (label : String)
  | sqlite (error : SqliteError)
  deriving DecidableEq, Repr

def toSqlU64 (value : Nat) (label : String) : Except SimilarityStoreError Int :=
  if value < 2 ^ 63 then .ok value else .error (.numericRange label)

def fromSqlU64 (value : Int) (label : String) : Except SimilarityStoreError Nat :=
  if 0 ≤ value then .ok value.toNat else .error (.numericRange label)

/-! ## Stored values -/

inductive SqlValue where
  | null
  | integer (value : Int)
  | real (bits : UInt64)
  | text (value : String)
  | blob (bytes : List UInt8)
  deriving DecidableEq, Repr

/-- `row.get::<_, i64>`. -/
def SqlValue.getI64 (value : SqlValue) (column : Nat) : Except SqliteError Int :=
  match value with
  | .integer v => .ok v
  | _ => .error (.invalidColumnType column)

/-- `row.get::<_, i32>`. -/
def SqlValue.getI32 (value : SqlValue) (column : Nat) : Except SqliteError Int := do
  let v ← value.getI64 column
  ensure (-2 ^ 31 ≤ v ∧ v < 2 ^ 31) (.integralValueOutOfRange column v)
  .ok v

/-- `row.get::<_, String>`. -/
def SqlValue.getText (value : SqlValue) (column : Nat) : Except SqliteError String :=
  match value with
  | .text v => .ok v
  | _ => .error (.invalidColumnType column)

/-- `row.get` of an optional column. -/
def SqlValue.getOptional (get : SqlValue → Nat → Except SqliteError Int) (value : SqlValue)
    (column : Nat) : Except SqliteError (Option Int) :=
  match value with
  | .null => .ok none
  | _ => (get value column).map some

/-- How an optional integer is bound to a parameter. -/
def SqlValue.ofOption : Option Int → SqlValue
  | none => .null
  | some v => .integer v

/-- A row of `similarity_groups`. -/
structure StoredGroup where
  ordinal : Int
  representativeFrame : SqlValue
  firstFrame : SqlValue
  lastFrame : SqlValue
  frameCount : SqlValue
  startTicks : SqlValue
  startTbNum : SqlValue
  startTbDen : SqlValue
  endTicks : SqlValue
  endTbNum : SqlValue
  endTbDen : SqlValue
  startDurationTicks : SqlValue
  startDurationTbNum : SqlValue
  startDurationTbDen : SqlValue
  endDurationTicks : SqlValue
  endDurationTbNum : SqlValue
  endDurationTbDen : SqlValue
  representativeSimilarityFloor : SqlValue
  deriving DecidableEq, Repr

/-- `similarity_groups`, in the order of its primary key. -/
structure GroupTable where
  rows : List StoredGroup
  ascending : rows.Pairwise fun a b => a.ordinal < b.ordinal
  deriving DecidableEq

def GroupTable.empty : GroupTable := ⟨[], List.Pairwise.nil⟩

/-- The row of `similarity_meta` with the id that the store uses. -/
structure MetaRow where
  state : SqlValue
  keyJson : SqlValue
  groupCount : SqlValue
  deriving DecidableEq, Repr

/-- What a database holds.  A table that is not there is `none`. -/
structure Database where
  userVersion : Int
  similarityMeta : Option (Option MetaRow)
  similarityGroups : Option GroupTable
  quickCheck : String
  deriving DecidableEq

/-- A database file that was just created. -/
def emptyDatabase : Database := ⟨0, none, none, "ok"⟩

/-- What stands at the path of a result: nothing, a file without a byte, bytes
that do not begin with the header of a database or that SQLite refuses, or a
database. -/
inductive StoreFile where
  | missing
  | empty
  | noHeader
  | unreadable
  | database (content : Database)
  deriving DecidableEq

/-- `Connection::open` and the first statement on it.  A file that is missing is
created, and one without a byte is an empty database. -/
def StoreFile.connect : StoreFile → Except SqliteError Database
  | .missing => .ok emptyDatabase
  | .empty => .ok emptyDatabase
  | .noHeader => .error .notADatabase
  | .unreadable => .error .notADatabase
  | .database content => .ok content

/-- `has_sqlite_header`. -/
def StoreFile.hasSqliteHeader : StoreFile → Bool
  | .unreadable => true
  | .database _ => true
  | _ => false

/-! ## Decoding -/

/-- `sql_i64_to_u64`. -/
def sqlI64ToU64 (value : Int) (column : Nat) : Except SqliteError Nat :=
  if 0 ≤ value then .ok value.toNat else .error (.integralValueOutOfRange column value)

/-- `decode_time_base`. -/
def decodeTimeBase (numerator denominator : Int) (column : Nat) : Except SqliteError TimeBase :=
  okOr (TimeBase.new numerator denominator) (.integralValueOutOfRange column numerator)

/-- `decode_duration`. -/
def decodeDuration (ticks numerator denominator : Option Int) (column : Nat) :
    Except SqliteError (Option MediaDuration) :=
  match ticks, numerator, denominator with
  | none, none, none => .ok none
  | some ticks, some numerator, some denominator =>
      if 0 < ticks then do
        let timeBase ← decodeTimeBase numerator denominator column
        .ok (some ⟨ticks, timeBase⟩)
      else .error .invalidQuery
  | _, _, _ => .error .invalidQuery

/-- The reads of a duration's columns. -/
def readDuration (ticks numerator denominator : SqlValue) (column : Nat) :
    Except SqliteError (Option MediaDuration) := do
  let ticks ← ticks.getOptional SqlValue.getI64 column
  let numerator ← numerator.getOptional SqlValue.getI32 (column + 1)
  let denominator ← denominator.getOptional SqlValue.getI32 (column + 2)
  decodeDuration ticks numerator denominator column

/-- The reads of a time base's columns. -/
def readTimeBase (numerator denominator : SqlValue) (column : Nat) :
    Except SqliteError TimeBase := do
  let numerator ← numerator.getI32 column
  let denominator ← denominator.getI32 (column + 1)
  decodeTimeBase numerator denominator column

/-- The read of an unsigned column. -/
def readU64 (value : SqlValue) (column : Nat) : Except SqliteError Nat := do
  let v ← value.getI64 column
  sqlI64ToU64 v column

/-- `decode_group`, which reads the columns in this order. -/
def decodeGroup (row : StoredGroup) : Except SqliteError FrameGroup := do
  let startTimeBase ← readTimeBase row.startTbNum row.startTbDen 5
  let endTimeBase ← readTimeBase row.endTbNum row.endTbDen 8
  let startDuration ←
    readDuration row.startDurationTicks row.startDurationTbNum row.startDurationTbDen 10
  let endDuration ←
    readDuration row.endDurationTicks row.endDurationTbNum row.endDurationTbDen 13
  let floor ← row.representativeSimilarityFloor.getI64 16
  ensure (0 ≤ floor ∧ floor < 2 ^ 16) (.integralValueOutOfRange 16 floor)
  let representativeFrame ← readU64 row.representativeFrame 0
  let firstFrame ← readU64 row.firstFrame 1
  let lastFrame ← readU64 row.lastFrame 2
  let frameCount ← readU64 row.frameCount 3
  let startTicks ← row.startTicks.getI64 4
  let endTicks ← row.endTicks.getI64 7
  .ok
    { representativeFrame
      firstFrame
      lastFrame
      frameCount
      startTimestamp := ⟨startTicks, startTimeBase⟩
      endTimestamp := ⟨endTicks, endTimeBase⟩
      startDuration
      endDuration
      representativeSimilarityFloor := floor.toNat }

/-- `invalid_duration`.  The parts of a time base are positive by construction. -/
def invalidDuration (duration : Option MediaDuration) : Bool :=
  duration.any fun value => decide (value.ticks ≤ 0)

/-- `invalid_group`. -/
def invalidGroup (group : FrameGroup) : Bool :=
  decide (group.lastFrame < group.firstFrame) ||
  decide (group.frameCount = 0) ||
  decide ((if group.firstFrame ≤ group.lastFrame then
      checkedAddU64 (group.lastFrame - group.firstFrame) 1 else none) ≠ some group.frameCount) ||
  decide (group.representativeFrame < group.firstFrame) ||
  decide (group.lastFrame < group.representativeFrame) ||
  decide (Similarity.similarityScale < group.representativeSimilarityFloor) ||
  invalidDuration group.startDuration || invalidDuration group.endDuration

/-! ## Visits -/

/-- The loop of `validate_rows`: the last frame and the number of the groups
that were read, or `none` where a row is refused. -/
def checkRows (framed : Bool) :
    List StoredGroup → Option Nat → Nat → Except SimilarityStoreError (Option (Option Nat × Nat))
  | [], previousLast, observedGroups => .ok (some (previousLast, observedGroups))
  | row :: rest, previousLast, observedGroups => do
      let group ← (decodeGroup row).mapError .sqlite
      if invalidGroup group then .ok none
      else if framed ∧ observedGroups = 0 ∧ group.firstFrame ≠ 0 then .ok none
      else if framed ∧ previousLast.any (fun p => checkedAddU64 p 1 ≠ some group.firstFrame) then
        .ok none
      else checkRows framed rest (some group.lastFrame) (saturatingAddU64 observedGroups 1)

/-- The check of `MIN(ordinal)` and `MAX(ordinal)`. -/
def ordinalsFill (ordinals : List Int) (expectedCount : Nat) : Except SimilarityStoreError Bool :=
  if expectedCount = 0 then .ok true
  else if ordinals.min? ≠ some 0 then .ok false
  else do
    let maximum ← toSqlU64 (expectedCount - 1) "maximum group ordinal"
    .ok (decide (ordinals.max? = some maximum))

/-- The check of the last frame, when a frame count is expected. -/
def coversFrames (expectedCount : Nat) (expectedFrameCount : Option Nat)
    (seen : Option Nat × Nat) : Bool :=
  match expectedFrameCount with
  | none => true
  | some 0 => decide (expectedCount = 0 ∧ seen.2 = 0)
  | some (last + 1) =>
      decide (expectedCount ≠ 0 ∧ seen.2 = expectedCount ∧ seen.1 = some last)

/-- `validate_rows`. -/
def validateRows (table : GroupTable) (expectedCount : Nat) (expectedFrameCount : Option Nat) :
    Except SimilarityStoreError Bool := do
  let count ← fromSqlU64 table.rows.length "database group count"
  if count ≠ expectedCount then .ok false
  else do
    let filled ← ordinalsFill (table.rows.map (·.ordinal)) expectedCount
    if filled = false then .ok false
    else do
      let seen ← checkRows expectedFrameCount.isSome table.rows none 0
      .ok (seen.any (coversFrames expectedCount expectedFrameCount))

/-- The rows that the visitor gets, until one cannot be decoded. -/
def visitRows : List StoredGroup → List FrameGroup × Option SqliteError
  | [] => ([], none)
  | row :: rest =>
      match decodeGroup row with
      | .error error => ([], some error)
      | .ok group => (group :: (visitRows rest).1, (visitRows rest).2)

/-- What a visit returns, the groups it hands to the visitor, and whether it
purges the file. -/
structure Visit where
  outcome : Except SimilarityStoreError SimilarityStoreLoad
  visited : List FrameGroup
  purges : Bool
  deriving DecidableEq

def Visit.fail (error : SimilarityStoreError) : Visit := ⟨.error error, [], false⟩

def Visit.purge (load : SimilarityStoreLoad) : Visit := ⟨.ok load, [], true⟩

/-- The rest of a visit once the metadata is accepted. -/
def visitTable (content : Database) (groupCount : Nat) (expectedFrameCount : Option Nat) : Visit :=
  if content.quickCheck ≠ "ok" then .purge .invalidatedCorrupt
  else
    match content.similarityGroups with
    | none => .fail (.sqlite (.noSuchTable "similarity_groups"))
    | some table =>
        match validateRows table groupCount expectedFrameCount with
        | .error error => .fail error
        | .ok false => .purge .invalidatedCorrupt
        | .ok true =>
            let served := visitRows table.rows
            match served.2 with
            | some error => ⟨.error (.sqlite error), served.1, false⟩
            | none => ⟨.ok (.reused groupCount), served.1, false⟩

/-- The reads of the metadata row. -/
def readMeta (row : MetaRow) : Except SqliteError (Int × String × Int) := do
  let state ← row.state.getI64 0
  let keyJson ← row.keyJson.getText 1
  let groupCount ← row.groupCount.getI64 2
  .ok (state, keyJson, groupCount)

/-- A visit of a database that could be opened. -/
def visitDatabase [KeyJson] (content : Database) (expected : SimilarityStoreKey)
    (expectedFrameCount : Option Nat) : Visit :=
  if content.userVersion ≠ similarityStoreSchemaVersion then .purge .invalidatedStale
  else
    match content.similarityMeta with
    | none => .fail (.sqlite (.noSuchTable "similarity_meta"))
    | some none => .purge .invalidatedCorrupt
    | some (some row) =>
        match readMeta row with
        | .error error => .fail (.sqlite error)
        | .ok (state, keyJson, storedCount) =>
            if state ≠ stateComplete then .purge .invalidatedIncomplete
            else
              match KeyJson.parse keyJson with
              | none => .purge .invalidatedCorrupt
              | some persistedKey =>
                  if persistedKey ≠ expected.persisted then .purge .invalidatedStale
                  else
                    match fromSqlU64 storedCount "stored group count" with
                    | .error error => .fail error
                    | .ok groupCount => visitTable content groupCount expectedFrameCount

/-- The rest of a visit once the header was seen. -/
def visitConnection [KeyJson] (file : StoreFile) (expected : SimilarityStoreKey)
    (expectedFrameCount : Option Nat) : Visit :=
  match file.connect with
  | .error error => .fail (.sqlite error)
  | .ok content => visitDatabase content expected expectedFrameCount

/-- `visit_groups_with_frame_count`. -/
def visitGroupsWithFrameCount [KeyJson] (file : StoreFile) (expected : SimilarityStoreKey)
    (expectedFrameCount : Option Nat) : Visit :=
  if file = .missing then ⟨.ok .missing, [], false⟩
  else if file.hasSqliteHeader = false then .purge .invalidatedCorrupt
  else visitConnection file expected expectedFrameCount

/-- `visit_groups`. -/
def visitGroups [KeyJson] (file : StoreFile) (expected : SimilarityStoreKey) : Visit :=
  visitGroupsWithFrameCount file expected none

/-- `visit_groups_for_frame_count`. -/
def visitGroupsForFrameCount [KeyJson] (file : StoreFile) (expected : SimilarityStoreKey)
    (expectedFrameCount : Nat) : Visit :=
  visitGroupsWithFrameCount file expected (some expectedFrameCount)

/-! ## The writer -/

/-- `INSERT` under a key that is free. -/
def GroupTable.insertRow (table : GroupTable) (row : StoredGroup) : GroupTable where
  rows := table.rows.filter (·.ordinal < row.ordinal) ++
    row :: table.rows.filter (row.ordinal < ·.ordinal)
  ascending := by
    rw [List.pairwise_append, List.pairwise_cons]
    refine ⟨table.ascending.filter _, ⟨?_, table.ascending.filter _⟩, ?_⟩
    · intro above hAbove
      simpa using (List.mem_filter.1 hAbove).2
    · intro below hBelow above hAbove
      have hLt : below.ordinal < row.ordinal := by simpa using (List.mem_filter.1 hBelow).2
      rcases List.mem_cons.1 hAbove with rfl | hMore
      · exact hLt
      · have hGt : row.ordinal < above.ordinal := by simpa using (List.mem_filter.1 hMore).2
        exact hLt.trans hGt

/-- `INSERT INTO similarity_groups`. -/
def GroupTable.insert (table : GroupTable) (row : StoredGroup) :
    Except SimilarityStoreError GroupTable :=
  if table.rows.any (·.ordinal = row.ordinal) then .error (.sqlite .uniqueConstraint)
  else .ok (table.insertRow row)

/-- The parameters that a group is inserted with, once its numbers are known to
fit. -/
def storedGroup (ordinal : Int) (group : FrameGroup) : StoredGroup where
  ordinal := ordinal
  representativeFrame := .integer group.representativeFrame
  firstFrame := .integer group.firstFrame
  lastFrame := .integer group.lastFrame
  frameCount := .integer group.frameCount
  startTicks := .integer group.startTimestamp.ticks
  startTbNum := .integer group.startTimestamp.timeBase.numerator
  startTbDen := .integer group.startTimestamp.timeBase.denominator
  endTicks := .integer group.endTimestamp.ticks
  endTbNum := .integer group.endTimestamp.timeBase.numerator
  endTbDen := .integer group.endTimestamp.timeBase.denominator
  startDurationTicks := .ofOption (group.startDuration.map (·.ticks))
  startDurationTbNum := .ofOption (group.startDuration.map (·.timeBase.numerator))
  startDurationTbDen := .ofOption (group.startDuration.map (·.timeBase.denominator))
  endDurationTicks := .ofOption (group.endDuration.map (·.ticks))
  endDurationTbNum := .ofOption (group.endDuration.map (·.timeBase.numerator))
  endDurationTbDen := .ofOption (group.endDuration.map (·.timeBase.denominator))
  representativeSimilarityFloor := .integer group.representativeSimilarityFloor

/-- The checks that the frame numbers of a group fit SQLite's integers. -/
def ensureSqlRange (group : FrameGroup) : Except SimilarityStoreError Unit := do
  let _ ← toSqlU64 group.representativeFrame "representative frame"
  let _ ← toSqlU64 group.firstFrame "first frame"
  let _ ← toSqlU64 group.lastFrame "last frame"
  let _ ← toSqlU64 group.frameCount "represented frame count"
  .ok ()

/-- `validate_group`. -/
def validateGroup (group : FrameGroup) : Except SimilarityStoreError Unit := do
  ensure (invalidGroup group = false) (.invalidGroup
    "group ranges must be ordered, non-empty, contiguous, and use valid timing/score data")
  ensureSqlRange group

/-- `configure_connection` and `create_schema`. -/
def createSchema (content : Database) : Except SimilarityStoreError Database := do
  ensure (content.similarityMeta = none) (.sqlite (.tableExists "similarity_meta"))
  ensure (content.similarityGroups = none) (.sqlite (.tableExists "similarity_groups"))
  .ok { content with
    userVersion := similarityStoreSchemaVersion
    similarityMeta := some none
    similarityGroups := some GroupTable.empty }

/-- The metadata of a result that is being built. -/
def buildingMeta [KeyJson] (key : SimilarityStoreKey) : MetaRow where
  state := .integer stateBuilding
  keyJson := .text (KeyJson.toText key.persisted)
  groupCount := .integer 0

/-- The part of `begin` that fills a database. -/
def initialise [KeyJson] (key : SimilarityStoreKey) (content : Database) :
    Except SimilarityStoreError Database := do
  let content ← createSchema content
  .ok { content with similarityMeta := some (some (buildingMeta key)) }

/-- `UPDATE similarity_meta … WHERE id = ?`. -/
def updateMeta (change : MetaRow → MetaRow) (content : Database) :
    Except SimilarityStoreError Database := do
  let row ← okOr content.similarityMeta (.sqlite (.noSuchTable "similarity_meta"))
  .ok { content with similarityMeta := some (row.map change) }

/-- A writer, with what it has committed to its database. -/
structure SimilarityStoreWriter where
  database : Database
  pending : List FrameGroup
  nextOrdinal : Nat
  deriving DecidableEq

/-- The loop of `flush_batch`. -/
def insertPending : List FrameGroup → Nat → GroupTable →
    Except SimilarityStoreError (Nat × GroupTable)
  | [], nextOrdinal, table => .ok (nextOrdinal, table)
  | group :: rest, nextOrdinal, table => do
      let ordinal ← toSqlU64 nextOrdinal "group ordinal"
      ensureSqlRange group
      let table ← table.insert (storedGroup ordinal group)
      let nextOrdinal ← okOr (checkedAddU64 nextOrdinal 1) (.numericRange "group ordinal")
      insertPending rest nextOrdinal table

/-- `flush_batch`: one transaction for the pending groups. -/
def SimilarityStoreWriter.flushBatch (writer : SimilarityStoreWriter) :
    Except SimilarityStoreError SimilarityStoreWriter :=
  if writer.pending = [] then .ok writer
  else do
    let table ← okOr writer.database.similarityGroups (.sqlite (.noSuchTable "similarity_groups"))
    let inserted ← insertPending writer.pending writer.nextOrdinal table
    let count ← toSqlU64 inserted.1 "group count"
    let database ← updateMeta (fun row => { row with groupCount := .integer count })
      { writer.database with similarityGroups := some inserted.2 }
    .ok ⟨database, [], inserted.1⟩

/-- `append`. -/
def SimilarityStoreWriter.append (writer : SimilarityStoreWriter) (group : FrameGroup) :
    Except SimilarityStoreError SimilarityStoreWriter := do
  validateGroup group
  let writer := { writer with pending := writer.pending ++ [group] }
  if writeBatchGroups ≤ writer.pending.length then writer.flushBatch else .ok writer

/-- The part of `finish` before the rename. -/
def SimilarityStoreWriter.complete (writer : SimilarityStoreWriter) :
    Except SimilarityStoreError (Nat × Database) := do
  let writer ← writer.flushBatch
  let count ← toSqlU64 writer.nextOrdinal "group count"
  let database ← updateMeta
    (fun row => { row with state := .integer stateComplete, groupCount := .integer count })
    writer.database
  .ok (writer.nextOrdinal, database)

/-- `append` of one group after the other. -/
def SimilarityStoreWriter.appendAll (writer : SimilarityStoreWriter) (groups : List FrameGroup) :
    Except SimilarityStoreError SimilarityStoreWriter :=
  groups.foldlM SimilarityStoreWriter.append writer

/-- `begin` over a building path that was purged. -/
def begin [KeyJson] (key : SimilarityStoreKey) :
    Except SimilarityStoreError SimilarityStoreWriter := do
  let database ← initialise key emptyDatabase
  .ok ⟨database, [], 0⟩

/-- A writer that has the result to itself: the count that `finish` returns and
the file that it publishes. -/
def publish [KeyJson] (key : SimilarityStoreKey) (groups : List FrameGroup) :
    Except SimilarityStoreError (Nat × StoreFile) := do
  let writer ← begin key
  let writer ← writer.appendAll groups
  let finished ← writer.complete
  .ok (finished.1, .database finished.2)

end FrameScope.Ports.SimilarityStore
