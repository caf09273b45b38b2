import FrameScope.Ports.GlobalDescriptors

/-!
# The global similarity store

Port of `GlobalSimilarityStore` and its writer.  A descriptor is one row, and
nine rows of the index table name its frame: four bands of each hash and the
colour bucket.  A query looks the target's keys up and confirms each candidate.

The columns hold the types that the writer binds.  The key of the store is
compared as a whole; its JSON text adds nothing here.  A file that cannot be
opened, or whose tables are missing, is left out.
-/

namespace FrameScope.Ports.GlobalStore

open FrameScope.Ports.Core
open FrameScope.Ports.SourceBinding
open FrameScope.Ports.FrameIndexModel
open FrameScope.Ports.SimilarityStore (SqliteError)
open FrameScope.Ports.GlobalDescriptors

/-- `GLOBAL_SIMILARITY_ALGORITHM_VERSION`. -/
def globalSimilarityAlgorithmVersion : Nat := 3

/-- `GLOBAL_SIMILARITY_STORE_SCHEMA_VERSION`. -/
def globalSimilarityStoreSchemaVersion : Int := 3

/-- `STATE_BUILDING`. -/
def stateBuilding : Int := 1

/-- `STATE_COMPLETE`. -/
def stateComplete : Int := 2

/-- `WRITE_BATCH_DESCRIPTORS`. -/
def writeBatchDescriptors : Nat := 128

/-- `INDEX_KEYS_PER_DESCRIPTOR`. -/
def indexKeysPerDescriptor : Nat := hashBandsPerKind * 2 + 1

structure GlobalSimilarityStoreKey where
  source : SourceIdentity
  stream : FrameIndexStreamIdentity
  deriving DecidableEq, Repr

/-- `GlobalSimilarityStoreKey::new`. -/
def GlobalSimilarityStoreKey.new (source : SourceIdentity) (stream : FrameIndexStreamIdentity) :
    Except GlobalSimilarityError GlobalSimilarityStoreKey := do
  ensure (source.isReuseSafe = true) .unsafeSourceIdentity
  .ok ⟨source, stream⟩

structure PersistedGlobalSimilarityKey where
  source : SourceIdentity
  stream : FrameIndexStreamIdentity
  frameTimelineContractGeneration : Nat
  descriptorAlgorithmVersion : Nat
  deriving DecidableEq, Repr

def GlobalSimilarityStoreKey.persisted (key : GlobalSimilarityStoreKey) :
    PersistedGlobalSimilarityKey :=
  ⟨key.source, key.stream, frameTimelineContractGeneration, globalSimilarityAlgorithmVersion⟩

structure GlobalSimilarityPolicy where
  minimumSimilarity : Nat
  maxResults : Nat
  deriving DecidableEq, Repr

/-- `GlobalSimilarityPolicy::validate`. -/
def GlobalSimilarityPolicy.validate (policy : GlobalSimilarityPolicy) :
    Except GlobalSimilarityError GlobalSimilarityPolicy := do
  ensure (policy.minimumSimilarity ≤ similarityScale) (.invalidThreshold policy.minimumSimilarity)
  ensure (policy.maxResults ≠ 0) .invalidMaxResults
  .ok policy

structure GlobalSimilarityMatch where
  frameId : Nat
  similarity : Nat
  deriving DecidableEq, Repr

structure GlobalSimilarityQuery where
  targetFrame : Nat
  descriptorCount : Nat
  candidateCount : Nat
  matchedCount : Nat
  truncated : Bool
  matchesFound : List GlobalSimilarityMatch
  deriving DecidableEq, Repr

inductive GlobalSimilarityStoreLoad where
  | missing
  | reused (descriptorCount : Nat)
  | invalidatedStale
  | invalidatedIncomplete
  | invalidatedCorrupt
  deriving DecidableEq, Repr

/-! ## Tables -/

/-- A row of `global_descriptors`. -/
structure DescriptorRow where
  frameId : Int
  averageHash : Int
  differenceHash : Int
  normalizedRgb : List UInt8
  deriving DecidableEq, Repr

/-- A row of `global_hash_bands`. -/
structure BandRow where
  kind : Int
  band : Int
  value : Int
  frameId : Int
  deriving DecidableEq, Repr

structure GlobalMeta where
  state : Int
  key : Option PersistedGlobalSimilarityKey
  descriptorCount : Int
  deriving DecidableEq, Repr

/-- What a database holds; a key whose text does not parse is `none`. -/
structure GlobalDatabase where
  userVersion : Int
  globalMeta : Option GlobalMeta
  descriptors : List DescriptorRow
  bands : List BandRow
  quickCheck : String
  deriving DecidableEq, Repr

def toSqlU64 (value : Nat) (label : String) : Except GlobalSimilarityError Int :=
  if value < 2 ^ 63 then .ok value else .error (.numericRange label)

def fromSqlU64 (value : Int) (label : String) : Except GlobalSimilarityError Nat :=
  if 0 ≤ value then .ok value.toNat else .error (.numericRange label)

/-! ## Loading -/

/-- The check of `MIN(frame_id)` and `MAX(frame_id)`. -/
def frameIdsFill (ids : List Int) (expectedCount : Nat) : Except GlobalSimilarityError Bool :=
  if expectedCount = 0 then .ok (decide (ids.min? = none ∧ ids.max? = none))
  else if ids.min? ≠ some 0 then .ok false
  else do
    let maximum ← toSqlU64 (expectedCount - 1) "maximum frame id"
    .ok (decide (ids.max? = some maximum))

/-- The groups of `GROUP BY frame_id HAVING bands != ?1`. -/
def wrongBandCounts (bands : List BandRow) : List Int :=
  let ids := bands.map (·.frameId)
  ids.dedup.filter fun id => ids.count id ≠ indexKeysPerDescriptor

/-- `validate_rows`. -/
def validateRows (database : GlobalDatabase) (expectedCount : Nat) :
    Except GlobalSimilarityError Bool := do
  let count ← fromSqlU64 database.descriptors.length "database descriptor count"
  if count ≠ expectedCount then .ok false
  else do
    let filled ← frameIdsFill (database.descriptors.map (·.frameId)) expectedCount
    if filled = false then .ok false
    else if database.descriptors.any (·.normalizedRgb.length ≠ normalizedRgbBytes) then .ok false
    else do
      let expectedBands ← okOr (checkedMulU64 expectedCount indexKeysPerDescriptor)
        (.numericRange "hash band count")
      let bandCount ← fromSqlU64 database.bands.length "hash band count"
      if bandCount ≠ expectedBands then .ok false
      else .ok (decide (wrongBandCounts database.bands = []))

/-- `load`; the purge of a file that is refused is left out. -/
def load (file : Option GlobalDatabase) (expected : GlobalSimilarityStoreKey)
    (expectedFrameCount : Nat) : Except GlobalSimilarityError GlobalSimilarityStoreLoad :=
  match file with
  | none => .ok .missing
  | some database =>
      if database.userVersion ≠ globalSimilarityStoreSchemaVersion then .ok .invalidatedStale
      else
        match database.globalMeta with
        | none => .ok .invalidatedCorrupt
        | some metadata =>
            if metadata.state ≠ stateComplete then .ok .invalidatedIncomplete
            else
              match metadata.key with
              | none => .ok .invalidatedCorrupt
              | some persisted =>
                  if persisted ≠ expected.persisted then .ok .invalidatedStale
                  else do
                    let descriptorCount ← fromSqlU64 metadata.descriptorCount "descriptor count"
                    if descriptorCount ≠ expectedFrameCount then .ok .invalidatedCorrupt
                    else if database.quickCheck ≠ "ok" then .ok .invalidatedCorrupt
                    else do
                      let valid ← validateRows database descriptorCount
                      if valid then .ok (.reused descriptorCount) else .ok .invalidatedCorrupt

/-! ## Queries -/

/-- `read_descriptor`. -/
def readDescriptor (database : GlobalDatabase) (frameId : Nat) :
    Except GlobalSimilarityError (Option GlobalDescriptor) := do
  let id ← toSqlU64 frameId "frame id"
  match database.descriptors.find? (·.frameId == id) with
  | none => .ok none
  | some row => do
      validateDescriptorBytes row.normalizedRgb
      .ok (some ⟨frameId, BitVec.ofInt 64 row.averageHash, BitVec.ofInt 64 row.differenceHash,
        row.normalizedRgb⟩)

/-- `SELECT frame_id FROM global_hash_bands WHERE …`. -/
def lookupBand (database : GlobalDatabase) (kind band value : Int) : List Int :=
  (database.bands.filter fun row => row.kind = kind ∧ row.band = band ∧ row.value = value).map
    (·.frameId)

/-- `collect_candidate`. -/
def collectCandidate (targetFrame expectedFrameCount : Nat) (candidateIds : Finset Nat)
    (raw : Int) : Except GlobalSimilarityError (Finset Nat) := do
  ensure (0 ≤ raw) (.invalidStore ("negative candidate frame id " ++ toString raw))
  let id := raw.toNat
  ensure (id < expectedFrameCount) (.invalidStore ("candidate frame id " ++ toString id ++
    " exceeds authoritative frame count " ++ toString expectedFrameCount))
  .ok (if id ≠ targetFrame then insert id candidateIds else candidateIds)

/-- The keys of a descriptor's hash bands, in the order of the loops. -/
def bandKeys (descriptor : GlobalDescriptor) : List (Int × Int × Int) :=
  [(0, descriptor.averageHash), (1, descriptor.differenceHash)].flatMap fun kindAndHash =>
    (List.range hashBandsPerKind).map fun (band : Nat) =>
      (kindAndHash.1, (band : Int), (bandValue kindAndHash.2 band : Int))

/-- The key of a colour bucket. -/
def bucketKey (bucket : Nat) : Int × Int × Int := (2, 0, bucket)

/-- The loops over the keys and over the rows of each. -/
def collectCandidates (database : GlobalDatabase) (targetFrame expectedFrameCount : Nat)
    (keys : List (Int × Int × Int)) (candidateIds : Finset Nat) :
    Except GlobalSimilarityError (Finset Nat) :=
  (keys.flatMap fun key => lookupBand database key.1 key.2.1 key.2.2).foldlM
    (collectCandidate targetFrame expectedFrameCount) candidateIds

/-- The loop over the candidates: those that reach the minimum. -/
def confirmCandidates (database : GlobalDatabase) (target : GlobalDescriptor)
    (minimumSimilarity : Nat) : List Nat → Except GlobalSimilarityError (List GlobalSimilarityMatch)
  | [] => .ok []
  | frameId :: rest => do
      let row ← readDescriptor database frameId
      let candidate ← okOr row
        (.invalidStore ("candidate frame " ++ toString frameId ++ " has no descriptor row"))
      let similarity ← confirmationSimilarity target.normalizedRgb candidate.normalizedRgb
      let more ← confirmCandidates database target minimumSimilarity rest
      .ok (if minimumSimilarity ≤ similarity then ⟨frameId, similarity⟩ :: more else more)

/-- The comparison that the matches are sorted by is not `Greater`. -/
def rankedBefore (left right : GlobalSimilarityMatch) : Prop :=
  right.similarity < left.similarity ∨
    left.similarity = right.similarity ∧ left.frameId ≤ right.frameId

instance (left right : GlobalSimilarityMatch) : Decidable (rankedBefore left right) := by
  unfold rankedBefore
  infer_instance

/-- What `query` makes of the answer to `load`. -/
def ensureReused : GlobalSimilarityStoreLoad → Except GlobalSimilarityError Unit
  | .reused _ => .ok ()
  | .missing => .error (.notReusable "store is missing")
  | .invalidatedStale => .error (.notReusable "store was stale")
  | .invalidatedIncomplete => .error (.notReusable "store was incomplete")
  | .invalidatedCorrupt => .error (.notReusable "store was corrupt")

/-- The part of `query` that reads a database that was accepted. -/
def queryDatabase (database : GlobalDatabase) (expectedFrameCount targetFrame : Nat)
    (policy : GlobalSimilarityPolicy) : Except GlobalSimilarityError GlobalSimilarityQuery := do
  let row ← readDescriptor database targetFrame
  let target ← okOr row (.missingTarget targetFrame)
  let banded ← collectCandidates database targetFrame expectedFrameCount (bandKeys target) ∅
  let bucket ← colorBucket target.normalizedRgb
  let candidateIds ← collectCandidates database targetFrame expectedFrameCount
    ((nearbyColorBuckets bucket).map bucketKey) banded
  let found ← confirmCandidates database target policy.minimumSimilarity candidateIds.sort
  let ranked := found.mergeSort fun left right => decide (rankedBefore left right)
  .ok
    { targetFrame
      descriptorCount := expectedFrameCount
      candidateCount := candidateIds.card
      matchedCount := ranked.length
      truncated := decide (policy.maxResults < ranked.length)
      matchesFound := ranked.take policy.maxResults }

/-- `query`. -/
def query (file : Option GlobalDatabase) (expected : GlobalSimilarityStoreKey)
    (expectedFrameCount targetFrame : Nat) (policy : GlobalSimilarityPolicy) :
    Except GlobalSimilarityError GlobalSimilarityQuery := do
  let policy ← policy.validate
  let answer ← load file expected expectedFrameCount
  ensureReused answer
  -- The file is still there: `load` has just accepted it.
  let database ← okOr file (.notReusable "store is missing")
  queryDatabase database expectedFrameCount targetFrame policy

/-! ## The writer -/

/-- A writer, with what it has committed to its database. -/
structure GlobalSimilarityStoreWriter where
  database : GlobalDatabase
  nextFrameId : Nat
  pending : List GlobalDescriptor
  deriving DecidableEq, Repr

/-- `INSERT INTO global_descriptors`. -/
def insertDescriptor (row : DescriptorRow) (database : GlobalDatabase) :
    Except GlobalSimilarityError GlobalDatabase :=
  if database.descriptors.any (·.frameId = row.frameId) then .error (.sqlite .uniqueConstraint)
  else .ok { database with descriptors := database.descriptors ++ [row] }

/-- `INSERT INTO global_hash_bands`. -/
def insertBand (database : GlobalDatabase) (row : BandRow) :
    Except GlobalSimilarityError GlobalDatabase :=
  if row ∈ database.bands then .error (.sqlite .uniqueConstraint)
  else .ok { database with bands := database.bands ++ [row] }

/-- The row of a descriptor; `as i64` keeps the bits of a hash. -/
def descriptorRow (descriptor : GlobalDescriptor) (id : Int) : DescriptorRow :=
  ⟨id, descriptor.averageHash.toInt, descriptor.differenceHash.toInt, descriptor.normalizedRgb⟩

/-- The rows of the index under some keys. -/
def bandRows (keys : List (Int × Int × Int)) (id : Int) : List BandRow :=
  keys.map fun key => ⟨key.1, key.2.1, key.2.2, id⟩

/-- One round of the loop of `flush_batch`. -/
def flushDescriptor (database : GlobalDatabase) (descriptor : GlobalDescriptor) :
    Except GlobalSimilarityError GlobalDatabase := do
  let id ← toSqlU64 descriptor.frameId "frame id"
  let database ← insertDescriptor (descriptorRow descriptor id) database
  let database ← (bandRows (bandKeys descriptor) id).foldlM insertBand database
  let bucket ← colorBucket descriptor.normalizedRgb
  (bandRows [bucketKey bucket] id).foldlM insertBand database

/-- `flush_batch`: one transaction for the pending descriptors. -/
def GlobalSimilarityStoreWriter.flushBatch (writer : GlobalSimilarityStoreWriter) :
    Except GlobalSimilarityError GlobalSimilarityStoreWriter := do
  let database ← writer.pending.foldlM flushDescriptor writer.database
  .ok { writer with database, pending := [] }

/-- `append`. -/
def GlobalSimilarityStoreWriter.append (writer : GlobalSimilarityStoreWriter)
    (descriptor : GlobalDescriptor) :
    Except GlobalSimilarityError GlobalSimilarityStoreWriter := do
  ensure (descriptor.frameId = writer.nextFrameId)
    (.nonContiguousFrameIds writer.nextFrameId descriptor.frameId)
  validateDescriptorBytes descriptor.normalizedRgb
  let nextFrameId ← okOr (checkedAddU64 writer.nextFrameId 1) (.numericRange "frame id")
  let writer := { writer with pending := writer.pending ++ [descriptor], nextFrameId }
  if writeBatchDescriptors ≤ writer.pending.length then writer.flushBatch else .ok writer

/-- `finish`: the count, and the database that the rename puts in place. -/
def GlobalSimilarityStoreWriter.finish (writer : GlobalSimilarityStoreWriter) :
    Except GlobalSimilarityError (Nat × GlobalDatabase) := do
  let writer ← writer.flushBatch
  let count ← toSqlU64 writer.nextFrameId "descriptor count"
  .ok (writer.nextFrameId, { writer.database with
    globalMeta := writer.database.globalMeta.map fun metadata =>
      { metadata with state := stateComplete, descriptorCount := count } })

/-- `append` before its flush. -/
def pushDescriptor (writer : GlobalSimilarityStoreWriter) (descriptor : GlobalDescriptor) :
    Except GlobalSimilarityError GlobalSimilarityStoreWriter := do
  ensure (descriptor.frameId = writer.nextFrameId)
    (.nonContiguousFrameIds writer.nextFrameId descriptor.frameId)
  validateDescriptorBytes descriptor.normalizedRgb
  let nextFrameId ← okOr (checkedAddU64 writer.nextFrameId 1) (.numericRange "frame id")
  .ok { writer with pending := writer.pending ++ [descriptor], nextFrameId }

/-- Undisturbed, the flush follows in the same call. -/
theorem append_eq_push (writer : GlobalSimilarityStoreWriter) (descriptor : GlobalDescriptor) :
    writer.append descriptor = (do
      let writer ← pushDescriptor writer descriptor
      if writeBatchDescriptors ≤ writer.pending.length then writer.flushBatch else .ok writer) := by
  unfold GlobalSimilarityStoreWriter.append pushDescriptor
  simp only [bind_assoc, ok_bind]

/-- The update of the metadata that `finish` makes. -/
def markComplete (database : GlobalDatabase) (count : Int) : GlobalDatabase :=
  { database with
    globalMeta := database.globalMeta.map fun metadata =>
      { metadata with state := stateComplete, descriptorCount := count } }

/-- Undisturbed, `finish` is its flush and its update. -/
theorem finish_eq_markComplete (writer : GlobalSimilarityStoreWriter) :
    writer.finish = (do
      let writer ← writer.flushBatch
      let count ← toSqlU64 writer.nextFrameId "descriptor count"
      .ok (writer.nextFrameId, markComplete writer.database count)) := rfl

/-- A database with the schema and the metadata of a result that is being built. -/
def buildingDatabase (key : GlobalSimilarityStoreKey) : GlobalDatabase where
  userVersion := globalSimilarityStoreSchemaVersion
  globalMeta := some ⟨stateBuilding, some key.persisted, 0⟩
  descriptors := []
  bands := []
  quickCheck := "ok"

/-- `begin` over a building path that was purged. -/
def begin (key : GlobalSimilarityStoreKey) :
    Except GlobalSimilarityError GlobalSimilarityStoreWriter := do
  ensure (key.source.isReuseSafe = true) .unsafeSourceIdentity
  .ok ⟨buildingDatabase key, 0, []⟩

/-- The database that a writer leaves for a list of descriptors. -/
def store (key : GlobalSimilarityStoreKey) (descriptors : List GlobalDescriptor) :
    Except GlobalSimilarityError (Nat × GlobalDatabase) := do
  let writer ← begin key
  let writer ← descriptors.foldlM GlobalSimilarityStoreWriter.append writer
  writer.finish

end FrameScope.Ports.GlobalStore
