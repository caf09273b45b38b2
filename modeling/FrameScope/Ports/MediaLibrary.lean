import FrameScope.Verified.Newest
import FrameScope.Ports.Core

/-!
# The media library

Port of `RecentVideoHistory.kt`: the records of opened videos, kept in a bounded
list that is sorted by the time of opening, and their reconciliation with the
catalog of persistent indexes.  The repository serialises its calls with a mutex,
so a call is one step on the stored list.  The store is the list that it saves and
loads; the clock, the id factory, the access checks and the catalog are arguments
of the calls that read them.
-/

namespace FrameScope.Ports.MediaLibrary

open FrameScope.Verified.Newest
open FrameScope.Ports.Core

/-! ## Records -/

inductive VideoUriPermissionStatus where
  | persisted | transient | lost
  deriving DecidableEq, Repr

inductive RecentVideoAvailability where
  | available | permissionLost | missingDocument | sourceUnlinked
  deriving DecidableEq, Repr

inductive RecentVideoIndexStatus where
  | unknown | available | inProgress | missing | stale
  deriving DecidableEq, Repr

structure RecentVideoRecord where
  id : String
  contentUri : Option String
  permissionStatus : VideoUriPermissionStatus
  availability : RecentVideoAvailability
  displayName : String
  durationUs : Option Int
  width : Int
  height : Int
  codec : Option String
  container : Option String
  lastOpenedEpochMs : Int
  lastViewedFrameId : Option Int
  lastViewedTimestampUs : Option Int
  indexStatus : RecentVideoIndexStatus
  thumbnailUri : Option String
  extractionCount : Option Int
  sourceIdentityKey : Option String
  indexStreamIndex : Option Int
  indexId : Option String
  indexRelativePath : Option String
  indexedFrameCount : Option Int
  indexLastModifiedEpochMs : Option Int
  deriving DecidableEq, Repr

/-- The index that the record is bound to: its source key and stream index. -/
def RecentVideoRecord.binding (record : RecentVideoRecord) : Option (String × Int) :=
  match record.sourceIdentityKey, record.indexStreamIndex with
  | some sourceKey, some streamIndex => some (sourceKey, streamIndex)
  | _, _ => none

/-- What a record takes from an inspected video. -/
structure InspectedVideo where
  displayName : String
  durationUs : Option Int
  width : Int
  height : Int
  codec : Option String
  container : Option String
  deriving DecidableEq, Repr

inductive PersistentFrameIndexStatus where
  | indexed | inProgress | stale
  deriving DecidableEq, Repr

def PersistentFrameIndexStatus.toRecentStatus :
    PersistentFrameIndexStatus → RecentVideoIndexStatus
  | .indexed => .available
  | .inProgress => .inProgress
  | .stale => .stale

structure PersistentFrameIndexDescriptor where
  sourceKey : String
  streamIndex : Int
  relativePath : String
  status : PersistentFrameIndexStatus
  indexedFrames : Int
  frameCount : Option Int
  lastModifiedEpochMs : Option Int
  deriving DecidableEq, Repr

def PersistentFrameIndexDescriptor.key (descriptor : PersistentFrameIndexDescriptor) :
    String × Int :=
  (descriptor.sourceKey, descriptor.streamIndex)

structure SessionIndexBinding where
  sourceKey : String
  streamIndex : Int
  relativePath : String
  status : PersistentFrameIndexStatus
  indexedFrames : Int
  frameCount : Option Int
  deriving DecidableEq, Repr

/-- `RecentVideoAccessChecker`. -/
structure RecentVideoAccessChecker where
  availability : String → RecentVideoAvailability
  hasPersistedReadPermission : String → Bool

/-- `currentCatalogOrNull`: nothing when the catalog cannot be read. -/
abbrev Catalog := Option (List PersistentFrameIndexDescriptor)

inductive MediaLibraryError where
  | contentUriRequired
  | recordIdBlank
  | recordMissing
  deriving DecidableEq, Repr

def MediaLibraryError.toText : MediaLibraryError → String
  | .contentUriRequired => "Media-library source records accept only content:// URIs."
  | .recordIdBlank => "Media-library record id must not be blank."
  | .recordMissing => "Media-library record no longer exists."

/-! ## Helpers -/

def isContentUri (value : String) : Bool :=
  "content://".toList.isPrefixOf value.toList && "content://".toList.length < value.toList.length

/-- `Char.isWhitespace`. -/
def isWhitespace (c : Char) : Bool :=
  let code := c.toNat
  (9 ≤ code && code ≤ 13) || (28 ≤ code && code ≤ 32) || code = 160 || code = 5760 ||
    (8192 ≤ code && code ≤ 8202) || code = 8232 || code = 8233 || code = 8239 || code = 8287 ||
    code = 12288

def isNotBlank (value : String) : Bool := value.toList.any fun c => !isWhitespace c

def indexRecordId (sourceKey : String) (streamIndex : Int) : String :=
  "index:" ++ sourceKey ++ ":" ++ toString streamIndex

def indexOnlyRecord (descriptor : PersistentFrameIndexDescriptor) : RecentVideoRecord where
  id := indexRecordId descriptor.sourceKey descriptor.streamIndex
  contentUri := none
  permissionStatus := .lost
  availability := .sourceUnlinked
  displayName := "Indexed video " ++ String.ofList (descriptor.sourceKey.toList.take 8)
  durationUs := none
  width := 0
  height := 0
  codec := none
  container := none
  lastOpenedEpochMs := 0
  lastViewedFrameId := none
  lastViewedTimestampUs := none
  indexStatus := descriptor.status.toRecentStatus
  thumbnailUri := none
  extractionCount := none
  sourceIdentityKey := some descriptor.sourceKey
  indexStreamIndex := some descriptor.streamIndex
  indexId := some (indexRecordId descriptor.sourceKey descriptor.streamIndex)
  indexRelativePath := some descriptor.relativePath
  indexedFrameCount := some (descriptor.frameCount.getD descriptor.indexedFrames)
  indexLastModifiedEpochMs := descriptor.lastModifiedEpochMs

/-- A fresh open is unbound, whatever the record before it was. -/
def recentVideoRecord (id contentUri : String) (video : InspectedVideo)
    (permissionStatus : VideoUriPermissionStatus) (openedAtEpochMs : Int)
    (previous : Option RecentVideoRecord) : RecentVideoRecord where
  id
  contentUri := some contentUri
  permissionStatus
  availability := .available
  displayName := video.displayName
  durationUs := video.durationUs
  width := video.width
  height := video.height
  codec := video.codec
  container := video.container
  lastOpenedEpochMs := openedAtEpochMs
  lastViewedFrameId := previous.bind (·.lastViewedFrameId)
  lastViewedTimestampUs := previous.bind (·.lastViewedTimestampUs)
  indexStatus := .unknown
  thumbnailUri := previous.bind (·.thumbnailUri)
  extractionCount := previous.bind (·.extractionCount)
  sourceIdentityKey := none
  indexStreamIndex := none
  indexId := none
  indexRelativePath := none
  indexedFrameCount := none
  indexLastModifiedEpochMs := none

def maxRecentItems : Nat := 100

/-- `normalizedStored`. -/
def normalizedStored (entries : List RecentVideoRecord) : List RecentVideoRecord :=
  keepNewest (·.lastOpenedEpochMs) maxRecentItems
    (distinctBy (·.id) (entries.filter (·.contentUri.isSome)))

/-- The UTF-16 units of a string, by which Kotlin compares. -/
def utf16Units (value : String) : List Nat :=
  value.toList.flatMap fun c =>
    if c.toNat < 65536 then [c.toNat]
    else [55296 + (c.toNat - 65536) / 1024, 56320 + (c.toNat - 65536) % 1024]

def libraryTime (record : RecentVideoRecord) : Int :=
  max record.lastOpenedEpochMs (record.indexLastModifiedEpochMs.getD 0)

/-- `sortLibrary`: latest first, equal times by id. -/
def sortLibrary (entries : List RecentVideoRecord) : List RecentVideoRecord :=
  entries.insertionSort fun a b => libraryTime b < libraryTime a ∨
    libraryTime a = libraryTime b ∧ ¬utf16Units b.id < utf16Units a.id

/-! ## Calls -/

section Calls

variable (stored : List RecentVideoRecord)

def saveUpsert (record : RecentVideoRecord) : List RecentVideoRecord :=
  normalizedStored
    (stored.filter (fun other => !(other.id = record.id || other.contentUri = record.contentUri)) ++
      [record])

/-- The record and the list that is saved. -/
def recordOpened (contentUri : String) (video : InspectedVideo)
    (permissionStatus : VideoUriPermissionStatus) (now : Int) (freshId : String) :
    Except MediaLibraryError (RecentVideoRecord × List RecentVideoRecord) := do
  ensure (isContentUri contentUri = true) .contentUriRequired
  let existing := stored.find? fun record => record.contentUri = some contentUri
  let record := recentVideoRecord ((existing.map (·.id)).getD freshId) contentUri video
    permissionStatus now existing
  .ok (record, saveUpsert stored record)

/-- The record that a reselection is of: a stored one or an index-only row. -/
def previousRecord (catalog : Catalog) (recordId : String) : Option RecentVideoRecord :=
  (stored.find? fun record => record.id = recordId).or
    (catalog.bind fun descriptors => (descriptors.find? fun descriptor =>
      indexRecordId descriptor.sourceKey descriptor.streamIndex = recordId).map indexOnlyRecord)

def recordReselected (recordId contentUri : String) (video : InspectedVideo)
    (permissionStatus : VideoUriPermissionStatus) (now : Int) (freshId : String)
    (catalog : Catalog) : Except MediaLibraryError (RecentVideoRecord × List RecentVideoRecord) := do
  ensure (isNotBlank recordId = true) .recordIdBlank
  ensure (isContentUri contentUri = true) .contentUriRequired
  let previous ← okOr (previousRecord stored catalog recordId) .recordMissing
  let record := recentVideoRecord (if previous.contentUri.isNone then freshId else previous.id)
    contentUri video permissionStatus now (some previous)
  let deduplicated := stored.filter fun other =>
    !(other.id = recordId || other.contentUri = some contentUri)
  .ok (record, normalizedStored (deduplicated ++ [record]))

def updatePosition (contentUri : String) (frameId timestampUs : Option Int) :
    List RecentVideoRecord :=
  if frameId.any (· < 0) then stored
  else if stored.any (fun record => record.contentUri = some contentUri) then
    normalizedStored (stored.map fun record =>
      if record.contentUri = some contentUri then
        { record with lastViewedFrameId := frameId, lastViewedTimestampUs := timestampUs }
      else record)
  else stored

/-- The record with the index that the session has verified. -/
def boundRecord (target : RecentVideoRecord) (binding : SessionIndexBinding) :
    RecentVideoRecord :=
  { target with
    sourceIdentityKey := some binding.sourceKey
    indexStreamIndex := some binding.streamIndex
    indexId := some (indexRecordId binding.sourceKey binding.streamIndex)
    indexRelativePath := some binding.relativePath
    indexStatus := binding.status.toRecentStatus
    indexedFrameCount := some (binding.frameCount.getD binding.indexedFrames) }

def updateIndexBinding (contentUri : String) (binding : SessionIndexBinding) :
    Except MediaLibraryError (List RecentVideoRecord) := do
  ensure (isContentUri contentUri = true) .contentUriRequired
  match stored.find? (fun record => record.contentUri = some contentUri) with
  | none => .ok stored
  | some target =>
      let deduplicated := stored.filter fun record =>
        !(record.id = target.id || (record.sourceIdentityKey = some binding.sourceKey &&
          record.indexStreamIndex = some binding.streamIndex))
      .ok (normalizedStored (deduplicated ++ [boundRecord target binding]))

def remove (recordId : String) : List RecentVideoRecord :=
  let updated := stored.filter fun record => record.id ≠ recordId
  if updated.length ≠ stored.length then normalizedStored updated else stored

/-! ### The listing -/

/-- A stored record after its access has been checked again. -/
def refreshRecord (checker : RecentVideoAccessChecker) (record : RecentVideoRecord) :
    RecentVideoRecord :=
  match record.contentUri with
  | none => record
  | some contentUri =>
      let availability := checker.availability contentUri
      { record with
        availability
        permissionStatus :=
          if availability = .permissionLost then .lost
          else if checker.hasPersistedReadPermission contentUri then .persisted
          else .transient }

/-- A bound record after its index has been looked up; of descriptors with one key
the last one counts. -/
def reconcileRecord (descriptors : List PersistentFrameIndexDescriptor)
    (record : RecentVideoRecord) : RecentVideoRecord :=
  match record.binding with
  | none => record
  | some key =>
      match descriptors.reverse.find? (fun descriptor => descriptor.key = key) with
      | none =>
          { record with
            indexStatus := .missing
            indexRelativePath := none
            indexedFrameCount := none
            indexLastModifiedEpochMs := none }
      | some descriptor =>
          { record with
            indexId := some (indexRecordId descriptor.sourceKey descriptor.streamIndex)
            indexRelativePath := some descriptor.relativePath
            indexStatus := descriptor.status.toRecentStatus
            indexedFrameCount := some (descriptor.frameCount.getD descriptor.indexedFrames)
            indexLastModifiedEpochMs := descriptor.lastModifiedEpochMs }

/-- The descriptors that no record is bound to, as rows. -/
def indexOnlyRows (descriptors : List PersistentFrameIndexDescriptor)
    (records : List RecentVideoRecord) : List RecentVideoRecord :=
  let represented := records.filterMap (·.binding)
  (descriptors.filter fun descriptor => !represented.contains descriptor.key).map indexOnlyRecord

/-- `libraryEntries`: the rows and the list that is stored afterwards. -/
def libraryEntries (refreshAccess : Bool) (checker : RecentVideoAccessChecker)
    (catalog : Catalog) : List RecentVideoRecord × List RecentVideoRecord :=
  let loaded := normalizedStored stored
  let refreshed := if refreshAccess then loaded.map (refreshRecord checker) else loaded
  let saved := if refreshed ≠ loaded then refreshed else stored
  match catalog with
  | none => (sortLibrary refreshed, saved)
  | some descriptors =>
      let reconciled := refreshed.map (reconcileRecord descriptors)
      (sortLibrary (reconciled ++ indexOnlyRows descriptors reconciled),
        if reconciled ≠ refreshed then normalizedStored reconciled else saved)

end Calls

/-! ## Runs -/

/-- The stored list, the record that the last call returned and the rows that it
listed. -/
structure LibraryState where
  stored : List RecentVideoRecord
  returned : Option RecentVideoRecord
  listed : Option (List PersistentFrameIndexDescriptor × List RecentVideoRecord)
  deriving DecidableEq, Repr

inductive LibraryOp where
  | recordOpened (contentUri : String) (video : InspectedVideo)
      (permissionStatus : VideoUriPermissionStatus) (now : Int) (freshId : String)
  | recordReselected (recordId contentUri : String) (video : InspectedVideo)
      (permissionStatus : VideoUriPermissionStatus) (now : Int) (freshId : String)
      (catalog : Catalog)
  | updatePosition (contentUri : String) (frameId timestampUs : Option Int)
  | updateIndexBinding (contentUri : String) (binding : SessionIndexBinding)
  | remove (recordId : String)
  | clear
  | entries (refreshAccess : Bool) (checker : RecentVideoAccessChecker) (catalog : Catalog)

def LibraryState.empty : LibraryState := ⟨[], none, none⟩

/-- After a call that returns no record. -/
def LibraryState.save (stored : List RecentVideoRecord) : LibraryState := ⟨stored, none, none⟩

/-- After a call that returns a record, or throws and saves nothing. -/
def LibraryState.record (s : LibraryState) :
    Except MediaLibraryError (RecentVideoRecord × List RecentVideoRecord) → LibraryState
  | .error _ => .save s.stored
  | .ok result => ⟨result.2, some result.1, none⟩

def applyOp (s : LibraryState) : LibraryOp → LibraryState
  | .recordOpened contentUri video permissionStatus now freshId =>
      s.record (recordOpened s.stored contentUri video permissionStatus now freshId)
  | .recordReselected recordId contentUri video permissionStatus now freshId catalog =>
      s.record (recordReselected s.stored recordId contentUri video permissionStatus now freshId
        catalog)
  | .updatePosition contentUri frameId timestampUs =>
      .save (updatePosition s.stored contentUri frameId timestampUs)
  | .updateIndexBinding contentUri binding =>
      match updateIndexBinding s.stored contentUri binding with
      | .error _ => .save s.stored
      | .ok stored => .save stored
  | .remove recordId => .save (remove s.stored recordId)
  | .clear => .save []
  | .entries refreshAccess checker catalog =>
      let result := libraryEntries s.stored refreshAccess checker catalog
      ⟨result.2, none, some (catalog.getD [], result.1)⟩

end FrameScope.Ports.MediaLibrary
