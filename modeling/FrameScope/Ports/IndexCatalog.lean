import FrameScope.Ports.FrameIndexStore
import FrameScope.Verified.Preference

/-!
# The frame-index catalog

Port of `framescope-cache/src/index_catalog.rs`: the walk over the version,
source and database entries below the index root, the cheap check of one
database and the list of descriptors.

A directory is the list of its entries in the order in which the file system
returns them.  A database file holds its tables when SQLite can open and query
it, and nothing otherwise; whichever query fails, the descriptor is the same.
-/

namespace FrameScope.Ports.IndexCatalog

open FrameScope.Ports.Core
open FrameScope.Ports.FrameIndexModel
open FrameScope.Ports.SourceBinding
open FrameScope.Ports.FrameIndexStore
open FrameScope.Verified

/-! ## Entries of the storage directory -/

/-- What a directory entry is, symbolic links not followed. -/
inductive FileType
  | file
  | dir
  | symlink
  | other
  deriving DecidableEq, Repr

/-- An entry of a source directory. -/
structure DatabaseEntry where
  fileName : String
  fileType : FileType
  /-- Milliseconds since the epoch, when the file system tells. -/
  modified : Option Nat
  database : Option Database
  deriving DecidableEq, Repr

/-- An entry of a version directory. -/
structure SourceEntry where
  fileName : String
  fileType : FileType
  databases : List DatabaseEntry
  deriving DecidableEq, Repr

/-- An entry of the index root. -/
structure VersionEntry where
  fileName : String
  fileType : FileType
  sources : List SourceEntry
  deriving DecidableEq, Repr

/-- The cache root and what stands under the index namespace. -/
structure CacheRoot where
  rootType : Option FileType
  indexType : Option FileType
  versions : List VersionEntry
  deriving DecidableEq, Repr

/-! ## Descriptors -/

inductive PersistentFrameIndexStatus
  | indexed
  | inProgress
  | stale
  deriving DecidableEq, Repr

structure PersistentFrameIndexDescriptor where
  sourceKey : String
  streamIndex : Nat
  relativePath : String
  status : PersistentFrameIndexStatus
  indexedFrames : Nat
  frameCount : Option Nat
  lastModifiedEpochMs : Option Nat
  deriving DecidableEq, Repr

inductive FrameIndexCatalogError
  | rootIsSymlink
  deriving DecidableEq, Repr

structure CatalogCandidate where
  descriptor : PersistentFrameIndexDescriptor
  versionIsCurrent : Bool
  deriving DecidableEq, Repr

def frameIndexNamespace : String := "frame-index"

/-- The version directory of the current schema. -/
def currentVersion : String := "v" ++ toString frameIndexSchemaVersion

/-! ## Names -/

/-- `stream_index_from_name`. -/
def streamIndexFromName (name : String) : Option Nat := do
  let rest ← name.toList.dropPrefix? "stream-".toList
  let digits ← rest.dropSuffix? ".sqlite3".toList
  parseU32 digits

/-- `is_safe_source_key` of the catalog. -/
def isSafeSourceKey (sourceKey : String) : Bool :=
  sourceKey.toList ≠ [] &&
    !("unverifiable-".toList.isPrefixOf sourceKey.toList) &&
    sourceKey.utf8ByteSize ≤ 256 &&
    sourceKey.toList.all fun c => c.isAlphanum || c == '-' || c == '_'

/-- `path_to_wire` of a database path below the root. -/
def pathToWire (components : List String) : String :=
  String.ofList (List.intercalate ['/'] (components.map String.toList))

/-- `source_binding_matches_current`. -/
def sourceBindingMatchesCurrent (value expectedSourceKey : String) : Bool :=
  let (first, rest) := splitFirst ':' value.toList
  let generation := (stripChar 't' first).bind parseU32
  let (second, stableKey) :=
    match rest with
    | none => (([] : List Char), none)
    | some rest => splitFirst ':' rest
  let seekSafety := (stripChar 's' second).bind parseI64
  generation == some frameTimelineContractGeneration &&
    (seekSafety == some 0 || seekSafety == some 1) &&
    stableKey == some expectedSourceKey.toList

/-! ## One database -/

/-- `u64::try_from` of an `i64`. -/
def u64TryFrom (value : Int) : Option Nat :=
  if 0 ≤ value then some value.toNat else none

/-- The conversion of the nullable `frame_count`. -/
def frameCountTryFrom : Option Int → Option (Option Nat)
  | some value => (u64TryFrom value).map some
  | none => some none

/-- `row.get::<_, Option<i64>>`. -/
def getI64 : Option Int → Option (Option Int)
  | none => some none
  | some value => if InI64 value then some (some value) else none

/-- The columns that `read_descriptor` takes over from an acceptable database. -/
structure StoredProgress where
  status : PersistentFrameIndexStatus
  indexedFrames : Nat
  frameCount : Option Nat
  deriving DecidableEq, Repr

/-- The row count and the range of the frame ids are those of a zero-based
sequence. -/
def isContiguous (indexedFrames rowCount : Nat) (minFrame maxFrame : Option Int) : Bool :=
  rowCount == indexedFrames &&
    if indexedFrames = 0 then minFrame.isNone && maxFrame.isNone
    else minFrame == some 0 && maxFrame.bind u64TryFrom == some (indexedFrames - 1)

/-- The status that a lifecycle column and the counts stand for. -/
def statusOf (lifecycle : Int) (indexedFrames : Nat) (frameCount : Option Nat) :
    PersistentFrameIndexStatus :=
  if (lifecycle = 1 ∨ lifecycle = 2) ∧ frameCount.isNone then .inProgress
  else if lifecycle = 3 ∧ frameCount = some indexedFrames then .indexed
  else .stale

/-- The queries and checks of `read_descriptor`; at the first that fails the
descriptor keeps its defaults. -/
def readProgress (database : Option Database) (sourceKey : String) : Option StoredProgress := do
  let database ← database
  let columns ← database.indexMeta
  guard (sourceBindingMatchesCurrent columns.sourceKey sourceKey)
  let indexedFrames ← u64TryFrom columns.indexedFrames
  let frameCount ← frameCountTryFrom columns.frameCount
  let frames := database.frameIndex.map (·.frameIndex)
  let minFrame ← getI64 frames.min?
  let maxFrame ← getI64 frames.max?
  guard (isContiguous indexedFrames frames.length minFrame maxFrame)
  some
    { status := statusOf columns.lifecycle indexedFrames frameCount
      indexedFrames
      frameCount }

/-- `read_descriptor`. -/
def readDescriptor (relativePath : String) (file : DatabaseEntry) (sourceKey : String)
    (streamIndex : Nat) (versionIsCurrent : Bool) : PersistentFrameIndexDescriptor :=
  let descriptor : PersistentFrameIndexDescriptor :=
    { sourceKey
      streamIndex
      relativePath
      status := .stale
      indexedFrames := 0
      frameCount := none
      lastModifiedEpochMs := file.modified.filter (· < 2 ^ 64) }
  if !versionIsCurrent then descriptor
  else match readProgress file.database sourceKey with
    | none => descriptor
    | some progress =>
        { descriptor with
          status := progress.status
          indexedFrames := progress.indexedFrames
          frameCount := progress.frameCount }

/-! ## The walk -/

/-- The key under which the map of candidates holds a descriptor. -/
def CatalogCandidate.key (candidate : CatalogCandidate) : String × Nat :=
  (candidate.descriptor.sourceKey, candidate.descriptor.streamIndex)

/-- The map of candidates after one more descriptor: the first one of a key,
which one of the current version replaces when it is not. -/
def insertCandidate (candidates : List CatalogCandidate) (candidate : CatalogCandidate) :
    List CatalogCandidate :=
  Preference.settle CatalogCandidate.key CatalogCandidate.versionIsCurrent candidates candidate

/-- The innermost loop body: one entry of a source directory. -/
def visitDatabase (version : VersionEntry) (source : SourceEntry)
    (candidates : List CatalogCandidate) (file : DatabaseEntry) : List CatalogCandidate :=
  if file.fileType ≠ .file then candidates
  else match streamIndexFromName file.fileName with
    | none => candidates
    | some streamIndex =>
        let versionIsCurrent := version.fileName == currentVersion
        let relativePath := pathToWire
          [frameIndexNamespace, version.fileName, source.fileName, file.fileName]
        insertCandidate candidates
          ⟨readDescriptor relativePath file source.fileName streamIndex versionIsCurrent,
            versionIsCurrent⟩

/-- The loop body over the entries of a version directory. -/
def visitSource (version : VersionEntry) (candidates : List CatalogCandidate)
    (source : SourceEntry) : List CatalogCandidate :=
  if source.fileType ≠ .dir then candidates
  else if !isSafeSourceKey source.fileName then candidates
  else source.databases.foldl (visitDatabase version source) candidates

/-- The loop body over the entries of the index root. -/
def visitVersion (candidates : List CatalogCandidate) (version : VersionEntry) :
    List CatalogCandidate :=
  if version.fileType ≠ .dir then candidates
  else version.sources.foldl (visitSource version) candidates

/-- The text and numbers that descriptors are sorted by. -/
def PersistentFrameIndexDescriptor.sortKey (descriptor : PersistentFrameIndexDescriptor) :
    String ×ₗ Nat ×ₗ String :=
  toLex (descriptor.sourceKey, toLex (descriptor.streamIndex, descriptor.relativePath))

/-- The comparison of `entries.sort_by` is not `Greater`. -/
def sortsBefore (left right : PersistentFrameIndexDescriptor) : Bool :=
  decide (left.sortKey ≤ right.sortKey)

/-- `FrameIndexCatalog::entries`. -/
def entries (root : CacheRoot) :
    Except FrameIndexCatalogError (List PersistentFrameIndexDescriptor) :=
  if root.rootType = some .symlink then .error .rootIsSymlink
  else if root.indexType ≠ some .dir then .ok []
  else
    let candidates := root.versions.foldl visitVersion []
    .ok ((candidates.map (·.descriptor)).mergeSort sortsBefore)

end FrameScope.Ports.IndexCatalog
