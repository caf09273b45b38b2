import FrameScope.Verified.Fallible
import FrameScope.Verified.FileSystem
import FrameScope.Ports.Core

/-!
# Storage administration

Port of `framescope-cache/src/storage_admin.rs`: the statistics of the cache root
and the operations that clear it.  The source recurses over paths that it reads
back from the file system, and so does the port: every function takes paths, and
the recursions over directories carry a fuel.  `outOfFuel` is no error of the
source; it says that a recursion was deeper than the fuel.

The file system never fails for reasons of its own here: no permissions, no
broken media, and nobody else changes the tree between two steps.
-/

namespace FrameScope.Ports.StorageClearing

open FrameScope.Verified.Fallible
open FrameScope.Verified.FileSystem
open FrameScope.Ports.Core

def frameIndexNamespace : String := "frame-index"

def previewProxyNamespace : String := "microscope-frame-cache"

inductive StorageAdminError where
  | rootIsSymlink (path : Path)
  | invalidSourceKey
  | numericOverflow
  | io (path : Path) (source : OsError)
  deriving DecidableEq, Repr

/-- Why a run did not return. -/
inductive Stop where
  | failed (error : StorageAdminError)
  | outOfFuel
  deriving DecidableEq, Repr

/-- `checked_add(..).ok_or(NumericOverflow)`. -/
def checkedAdd (a b : Nat) : Except Stop Nat :=
  okOr (checkedAddU64 a b) (.failed .numericOverflow)

structure StorageCategoryStats where
  bytes : Nat
  files : Nat
  items : Nat
  deriving DecidableEq, Repr

/-- `StorageCategoryStats::default`. -/
def StorageCategoryStats.none : StorageCategoryStats := ⟨0, 0, 0⟩

/-- `StorageCategoryStats::checked_add`. -/
def StorageCategoryStats.checkedAdd (a b : StorageCategoryStats) :
    Except Stop StorageCategoryStats := do
  let bytes ← StorageClearing.checkedAdd a.bytes b.bytes
  let files ← StorageClearing.checkedAdd a.files b.files
  let items ← StorageClearing.checkedAdd a.items b.items
  .ok { bytes, files, items }

structure FrameScopeStorageStats where
  totalBytes : Nat
  persistentIndexes : StorageCategoryStats
  previewProxy : StorageCategoryStats
  disposable : StorageCategoryStats
  indexedSources : Nat
  previewProxyEnabled : Bool
  deriving DecidableEq, Repr

inductive StorageClearScope where
  | previewProxy | persistentIndexes | disposable | all
  deriving DecidableEq, Repr

structure StorageClearReport where
  clearedBytes : Nat
  clearedFiles : Nat
  clearedItems : Nat
  deriving DecidableEq, Repr

/-- `StorageClearReport::default`. -/
def StorageClearReport.none : StorageClearReport := ⟨0, 0, 0⟩

/-- `checked_report_add`. -/
def checkedReportAdd (left right : StorageClearReport) : Except Stop StorageClearReport := do
  let clearedBytes ← checkedAdd left.clearedBytes right.clearedBytes
  let clearedFiles ← checkedAdd left.clearedFiles right.clearedFiles
  let clearedItems ← checkedAdd left.clearedItems right.clearedItems
  .ok { clearedBytes, clearedFiles, clearedItems }

structure StorageAdmin where
  root : Path
  previewProxyEnabled : Bool

section Reads

variable [LinkResolution]

/-- `symlink_metadata_optional`. -/
def symlinkMetadataOptional (t : FileTree) (path : Path) : Except Stop (Option Object) :=
  match t.symlinkMetadata path with
  | .ok metadata => .ok (some metadata)
  | .error .notFound => .ok none
  | .error source => .error (.failed (.io path source))

/-- `read_dir`. -/
def readDir (t : FileTree) (path : Path) : Except Stop (List String) :=
  (t.readDir path).mapError fun source => .failed (.io path source)

/-- `read_dir_optional`. -/
def readDirOptional (t : FileTree) (path : Path) : Except Stop (List String) :=
  match t.readDir path with
  | .ok entries => .ok entries
  | .error .notFound => .ok []
  | .error source => .error (.failed (.io path source))

/-- `entry.file_type()`, which does not follow links, is that of a directory. -/
def isDirEntry (t : FileTree) (path : Path) : Except Stop Bool :=
  match t.symlinkMetadata path with
  | .ok .dir => .ok true
  | .ok _ => .ok false
  | .error source => .error (.failed (.io path source))

/-! ## Statistics -/

/-- `stats_for_path`. -/
def statsForPath : Nat → FileTree → Path → Except Stop StorageCategoryStats
  | 0, _, _ => .error .outOfFuel
  | fuel + 1, t, path => do
      match ← symlinkMetadataOptional t path with
      | none => .ok .none
      | some .dir => do
          let entries ← readDir t path
          entries.foldlM (fun total name => do
            total.checkedAdd (← statsForPath fuel t (name :: path))) .none
      | some metadata => .ok { bytes := metadata.len, files := 1, items := 1 }

/-- The real directories among the entries. -/
def dirEntries (t : FileTree) (path : Path) : Except Stop (List String) := do
  let entries ← readDir t path
  entries.filterM fun name => isDirEntry t (name :: path)

/-- `count_indexed_sources`. -/
def countIndexedSources (t : FileTree) (indexRoot : Path) : Except Stop Nat := do
  match ← symlinkMetadataOptional t indexRoot with
  | some .dir => do
      let versions ← dirEntries t indexRoot
      let sources ← versions.mapM fun version => dirEntries t (version :: indexRoot)
      .ok sources.flatten.dedup.length
  | _ => .ok 0

/-- `is_safe_source_key`. -/
def isSafeSourceKey (sourceKey : String) : Bool :=
  let bytes := sourceKey.toUTF8.data.toList
  bytes ≠ [] && bytes.length ≤ 256 && bytes.all fun byte =>
    48 ≤ byte && byte ≤ 57 || 65 ≤ byte && byte ≤ 90 || 97 ≤ byte && byte ≤ 122 ||
      byte == 45 || byte == 95

/-- `ensure_root_safe`. -/
def StorageAdmin.ensureRootSafe (admin : StorageAdmin) (t : FileTree) : Except Stop Unit := do
  match ← symlinkMetadataOptional t admin.root with
  | some (.link _) => .error (.failed (.rootIsSymlink admin.root))
  | _ => .ok ()

/-- An entry of the root that belongs to neither namespace. -/
def isDisposable (name : String) : Bool :=
  !(name = frameIndexNamespace || name = previewProxyNamespace)

/-- `disposable_stats_unlocked`. -/
def StorageAdmin.disposableStatsUnlocked (admin : StorageAdmin) (fuel : Nat) (t : FileTree) :
    Except Stop StorageCategoryStats := do
  let entries ← readDirOptional t admin.root
  entries.foldlM (fun total name =>
    if isDisposable name then do
      let stats ← statsForPath fuel t (name :: admin.root)
      total.checkedAdd { stats with items := 1 }
    else .ok total) .none

/-- `stats_unlocked`. -/
def StorageAdmin.statsUnlocked (admin : StorageAdmin) (fuel : Nat) (t : FileTree) :
    Except Stop FrameScopeStorageStats := do
  admin.ensureRootSafe t
  if t.pathExists admin.root then
    let persistentIndexes ← statsForPath fuel t (frameIndexNamespace :: admin.root)
    let previewProxy ← statsForPath fuel t (previewProxyNamespace :: admin.root)
    let disposable ← admin.disposableStatsUnlocked fuel t
    let named ← checkedAdd persistentIndexes.bytes previewProxy.bytes
    let totalBytes ← checkedAdd named disposable.bytes
    let indexedSources ← countIndexedSources t (frameIndexNamespace :: admin.root)
    .ok { totalBytes, persistentIndexes, previewProxy, disposable, indexedSources
          previewProxyEnabled := admin.previewProxyEnabled }
  else
    .ok { totalBytes := 0, persistentIndexes := .none, previewProxy := .none, disposable := .none
          indexedSources := 0, previewProxyEnabled := admin.previewProxyEnabled }

end Reads

/-! ## Clearing -/

section Writes

variable [LinkResolution]

/-- A step that only reads the tree. -/
def reading {α : Type} (f : FileTree → Except Stop α) : EStateM Stop FileTree α := do
  ofExcept id (f (← get))

/-- A missing entry is taken for a removed one. -/
def removed (path : Path) : Except OsError FileTree → EStateM Stop FileTree Unit
  | .ok t => set t
  | .error .notFound => pure ()
  | .error source => throw (.failed (.io path source))

/-- A removal, with the match on its result. -/
def removing (path : Path) (f : FileTree → Except OsError FileTree) :
    EStateM Stop FileTree Unit := do
  removed path (f (← get))

/-- `remove_tree_without_following_symlinks`. -/
def removeTree : Nat → Path → EStateM Stop FileTree Unit
  | 0, _ => throw .outOfFuel
  | fuel + 1, path => do
      match ← reading (symlinkMetadataOptional · path) with
      | none => pure ()
      | some .dir => do
          let entries ← reading (readDir · path)
          entries.forM fun name => removeTree fuel (name :: path)
          removing path (·.removeDir path)
      | some _ => removing path (·.removeFile path)

/-- `clear_owned_path`. -/
def clearOwnedPath (fuel : Nat) (path : Path) : EStateM Stop FileTree StorageClearReport := do
  let stats ← reading (statsForPath fuel · path)
  match ← reading (symlinkMetadataOptional · path) with
  | none => pure .none
  | some _ => do
      removeTree fuel path
      pure { clearedBytes := stats.bytes, clearedFiles := stats.files
             clearedItems := max stats.items 1 }

/-- `report = checked_report_add(report, clear_owned_path(path)?)?`. -/
def clearAnother (fuel : Nat) (report : StorageClearReport) (path : Path) :
    EStateM Stop FileTree StorageClearReport := do
  let cleared ← clearOwnedPath fuel path
  ofExcept id (checkedReportAdd report cleared)

/-- `clear_disposable_unlocked`. -/
def StorageAdmin.clearDisposableUnlocked (admin : StorageAdmin) (fuel : Nat) :
    EStateM Stop FileTree StorageClearReport := do
  let entries ← reading (readDirOptional · admin.root)
  entries.foldlM (fun report name =>
    if isDisposable name then clearAnother fuel report (name :: admin.root)
    else pure report) .none

/-- `clear_all_unlocked`. -/
def StorageAdmin.clearAllUnlocked (admin : StorageAdmin) (fuel : Nat) :
    EStateM Stop FileTree StorageClearReport := do
  let entries ← reading (readDirOptional · admin.root)
  entries.foldlM (fun report name => clearAnother fuel report (name :: admin.root)) .none

/-- `clear`. -/
def StorageAdmin.clear (admin : StorageAdmin) (fuel : Nat) (scope : StorageClearScope) :
    EStateM Stop FileTree StorageClearReport := do
  reading admin.ensureRootSafe
  match scope with
  | .previewProxy => clearOwnedPath fuel (previewProxyNamespace :: admin.root)
  | .persistentIndexes => clearOwnedPath fuel (frameIndexNamespace :: admin.root)
  | .disposable => admin.clearDisposableUnlocked fuel
  | .all => admin.clearAllUnlocked fuel

/-- One version of the index in `clear_source_indexes`. -/
def clearSourceVersion (fuel : Nat) (sourceKey : String) (report : StorageClearReport)
    (version : Path) : EStateM Stop FileTree StorageClearReport := do
  if ← reading (isDirEntry · version) then
    let entries ← reading (readDir · version)
    entries.foldlM (fun report name =>
      if name = sourceKey then clearAnother fuel report (name :: version) else pure report) report
  else pure report

/-- `clear_source_indexes`. -/
def StorageAdmin.clearSourceIndexes (admin : StorageAdmin) (fuel : Nat) (sourceKey : String) :
    EStateM Stop FileTree StorageClearReport := do
  if isSafeSourceKey sourceKey then
    reading admin.ensureRootSafe
    let indexRoot := frameIndexNamespace :: admin.root
    match ← reading (symlinkMetadataOptional · indexRoot) with
    | some .dir => do
        let versions ← reading (readDir · indexRoot)
        versions.foldlM (fun report name =>
          clearSourceVersion fuel sourceKey report (name :: indexRoot)) .none
    | _ => pure .none
  else throw (.failed .invalidSourceKey)

end Writes

end FrameScope.Ports.StorageClearing
