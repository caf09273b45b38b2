import FrameScope.Ports.FrameCache

/-!
# The disk proxy cache

Port of `framescope-cache/src/disk_cache.rs` over a directory of regular files.
A path is the list of its components below the versioned cache root; a
directory exists where some file lies below it.  What the operating system
decides comes with each operation as a `Moment`: the order in which `read_dir`
lists the files and the modification time of a file that is written.

The temporary file of an insertion is renamed before the call returns, so it
does not show.  I/O failures of single calls (permissions, a full disk) are not
modelled; a file where a directory is needed, or the other way round, is.
-/

namespace FrameScope.Ports.DiskCache

open FrameScope.Ports.Core
open FrameScope.Ports.SourceBinding
open FrameScope.Ports.FrameCache

/-- `MAX_PROXY_ENTRY_BYTES`. -/
def maxProxyEntryBytes : Nat := 64 * 1024 * 1024

inductive ProxyFormat where
  | jpeg | webP
  deriving DecidableEq, Repr

def ProxyFormat.extension : ProxyFormat → String
  | .jpeg => "jpg"
  | .webP => "webp"

/-- `ProxyFormat::validate`: the magic bytes of the format. -/
def ProxyFormat.validate (format : ProxyFormat) (bytes : List UInt8) : Bool :=
  match format with
  | .jpeg => decide (3 ≤ bytes.length) && bytes.take 3 == [0xff, 0xd8, 0xff]
  | .webP =>
      decide (12 ≤ bytes.length) && bytes.take 4 == [0x52, 0x49, 0x46, 0x46] &&
        (bytes.drop 8).take 4 == [0x57, 0x45, 0x42, 0x50]

structure ProxyFrame where
  key : FrameCacheKey
  format : ProxyFormat
  bytes : List UInt8
  deriving DecidableEq, Repr

structure DiskCacheStats where
  hits : Nat
  misses : Nat
  insertions : Nat
  evictions : Nat
  corruptEntries : Nat
  residentBytes : Nat
  residentFiles : Nat
  deriving DecidableEq, Repr

inductive DiskInsertResult where
  | inserted | alreadyPresent | tooLarge
  deriving DecidableEq, Repr

inductive DiskCacheError where
  | invalidProxy (format : ProxyFormat)
  | io (detail : String)
  deriving DecidableEq, Repr

def ProxyFormat.toText : ProxyFormat → String
  | .jpeg => "Jpeg"
  | .webP => "WebP"

def DiskCacheError.toText : DiskCacheError → String
  | .invalidProxy format => "invalid " ++ format.toText ++ " proxy payload"
  | .io detail => "disk proxy cache I/O failed: " ++ detail

/-! ## The directory -/

structure StoredFile where
  path : List String
  bytes : List UInt8
  modified : Option Nat
  deriving DecidableEq, Repr

def StoredFile.len (f : StoredFile) : Nat := f.bytes.length

/-- `Path::extension` of a file name: what follows its last dot, unless the dot
is missing or comes first. -/
def extensionOf (name : List Char) : Option (List Char) :=
  match name.reverse.dropWhile (· ≠ '.') with
  | [] => none
  | [_] => none
  | _ => some (name.reverse.takeWhile (· ≠ '.')).reverse

def fileExtension (path : List String) : Option (List Char) :=
  path.getLast?.bind fun name => extensionOf name.toList

/-- The files that `collect_proxy_files` counts. -/
def StoredFile.isProxy (f : StoredFile) : Bool :=
  decide (fileExtension f.path = some "jpg".toList ∨ fileExtension f.path = some "webp".toList)

/-- `is_temporary`. -/
def StoredFile.isTemporary (f : StoredFile) : Bool :=
  decide (fileExtension f.path = some "tmp".toList)

def proxyFiles (files : List StoredFile) : List StoredFile := files.filter (·.isProxy)

/-- The bytes of the proxy files. -/
def proxyBytes (files : List StoredFile) : Nat := ((proxyFiles files).map (·.len)).sum

def removeFile (path : List String) (files : List StoredFile) : List StoredFile :=
  files.filter fun f => f.path ≠ path

/-- What the operating system decides about one operation. -/
structure Moment where
  modified : Option Nat
  listing : List StoredFile → List StoredFile
  listing_perm : ∀ files, (listing files).Perm files

/-- A file stands where the path needs a directory. -/
def throughFile (files : List StoredFile) (path : List String) : Bool :=
  files.any fun f => f.path.isPrefixOf path && f.path ≠ path

/-- A directory stands at the path. -/
def isDirectory (files : List StoredFile) (path : List String) : Bool :=
  files.any fun f => path.isPrefixOf f.path && f.path ≠ path

/-! ## The cache -/

structure DiskProxyCache where
  budgetBytes : Nat
  stats : DiskCacheStats
  files : List StoredFile
  deriving DecidableEq, Repr

/-- `entry_path`. -/
def entryPath (key : FrameCacheKey) (format : ProxyFormat) : List String :=
  [key.sourceKey, toString key.streamIndex, toString key.frameId ++ "." ++ format.extension]

/-- `File::open` and the read of a whole entry: nothing there, a file, or a path
that cannot be read as a file. -/
def openEntry (files : List StoredFile) (path : List String) :
    Except DiskCacheError (Option StoredFile) :=
  if throughFile files path then .error (.io "not a directory")
  else if isDirectory files path then .error (.io "is a directory")
  else .ok (files.find? fun f => f.path = path)

/-- `remove_corrupt_entry` of a file that is there. -/
def DiskProxyCache.removeCorruptEntry (cache : DiskProxyCache) (file : StoredFile) :
    DiskProxyCache :=
  { cache with
    files := removeFile file.path cache.files
    stats := { cache.stats with
      corruptEntries := saturatingAddU64 cache.stats.corruptEntries 1
      residentBytes := cache.stats.residentBytes - file.len
      residentFiles :=
        if 0 < file.len then cache.stats.residentFiles - 1 else cache.stats.residentFiles } }

/-- The checks a stored entry has to pass to be a hit. -/
def DiskProxyCache.usable (cache : DiskProxyCache) (format : ProxyFormat) (file : StoredFile) :
    Bool :=
  decide (file.len ≤ cache.budgetBytes) && decide (file.len ≤ maxProxyEntryBytes) &&
    format.validate file.bytes

/-- The loop of `get` over the formats. -/
def DiskProxyCache.getFormats (key : FrameCacheKey) :
    List ProxyFormat → DiskProxyCache →
      Except DiskCacheError (Option ProxyFrame × DiskProxyCache)
  | [], cache =>
      .ok (none, { cache with
        stats := { cache.stats with misses := saturatingAddU64 cache.stats.misses 1 } })
  | format :: rest, cache => do
      match ← openEntry cache.files (entryPath key format) with
      | none => getFormats key rest cache
      | some file =>
          if cache.usable format file then
            .ok (some ⟨key, format, file.bytes⟩, { cache with
              stats := { cache.stats with hits := saturatingAddU64 cache.stats.hits 1 } })
          else getFormats key rest (cache.removeCorruptEntry file)

/-- `get`. -/
def DiskProxyCache.get (cache : DiskProxyCache) (key : FrameCacheKey) :
    Except DiskCacheError (Option ProxyFrame × DiskProxyCache) :=
  getFormats key [.webP, .jpeg] cache

/-- `compare_modified` is not `Greater`. -/
def notLater (a b : Option Nat) : Bool :=
  match a, b with
  | some a, some b => decide (a ≤ b)
  | none, _ => true
  | some _, none => false

/-- Records what is resident. -/
def DiskProxyCache.setResident (cache : DiskProxyCache) (bytes count : Nat) : DiskProxyCache :=
  { cache with stats := { cache.stats with residentBytes := bytes, residentFiles := count } }

/-- One eviction; the bytes are recorded when the loop is over. -/
def DiskProxyCache.evictFile (cache : DiskProxyCache) (entry : StoredFile) : DiskProxyCache :=
  { cache with
    files := removeFile entry.path cache.files
    stats := { cache.stats with
      residentFiles := cache.stats.residentFiles - 1
      evictions := saturatingAddU64 cache.stats.evictions 1 } }

/-- The loop of `evict_to_budget` over the files, oldest first. -/
def evictFiles (budgetBytes : Nat) : List StoredFile → Nat → DiskProxyCache → Nat × DiskProxyCache
  | [], resident, cache => (resident, cache)
  | entry :: rest, resident, cache =>
      if resident ≤ budgetBytes then (resident, cache)
      else evictFiles budgetBytes rest (resident - entry.len) (cache.evictFile entry)

/-- The `checked_add` over the lengths. -/
def checkedTotal (files : List StoredFile) : Except DiskCacheError Nat :=
  if proxyBytes files < 2 ^ 64 then .ok (proxyBytes files)
  else .error (.io "proxy cache byte count overflow")

/-- `evict_to_budget`. -/
def DiskProxyCache.evictToBudget (cache : DiskProxyCache) (moment : Moment) :
    Except DiskCacheError DiskProxyCache := do
  let entries := proxyFiles (moment.listing cache.files)
  let total ← checkedTotal (moment.listing cache.files)
  let counted := cache.setResident total entries.length
  if total ≤ cache.budgetBytes then .ok counted
  else
    let oldestFirst := entries.mergeSort fun a b => notLater a.modified b.modified
    let evicted := evictFiles cache.budgetBytes oldestFirst total counted
    .ok (evicted.2.setResident evicted.1 evicted.2.stats.residentFiles)

/-- `open`. -/
def DiskProxyCache.open (files : List StoredFile) (budgetBytes : Nat) (moment : Moment) :
    Except DiskCacheError DiskProxyCache := do
  let files := files.filter fun f => !f.isTemporary
  let residentBytes ← checkedTotal files
  DiskProxyCache.evictToBudget
    { budgetBytes, files
      stats := ⟨0, 0, 0, 0, 0, residentBytes, (proxyFiles files).length⟩ } moment

/-- The cache once the new entry is in place, before it is trimmed. -/
def DiskProxyCache.addFile (cache : DiskProxyCache) (file : StoredFile) : DiskProxyCache :=
  { cache with
    files := cache.files ++ [file]
    stats := { cache.stats with
      insertions := saturatingAddU64 cache.stats.insertions 1
      residentBytes := saturatingAddU64 cache.stats.residentBytes file.len
      residentFiles := saturatingAddU64 cache.stats.residentFiles 1 } }

/-- `insert`. -/
def DiskProxyCache.insert (cache : DiskProxyCache) (key : FrameCacheKey) (format : ProxyFormat)
    (bytes : List UInt8) (moment : Moment) :
    Except DiskCacheError (DiskInsertResult × DiskProxyCache) :=
  let path := entryPath key format
  if !format.validate bytes then .error (.invalidProxy format)
  else if cache.budgetBytes < bytes.length ∨ maxProxyEntryBytes < bytes.length then
    .ok (.tooLarge, cache)
  else if (cache.files.find? fun f => f.path = path).isSome then .ok (.alreadyPresent, cache)
  else if throughFile cache.files path then .error (.io "not a directory")
  else if isDirectory cache.files path then .error (.io "is a directory")
  else do
    let cache ← (cache.addFile ⟨path, bytes, moment.modified⟩).evictToBudget moment
    .ok (.inserted, cache)

/-- `invalidate_source`: removes the source's directory and counts again. -/
def DiskProxyCache.invalidateSource [ContentHash] (cache : DiskProxyCache)
    (source : SourceIdentity) : Except DiskCacheError DiskProxyCache := do
  let sourceKey := ContentHash.stableKey source
  ensure ((cache.files.find? fun f => f.path = [sourceKey]) = none) (.io "not a directory")
  let files := cache.files.filter fun f => f.path.head? ≠ some sourceKey
  let residentBytes ← checkedTotal files
  .ok ({ cache with files }.setResident residentBytes (proxyFiles files).length)

/-- `clear`. -/
def DiskProxyCache.clear (cache : DiskProxyCache) : DiskProxyCache :=
  { cache with files := [] }.setResident 0 0

/-! ## Entry paths -/

theorem extensionOf_append {stem ext : List Char} (hStem : stem ≠ []) (hExt : '.' ∉ ext) :
    extensionOf (stem ++ '.' :: ext) = some ext := by
  have hNoDot : ∀ c ∈ ext.reverse, decide (c ≠ '.') = true := by
    intro c hc
    rw [decide_eq_true_eq]
    rintro rfl
    exact hExt (List.mem_reverse.1 hc)
  have hReverse : (stem ++ '.' :: ext).reverse = ext.reverse ++ '.' :: stem.reverse := by simp
  have hDrop : (stem ++ '.' :: ext).reverse.dropWhile (· ≠ '.') = '.' :: stem.reverse := by
    rw [hReverse, List.dropWhile_append_of_pos hNoDot]
    rfl
  have hTake : (stem ++ '.' :: ext).reverse.takeWhile (· ≠ '.') = ext.reverse := by
    rw [hReverse, List.takeWhile_append_of_pos hNoDot]
    simp
  unfold extensionOf
  rw [hDrop, hTake, List.reverse_reverse]
  cases hLast : stem.reverse with
  | nil => exact absurd (List.reverse_eq_nil_iff.1 hLast) hStem
  | cons c rest => rfl

end FrameScope.Ports.DiskCache
