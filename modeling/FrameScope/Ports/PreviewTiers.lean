import FrameScope.Ports.DiskCache
import FrameScope.Ports.Navigation

/-!
# Preview navigation over the cache hierarchy

Port of `FrameCacheHierarchy` from `framescope-cache/src/hierarchy.rs`, as far as one
hierarchy goes, and of `navigate_to_frame_preview` from
`framescope-video/src/preview_navigation.rs`.  The encoder is a function of the pixels.

A disk call may fail in the operating system.  What it then leaves of the directory is
not known: some of the files, and of an insertion perhaps the new one.
-/

namespace FrameScope.Ports.PreviewTiers

open FrameScope.Ports.Core
open FrameScope.Ports.FrameIndexModel
open FrameScope.Ports.FrameIndexStore
open FrameScope.Ports.Decoder
open FrameScope.Ports.SourceBinding
open FrameScope.Ports.IndexingRuns
open FrameScope.Ports.FrameCache
open FrameScope.Ports.DiskCache
open FrameScope.Ports.Navigation

/-! ## Disk calls that may fail -/

/-- What the operating system makes of one disk call. -/
structure DiskOs where
  moment : Moment
  failure : Option String
  keeps : StoredFile → Bool
  placed : Bool

/-- What a failing call leaves. -/
def leftBy (os : DiskOs) (disk : DiskProxyCache) (added : List StoredFile) : DiskProxyCache :=
  { disk with files := (disk.files ++ if os.placed then added else []).filter os.keeps }

def diskGet (os : DiskOs) (disk : DiskProxyCache) (key : FrameCacheKey) :
    Except DiskCacheError (Option ProxyFrame) × DiskProxyCache :=
  match os.failure with
  | some detail => (.error (.io detail), leftBy os disk [])
  | none =>
      match disk.get key with
      | .ok (found, disk') => (.ok found, disk')
      | .error error => (.error error, leftBy os disk [])

/-- The payload is checked, and its size, before anything is written. -/
def diskInsert (os : DiskOs) (disk : DiskProxyCache) (key : FrameCacheKey) (format : ProxyFormat)
    (bytes : List UInt8) : Except DiskCacheError DiskInsertResult × DiskProxyCache :=
  let added := [⟨entryPath key format, bytes, os.moment.modified⟩]
  match disk.insert key format bytes os.moment with
  | .error (.invalidProxy format) => (.error (.invalidProxy format), disk)
  | .error (.io detail) => (.error (.io detail), leftBy os disk added)
  | .ok (.inserted, disk') =>
      match os.failure with
      | some detail => (.error (.io detail), leftBy os disk added)
      | none => (.ok .inserted, disk')
  | .ok (result, disk') => (.ok result, disk')

/-! ## The hierarchy -/

inductive CacheLookup where
  | full (frame : CachedFrame)
  | proxy (frame : ProxyFrame)
  | miss
  deriving DecidableEq, Repr

structure FrameCacheHierarchy where
  ram : RamFrameCache
  disk : Option DiskProxyCache
  diskUnavailableReason : Option String

def FrameCacheHierarchy.diskUnavailableError (cache : FrameCacheHierarchy) : DiskCacheError :=
  .io (cache.diskUnavailableReason.getD "disk proxy cache is unavailable")

/-- `lookup`. -/
def FrameCacheHierarchy.lookup (os : DiskOs) (cache : FrameCacheHierarchy) (key : FrameCacheKey) :
    Except DiskCacheError CacheLookup × FrameCacheHierarchy :=
  match cache.ram.get key with
  | (some frame, ram) => (.ok (.full frame), { cache with ram := ram })
  | (none, ram) =>
      match cache.disk with
      | none => (.error cache.diskUnavailableError, { cache with ram := ram })
      | some disk =>
          match diskGet os disk key with
          | (.error error, disk') =>
              (.error error, { cache with ram := ram, disk := some disk' })
          | (.ok (some proxy), disk') =>
              (.ok (.proxy proxy), { cache with ram := ram, disk := some disk' })
          | (.ok none, disk') => (.ok .miss, { cache with ram := ram, disk := some disk' })

/-- `insert_proxy`. -/
def FrameCacheHierarchy.insertProxy (os : DiskOs) (cache : FrameCacheHierarchy)
    (key : FrameCacheKey) (format : ProxyFormat) (bytes : List UInt8) :
    Except DiskCacheError DiskInsertResult × FrameCacheHierarchy :=
  match cache.disk with
  | none => (.error cache.diskUnavailableError, cache)
  | some disk =>
      let (result, disk') := diskInsert os disk key format bytes
      (result, { cache with disk := some disk' })

/-! ## Preview navigation -/

inductive PreviewSource where
  | disk | encodedFromRam | encodedFromDecode
  deriving DecidableEq, Repr

structure EncodedPreview where
  format : ProxyFormat
  bytes : List UInt8
  deriving DecidableEq, Repr

structure PreviewNavigationResult where
  frameId : Nat
  format : ProxyFormat
  bytes : List UInt8
  source : PreviewSource
  decodedFrames : Nat
  proxyInsertResult : Option DiskInsertResult
  cacheWarning : Option String
  deriving DecidableEq, Repr

/-- The two kinds of cache error are `DiskCacheError::Cache` and the others. -/
inductive PreviewNavigationError where
  | key (error : FrameCacheError)
  | navigation (error : NavigationError)
  | encoding (text : String)

/-- The pixels are encoded; the disk keeps them if it can. -/
def encodeAndStore (os : DiskOs) (cache : FrameCacheHierarchy) (key : FrameCacheKey)
    (frameId : Nat) (pixels : OwnedRgbaFrame) (source : PreviewSource) (decodedFrames : Nat)
    (encode : OwnedRgbaFrame → Except String EncodedPreview) :
    Except PreviewNavigationError PreviewNavigationResult × FrameCacheHierarchy :=
  match encode pixels with
  | .error text => (.error (.encoding text), cache)
  | .ok encoded =>
      let (stored, cache') := cache.insertProxy os key encoded.format encoded.bytes
      let (proxyInsertResult, cacheWarning) :=
        match stored with
        | .ok result => (some result, none)
        | .error error =>
            (none, some ("disk proxy insert failed; preview remains usable: " ++ error.toText))
      (.ok { frameId, format := encoded.format, bytes := encoded.bytes, source, decodedFrames
             proxyInsertResult, cacheWarning }, cache')

/-- The warning of the lookup goes before that of the insertion. -/
def addWarning (lookupWarning : Option String) (result : PreviewNavigationResult) :
    PreviewNavigationResult :=
  match lookupWarning with
  | none => result
  | some warning =>
      { result with
        cacheWarning := some (match result.cacheWarning with
          | some existing => warning ++ "; " ++ existing
          | none => warning) }

def sourceOf : CachedFrameSource → PreviewSource
  | .ram => .encodedFromRam
  | .decoded => .encodedFromDecode

section Navigate

variable [ContentHash] (index : FrameIndex)

/-- What follows a lookup that served nothing. -/
def previewFromSource (opens : Opener) (frameId : Nat) (key : FrameCacheKey)
    (encode : OwnedRgbaFrame → Except String EncodedPreview) (os : DiskOs)
    (lookupWarning : Option String) (cache : FrameCacheHierarchy) :
    Except PreviewNavigationError PreviewNavigationResult × FrameCacheHierarchy :=
  match navigateToFrameCached index opens frameId cache.ram with
  | (.error error, ram) => (.error (.navigation error), { cache with ram := ram })
  | (.ok decoded, ram) =>
      let (answer, cache') := encodeAndStore os { cache with ram := ram } key frameId
        decoded.pixels (sourceOf decoded.source) decoded.decodedFrames encode
      (answer.map (addWarning lookupWarning), cache')

/-- `navigate_to_frame_preview`, with what the operating system makes of its lookup and of
its insertion. -/
def navigateToFramePreview (opens : Opener) (frameId : Nat)
    (encode : OwnedRgbaFrame → Except String EncodedPreview) (atLookup atInsert : DiskOs)
    (cache : FrameCacheHierarchy) :
    Except PreviewNavigationError PreviewNavigationResult × FrameCacheHierarchy :=
  match FrameCacheKey.new index.sourceIdentity index.streamIdentity.streamIndex frameId with
  | .error error => (.error (.key error), cache)
  | .ok key =>
      match cache.lookup atLookup key with
      | (.ok (.proxy proxy), cache) =>
          (.ok { frameId, format := proxy.format, bytes := proxy.bytes, source := .disk
                 decodedFrames := 0, proxyInsertResult := none, cacheWarning := none }, cache)
      | (.ok (.full full), cache) =>
          encodeAndStore atInsert cache key frameId full.pixels .encodedFromRam 0 encode
      | (.ok .miss, cache) =>
          previewFromSource index opens frameId key encode atInsert none cache
      | (.error error, cache) =>
          previewFromSource index opens frameId key encode atInsert
            (some ("disk proxy lookup failed; falling back to authoritative source decode: " ++
              error.toText)) cache

end Navigate

/-- `invalidate_source`: the RAM tier first, so that it is done when the disk fails. -/
def FrameCacheHierarchy.invalidateSource [ContentHash] (os : DiskOs) (cache : FrameCacheHierarchy)
    (source : SourceIdentity) : FrameCacheHierarchy :=
  { cache with
    ram := cache.ram.invalidateSource source
    disk := cache.disk.map fun disk =>
      match os.failure, disk.invalidateSource source with
      | none, .ok disk' => disk'
      | _, _ => leftBy os disk [] }

/-- `clear`. -/
def FrameCacheHierarchy.clear (os : DiskOs) (cache : FrameCacheHierarchy) : FrameCacheHierarchy :=
  { cache with
    ram := cache.ram.clear
    disk := cache.disk.map fun disk =>
      match os.failure with
      | none => disk.clear
      | some _ => leftBy os disk [] }

end FrameScope.Ports.PreviewTiers
