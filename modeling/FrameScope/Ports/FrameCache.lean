import FrameScope.Ports.SourceBinding

/-!
# Owned frames and the full-quality RAM cache

Port of `framescope-cache/src/frame_cache.rs`.  An `OwnedRgbaFrame` carries its
layout, so a payload whose size disagrees with its dimensions cannot be built.
The cache is weighted by payload bytes and evicts the least recently used
entry; the hash map is a list whose order stands for the iteration order, which
only decides ties of the access clock.  `usize` is taken as 64 bits wide.

What navigation needs of the cache is one frame condition: no operation makes
up an entry.  `Holds P` says that all cached frames satisfy `P`, and every
operation but `insert` keeps it whatever `P` is.
-/

namespace FrameScope.Ports.FrameCache

open FrameScope.Ports.Core
open FrameScope.Ports.SourceBinding

inductive FrameCacheError where
  | unsafeSourceIdentity
  | invalidFrame (detail : String)
  deriving DecidableEq, Repr

def FrameCacheError.toText : FrameCacheError → String
  | .unsafeSourceIdentity =>
      "source identity lacks content-derived evidence and is unsafe for reusable frame cache keys"
  | .invalidFrame detail => "invalid decoded frame: " ++ detail

/-! ## Frames -/

/-- An owned RGBA payload of consistent layout. -/
structure OwnedRgbaFrame where
  width : Nat
  height : Nat
  strideBytes : Nat
  pixels : List UInt8
  width_pos : 0 < width
  height_pos : 0 < height
  stride_ge : width * 4 ≤ strideBytes
  pixels_length : pixels.length = strideBytes * height
  deriving DecidableEq, Repr

/-- A frame of one pixel has no padding. -/
theorem stride_onePixel : 1 * 4 ≤ 4 := Nat.le_refl 4

/-- `OwnedRgbaFrame::new`. -/
def OwnedRgbaFrame.new (width height strideBytes : Nat) (pixels : List UInt8) :
    Except FrameCacheError OwnedRgbaFrame :=
  if hDimensions : width = 0 ∨ height = 0 then
    .error (.invalidFrame "frame dimensions must be positive")
  else if 2 ^ 64 ≤ width * 4 then
    .error (.invalidFrame "frame width overflows byte size")
  else if hStride : strideBytes < width * 4 then
    .error (.invalidFrame ("RGBA stride " ++ toString strideBytes ++
      " is smaller than minimum " ++ toString (width * 4)))
  else if 2 ^ 64 ≤ strideBytes * height then
    .error (.invalidFrame "frame byte size overflows")
  else if hLength : pixels.length ≠ strideBytes * height then
    .error (.invalidFrame ("RGBA payload has " ++ toString pixels.length ++
      " bytes, expected " ++ toString (strideBytes * height)))
  else .ok
    { width, height, strideBytes, pixels
      width_pos := by omega
      height_pos := by omega
      stride_ge := by omega
      pixels_length := by omega }

def OwnedRgbaFrame.byteLen (f : OwnedRgbaFrame) : Nat := f.pixels.length

/-- A payload that is accepted is kept as it is. -/
theorem OwnedRgbaFrame.new_ok {width height strideBytes : Nat} {pixels : List UInt8}
    {f : OwnedRgbaFrame} (h : OwnedRgbaFrame.new width height strideBytes pixels = .ok f) :
    f.width = width ∧ f.height = height ∧ f.strideBytes = strideBytes ∧ f.pixels = pixels := by
  unfold OwnedRgbaFrame.new at h
  split_ifs at h
  cases h
  exact ⟨rfl, rfl, rfl, rfl⟩

/-- The owned copy that navigation and extraction make of a decoded frame. -/
def ownedRgba (rgba : DecodedRgbaFrame) : Except FrameCacheError OwnedRgbaFrame :=
  OwnedRgbaFrame.new rgba.frame.width rgba.frame.height rgba.strideBytes rgba.pixels

/-- The owned copy of the frame at decode position `target`. -/
def IsFrameAt (S : List DecodedRgbaFrame) (target : Nat) (pixels : OwnedRgbaFrame) : Prop :=
  ∃ f, S[target]? = some f ∧ ownedRgba f = .ok pixels

/-! ## Keys -/

structure FrameCacheKey where
  sourceKey : String
  streamIndex : Nat
  frameId : Nat
  deriving DecidableEq, Repr

/-- `FrameCacheKey::new`. -/
def FrameCacheKey.new [ContentHash] (source : SourceIdentity) (streamIndex frameId : Nat) :
    Except FrameCacheError FrameCacheKey :=
  if source.isReuseSafe then
    .ok { sourceKey := ContentHash.stableKey source, streamIndex, frameId }
  else .error .unsafeSourceIdentity

structure CachedFrame where
  key : FrameCacheKey
  pixels : OwnedRgbaFrame
  deriving DecidableEq, Repr

def CachedFrame.byteLen (f : CachedFrame) : Nat := f.pixels.byteLen

/-! ## The cache -/

inductive RamInsertResult where
  | inserted | tooLarge
  deriving DecidableEq, Repr

structure RamEntry where
  frame : CachedFrame
  lastAccess : Nat
  deriving DecidableEq, Repr

/-- The counters of `RamCacheStats` that the cache itself keeps. -/
structure RamCacheStats where
  hits : Nat
  misses : Nat
  insertions : Nat
  evictions : Nat
  deriving DecidableEq, Repr

structure RamFrameCache where
  budgetBytes : Nat
  residentBytes : Nat
  accessClock : Nat
  entries : List RamEntry
  stats : RamCacheStats
  deriving DecidableEq, Repr

/-- `RamFrameCache::new`. -/
def RamFrameCache.new (budgetBytes : Nat) : RamFrameCache :=
  { budgetBytes, residentBytes := 0, accessClock := 0, entries := [], stats := ⟨0, 0, 0, 0⟩ }

/-- `min_by_key` over the access times: the first of the least recent. -/
def leastRecent : List RamEntry → Option RamEntry
  | [] => none
  | e :: rest =>
      match leastRecent rest with
      | none => some e
      | some least => if least.lastAccess < e.lastAccess then some least else some e

/-- The entries without `key`. -/
def withoutKey (key : FrameCacheKey) (entries : List RamEntry) : List RamEntry :=
  entries.filter fun e => e.frame.key ≠ key

/-- The loop of `evict_to_budget`; each round removes an entry, so one round
for each entry is enough. -/
def RamFrameCache.evictRounds : Nat → RamFrameCache → RamFrameCache
  | 0, cache => cache
  | rounds + 1, cache =>
      if cache.residentBytes ≤ cache.budgetBytes then cache
      else match leastRecent cache.entries with
        | none => cache
        | some e => evictRounds rounds
            { cache with
              entries := withoutKey e.frame.key cache.entries
              residentBytes := cache.residentBytes - e.frame.byteLen
              stats := { cache.stats with
                evictions := saturatingAddU64 cache.stats.evictions 1 } }

/-- `evict_to_budget`. -/
def RamFrameCache.evictToBudget (cache : RamFrameCache) : RamFrameCache :=
  cache.evictRounds cache.entries.length

/-- `set_budget_bytes`. -/
def RamFrameCache.setBudgetBytes (cache : RamFrameCache) (budgetBytes : Nat) : RamFrameCache :=
  RamFrameCache.evictToBudget { cache with budgetBytes }

/-- `access_clock.wrapping_add(1)`. -/
def RamFrameCache.now (cache : RamFrameCache) : Nat := (cache.accessClock + 1) % 2 ^ 64

/-- `get`, which is `lookup_full` of the hierarchy. -/
def RamFrameCache.get (cache : RamFrameCache) (key : FrameCacheKey) :
    Option CachedFrame × RamFrameCache :=
  let now := cache.now
  match cache.entries.find? (·.frame.key = key) with
  | some entry =>
      (some entry.frame,
        { cache with
          accessClock := now
          entries := cache.entries.map fun e =>
            if e.frame.key = key then { e with lastAccess := now } else e
          stats := { cache.stats with hits := saturatingAddU64 cache.stats.hits 1 } })
  | none =>
      (none,
        { cache with
          accessClock := now
          stats := { cache.stats with misses := saturatingAddU64 cache.stats.misses 1 } })

/-- `insert`, which is `insert_full` of the hierarchy. -/
def RamFrameCache.insert (cache : RamFrameCache) (frame : CachedFrame) :
    RamInsertResult × RamFrameCache :=
  if cache.budgetBytes < frame.byteLen then (.tooLarge, cache)
  else
    let now := cache.now
    let freed := match cache.entries.find? (·.frame.key = frame.key) with
      | some previous => cache.residentBytes - previous.frame.byteLen
      | none => cache.residentBytes
    (.inserted, RamFrameCache.evictToBudget
      { cache with
        accessClock := now
        residentBytes := saturatingAddU64 freed frame.byteLen
        entries := withoutKey frame.key cache.entries ++ [⟨frame, now⟩]
        stats := { cache.stats with
          insertions := saturatingAddU64 cache.stats.insertions 1 } })

/-- The bytes of the entries that `invalidate_source` removes one by one. -/
def bytesOf (entries : List RamEntry) : Nat := (entries.map (·.frame.byteLen)).sum

/-- `invalidate_source`. -/
def RamFrameCache.invalidateSource [ContentHash] (cache : RamFrameCache)
    (source : SourceIdentity) : RamFrameCache :=
  let stale := cache.entries.filter (·.frame.key.sourceKey = ContentHash.stableKey source)
  { cache with
    entries := cache.entries.filter (·.frame.key.sourceKey ≠ ContentHash.stableKey source)
    residentBytes := cache.residentBytes - bytesOf stale }

/-- `clear`. -/
def RamFrameCache.clear (cache : RamFrameCache) : RamFrameCache :=
  { cache with entries := [], residentBytes := 0 }

/-! ## No operation makes up an entry -/

/-- Every cached frame satisfies `P`. -/
def RamFrameCache.Holds (P : CachedFrame → Prop) (cache : RamFrameCache) : Prop :=
  ∀ e ∈ cache.entries, P e.frame

section Holds

variable {P : CachedFrame → Prop} {cache : RamFrameCache}

theorem holds_new (budgetBytes : Nat) : (RamFrameCache.new budgetBytes).Holds P :=
  fun _ h => by cases h

theorem holds_evictRounds (rounds : Nat) :
    ∀ {cache : RamFrameCache}, cache.Holds P → (cache.evictRounds rounds).Holds P := by
  induction rounds with
  | zero => exact fun h => h
  | succ rounds ih =>
      intro cache h
      unfold RamFrameCache.evictRounds
      split
      · exact h
      · split
        · exact h
        · apply ih
          intro e he
          exact h e (List.mem_filter.1 he).1

theorem holds_evictToBudget (h : cache.Holds P) : cache.evictToBudget.Holds P :=
  holds_evictRounds _ h

theorem holds_setBudgetBytes (h : cache.Holds P) (budgetBytes : Nat) :
    (cache.setBudgetBytes budgetBytes).Holds P :=
  holds_evictToBudget (fun e he => h e he)

/-- A lookup finds a cached frame with the key asked for, and keeps the rest. -/
theorem holds_get (h : cache.Holds P) (key : FrameCacheKey) :
    (cache.get key).2.Holds P ∧
      ∀ frame, (cache.get key).1 = some frame → frame.key = key ∧ P frame := by
  unfold RamFrameCache.get
  dsimp only
  split
  next entry hFind =>
    refine ⟨?_, ?_⟩
    · intro e he
      obtain ⟨old, hOld, hEq⟩ := List.mem_map.1 he
      have hFrame : e.frame = old.frame := by
        rw [← hEq]
        split <;> rfl
      rw [hFrame]
      exact h old hOld
    · intro frame hFrame
      cases hFrame
      have hKey := List.find?_some hFind
      exact ⟨by simpa using hKey, h entry (List.mem_of_find?_eq_some hFind)⟩
  next => exact ⟨h, fun frame hFrame => by cases hFrame⟩

/-- An insertion adds the inserted frame at most. -/
theorem holds_insert (h : cache.Holds P) {frame : CachedFrame} (hFrame : P frame) :
    (cache.insert frame).2.Holds P := by
  unfold RamFrameCache.insert
  split
  · exact h
  · apply holds_evictToBudget
    intro e he
    rcases List.mem_append.1 he with hOld | hNew
    · exact h e (List.mem_filter.1 hOld).1
    · rw [List.mem_singleton] at hNew
      rw [hNew]
      exact hFrame

theorem holds_invalidateSource [ContentHash] (h : cache.Holds P) (source : SourceIdentity) :
    (cache.invalidateSource source).Holds P :=
  fun e he => h e (List.mem_filter.1 he).1

theorem holds_clear : cache.clear.Holds P := fun _ h => by cases h

end Holds

end FrameScope.Ports.FrameCache
