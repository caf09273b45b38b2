import FrameScope.Verified.Loops
import FrameScope.Ports.FrameCache

/-!
# The live-scrub preview cache

Port of `ScrubPreviewCache` of `framescope-video/src/scrub_preview.rs`: frames
keyed by frame and requested edge, under a limit of bytes and a limit of
frames.  The hash map is a list whose order stands for the iteration order,
which only decides ties of the access clock.

`insert` returns nothing.  It refuses a frame that could never be held, and
whatever it does not refuse it counts as an insertion.
-/

namespace FrameScope.Ports.PreviewCache

open FrameScope.Verified.Loops
open FrameScope.Ports.Core
open FrameScope.Ports.FrameCache

structure ScrubPreviewKey where
  frameId : Nat
  maxEdge : Nat
  deriving DecidableEq, Repr

/-- A row of the map: `ScrubPreviewEntry` under its key. -/
structure ScrubPreviewEntry where
  key : ScrubPreviewKey
  pixels : OwnedRgbaFrame
  lastAccess : Nat
  deriving DecidableEq, Repr

def ScrubPreviewEntry.byteLen (e : ScrubPreviewEntry) : Nat := e.pixels.byteLen

structure ScrubPreviewCache where
  budgetBytes : Nat
  maxFrames : Nat
  residentBytes : Nat
  accessClock : Nat
  entries : List ScrubPreviewEntry
  hits : Nat
  misses : Nat
  insertions : Nat
  evictions : Nat
  deriving DecidableEq, Repr

namespace ScrubPreviewCache

/-- `new`. -/
def new (budgetBytes maxFrames : Nat) : ScrubPreviewCache :=
  { budgetBytes, maxFrames, residentBytes := 0, accessClock := 0, entries := []
    hits := 0, misses := 0, insertions := 0, evictions := 0 }

/-- `access_clock.saturating_add(1)`. -/
def now (cache : ScrubPreviewCache) : Nat := saturatingAddU64 cache.accessClock 1

/-- `get`. -/
def get (cache : ScrubPreviewCache) (frameId maxEdge : Nat) :
    Option OwnedRgbaFrame × ScrubPreviewCache :=
  let key : ScrubPreviewKey := { frameId, maxEdge }
  match cache.entries.find? (·.key = key) with
  | none =>
      (none, { cache with accessClock := cache.now, misses := saturatingAddU64 cache.misses 1 })
  | some entry =>
      (some entry.pixels,
        { cache with
          accessClock := cache.now
          entries := cache.entries.map fun e =>
            if e.key = key then { e with lastAccess := cache.now } else e
          hits := saturatingAddU64 cache.hits 1 })

/-! ## Eviction -/

/-- The condition of the loop of `evict_until_fits`. -/
def NeedsEviction (additionalBytes : Nat) (inserting : Bool) (cache : ScrubPreviewCache) : Prop :=
  cache.entries ≠ [] ∧
    (cache.budgetBytes < saturatingAddU64 cache.residentBytes additionalBytes ∨
      if inserting then cache.maxFrames ≤ cache.entries.length
      else cache.maxFrames < cache.entries.length)

instance (additionalBytes : Nat) (inserting : Bool) :
    DecidablePred (NeedsEviction additionalBytes inserting) :=
  fun cache => inferInstanceAs (Decidable (cache.entries ≠ [] ∧
    (cache.budgetBytes < saturatingAddU64 cache.residentBytes additionalBytes ∨
      if inserting then cache.maxFrames ≤ cache.entries.length
      else cache.maxFrames < cache.entries.length)))

/-- `entries.remove(&key)` with the bytes of the removed entry. -/
def remove (cache : ScrubPreviewCache) (key : ScrubPreviewKey) : ScrubPreviewCache :=
  match cache.entries.find? (·.key = key) with
  | none => cache
  | some previous =>
      { cache with
        entries := cache.entries.filter (·.key ≠ key)
        residentBytes := cache.residentBytes - previous.byteLen }

/-- The body of the loop: the least recent entry goes. -/
def evictLeast (cache : ScrubPreviewCache) : ScrubPreviewCache :=
  match cache.entries.argmin (·.lastAccess) with
  | none => cache
  | some lru =>
      { cache.remove lru.key with evictions := saturatingAddU64 cache.evictions 1 }

/-- `evict_until_fits`.  Every round removes an entry, so one round for each is
enough. -/
def evictUntilFits (cache : ScrubPreviewCache) (additionalBytes : Nat) (inserting : Bool) :
    ScrubPreviewCache :=
  rounds (NeedsEviction additionalBytes inserting) evictLeast cache.entries.length cache

/-! ## The other operations -/

/-- `insert` returns early. -/
def Refuses (cache : ScrubPreviewCache) (pixels : OwnedRgbaFrame) : Prop :=
  cache.budgetBytes = 0 ∨ cache.maxFrames = 0 ∨ cache.budgetBytes < pixels.byteLen

instance (cache : ScrubPreviewCache) (pixels : OwnedRgbaFrame) :
    Decidable (cache.Refuses pixels) := inferInstanceAs (Decidable (_ ∨ _ ∨ _))

/-- The end of `insert`, when there is room. -/
def push (cache : ScrubPreviewCache) (key : ScrubPreviewKey) (pixels : OwnedRgbaFrame) :
    ScrubPreviewCache :=
  { cache with
    accessClock := cache.now
    residentBytes := saturatingAddU64 cache.residentBytes pixels.byteLen
    entries := cache.entries ++ [{ key, pixels, lastAccess := cache.now }]
    insertions := saturatingAddU64 cache.insertions 1 }

/-- `insert`. -/
def insert (cache : ScrubPreviewCache) (frameId maxEdge : Nat) (pixels : OwnedRgbaFrame) :
    ScrubPreviewCache :=
  if cache.Refuses pixels then cache
  else
    let key : ScrubPreviewKey := { frameId, maxEdge }
    ((cache.remove key).evictUntilFits pixels.byteLen true).push key pixels

/-- `set_budget_bytes`. -/
def setBudgetBytes (cache : ScrubPreviewCache) (budgetBytes : Nat) : ScrubPreviewCache :=
  evictUntilFits { cache with budgetBytes } 0 false

/-- `set_max_frames`. -/
def setMaxFrames (cache : ScrubPreviewCache) (maxFrames : Nat) : ScrubPreviewCache :=
  evictUntilFits { cache with maxFrames } 0 false

/-- `clear`. -/
def clear (cache : ScrubPreviewCache) : ScrubPreviewCache :=
  { cache with
    evictions := saturatingAddU64 cache.evictions cache.entries.length
    entries := []
    residentBytes := 0 }

end ScrubPreviewCache

/-! ## Runs -/

inductive PreviewOp where
  | insert (frameId maxEdge : Nat) (pixels : OwnedRgbaFrame)
  | get (frameId maxEdge : Nat)
  | setBudgetBytes (budgetBytes : Nat)
  | setMaxFrames (maxFrames : Nat)
  | clear

/-- The cache after one operation. -/
def applyOp (cache : ScrubPreviewCache) : PreviewOp → ScrubPreviewCache
  | .insert frameId maxEdge pixels => cache.insert frameId maxEdge pixels
  | .get frameId maxEdge => (cache.get frameId maxEdge).2
  | .setBudgetBytes budgetBytes => cache.setBudgetBytes budgetBytes
  | .setMaxFrames maxFrames => cache.setMaxFrames maxFrames
  | .clear => cache.clear

/-- The cache after a run. -/
def cacheAfter (budgetBytes maxFrames : Nat) (ops : List PreviewOp) : ScrubPreviewCache :=
  ops.foldl applyOp (ScrubPreviewCache.new budgetBytes maxFrames)

/-- A budget below the last value of `usize`.  The callers split what a
non-negative `jlong` configured, or the default of eight megabytes. -/
def BudgetFits (budgetBytes : Nat) : Prop := budgetBytes < 2 ^ 64 - 1

/-- The budgets that a run sets are such. -/
def PreviewOp.Fits : PreviewOp → Prop
  | .setBudgetBytes budgetBytes => BudgetFits budgetBytes
  | _ => True

end FrameScope.Ports.PreviewCache
