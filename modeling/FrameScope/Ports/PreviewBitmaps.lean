import Mathlib

/-!
# The bitmaps of live-scrub previews

Port of `PreviewBitmapPool`, `PreviewBitmapPoolLease`, `SharedPreviewBitmapHandle`
and `MicroscopePreviewBitmapLease` of `MicroscopePreviewBridge.kt`, and of the
map of the latest preview of every session.  A method of the pool is
synchronized, so it is one step; every access to an atomic of a handle or of a
lease is a step of its own, and the steps of any number of threads interleave.

The reference counter is an integer: no heap holds the draw leases that would wrap
an `AtomicInteger`.  A bitmap is a number.  Its allocation and whether it is mutable never change;
`reconfigured` counts the calls of `reconfigure`.
-/

namespace FrameScope.Ports.PreviewBitmaps

/-! ## The pool -/

structure PreviewBitmapPool where
  maxRetainedBitmaps : Nat
  retained : List Nat
  nextBitmap : Nat
  allocationByteCount : Nat → Nat
  isMutable : Nat → Bool
  isRecycled : Nat → Bool
  reconfigured : Nat → Nat

/-- What Android does in `borrow`: whether `reconfigure` succeeds, and the allocation and
mutability of a new bitmap unless there is no memory for it. -/
structure BorrowOutcome where
  reconfigures : Bool
  created : Option (Nat × Bool)
  deriving DecidableEq, Repr

namespace PreviewBitmapPool

variable (pool : PreviewBitmapPool)

/-- The candidates of `borrow`. -/
def Usable (requiredBytes bitmap : Nat) : Prop :=
  pool.isRecycled bitmap = false ∧ pool.isMutable bitmap = true ∧
    requiredBytes ≤ pool.allocationByteCount bitmap

instance (requiredBytes bitmap : Nat) : Decidable (pool.Usable requiredBytes bitmap) :=
  inferInstanceAs (Decidable (_ ∧ _ ∧ _))

/-- The loop over the retained bitmaps: the index and the allocation of the best so far. -/
def bestIndex (requiredBytes : Nat) : List (Nat × Nat) → Option Nat × Nat → Option Nat × Nat
  | [], best => best
  | (bitmap, index) :: rest, best =>
      if pool.Usable requiredBytes bitmap ∧ pool.allocationByteCount bitmap < best.2 then
        bestIndex requiredBytes rest (some index, pool.allocationByteCount bitmap)
      else bestIndex requiredBytes rest best

/-- `Bitmap.createBitmap`. -/
def createBitmap (outcome : BorrowOutcome) : Option Nat × PreviewBitmapPool :=
  match outcome.created with
  | none => (none, pool)
  | some (bytes, mutable) =>
      (some pool.nextBitmap,
        { pool with
          nextBitmap := pool.nextBitmap + 1
          allocationByteCount := Function.update pool.allocationByteCount pool.nextBitmap bytes
          isMutable := Function.update pool.isMutable pool.nextBitmap mutable })

/-- `recycle`. -/
def recycle (bitmap : Nat) : PreviewBitmapPool :=
  { pool with isRecycled := Function.update pool.isRecycled bitmap true }

/-- `retained.removeAt(index)` and the call of `reconfigure`. -/
def takeAt (index bitmap : Nat) : PreviewBitmapPool :=
  { pool with
    retained := pool.retained.eraseIdx index
    reconfigured := Function.update pool.reconfigured bitmap (pool.reconfigured bitmap + 1) }

/-- `borrow`: the bitmap that is lent, or `none` when it throws. -/
def borrow (width height : Int) (outcome : BorrowOutcome) : Option Nat × PreviewBitmapPool :=
  if width ≤ 0 ∨ height ≤ 0 ∨ 2 ^ 31 ≤ width * height * 4 then (none, pool)
  else
    match (pool.bestIndex (width * height * 4).toNat pool.retained.zipIdx
        (none, 2 ^ 31 - 1)).1 with
    | none => pool.createBitmap outcome
    | some index =>
        match pool.retained[index]? with
        | none => (none, pool)
        | some bitmap =>
            if outcome.reconfigures = true then (some bitmap, pool.takeAt index bitmap)
            else ((pool.takeAt index bitmap).recycle bitmap).createBitmap outcome

/-- `release`. -/
def release (bitmap : Nat) : PreviewBitmapPool :=
  if pool.isRecycled bitmap = true then pool
  else if pool.isMutable bitmap = false ∨ pool.maxRetainedBitmaps = 0 then pool.recycle bitmap
  else if pool.retained.length < pool.maxRetainedBitmaps then
    { pool with retained := pool.retained ++ [bitmap] }
  else
    match pool.retained.zipIdx.argmin fun entry => pool.allocationByteCount entry.1 with
    | none => pool.recycle bitmap
    | some (smallest, smallestIndex) =>
        if pool.allocationByteCount smallest < pool.allocationByteCount bitmap then
          { pool with retained := pool.retained.set smallestIndex bitmap }.recycle smallest
        else pool.recycle bitmap

end PreviewBitmapPool

/-! ## Leases and handles -/

/-- A `PreviewBitmapPoolLease`, with the handle that owns it once there is one: then it is
`shared`.  `returns` counts the calls of `onRelease`. -/
structure PoolLease where
  bitmap : Nat
  closed : Bool
  shared : Bool
  references : Int
  ownerReleased : Bool
  returns : Nat
  deriving DecidableEq, Repr

/-- A `MicroscopePreviewBitmapLease` of a handle. -/
structure DrawLease where
  handle : Nat
  closed : Bool
  deriving DecidableEq, Repr

/-- Where a thread is between two of its steps. -/
inductive ThreadPhase where
  | idle
  /-- `materializeBitmapPreview` has borrowed the bitmap. -/
  | borrowed (lease : Nat)
  /-- `acquire`, before it reads the references. -/
  | acquireRead (lease : Nat)
  /-- `acquire`, before its compare-and-set. -/
  | acquireSet (lease : Nat) (current : Int)
  /-- `releaseOwner`, before its compare-and-set. -/
  | releaseOwner (lease : Nat)
  /-- `releaseReference`, before the decrement. -/
  | releaseReference (lease : Nat)
  /-- `close` of the pool's lease, before its compare-and-set. -/
  | closeLease (lease : Nat)
  /-- `close`, before `onRelease`. -/
  | onRelease (lease : Nat)
  deriving DecidableEq, Repr

structure BitmapState where
  pool : PreviewBitmapPool
  leases : Nat → Option PoolLease
  nextLease : Nat
  draws : Nat → Option DrawLease
  nextDraw : Nat
  /-- `latestPreviewOwnerBySession`. -/
  latest : Int → Option Nat
  threads : Nat → ThreadPhase

def initial (maxRetainedBitmaps : Nat) : BitmapState where
  pool :=
    { maxRetainedBitmaps, retained := [], nextBitmap := 0, allocationByteCount := fun _ => 0
      isMutable := fun _ => false, isRecycled := fun _ => false, reconfigured := fun _ => 0 }
  leases := fun _ => none
  nextLease := 0
  draws := fun _ => none
  nextDraw := 0
  latest := fun _ => none
  threads := fun _ => .idle

inductive BitmapEvent where
  /-- `bitmapPool.borrow`. -/
  | borrow (thread : Nat) (width height : Int) (outcome : BorrowOutcome)
  /-- `MicroscopeScrubPreview.fromBitmapLease`. -/
  | share (thread : Nat)
  /-- The failure paths of `materializeBitmapPreview` close the lease. -/
  | fail (thread : Nat)
  | acquire (thread lease : Nat)
  /-- `MicroscopePreviewBitmapLease.close`. -/
  | closeDraw (thread draw : Nat)
  | releaseOwner (thread lease : Nat)
  | replaceLatestPreviewOwner (thread : Nat) (sessionId : Int) (lease : Nat)
  | releaseLatestPreviewOwner (thread : Nat) (sessionId : Int)
  /-- The next step of a thread in one of the methods. -/
  | advance (thread : Nat)
  deriving DecidableEq, Repr

namespace BitmapState

variable (s : BitmapState)

def setThread (thread : Nat) (phase : ThreadPhase) : BitmapState :=
  { s with threads := Function.update s.threads thread phase }

def setLease (lease : Nat) (value : PoolLease) : BitmapState :=
  { s with leases := Function.update s.leases lease (some value) }

/-- Whether a lease has a handle that can be reached. -/
def IsShared (lease : Nat) : Prop := ∃ value, s.leases lease = some value ∧ value.shared = true

instance (lease : Nat) : Decidable (s.IsShared lease) :=
  match h : s.leases lease with
  | none => isFalse (fun hShared => by
      obtain ⟨value, hSome, -⟩ := hShared
      rw [h] at hSome
      cases hSome)
  | some value =>
      decidable_of_iff (value.shared = true) ⟨fun hShared => ⟨value, h, hShared⟩, fun hShared => by
        obtain ⟨value', hSome, hShared⟩ := hShared
        cases h.symm.trans hSome
        exact hShared⟩

/-- A thread borrows a bitmap. -/
def borrow (thread : Nat) (width height : Int) (outcome : BorrowOutcome) : BitmapState :=
  match s.pool.borrow width height outcome with
  | (none, pool) => { s with pool }
  | (some bitmap, pool) =>
      { ({ s with pool }.setLease s.nextLease ⟨bitmap, false, false, 0, false, 0⟩).setThread thread
          (.borrowed s.nextLease) with
        nextLease := s.nextLease + 1 }

/-- The owner of the preview that a session had before, if it was another one, is released. -/
def releasePrevious (thread : Nat) (previous : Option Nat) (lease : Option Nat) : BitmapState :=
  match previous with
  | none => s
  | some before => if some before = lease then s else s.setThread thread (.releaseOwner before)

/-- A thread goes on in its method. -/
def advance (thread : Nat) : BitmapState :=
  match s.threads thread with
  | .idle => s
  | .borrowed _ => s
  | .acquireRead lease =>
      match s.leases lease with
      | none => s
      | some value =>
          if value.references ≤ 0 then s.setThread thread .idle
          else s.setThread thread (.acquireSet lease value.references)
  | .acquireSet lease current =>
      match s.leases lease with
      | none => s
      | some value =>
          if value.references = current then
            { (s.setLease lease { value with references := current + 1 }).setThread thread .idle with
              draws := Function.update s.draws s.nextDraw (some ⟨lease, false⟩)
              nextDraw := s.nextDraw + 1 }
          else s.setThread thread (.acquireRead lease)
  | .releaseOwner lease =>
      match s.leases lease with
      | none => s
      | some value =>
          if value.ownerReleased = true then s.setThread thread .idle
          else
            (s.setLease lease { value with ownerReleased := true }).setThread thread
              (.releaseReference lease)
  | .releaseReference lease =>
      match s.leases lease with
      | none => s
      | some value =>
          -- a negative count throws
          (s.setLease lease { value with references := value.references - 1 }).setThread thread
            (if value.references - 1 = 0 then .closeLease lease else .idle)
  | .closeLease lease =>
      match s.leases lease with
      | none => s
      | some value =>
          if value.closed = true then s.setThread thread .idle
          else (s.setLease lease { value with closed := true }).setThread thread (.onRelease lease)
  | .onRelease lease =>
      match s.leases lease with
      | none => s
      | some value =>
          { (s.setLease lease { value with returns := value.returns + 1 }).setThread thread .idle with
            pool := s.pool.release value.bitmap }

/-- A step.  A method starts on a thread that is in none. -/
def step (event : BitmapEvent) : BitmapState :=
  match event with
  | .borrow thread width height outcome =>
      if s.threads thread = .idle then s.borrow thread width height outcome else s
  | .share thread =>
      match s.threads thread with
      | .borrowed lease =>
          match s.leases lease with
          | none => s
          | some value =>
              (s.setLease lease { value with shared := true, references := 1 }).setThread thread .idle
      | _ => s
  | .fail thread =>
      match s.threads thread with
      | .borrowed lease => s.setThread thread (.closeLease lease)
      | _ => s
  | .acquire thread lease =>
      if s.threads thread = .idle ∧ s.IsShared lease then s.setThread thread (.acquireRead lease)
      else s
  | .closeDraw thread draw =>
      if s.threads thread = .idle then
        match s.draws draw with
        | some ⟨handle, false⟩ =>
            { s.setThread thread (.releaseReference handle) with
              draws := Function.update s.draws draw (some ⟨handle, true⟩) }
        | _ => s
      else s
  | .releaseOwner thread lease =>
      if s.threads thread = .idle ∧ s.IsShared lease then s.setThread thread (.releaseOwner lease)
      else s
  | .replaceLatestPreviewOwner thread sessionId lease =>
      if s.threads thread = .idle ∧ s.IsShared lease then
        { s with latest := Function.update s.latest sessionId (some lease) }.releasePrevious thread
          (s.latest sessionId) (some lease)
      else s
  | .releaseLatestPreviewOwner thread sessionId =>
      if s.threads thread = .idle then
        { s with latest := Function.update s.latest sessionId none }.releasePrevious thread
          (s.latest sessionId) none
      else s
  | .advance thread => s.advance thread

/-- The state after a run. -/
def after (maxRetainedBitmaps : Nat) (events : List BitmapEvent) : BitmapState :=
  events.foldl step (initial maxRetainedBitmaps)

end BitmapState

end FrameScope.Ports.PreviewBitmaps
