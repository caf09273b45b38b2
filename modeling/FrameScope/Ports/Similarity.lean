import FrameScope.Ports.FrameIndexModel
import FrameScope.Ports.FrameCache
import FrameScope.Ports.GroupNavigation

/-!
# Similarity of frames and the adjacent-frame grouper

Port of `framescope-similarity`.  A frame joins the open group when the engine
accepts it against both the previous frame and the group's representative; the
grouper keeps those two frames and the group's metadata, nothing else.

`verdict` folds a comparison and the engine's threshold into one answer: the
score of an accepted pair, `none` for a rejected one.  On two frames of one
size it always answers, and a frame is always accepted against itself.

Dimensions are `u32` in the source and frame ids `u64`; counts wrap as
`frame_count += 1` does.
-/

namespace FrameScope.Ports.Similarity

open FrameScope.Ports.Core
open FrameScope.Ports.FrameIndexModel
open FrameScope.Ports.FrameCache
open FrameScope.Ports.GroupNavigation (FrameGroup)

/-- `SIMILARITY_SCALE`. -/
def similarityScale : Nat := 10000

inductive SimilarityMode where
  | exact
  | lumaMeanAbsolute (minimumSimilarity : Nat)
  deriving DecidableEq, Repr

structure SimilarityScore where
  basisPoints : Nat
  exact : Bool
  deriving DecidableEq, Repr

def SimilarityScore.identical : SimilarityScore := ⟨similarityScale, true⟩

inductive SimilarityError where
  | invalidThreshold (value : Nat)
  | dimensionMismatch (left right : Nat × Nat)
  | frameLayoutOverflow
  | missingTimestamp (frameId : Nat)
  | nonContiguousFrameIds (previous current : Nat)
  deriving DecidableEq, Repr

def SimilarityError.toText : SimilarityError → String
  | .invalidThreshold value =>
      "similarity threshold " ++ toString value ++ " is outside 0..=" ++ toString similarityScale
  | .dimensionMismatch left right =>
      "frame dimensions differ: " ++ toString left ++ " vs " ++ toString right
  | .frameLayoutOverflow => "RGBA frame layout does not fit address space"
  | .missingTimestamp frameId =>
      "frame " ++ toString frameId ++ " has no presentation timestamp"
  | .nonContiguousFrameIds previous current =>
      "frame IDs are not contiguous: " ++ toString previous ++ " followed by " ++ toString current

/-- `SimilarityMode::validate`. -/
def SimilarityMode.validate (mode : SimilarityMode) : Except SimilarityError SimilarityMode :=
  match mode with
  | .exact => .ok mode
  | .lumaMeanAbsolute minimumSimilarity =>
      if minimumSimilarity ≤ similarityScale then .ok mode
      else .error (.invalidThreshold minimumSimilarity)

/-! ## Pixels -/

/-- The visible bytes of row `y`.  The layout of an owned frame keeps the range
inside the payload, so the slice of the source never panics. -/
def visibleRow (f : OwnedRgbaFrame) (widthBytes y : Nat) : List UInt8 :=
  (f.pixels.drop (y * f.strideBytes)).take widthBytes

/-- `chunks_exact(4)`, without the alpha byte that no metric reads. -/
def rgbPixels : List UInt8 → List (UInt8 × UInt8 × UInt8)
  | r :: g :: b :: _ :: rest => (r, g, b) :: rgbPixels rest
  | _ => []

def absDiff (a b : Nat) : Nat := max a b - min a b

/-- `integer_luma`. -/
def integerLuma (pixel : UInt8 × UInt8 × UInt8) : Nat :=
  (pixel.1.toNat * 77 + pixel.2.1.toNat * 150 + pixel.2.2.toNat * 29 + 128) / 256

/-- `width_bytes` of both metrics. -/
def widthBytes (f : OwnedRgbaFrame) : Except SimilarityError Nat :=
  okOr (checkedMulU64 f.width 4) .frameLayoutOverflow

def visiblePixelsIdentical (left right : OwnedRgbaFrame) (widthBytes : Nat) : Bool :=
  (List.range left.height).all fun y =>
    visibleRow left widthBytes y == visibleRow right widthBytes y

/-- The sum of a per-pixel difference over the visible rows. -/
def totalDifference (difference : UInt8 × UInt8 × UInt8 → UInt8 × UInt8 × UInt8 → Nat)
    (left right : OwnedRgbaFrame) (widthBytes : Nat) : Nat :=
  ((List.range left.height).map fun y =>
    (List.zipWith difference (rgbPixels (visibleRow left widthBytes y))
      (rgbPixels (visibleRow right widthBytes y))).sum).sum

/-- The rounded share of the largest possible difference, in basis points. -/
def differenceBps (total maxDifference : Nat) : Nat :=
  if maxDifference = 0 then 0
  else min ((total * similarityScale + maxDifference / 2) / maxDifference) similarityScale

def lumaDifference (left right : UInt8 × UInt8 × UInt8) : Nat :=
  absDiff (integerLuma left) (integerLuma right)

/-! ## The engine -/

structure SimilarityEngine where
  mode : SimilarityMode
  deriving DecidableEq, Repr

/-- `SimilarityEngine::new`. -/
def SimilarityEngine.new (mode : SimilarityMode) : Except SimilarityError SimilarityEngine := do
  let mode ← mode.validate
  .ok ⟨mode⟩

/-- The dimension check of every comparison. -/
def validateDimensions (left right : OwnedRgbaFrame) : Except SimilarityError Unit :=
  ensure ((left.width, left.height) = (right.width, right.height))
    (.dimensionMismatch (left.width, left.height) (right.width, right.height))

/-- `SimilarityEngine::compare`. -/
def SimilarityEngine.compare (engine : SimilarityEngine) (left right : OwnedRgbaFrame) :
    Except SimilarityError SimilarityScore := do
  validateDimensions left right
  let widthBytes ← widthBytes left
  if visiblePixelsIdentical left right widthBytes then .ok .identical
  else match engine.mode with
    | .exact => .ok ⟨0, false⟩
    | .lumaMeanAbsolute _ =>
        let total := totalDifference lumaDifference left right widthBytes
        let maxDifference := left.width * left.height * 255
        .ok ⟨similarityScale - differenceBps total maxDifference, false⟩

/-- `SimilarityEngine::accepts`. -/
def SimilarityEngine.accepts (engine : SimilarityEngine) (score : SimilarityScore) : Bool :=
  match engine.mode with
  | .exact => score.exact
  | .lumaMeanAbsolute minimumSimilarity => decide (minimumSimilarity ≤ score.basisPoints)

/-! ## The grouper -/

/-- The open group: its metadata and the two frames kept. -/
structure ActiveGroup where
  metadata : FrameGroup
  representative : OwnedRgbaFrame
  previous : OwnedRgbaFrame
  deriving DecidableEq, Repr

/-- `active_group`: a group of one frame. -/
def activeGroup (entry : FrameIndexEntry) (timestamp : MediaTimestamp) (pixels : OwnedRgbaFrame) :
    ActiveGroup where
  metadata :=
    { representativeFrame := entry.frameId
      firstFrame := entry.frameId
      lastFrame := entry.frameId
      frameCount := 1
      startTimestamp := timestamp
      endTimestamp := timestamp
      startDuration := entry.duration
      endDuration := entry.duration
      representativeSimilarityFloor := similarityScale }
  representative := pixels
  previous := pixels

/-- The open group with one more frame, as both groupers extend it. -/
def ActiveGroup.joined (active : ActiveGroup) (entry : FrameIndexEntry)
    (timestamp : MediaTimestamp) (pixels : OwnedRgbaFrame) (score : Nat) : ActiveGroup where
  metadata :=
    { active.metadata with
      lastFrame := entry.frameId
      frameCount := (active.metadata.frameCount + 1) % 2 ^ 64
      endTimestamp := timestamp
      endDuration := entry.duration
      representativeSimilarityFloor :=
        min active.metadata.representativeSimilarityFloor score }
  representative := active.representative
  previous := pixels

/-- The contiguity check that both groupers make. -/
def ensureContiguous (active : ActiveGroup) (entry : FrameIndexEntry) :
    Except SimilarityError Unit :=
  ensure (checkedAddU64 active.metadata.lastFrame 1 = some entry.frameId)
    (.nonContiguousFrameIds active.metadata.lastFrame entry.frameId)

theorem ensureContiguous_ok {active : ActiveGroup} {entry : FrameIndexEntry}
    (h : checkedAddU64 active.metadata.lastFrame 1 = some entry.frameId) :
    ensureContiguous active entry = .ok () := by
  unfold ensureContiguous
  rwa [ensure_eq_ok]

structure FrameGrouper where
  engine : SimilarityEngine
  active : Option ActiveGroup
  deriving DecidableEq, Repr

/-- `FrameGrouper::new`. -/
def FrameGrouper.new (mode : SimilarityMode) : Except SimilarityError FrameGrouper := do
  let engine ← SimilarityEngine.new mode
  .ok ⟨engine, none⟩

/-- `FrameGrouper::push`.  Both comparisons are made before either is judged. -/
def FrameGrouper.push (grouper : FrameGrouper) (entry : FrameIndexEntry)
    (pixels : OwnedRgbaFrame) :
    Except SimilarityError (FrameGrouper × Option FrameGroup) := do
  let timestamp ← okOr entry.presentationTimestamp (.missingTimestamp entry.frameId)
  match grouper.active with
  | none => .ok ({ grouper with active := some (activeGroup entry timestamp pixels) }, none)
  | some active =>
      ensureContiguous active entry
      let previousScore ← grouper.engine.compare active.previous pixels
      let representativeScore ← grouper.engine.compare active.representative pixels
      if grouper.engine.accepts previousScore && grouper.engine.accepts representativeScore then
        .ok ({ grouper with
          active := some
            (active.joined entry timestamp pixels representativeScore.basisPoints) }, none)
      else
        .ok ({ grouper with active := some (activeGroup entry timestamp pixels) },
          some active.metadata)

/-- `FrameGrouper::finish`. -/
def FrameGrouper.finish (grouper : FrameGrouper) : FrameGrouper × Option FrameGroup :=
  ({ grouper with active := none }, grouper.active.map (·.metadata))

/-! ## Verdicts -/

/-- One answer for a pair: the score it is accepted with, or a rejection. -/
def SimilarityEngine.verdict (engine : SimilarityEngine) (left right : OwnedRgbaFrame) :
    Except SimilarityError (Option Nat) := do
  let score ← engine.compare left right
  .ok (if engine.accepts score then some score.basisPoints else none)

section Verdicts

variable {left right f : OwnedRgbaFrame} {mode : SimilarityMode} {engine : SimilarityEngine}

/-- Two frames of one size that the source can hold. -/
structure SameSize (left right : OwnedRgbaFrame) : Prop where
  width : left.width = right.width
  height : left.height = right.height
  width_lt : left.width < 2 ^ 32

theorem SameSize.validateDimensions (h : SameSize left right) :
    validateDimensions left right = .ok () := by
  unfold Similarity.validateDimensions
  rw [ensure_eq_ok, h.width, h.height]

theorem widthBytes_of_lt (h : f.width < 2 ^ 32) : widthBytes f = .ok (f.width * 4) := by
  unfold widthBytes
  rw [okOr_eq_ok, checkedMulU64_eq_some]
  exact ⟨by omega, rfl⟩

@[simp] theorem visiblePixelsIdentical_self (f : OwnedRgbaFrame) (widthBytes : Nat) :
    visiblePixelsIdentical f f widthBytes = true := by
  simp [visiblePixelsIdentical]

theorem SimilarityEngine.new_ok (h : SimilarityEngine.new mode = .ok engine) :
    engine.mode = mode ∧ mode.validate = .ok mode := by
  unfold SimilarityEngine.new at h
  obtain ⟨mode', hValid, hEngine⟩ := bind_eq_ok.1 h
  cases hEngine
  cases mode with
  | exact =>
      cases hValid
      exact ⟨rfl, rfl⟩
  | lumaMeanAbsolute minimumSimilarity =>
      simp only [SimilarityMode.validate] at hValid
      split_ifs at hValid with hThreshold
      cases hValid
      simp [SimilarityMode.validate, hThreshold]

/-- A comparison of two frames of one size always yields a score. -/
theorem SimilarityEngine.compare_total (engine : SimilarityEngine) (h : SameSize left right) :
    ∃ score, engine.compare left right = .ok score := by
  unfold SimilarityEngine.compare
  rw [h.validateDimensions, widthBytes_of_lt h.width_lt]
  simp only [bind, Except.bind]
  split
  · exact ⟨_, rfl⟩
  · split
    · exact ⟨_, rfl⟩
    · exact ⟨_, rfl⟩

theorem SimilarityEngine.verdict_total (engine : SimilarityEngine) (h : SameSize left right) :
    ∃ answer, engine.verdict left right = .ok answer := by
  obtain ⟨score, hScore⟩ := engine.compare_total h
  unfold SimilarityEngine.verdict
  rw [hScore]
  exact ⟨_, rfl⟩

/-- A validated threshold accepts the best score. -/
theorem SimilarityEngine.accepts_identical (h : SimilarityEngine.new mode = .ok engine) :
    engine.accepts .identical = true := by
  obtain ⟨hMode, hValid⟩ := SimilarityEngine.new_ok h
  unfold SimilarityEngine.accepts
  rw [hMode]
  cases mode with
  | exact => rfl
  | lumaMeanAbsolute minimumSimilarity =>
      simp only [SimilarityMode.validate] at hValid
      split_ifs at hValid with hThreshold
      exact decide_eq_true hThreshold

/-- A frame is accepted against itself, with the best score. -/
theorem SimilarityEngine.verdict_self (h : SimilarityEngine.new mode = .ok engine)
    (hWidth : f.width < 2 ^ 32) : engine.verdict f f = .ok (some similarityScale) := by
  have hCompare : engine.compare f f = .ok .identical := by
    unfold SimilarityEngine.compare
    rw [SameSize.validateDimensions ⟨rfl, rfl, hWidth⟩, widthBytes_of_lt hWidth]
    simp [bind, Except.bind]
  unfold SimilarityEngine.verdict
  rw [hCompare]
  simp only [bind, Except.bind]
  rw [SimilarityEngine.accepts_identical h]
  rfl

end Verdicts

end FrameScope.Ports.Similarity
