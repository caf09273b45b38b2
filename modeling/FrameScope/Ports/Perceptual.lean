import FrameScope.Ports.Similarity

/-!
# Perceptual hashes and the hybrid engine

Port of `framescope-perceptual`.  The difference hash of a frame compares
neighbouring lumas of a 9 by 8 sample grid; it may turn a pair away, but only
the full colour comparison accepts one.

The quality counters and `analyze`, which only the benchmarks call, are left
out.
-/

namespace FrameScope.Ports.Perceptual

open FrameScope.Ports.Core
open FrameScope.Ports.FrameCache
open FrameScope.Ports.Similarity

/-- `PERCEPTUAL_SCALE`. -/
def perceptualScale : Nat := 10000

/-- `DHASH_BITS`. -/
def dhashBits : Nat := 64

/-- `HYBRID_SIMILARITY_ALGORITHM_VERSION`. -/
def hybridSimilarityAlgorithmVersion : Nat := 2

structure DHash64 where
  bits : BitVec 64
  deriving DecidableEq, Repr

/-- `DHash64::hamming_distance`: the set bits of the exclusive or. -/
def DHash64.hammingDistance (left right : DHash64) : Nat :=
  (List.range 64).countP fun i => (left.bits ^^^ right.bits).getLsbD i

structure PerceptualScore where
  hammingDistance : Nat
  basisPoints : Nat
  deriving DecidableEq, Repr

/-- `PerceptualScore::from_hashes`. -/
def PerceptualScore.fromHashes (left right : DHash64) : PerceptualScore :=
  let hammingDistance := left.hammingDistance right
  let difference := (hammingDistance * perceptualScale + dhashBits / 2) / dhashBits
  ⟨hammingDistance, perceptualScale - min difference perceptualScale⟩

/-! ## The difference hash -/

/-- `sample_coordinate`. -/
def sampleCoordinate (size index sampleCount : Nat) : Nat :=
  (size - 1) * index / (sampleCount - 1)

/-- `luma_at`.  Sample coordinates lie in the frame, so the reads of the source
are in bounds. -/
def lumaAt (f : OwnedRgbaFrame) (x y : Nat) : Nat :=
  let offset := y * f.strideBytes + x * 4
  integerLuma (f.pixels.getD offset 0, f.pixels.getD (offset + 1) 0, f.pixels.getD (offset + 2) 0)

/-- The sample in column `column` of row `row` of the grid. -/
def sampleAt (f : OwnedRgbaFrame) (row column : Nat) : Nat :=
  lumaAt f (sampleCoordinate f.width column 9) (sampleCoordinate f.height row 8)

/-- `DHashEngine::hash`: bit `8 * row + column` tells whether the luma falls
from that column to the next. -/
def dhash (f : OwnedRgbaFrame) : DHash64 :=
  ⟨(List.range 64).foldl (fun bits bit =>
    if sampleAt f (bit / 8) (bit % 8 + 1) < sampleAt f (bit / 8) (bit % 8) then
      bits ||| (1 <<< bit)
    else bits) 0⟩

/-- `DHashEngine::compare`. -/
def dhashCompare (left right : OwnedRgbaFrame) : PerceptualScore :=
  PerceptualScore.fromHashes (dhash left) (dhash right)

/-! ## The hybrid engine -/

structure HybridSimilarityPolicy where
  maxHashDistance : Nat
  minimumLumaSimilarity : Nat
  deriving DecidableEq, Repr

inductive HybridDecision where
  | rejectedByHash (perceptual : PerceptualScore)
  | rejectedByConfirmation (perceptual : PerceptualScore) (confirmation : SimilarityScore)
  | accepted (perceptual : PerceptualScore) (confirmation : SimilarityScore)
  deriving DecidableEq, Repr

inductive HybridSimilarityError where
  | invalidHashDistance (distance : Nat)
  | similarity (error : SimilarityError)
  deriving DecidableEq, Repr

def HybridSimilarityError.toText : HybridSimilarityError → String
  | .invalidHashDistance distance =>
      "dHash distance threshold " ++ toString distance ++ " exceeds " ++ toString dhashBits ++
        " bits"
  | .similarity error => error.toText

structure HybridSimilarityEngine where
  policy : HybridSimilarityPolicy
  deriving DecidableEq, Repr

/-- `HybridSimilarityEngine::new`. -/
def HybridSimilarityEngine.new (policy : HybridSimilarityPolicy) :
    Except HybridSimilarityError HybridSimilarityEngine := do
  ensure (policy.maxHashDistance ≤ dhashBits) (.invalidHashDistance policy.maxHashDistance)
  ensure (policy.minimumLumaSimilarity ≤ similarityScale)
    (.similarity (.invalidThreshold policy.minimumLumaSimilarity))
  .ok ⟨policy⟩

def rgbDifference (left right : UInt8 × UInt8 × UInt8) : Nat :=
  absDiff left.1.toNat right.1.toNat + absDiff left.2.1.toNat right.2.1.toNat +
    absDiff left.2.2.toNat right.2.2.toNat

/-- `rgb_mean_absolute_similarity`. -/
def rgbMeanAbsoluteSimilarity (left right : OwnedRgbaFrame) :
    Except SimilarityError SimilarityScore := do
  let widthBytes ← widthBytes left
  if visiblePixelsIdentical left right widthBytes then .ok .identical
  else
    let total := totalDifference rgbDifference left right widthBytes
    let maxDifference := left.width * left.height * 3 * 255
    .ok ⟨similarityScale - differenceBps total maxDifference, false⟩

/-- `HybridSimilarityEngine::compare`. -/
def HybridSimilarityEngine.compare (engine : HybridSimilarityEngine)
    (left right : OwnedRgbaFrame) : Except HybridSimilarityError HybridDecision := do
  (validateDimensions left right).mapError .similarity
  let perceptual := dhashCompare left right
  if engine.policy.maxHashDistance < perceptual.hammingDistance then
    .ok (.rejectedByHash perceptual)
  else
    let confirmation ← (rgbMeanAbsoluteSimilarity left right).mapError .similarity
    if engine.policy.minimumLumaSimilarity ≤ confirmation.basisPoints then
      .ok (.accepted perceptual confirmation)
    else .ok (.rejectedByConfirmation perceptual confirmation)

section Decisions

variable {left right f : OwnedRgbaFrame} {policy : HybridSimilarityPolicy}
  {engine : HybridSimilarityEngine}

theorem HybridSimilarityEngine.new_ok (h : HybridSimilarityEngine.new policy = .ok engine) :
    engine.policy = policy ∧ policy.minimumLumaSimilarity ≤ similarityScale := by
  unfold HybridSimilarityEngine.new at h
  obtain ⟨_, -, h⟩ := bind_eq_ok.1 h
  obtain ⟨_, hThreshold, h⟩ := bind_eq_ok.1 h
  cases h
  exact ⟨rfl, ensure_eq_ok.1 hThreshold⟩

theorem rgbMeanAbsoluteSimilarity_total (right : OwnedRgbaFrame) (h : left.width < 2 ^ 32) :
    ∃ score, rgbMeanAbsoluteSimilarity left right = .ok score := by
  unfold rgbMeanAbsoluteSimilarity
  rw [widthBytes_of_lt h]
  simp only [bind, Except.bind]
  split
  · exact ⟨_, rfl⟩
  · exact ⟨_, rfl⟩

theorem rgbMeanAbsoluteSimilarity_self (h : f.width < 2 ^ 32) :
    rgbMeanAbsoluteSimilarity f f = .ok .identical := by
  unfold rgbMeanAbsoluteSimilarity
  rw [widthBytes_of_lt h]
  simp [bind, Except.bind]

/-- A decision about two frames of one size is always reached. -/
theorem HybridSimilarityEngine.compare_total (engine : HybridSimilarityEngine)
    (h : SameSize left right) : ∃ decision, engine.compare left right = .ok decision := by
  obtain ⟨score, hScore⟩ := rgbMeanAbsoluteSimilarity_total right h.width_lt
  unfold HybridSimilarityEngine.compare
  rw [h.validateDimensions, hScore]
  simp only [Except.mapError, bind, Except.bind]
  split
  · exact ⟨_, rfl⟩
  · split
    · exact ⟨_, rfl⟩
    · exact ⟨_, rfl⟩

@[simp] theorem DHash64.hammingDistance_self (hash : DHash64) : hash.hammingDistance hash = 0 := by
  unfold DHash64.hammingDistance
  rw [BitVec.xor_self]
  decide

/-- A frame is accepted against itself, with the best score. -/
theorem HybridSimilarityEngine.compare_self (h : HybridSimilarityEngine.new policy = .ok engine)
    (hWidth : f.width < 2 ^ 32) :
    engine.compare f f = .ok (.accepted (dhashCompare f f) .identical) := by
  obtain ⟨hPolicy, hThreshold⟩ := HybridSimilarityEngine.new_ok h
  have hDistance : (dhashCompare f f).hammingDistance = 0 := by
    simp [dhashCompare, PerceptualScore.fromHashes]
  unfold HybridSimilarityEngine.compare
  rw [SameSize.validateDimensions ⟨rfl, rfl, hWidth⟩, rgbMeanAbsoluteSimilarity_self hWidth]
  simp only [Except.mapError, bind, Except.bind]
  rw [if_neg (by omega), hPolicy]
  exact if_pos hThreshold

end Decisions

end FrameScope.Ports.Perceptual
