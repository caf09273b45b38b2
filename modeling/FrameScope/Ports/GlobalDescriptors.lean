import FrameScope.Ports.Similarity
import FrameScope.Ports.SimilarityStore

/-!
# Descriptors of the global similarity search

Port of the descriptors, scores and buckets of `framescope-similarity-store/src/global.rs`.
A descriptor holds two hashes, which the store cuts into bands, and a picture of
sixteen by sixteen RGB cells.  The picture decides: `confirmation_similarity`
compares two of them under small translations and crops.

The bytes of a picture are read by position.  Every function checks or is
given the length, so the default of `byteAt` is never read.
-/

namespace FrameScope.Ports.GlobalDescriptors

open FrameScope.Ports.Core
open FrameScope.Ports.FrameCache (OwnedRgbaFrame)
open FrameScope.Ports.Similarity (absDiff integerLuma)
open FrameScope.Ports.SimilarityStore (SqliteError)

/-- `NORMALIZED_SIDE`. -/
def normalizedSide : Nat := 16

/-- `NORMALIZED_RGB_BYTES`. -/
def normalizedRgbBytes : Nat := normalizedSide * normalizedSide * 3

/-- `HASH_BANDS_PER_KIND`. -/
def hashBandsPerKind : Nat := 4

/-- `SIMILARITY_SCALE`. -/
def similarityScale : Nat := 10000

/-- `SCALE_INSETS_Q16`. -/
def scaleInsetsQ16 : List Nat := [0, 32768, 49152, 65536]

/-- `COLOR_BUCKET_COMPONENT_MAX`. -/
def colorBucketComponentMax : Int := 31

/-- `COLOR_BUCKET_RADIUS`. -/
def colorBucketRadius : Int := 2

structure GlobalDescriptor where
  frameId : Nat
  averageHash : BitVec 64
  differenceHash : BitVec 64
  normalizedRgb : List UInt8
  deriving DecidableEq, Repr

inductive GlobalSimilarityError where
  | unsafeSourceIdentity
  | invalidThreshold (value : Nat)
  | invalidMaxResults
  | invalidDescriptorLength (length : Nat)
  | missingTarget (frameId : Nat)
  | nonContiguousFrameIds (expected actual : Nat)
  | numericRange (label : String)
  | notReusable (detail : String)
  | invalidStore (detail : String)
  | sqlite (error : SqliteError)
  deriving DecidableEq, Repr

/-- `validate_descriptor_bytes`. -/
def validateDescriptorBytes (bytes : List UInt8) : Except GlobalSimilarityError Unit :=
  ensure (bytes.length = normalizedRgbBytes) (.invalidDescriptorLength bytes.length)

/-- The byte at a position. -/
def byteAt (bytes : List UInt8) (i : Nat) : Nat := (bytes.getD i 0).toNat

/-! ## Descriptors of frames -/

/-- `fixed_point_coordinate`. -/
def fixedPointCoordinate (output outputSize inputSize : Nat) : Nat :=
  if outputSize ≤ 1 ∨ inputSize ≤ 1 then 0
  else output * (inputSize - 1) * 65536 / (outputSize - 1)

/-- One channel of a pixel of the frame. -/
def frameChannel (frame : OwnedRgbaFrame) (y x channel : Nat) : Nat :=
  (frame.pixels.getD (y * frame.strideBytes + x * 4 + channel) 0).toNat

/-- The round of the loops of `resample_rgb` for one channel. -/
def resampledChannel (frame : OwnedRgbaFrame) (outputWidth outputHeight outputY outputX
    channel : Nat) : UInt8 :=
  let sourceY := fixedPointCoordinate outputY outputHeight frame.height
  let y0 := sourceY / 2 ^ 16
  let y1 := min (y0 + 1) (frame.height - 1)
  let fy := sourceY % 2 ^ 16
  let sourceX := fixedPointCoordinate outputX outputWidth frame.width
  let x0 := sourceX / 2 ^ 16
  let x1 := min (x0 + 1) (frame.width - 1)
  let fx := sourceX % 2 ^ 16
  let top := frameChannel frame y0 x0 channel * (65536 - fx) + frameChannel frame y0 x1 channel * fx
  let bottom :=
    frameChannel frame y1 x0 channel * (65536 - fx) + frameChannel frame y1 x1 channel * fx
  UInt8.ofNat (min ((top * (65536 - fy) + bottom * fy + 2 ^ 31) / 2 ^ 32) 255)

/-- `resample_rgb`.  A frame holds its rows in full, so its layout is never
refused. -/
def resampleRgb (frame : OwnedRgbaFrame) (outputWidth outputHeight : Nat) : List UInt8 :=
  (List.range outputHeight).flatMap fun outputY => (List.range outputWidth).flatMap fun outputX =>
    (List.range 3).map fun channel =>
      resampledChannel frame outputWidth outputHeight outputY outputX channel

theorem length_resampleRgb (frame : OwnedRgbaFrame) (outputWidth outputHeight : Nat) :
    (resampleRgb frame outputWidth outputHeight).length = outputHeight * (outputWidth * 3) := by
  unfold resampleRgb
  simp [List.length_flatMap]

/-- The luma of the pixel at a position of a resampled picture. -/
def lumaOf (rgb : List UInt8) (pixel : Nat) : Nat :=
  integerLuma (rgb.getD (pixel * 3) 0, rgb.getD (pixel * 3 + 1) 0, rgb.getD (pixel * 3 + 2) 0)

/-- The hash whose bits a predicate sets. -/
def hashOf (isSet : Nat → Bool) : BitVec 64 :=
  (List.range 64).foldl (fun bits bit => if isSet bit then bits ||| (1 <<< bit) else bits) 0

/-- `descriptor_for_frame`. -/
def descriptorForFrame (frameId : Nat) (frame : OwnedRgbaFrame) : GlobalDescriptor :=
  let hashRgb := resampleRgb frame 8 8
  let average := (((List.range 64).map (lumaOf hashRgb)).sum + 32) / 64
  let differenceRgb := resampleRgb frame 9 8
  { frameId
    averageHash := hashOf fun bit => decide (average ≤ lumaOf hashRgb bit)
    differenceHash := hashOf fun bit =>
      let left := bit / 8 * 9 + bit % 8
      decide (lumaOf differenceRgb (left + 1) < lumaOf differenceRgb left)
    normalizedRgb := resampleRgb frame normalizedSide normalizedSide }

/-! ## Confirmation -/

/-- `score_from_difference`. -/
def scoreFromDifference (difference channels : Nat) : Nat :=
  if channels = 0 then 0
  else
    let maximum := channels * 255
    similarityScale -
      min ((difference * similarityScale + maximum / 2) / maximum) similarityScale

/-- The cells of a picture, row by row. -/
def cells : List (Nat × Nat) :=
  (List.range normalizedSide).flatMap fun y => (List.range normalizedSide).map fun x => (y, x)

/-- Where the cell of the right picture lies that a translation puts over a cell
of the left one. -/
def translatedCell (dy dx : Int) (cell : Nat × Nat) : Option (Nat × Nat) :=
  let y := cell.1 + dy
  let x := cell.2 + dx
  if 0 ≤ y ∧ y < normalizedSide ∧ 0 ≤ x ∧ x < normalizedSide then some (y.toNat, x.toNat) else none

/-- The index of a channel of a cell. -/
def channelIndex (cell : Nat × Nat) (channel : Nat) : Nat :=
  (cell.1 * normalizedSide + cell.2) * 3 + channel

/-- One round of `translation_similarity`. -/
def translatedScore (left right : List UInt8) (dy dx : Int) : Nat :=
  let overlap := cells.filterMap fun cell =>
    (translatedCell dy dx cell).map fun moved => (cell, moved)
  let differences := overlap.flatMap fun pair => (List.range 3).map fun channel =>
    absDiff (byteAt left (channelIndex pair.1 channel))
      (byteAt right (channelIndex pair.2 channel))
  scoreFromDifference differences.sum differences.length

/-- `translation_similarity`. -/
def translationSimilarity (left right : List UInt8) : Nat :=
  [-1, 0, 1].foldl (fun best dy => [-1, 0, 1].foldl (fun best dx =>
    max best (translatedScore left right dy dx)) best) 0

/-- `sample_descriptor_channel`. -/
def sampleDescriptorChannel (descriptor : List UInt8) (xQ16 yQ16 channel : Nat) : Nat :=
  let maxIndex := normalizedSide - 1
  let x0 := min (xQ16 / 2 ^ 16) maxIndex
  let y0 := min (yQ16 / 2 ^ 16) maxIndex
  let x1 := min (x0 + 1) maxIndex
  let y1 := min (y0 + 1) maxIndex
  let fx := xQ16 % 2 ^ 16
  let fy := yQ16 % 2 ^ 16
  let p00 := byteAt descriptor (channelIndex (y0, x0) channel)
  let p10 := byteAt descriptor (channelIndex (y0, x1) channel)
  let p01 := byteAt descriptor (channelIndex (y1, x0) channel)
  let p11 := byteAt descriptor (channelIndex (y1, x1) channel)
  let top := p00 * (65536 - fx) + p10 * fx
  let bottom := p01 * (65536 - fx) + p11 * fx
  min ((top * (65536 - fy) + bottom * fy + 2 ^ 31) / 2 ^ 32) 255

/-- The coordinate that a crop by `inset` reads for a cell. -/
def croppedCoordinate (insetQ16 i : Nat) : Nat :=
  let fullSpanQ16 := (normalizedSide - 1) * 2 ^ 16
  insetQ16 + i * (fullSpanQ16 - insetQ16 * 2) / (normalizedSide - 1)

/-- `scaled_similarity`. -/
def scaledSimilarity (source target : List UInt8) (insetXQ16 insetYQ16 : Nat) : Nat :=
  let differences := cells.flatMap fun cell => (List.range 3).map fun channel =>
    absDiff (sampleDescriptorChannel source (croppedCoordinate insetXQ16 cell.2)
      (croppedCoordinate insetYQ16 cell.1) channel) (byteAt target (channelIndex cell channel))
  scoreFromDifference differences.sum normalizedRgbBytes

/-- `confirmation_similarity`. -/
def confirmationSimilarity (left right : List UInt8) : Except GlobalSimilarityError Nat := do
  validateDescriptorBytes left
  validateDescriptorBytes right
  .ok (scaleInsetsQ16.foldl (fun best insetX => scaleInsetsQ16.foldl (fun best insetY =>
    if insetX = 0 ∧ insetY = 0 then best
    else max (max best (scaledSimilarity left right insetX insetY))
      (scaledSimilarity right left insetX insetY)) best) (translationSimilarity left right))

/-! ## Index keys -/

/-- One band of a hash. -/
def bandValue (hash : BitVec 64) (band : Nat) : Nat := (hash.toNat >>> (band * 16)) &&& 0xffff

/-- The sum of a channel over the cells of a picture. -/
def channelSum (bytes : List UInt8) (channel : Nat) : Nat :=
  ((List.range (bytes.length / 3)).map fun pixel => byteAt bytes (pixel * 3 + channel)).sum

/-- The quantized mean of a channel. -/
def quantizedMean (bytes : List UInt8) (channel : Nat) : Nat :=
  let pixelCount := bytes.length / 3
  min (((channelSum bytes channel + pixelCount / 2) / pixelCount) >>> 3) 31

/-- The three components in one number. -/
def packBucket (red green blue : Nat) : Nat := red ||| (green <<< 5) ||| (blue <<< 10)

/-- `color_bucket`. -/
def colorBucket (bytes : List UInt8) : Except GlobalSimilarityError Nat := do
  validateDescriptorBytes bytes
  .ok (packBucket (quantizedMean bytes 0) (quantizedMean bytes 1) (quantizedMean bytes 2))

/-- `color_bucket_components`. -/
def colorBucketComponents (bucket : Nat) : Int × Int × Int :=
  ((bucket &&& 0x1f : Nat), ((bucket >>> 5) &&& 0x1f : Nat), ((bucket >>> 10) &&& 0x1f : Nat))

/-- The components within the radius, clamped at both ends. -/
def nearbyComponents (component : Int) : List Nat :=
  let low := max (component - colorBucketRadius) 0
  let high := min (component + colorBucketRadius) colorBucketComponentMax
  (List.range (high - low + 1).toNat).map fun (i : Nat) => (low + i).toNat

/-- `nearby_color_buckets`. -/
def nearbyColorBuckets (bucket : Nat) : List Nat :=
  let components := colorBucketComponents bucket
  (nearbyComponents components.1).flatMap fun r =>
    (nearbyComponents components.2.1).flatMap fun g =>
      (nearbyComponents components.2.2).map fun b => packBucket r g b

end FrameScope.Ports.GlobalDescriptors
