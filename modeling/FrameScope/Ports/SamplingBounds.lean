import FrameScope.Verified.Bilinear
import FrameScope.Ports.VisiblePixels

/-!
# Sampling stays in bounds and in range

The loops that sample a frame, run on machine integers with every index
checked: `resample_rgb`, `DHashEngine::hash`, `rgb_mean_absolute_similarity` and
`downscale_scrub_preview`.  For an admitted frame none of them stops, and each
gives what its function is modelled to give.

A channel that is resampled is a blend of channels of the frame, and a channel
of a preview is one of them, so neither leaves their range.
-/

namespace FrameScope.Ports.SamplingBounds

open FrameScope.Verified.Checked
open FrameScope.Verified.Bilinear
open FrameScope.Ports.Core
open FrameScope.Ports.FrameCache
open FrameScope.Ports.Similarity
open FrameScope.Ports.Perceptual
open FrameScope.Ports.GlobalDescriptors
  (frameChannel resampledChannel resampleRgb fixedPointCoordinate)
open FrameScope.Ports.ScrubPreview
open FrameScope.Ports.VisiblePixels

/-! ## Bytes of a frame -/

/-- The offset of a channel of a pixel, as `usize`. -/
def checkedOffset (f : OwnedRgbaFrame) (y x channel : Nat) : Option Nat := do
  let row ← mul 64 y f.strideBytes
  let column ← mul 64 x 4
  let pixel ← add 64 row column
  add 64 pixel channel

/-- A channel of a pixel, read in bounds. -/
def checkedChannel (f : OwnedRgbaFrame) (y x channel : Nat) : Option Nat := do
  let offset ← checkedOffset f y x channel
  let byte ← f.pixels[offset]?
  some byte.toNat

/-- `&pixels[start..start + width_bytes]` of a row. -/
def checkedRow (f : OwnedRgbaFrame) (widthBytes y : Nat) : Option (List UInt8) := do
  let start ← mul 64 y f.strideBytes
  let stop ← add 64 start widthBytes
  slice f.pixels start stop

section Bytes

variable {f : OwnedRgbaFrame} {y x channel : Nat}

/-- The offset of a channel of the frame lies in its payload. -/
theorem Admitted.offset_lt (h : Admitted f) (hy : y < f.height) (hx : x < f.width)
    (hChannel : channel < 4) :
    y * f.strideBytes + x * 4 + channel < f.pixels.length ∧
      y * f.strideBytes + x * 4 + channel < 2 ^ 64 := by
  have hRow := (h.row_lt hy).1
  have hBytes := h.bytes_lt
  have hStride := f.stride_ge
  rw [f.pixels_length]
  omega

theorem checkedOffset_of (h : Admitted f) (hy : y < f.height) (hx : x < f.width)
    (hChannel : channel < 4) :
    checkedOffset f y x channel = some (y * f.strideBytes + x * 4 + channel) := by
  have hBound := (Admitted.offset_lt h hy hx hChannel).2
  apply bind_of (mul_of (by omega))
  apply bind_of (mul_of (by omega))
  apply bind_of (add_of (by omega))
  exact add_of hBound

theorem checkedChannel_of (h : Admitted f) (hy : y < f.height) (hx : x < f.width)
    (hChannel : channel < 4) :
    checkedChannel f y x channel = some (frameChannel f y x channel) := by
  have hBound := (Admitted.offset_lt h hy hx hChannel).1
  apply bind_of (checkedOffset_of h hy hx hChannel)
  apply bind_of (List.getElem?_eq_getElem hBound)
  unfold frameChannel
  rw [List.getD_eq_getElem?_getD, List.getElem?_eq_getElem hBound]
  rfl

theorem checkedRow_of (h : Admitted f) (hy : y < f.height) :
    checkedRow f (f.width * 4) y = some (visibleRow f (f.width * 4) y) := by
  obtain ⟨hRow, hEnd⟩ := h.row_lt hy
  have hStride := f.stride_ge
  apply bind_of (mul_of (by omega))
  apply bind_of (add_of hEnd)
  rw [slice_of (Nat.le_add_right _ _) (by rw [f.pixels_length]; omega), Nat.add_sub_cancel_left]
  rfl

theorem frameChannel_le (f : OwnedRgbaFrame) (y x channel : Nat) :
    frameChannel f y x channel ≤ 255 := by
  have := (f.pixels.getD (y * f.strideBytes + x * 4 + channel) 0).toNat_lt
  unfold frameChannel
  omega

end Bytes

/-! ## `resample_rgb` -/

/-- `fixed_point_coordinate`. -/
def checkedFixedPoint (output outputSize inputSize : Nat) : Option Nat :=
  if outputSize ≤ 1 ∨ inputSize ≤ 1 then some 0
  else do
    let lastInput ← sub inputSize 1
    let product ← mul 64 output lastInput
    let scaled ← mul 64 product 65536
    let lastOutput ← sub outputSize 1
    div scaled lastOutput

/-- The coordinate after `first`, kept in the frame. -/
def checkedNext (first size : Nat) : Option Nat := do
  let next ← add 64 first 1
  let last ← sub size 1
  some (min next last)

/-- One channel of one pixel of the output. -/
def checkedResampledChannel (f : OwnedRgbaFrame) (outputWidth outputHeight outputY outputX
    channel : Nat) : Option UInt8 := do
  let sourceY ← checkedFixedPoint outputY outputHeight f.height
  let y1 ← checkedNext (sourceY / 2 ^ 16) f.height
  let sourceX ← checkedFixedPoint outputX outputWidth f.width
  let x1 ← checkedNext (sourceX / 2 ^ 16) f.width
  let p00 ← checkedChannel f (sourceY / 2 ^ 16) (sourceX / 2 ^ 16) channel
  let p10 ← checkedChannel f (sourceY / 2 ^ 16) x1 channel
  let p01 ← checkedChannel f y1 (sourceX / 2 ^ 16) channel
  let p11 ← checkedChannel f y1 x1 channel
  let value ← checkedBilinear p00 p10 p01 p11 (sourceX % 2 ^ 16) (sourceY % 2 ^ 16)
  some (UInt8.ofNat value)

/-- The index that the value is written to, inside of the output. -/
def checkedOutputIndex (outputWidth outputLen outputY outputX channel : Nat) : Option Nat := do
  let row ← mul 64 outputY outputWidth
  let pixel ← add 64 row outputX
  let start ← mul 64 pixel 3
  let index ← add 64 start channel
  demand (index < outputLen)
  some index

/-- `resample_rgb`. -/
def checkedResampleRgb (f : OwnedRgbaFrame) (outputWidth outputHeight : Nat) :
    Option (List UInt8) := do
  let required ← mul 64 f.strideBytes f.height
  demand (required ≤ f.pixels.length)
  let outputPixels ← mul 64 outputWidth outputHeight
  let outputLen ← mul 64 outputPixels 3
  let rows ← collect (fun outputY => do
    let row ← collect (fun outputX => collect (fun channel => do
      let value ← checkedResampledChannel f outputWidth outputHeight outputY outputX channel
      let _ ← checkedOutputIndex outputWidth outputLen outputY outputX channel
      some value) (List.range 3)) (List.range outputWidth)
    some row.flatten) (List.range outputHeight)
  some rows.flatten

section Resample

variable {f : OwnedRgbaFrame} {outputWidth outputHeight outputY outputX channel : Nat}

theorem checkedFixedPoint_of {output outputSize inputSize : Nat} (hOutput : output < outputSize)
    (hSize : outputSize ≤ 65536) (hInput : inputSize < 2 ^ 32) :
    checkedFixedPoint output outputSize inputSize =
      some (fixedPointCoordinate output outputSize inputSize) := by
  unfold checkedFixedPoint fixedPointCoordinate
  by_cases hSmall : outputSize ≤ 1 ∨ inputSize ≤ 1
  · rw [if_pos hSmall, if_pos hSmall]
  · rw [if_neg hSmall, if_neg hSmall]
    have hProduct : output * (inputSize - 1) ≤ 65535 * (2 ^ 32 - 2) :=
      Nat.mul_le_mul (by omega) (by omega)
    apply bind_of (sub_of (by omega))
    apply bind_of (mul_of (by omega))
    apply bind_of (mul_of (by omega))
    apply bind_of (sub_of (by omega))
    exact div_of (by omega)

theorem checkedNext_of {first size : Nat} (hFirst : first < size) (hSize : size < 2 ^ 32) :
    checkedNext first size = some (min (first + 1) (size - 1)) := by
  apply bind_of (add_of (by omega))
  exact bind_of (sub_of (by omega)) rfl

theorem resampledChannel_eq (f : OwnedRgbaFrame) (outputWidth outputHeight outputY outputX
    channel : Nat) :
    resampledChannel f outputWidth outputHeight outputY outputX channel =
      UInt8.ofNat (bilinear
        (frameChannel f (fixedPointCoordinate outputY outputHeight f.height / 2 ^ 16)
          (fixedPointCoordinate outputX outputWidth f.width / 2 ^ 16) channel)
        (frameChannel f (fixedPointCoordinate outputY outputHeight f.height / 2 ^ 16)
          (min (fixedPointCoordinate outputX outputWidth f.width / 2 ^ 16 + 1) (f.width - 1))
          channel)
        (frameChannel f
          (min (fixedPointCoordinate outputY outputHeight f.height / 2 ^ 16 + 1) (f.height - 1))
          (fixedPointCoordinate outputX outputWidth f.width / 2 ^ 16) channel)
        (frameChannel f
          (min (fixedPointCoordinate outputY outputHeight f.height / 2 ^ 16 + 1) (f.height - 1))
          (min (fixedPointCoordinate outputX outputWidth f.width / 2 ^ 16 + 1) (f.width - 1))
          channel)
        (fixedPointCoordinate outputX outputWidth f.width % 2 ^ 16)
        (fixedPointCoordinate outputY outputHeight f.height % 2 ^ 16)) := rfl

theorem checkedResampledChannel_of (h : Admitted f) (hWidth : outputWidth ≤ 65536)
    (hHeight : outputHeight ≤ 65536) (hY : outputY < outputHeight) (hX : outputX < outputWidth)
    (hChannel : channel < 3) :
    checkedResampledChannel f outputWidth outputHeight outputY outputX channel =
      some (resampledChannel f outputWidth outputHeight outputY outputX channel) := by
  have hY0 := fixedPointCoordinate_lt hY f.height_pos
  have hX0 := fixedPointCoordinate_lt hX f.width_pos
  have hHeightPos := f.height_pos
  have hWidthPos := f.width_pos
  have hY1 : min (fixedPointCoordinate outputY outputHeight f.height / 2 ^ 16 + 1)
      (f.height - 1) < f.height := Nat.lt_of_le_of_lt (Nat.min_le_right _ _) (by omega)
  have hX1 : min (fixedPointCoordinate outputX outputWidth f.width / 2 ^ 16 + 1)
      (f.width - 1) < f.width := Nat.lt_of_le_of_lt (Nat.min_le_right _ _) (by omega)
  rw [resampledChannel_eq]
  apply bind_of (checkedFixedPoint_of hY hHeight h.height_lt)
  apply bind_of (checkedNext_of hY0 h.height_lt)
  apply bind_of (checkedFixedPoint_of hX hWidth h.width_lt)
  apply bind_of (checkedNext_of hX0 h.width_lt)
  apply bind_of (checkedChannel_of h hY0 hX0 (by omega))
  apply bind_of (checkedChannel_of h hY0 hX1 (by omega))
  apply bind_of (checkedChannel_of h hY1 hX0 (by omega))
  apply bind_of (checkedChannel_of h hY1 hX1 (by omega))
  exact bind_of (checkedBilinear_of (by omega) (by omega) (frameChannel_le _ _ _ _)
    (frameChannel_le _ _ _ _) (frameChannel_le _ _ _ _) (frameChannel_le _ _ _ _)) rfl

theorem checkedOutputIndex_of (hWidth : outputWidth ≤ 65536) (hHeight : outputHeight ≤ 65536)
    (hY : outputY < outputHeight) (hX : outputX < outputWidth) (hChannel : channel < 3) :
    checkedOutputIndex outputWidth (outputWidth * outputHeight * 3) outputY outputX channel =
      some ((outputY * outputWidth + outputX) * 3 + channel) := by
  have hRows : (outputY + 1) * outputWidth ≤ outputHeight * outputWidth :=
    Nat.mul_le_mul_right _ hY
  have hArea : outputHeight * outputWidth ≤ 65536 * 65536 := Nat.mul_le_mul hHeight hWidth
  rw [Nat.succ_mul] at hRows
  apply bind_of (mul_of (by omega))
  apply bind_of (add_of (by omega))
  apply bind_of (mul_of (by omega))
  apply bind_of (add_of (by omega))
  rw [Nat.mul_comm outputWidth outputHeight]
  exact bind_of (demand_of (by omega)) rfl

/-- The resampled picture is computed in bounds and without overflow. -/
theorem checkedResampleRgb_of (h : Admitted f) (hWidth : outputWidth ≤ 65536)
    (hHeight : outputHeight ≤ 65536) :
    checkedResampleRgb f outputWidth outputHeight =
      some (resampleRgb f outputWidth outputHeight) := by
  have hArea : outputWidth * outputHeight ≤ 65536 * 65536 := Nat.mul_le_mul hWidth hHeight
  apply bind_of (mul_of h.bytes_lt)
  apply bind_of (demand_of (Nat.le_of_eq f.pixels_length.symm))
  apply bind_of (mul_of (by omega))
  apply bind_of (mul_of (by omega))
  apply bind_of (v := (List.range outputHeight).map fun outputY =>
    (List.range outputWidth).flatMap fun outputX => (List.range 3).map fun channel =>
      resampledChannel f outputWidth outputHeight outputY outputX channel)
  · apply collect_of
    intro outputY hY
    have hY := List.mem_range.1 hY
    apply bind_of (v := (List.range outputWidth).map fun outputX =>
      (List.range 3).map fun channel =>
        resampledChannel f outputWidth outputHeight outputY outputX channel)
    · apply collect_of
      intro outputX hX
      have hX := List.mem_range.1 hX
      apply collect_of
      intro channel hChannel
      have hChannel := List.mem_range.1 hChannel
      apply bind_of (checkedResampledChannel_of h hWidth hHeight hY hX hChannel)
      exact bind_of (checkedOutputIndex_of hWidth hHeight hY hX hChannel) rfl
    · rfl
  · rfl

end Resample

/-! ## `DHashEngine::hash` -/

/-- `sample_coordinate`. -/
def checkedSampleCoordinate (size index sampleCount : Nat) : Option Nat := do
  let last ← sub size 1
  let numerator ← mul 64 last index
  let denominator ← sub sampleCount 1
  div numerator denominator

/-- `integer_luma` in `u32`. -/
def checkedLuma (red green blue : Nat) : Option Nat := do
  let redPart ← mul 32 red 77
  let greenPart ← mul 32 green 150
  let bluePart ← mul 32 blue 29
  let warm ← add 32 redPart greenPart
  let total ← add 32 warm bluePart
  let rounded ← add 32 total 128
  some (rounded / 256)

/-- `luma_at`. -/
def checkedLumaAt (f : OwnedRgbaFrame) (x y : Nat) : Option Nat := do
  let red ← checkedChannel f y x 0
  let green ← checkedChannel f y x 1
  let blue ← checkedChannel f y x 2
  checkedLuma red green blue

/-- The samples of the grid, row by row. -/
def checkedSamples (f : OwnedRgbaFrame) : Option (List (List Nat)) :=
  collect (fun row => collect (fun column => do
    let y ← checkedSampleCoordinate f.height row 8
    let x ← checkedSampleCoordinate f.width column 9
    checkedLumaAt f x y) (List.range 9)) (List.range 8)

/-- `DHashEngine::hash`. -/
def checkedDhash (f : OwnedRgbaFrame) : Option DHash64 := do
  let samples ← checkedSamples f
  let bits ← (List.range 64).foldlM (fun (bits : BitVec 64) bit => do
    let row ← samples[bit / 8]?
    let left ← row[bit % 8]?
    let right ← row[bit % 8 + 1]?
    some (if right < left then bits ||| ((1 : BitVec 64) <<< bit) else bits)) 0
  some ⟨bits⟩

section Hash

variable {f : OwnedRgbaFrame}

theorem checkedSampleCoordinate_of {size index sampleCount : Nat} (hSize : 0 < size)
    (hBound : size < 2 ^ 32) (hIndex : index < sampleCount) (hCount : 1 < sampleCount)
    (hSamples : sampleCount ≤ 9) :
    checkedSampleCoordinate size index sampleCount =
      some (sampleCoordinate size index sampleCount) := by
  have hProduct : (size - 1) * index ≤ 2 ^ 32 * 9 := Nat.mul_le_mul (by omega) (by omega)
  apply bind_of (sub_of (show 1 ≤ size by omega))
  apply bind_of (mul_of (by omega))
  apply bind_of (sub_of (by omega))
  exact div_of (by omega)

theorem checkedLuma_of {red green blue : Nat} (hRed : red ≤ 255) (hGreen : green ≤ 255)
    (hBlue : blue ≤ 255) :
    checkedLuma red green blue = some ((red * 77 + green * 150 + blue * 29 + 128) / 256) := by
  apply bind_of (mul_of (by omega))
  apply bind_of (mul_of (by omega))
  apply bind_of (mul_of (by omega))
  apply bind_of (add_of (by omega))
  apply bind_of (add_of (by omega))
  exact bind_of (add_of (by omega)) rfl

theorem checkedLumaAt_of (h : Admitted f) {x y : Nat} (hy : y < f.height) (hx : x < f.width) :
    checkedLumaAt f x y = some (lumaAt f x y) := by
  apply bind_of (checkedChannel_of h hy hx (by omega))
  apply bind_of (checkedChannel_of h hy hx (by omega))
  apply bind_of (checkedChannel_of h hy hx (by omega))
  exact checkedLuma_of (frameChannel_le _ _ _ _) (frameChannel_le _ _ _ _)
    (frameChannel_le _ _ _ _)

theorem checkedSamples_of (h : Admitted f) :
    checkedSamples f = some ((List.range 8).map fun row =>
      (List.range 9).map fun column => sampleAt f row column) := by
  apply collect_of
  intro row hRow
  have hRow := List.mem_range.1 hRow
  apply collect_of
  intro column hColumn
  have hColumn := List.mem_range.1 hColumn
  apply bind_of (checkedSampleCoordinate_of f.height_pos h.height_lt hRow (by decide) (by decide))
  apply bind_of (checkedSampleCoordinate_of f.width_pos h.width_lt hColumn (by decide) (by decide))
  exact checkedLumaAt_of h (sampleCoordinate_lt f.height_pos hRow)
    (sampleCoordinate_lt f.width_pos hColumn)

/-- An entry of a table that a loop fills. -/
theorem getElem?_map_range {α : Type} (g : Nat → α) {n i : Nat} (h : i < n) :
    ((List.range n).map g)[i]? = some (g i) := by
  rw [List.getElem?_map, List.getElem?_range h]
  rfl

/-- The hash is computed in bounds and without overflow. -/
theorem checkedDhash_of (h : Admitted f) : checkedDhash f = some (dhash f) := by
  apply bind_of (checkedSamples_of h)
  apply bind_of (v := (dhash f).bits)
  · unfold dhash
    dsimp only
    apply foldlM_of
    intro bits bit hBit
    have hBit := List.mem_range.1 hBit
    apply bind_of (getElem?_map_range _ (by omega))
    apply bind_of (getElem?_map_range _ (by omega))
    exact bind_of (getElem?_map_range _ (by omega)) rfl
  · rfl

end Hash

/-! ## `rgb_mean_absolute_similarity` -/

/-- The pixels of two frames of one size, side by side.  The rows are sliced in bounds. -/
def checkedPixelPairs (left right : OwnedRgbaFrame) (widthBytes : Nat) :
    Option (List ((UInt8 × UInt8 × UInt8) × (UInt8 × UInt8 × UInt8))) := do
  let rows ← collect (fun y => do
    let leftRow ← checkedRow left widthBytes y
    let rightRow ← checkedRow right widthBytes y
    some ((rgbPixels leftRow).zip (rgbPixels rightRow))) (List.range left.height)
  some rows.flatten

/-- The rounded share of the largest possible difference, in `u128`. -/
def checkedDifferenceBps (total maxDifference : Nat) : Option Nat :=
  if maxDifference = 0 then some 0
  else do
    let scaled ← mul 128 total similarityScale
    let rounded ← add 128 scaled (maxDifference / 2)
    let quotient ← div rounded maxDifference
    some (min quotient similarityScale)

/-- `rgb_mean_absolute_similarity`.  The three differences of a pixel are added one by one in the
source; their sum bounds what is in between. -/
def checkedRgbSimilarity (left right : OwnedRgbaFrame) : Option SimilarityScore := do
  let widthBytes ← mul 64 left.width 4
  let pairs ← checkedPixelPairs left right widthBytes
  if visiblePixelsIdentical left right widthBytes then some .identical
  else do
    let total ← accumulate 128 (fun pair => some (rgbDifference pair.1 pair.2)) 0 pairs
    let pixelCount ← mul 128 left.width left.height
    let channels ← mul 128 pixelCount 3
    let maxDifference ← mul 128 channels 255
    let differenceBps ← checkedDifferenceBps total maxDifference
    let basisPoints ← sub similarityScale differenceBps
    some ⟨basisPoints, false⟩

section Similarity

variable {left right : OwnedRgbaFrame}

theorem rgbDifference_le (p q : UInt8 × UInt8 × UInt8) : rgbDifference p q ≤ 765 := by
  have h1 := p.1.toNat_lt
  have h2 := p.2.1.toNat_lt
  have h3 := p.2.2.toNat_lt
  have h4 := q.1.toNat_lt
  have h5 := q.2.1.toNat_lt
  have h6 := q.2.2.toNat_lt
  unfold rgbDifference absDiff
  omega

theorem length_rgbPixels_le (row : List UInt8) : (rgbPixels row).length * 4 ≤ row.length := by
  induction row using rgbPixels.induct with
  | case1 r g b a rest ih =>
      unfold rgbPixels
      rw [List.length_cons, List.length_cons, List.length_cons, List.length_cons,
        List.length_cons]
      omega
  | case2 row hShort =>
      unfold rgbPixels
      split
      · exact absurd rfl (hShort _ _ _ _ _)
      · exact Nat.zero_le _

/-- The pixels that are compared. -/
def pixelPairs (left right : OwnedRgbaFrame) :
    List ((UInt8 × UInt8 × UInt8) × (UInt8 × UInt8 × UInt8)) :=
  (List.range left.height).flatMap fun y =>
    (rgbPixels (visibleRow left (left.width * 4) y)).zip
      (rgbPixels (visibleRow right (left.width * 4) y))

theorem checkedPixelPairs_of (hLeft : Admitted left) (hRight : Admitted right)
    (hWidth : left.width = right.width) (hHeight : left.height = right.height) :
    checkedPixelPairs left right (left.width * 4) = some (pixelPairs left right) := by
  apply bind_of (v := (List.range left.height).map fun y =>
    (rgbPixels (visibleRow left (left.width * 4) y)).zip
      (rgbPixels (visibleRow right (left.width * 4) y)))
  · apply collect_of
    intro y hy
    have hy := List.mem_range.1 hy
    apply bind_of (checkedRow_of hLeft hy)
    have hRow := checkedRow_of hRight (show y < right.height by omega)
    rw [← hWidth] at hRow
    exact bind_of hRow rfl
  · rfl

theorem totalDifference_eq (left right : OwnedRgbaFrame) :
    totalDifference rgbDifference left right (left.width * 4) =
      ((pixelPairs left right).map fun pair => rgbDifference pair.1 pair.2).sum := by
  unfold totalDifference pixelPairs
  rw [List.map_flatMap, List.flatMap, List.sum_flatten, List.map_map]
  congr 1
  apply List.map_congr_left
  intro y _
  rw [Function.comp_apply, List.map_zip_eq_zipWith]
  rfl

theorem length_pixelPairs_le (left right : OwnedRgbaFrame) :
    (pixelPairs left right).length ≤ left.height * left.width := by
  unfold pixelPairs
  rw [List.length_flatMap]
  have hRows : ((List.range left.height).map fun y =>
      ((rgbPixels (visibleRow left (left.width * 4) y)).zip
        (rgbPixels (visibleRow right (left.width * 4) y))).length).sum ≤
      (List.range left.height).length * left.width := by
    apply sum_map_le
    intro y _
    have hPixels := length_rgbPixels_le (visibleRow left (left.width * 4) y)
    have hRow : (visibleRow left (left.width * 4) y).length ≤ left.width * 4 :=
      List.length_take_le _ _
    rw [List.length_zip]
    omega
  rwa [List.length_range] at hRows

theorem checkedDifferenceBps_of {total maxDifference : Nat} (hTotal : total < 2 ^ 100)
    (hMax : maxDifference < 2 ^ 100) :
    checkedDifferenceBps total maxDifference = some (differenceBps total maxDifference) := by
  unfold checkedDifferenceBps differenceBps similarityScale
  by_cases hNone : maxDifference = 0
  · rw [if_pos hNone, if_pos hNone]
  · rw [if_neg hNone, if_neg hNone]
    apply bind_of (mul_of (by omega))
    apply bind_of (add_of (by omega))
    exact bind_of (div_of (by omega)) rfl

theorem differenceBps_le (total maxDifference : Nat) :
    differenceBps total maxDifference ≤ similarityScale := by
  unfold differenceBps
  split_ifs
  · exact Nat.zero_le _
  · exact Nat.min_le_right _ _

/-- The score is computed in bounds and without overflow. -/
theorem checkedRgbSimilarity_of (hLeft : Admitted left) (hRight : Admitted right)
    (hWidth : left.width = right.width) (hHeight : left.height = right.height) :
    ∃ score, checkedRgbSimilarity left right = some score ∧
      rgbMeanAbsoluteSimilarity left right = .ok score := by
  have hBound := hLeft.width_lt
  have hArea : left.width * left.height ≤ 2 ^ 32 * 2 ^ 32 :=
    Nat.mul_le_mul (Nat.le_of_lt hBound) (Nat.le_of_lt hLeft.height_lt)
  have hLength := length_pixelPairs_le left right
  have hTotal : ((pixelPairs left right).map fun pair => rgbDifference pair.1 pair.2).sum ≤
      (pixelPairs left right).length * 765 := by
    apply sum_map_le
    intro pair _
    exact rgbDifference_le pair.1 pair.2
  rw [Nat.mul_comm left.height] at hLength
  unfold checkedRgbSimilarity rgbMeanAbsoluteSimilarity
  rw [hLeft.widthBytes, ok_bind, totalDifference_eq]
  dsimp only
  by_cases hSame : visiblePixelsIdentical left right (left.width * 4) = true
  · refine ⟨.identical, ?_, if_pos hSame⟩
    apply bind_of (mul_of (by omega))
    apply bind_of (checkedPixelPairs_of hLeft hRight hWidth hHeight)
    exact if_pos hSame
  · refine ⟨_, ?_, if_neg hSame⟩
    apply bind_of (mul_of (by omega))
    apply bind_of (checkedPixelPairs_of hLeft hRight hWidth hHeight)
    rw [if_neg hSame]
    apply bind_of (v := ((pixelPairs left right).map fun pair =>
      rgbDifference pair.1 pair.2).sum)
    · rw [← Nat.zero_add ((pixelPairs left right).map _).sum]
      exact accumulate_of (fun _ _ => rfl) (by omega)
    · apply bind_of (mul_of (by omega))
      apply bind_of (mul_of (by omega))
      apply bind_of (mul_of (by omega))
      apply bind_of (checkedDifferenceBps_of (by omega) (by omega))
      exact bind_of (sub_of (differenceBps_le _ _)) rfl

end Similarity

/-! ## `downscale_scrub_preview` -/

/-- One edge of `preview_dimensions`, as `u32`. -/
def checkedScaledEdge (edge maxEdge longest : Nat) : Option Nat := do
  let product ← mul 64 edge maxEdge
  let rounded ← add 64 product (longest / 2)
  let scaled ← div rounded longest
  fit 32 (max scaled 1)

/-- `preview_dimensions`. -/
def checkedPreviewDimensions (width height maxEdge : Nat) : Option (Nat × Nat) :=
  if max width height ≤ maxEdge then some (width, height)
  else do
    let scaledWidth ← checkedScaledEdge width maxEdge (max width height)
    let scaledHeight ← checkedScaledEdge height maxEdge (max width height)
    some (scaledWidth, scaledHeight)

/-- The nearest coordinate; the product is not checked by the source. -/
def checkedNearest (target sourceSize targetSize : Nat) : Option Nat := do
  let product ← mul 64 target sourceSize
  let quotient ← div product targetSize
  some (min quotient (sourceSize - 1))

/-- One pixel of the loops: its four bytes are read and written in bounds. -/
def checkedSampledPixel (f : OwnedRgbaFrame) (targetWidth targetHeight targetStride targetLen
    targetY targetX : Nat) : Option (List UInt8) := do
  let sourceY ← checkedNearest targetY f.height targetHeight
  let sourceRow ← mul 64 sourceY f.strideBytes
  let targetRow ← mul 64 targetY targetStride
  let sourceX ← checkedNearest targetX f.width targetWidth
  let sourceColumn ← mul 64 sourceX 4
  let sourceOffset ← add 64 sourceRow sourceColumn
  let targetColumn ← mul 64 targetX 4
  let targetOffset ← add 64 targetRow targetColumn
  let sourceEnd ← add 64 sourceOffset 4
  let targetEnd ← add 64 targetOffset 4
  demand (targetEnd ≤ targetLen)
  slice f.pixels sourceOffset sourceEnd

/-- `downscale_scrub_preview` for an edge that is not zero: the dimensions, the stride and the
bytes of the preview. -/
def checkedDownscale (f : OwnedRgbaFrame) (maxEdge : Nat) :
    Option ((Nat × Nat) × Nat × List UInt8) := do
  let target ← checkedPreviewDimensions f.width f.height maxEdge
  let targetStride ← mul 64 target.1 4
  let targetLen ← mul 64 targetStride target.2
  if target.1 = f.width ∧ target.2 = f.height ∧ f.strideBytes = targetStride then
    some (target, targetStride, f.pixels)
  else do
    let rows ← collect (fun targetY => do
      let row ← collect (fun targetX =>
        checkedSampledPixel f target.1 target.2 targetStride targetLen targetY targetX)
        (List.range target.1)
      some row.flatten) (List.range target.2)
    some (target, targetStride, rows.flatten)

/-- A part of a list made of pieces of one length. -/
theorem getElem?_flatMap_range {α : Type} {pieces : Nat → List α} {size count i j : Nat}
    (hSize : ∀ k, k < count → (pieces k).length = size) (hi : i < count) (hj : j < size) :
    ((List.range count).flatMap pieces)[i * size + j]? = (pieces i)[j]? := by
  induction count with
  | zero => exact absurd hi (Nat.not_lt_zero i)
  | succ count ih =>
      have hPrefix : ((List.range count).flatMap pieces).length = count * size := by
        rw [List.length_flatMap, List.map_congr_left (g := fun _ => size)]
        · simp
        · intro k hk
          exact hSize k (Nat.lt_succ_of_lt (List.mem_range.1 hk))
      rw [List.range_succ, List.flatMap_append]
      by_cases hLast : i = count
      · subst hLast
        rw [List.getElem?_append_right (by omega), hPrefix, Nat.add_sub_cancel_left]
        simp
      · have hRows : (i + 1) * size ≤ count * size := Nat.mul_le_mul_right _ (by omega)
        rw [Nat.succ_mul] at hRows
        rw [List.getElem?_append_left (by omega)]
        exact ih (fun k hk => hSize k (Nat.lt_succ_of_lt hk)) (by omega)

section Downscale

variable {f : OwnedRgbaFrame} {maxEdge : Nat}

theorem checkedScaledEdge_of {edge longest : Nat} (hEdge : 0 < edge) (hBound : edge < 2 ^ 32)
    (hMax : maxEdge < longest) (hLongest : longest < 2 ^ 32) :
    ∃ scaled, scaledEdge edge maxEdge longest = .ok scaled ∧
      checkedScaledEdge edge maxEdge longest = some scaled := by
  have hProduct : edge * maxEdge ≤ (2 ^ 32 - 1) * (2 ^ 32 - 1) :=
    Nat.mul_le_mul (by omega) (by omega)
  have hLess : edge * maxEdge ≤ edge * longest := Nat.mul_le_mul_left _ (Nat.le_of_lt hMax)
  have hScaled : (edge * maxEdge + longest / 2) / longest < edge + 1 := by
    apply Nat.div_lt_of_lt_mul
    rw [Nat.mul_comm longest, Nat.add_mul]
    omega
  have hFit : max ((edge * maxEdge + longest / 2) / longest) 1 < 2 ^ 32 := by omega
  refine ⟨max ((edge * maxEdge + longest / 2) / longest) 1, ?_, ?_⟩
  · unfold scaledEdge
    rw [if_neg (by omega)]
    exact if_pos hFit
  · apply bind_of (mul_of (by omega))
    apply bind_of (add_of (by omega))
    apply bind_of (div_of (by omega))
    exact fit_of hFit

theorem checkedPreviewDimensions_of (h : Admitted f) (hEdge : 0 < maxEdge) :
    ∃ target, previewDimensions f.width f.height maxEdge = .ok target ∧
      checkedPreviewDimensions f.width f.height maxEdge = some target := by
  have hWidth := h.width_lt
  have hHeight := h.height_lt
  have hWidthPos := f.width_pos
  have hHeightPos := f.height_pos
  unfold previewDimensions checkedPreviewDimensions
  rw [if_neg (by omega)]
  dsimp only
  by_cases hSmall : max f.width f.height ≤ maxEdge
  · exact ⟨(f.width, f.height), if_pos hSmall, if_pos hSmall⟩
  · obtain ⟨width, hScaled, hChecked⟩ := checkedScaledEdge_of hWidthPos hWidth
      (Nat.lt_of_not_le hSmall) (by omega)
    obtain ⟨height, hScaled', hChecked'⟩ := checkedScaledEdge_of hHeightPos hHeight
      (Nat.lt_of_not_le hSmall) (by omega)
    rw [if_neg hSmall, if_neg hSmall, hScaled, ok_bind, hScaled', ok_bind]
    exact ⟨(width, height), rfl, bind_of hChecked (bind_of hChecked' rfl)⟩

theorem checkedNearest_of {target sourceSize targetSize : Nat} (hTarget : target < targetSize)
    (hSize : targetSize < 2 ^ 32) (hSource : sourceSize < 2 ^ 32) :
    checkedNearest target sourceSize targetSize =
      some (nearestCoordinate target sourceSize targetSize) := by
  have hProduct : target * sourceSize ≤ 2 ^ 32 * (2 ^ 32 - 1) :=
    Nat.mul_le_mul (by omega) (by omega)
  apply bind_of (mul_of (by omega))
  exact bind_of (div_of (by omega)) rfl

theorem checkedSampledPixel_of (h : Admitted f) {targetWidth targetHeight targetY targetX : Nat}
    (hWidth : targetWidth ≤ f.width) (hHeight : targetHeight ≤ f.height)
    (hY : targetY < targetHeight) (hX : targetX < targetWidth) :
    checkedSampledPixel f targetWidth targetHeight (targetWidth * 4)
        (targetWidth * 4 * targetHeight) targetY targetX =
      some (pixelAt f (nearestCoordinate targetY f.height targetHeight)
        (nearestCoordinate targetX f.width targetWidth)) := by
  have hWidthLt := h.width_lt
  have hHeightLt := h.height_lt
  have hSourceY : nearestCoordinate targetY f.height targetHeight < f.height :=
    nearestCoordinate_lt f.height_pos
  have hSourceX : nearestCoordinate targetX f.width targetWidth < f.width :=
    nearestCoordinate_lt f.width_pos
  obtain ⟨hIn, hLt⟩ := Admitted.offset_lt h hSourceY hSourceX (show 3 < 4 by decide)
  have hLength := f.pixels_length
  have hBytes := h.bytes_lt
  have hTight := h.tight_lt hWidth hHeight
  have hRows : (targetY + 1) * (targetWidth * 4) ≤ targetHeight * (targetWidth * 4) :=
    Nat.mul_le_mul_right _ hY
  rw [Nat.succ_mul, Nat.mul_comm targetHeight] at hRows
  apply bind_of (checkedNearest_of hY (by omega) h.height_lt)
  apply bind_of (mul_of (by omega))
  apply bind_of (mul_of (by omega))
  apply bind_of (checkedNearest_of hX (by omega) h.width_lt)
  apply bind_of (mul_of (by omega))
  apply bind_of (add_of (by omega))
  apply bind_of (mul_of (by omega))
  apply bind_of (add_of (by omega))
  apply bind_of (add_of (by omega))
  apply bind_of (add_of (by omega))
  apply bind_of (demand_of (by omega))
  rw [slice_of (Nat.le_add_right _ _) (by omega), Nat.add_sub_cancel_left]
  rfl

/-- The preview is computed in bounds and without overflow. -/
theorem checkedDownscale_of (h : Admitted f) (hEdge : 0 < maxEdge) :
    ∃ target, previewDimensions f.width f.height maxEdge = .ok target ∧
      checkedDownscale f maxEdge =
        some (target, target.1 * 4, sampledPixels f target.1 target.2) := by
  obtain ⟨target, hTarget, hChecked⟩ := checkedPreviewDimensions_of h hEdge
  refine ⟨target, hTarget, ?_⟩
  obtain ⟨-, hWidth, -, hHeight⟩ := previewDimensions_le hTarget
  have hWidthLt := h.width_lt
  apply bind_of hChecked
  apply bind_of (mul_of (by omega))
  apply bind_of (mul_of (h.tight_lt hWidth hHeight))
  by_cases hSame : target.1 = f.width ∧ target.2 = f.height ∧ f.strideBytes = target.1 * 4
  · rw [if_pos hSame]
    obtain ⟨hWidthEq, hHeightEq, hStride⟩ := hSame
    rw [hWidthEq] at hStride
    rw [hWidthEq, hHeightEq, sampledPixels_self, visibleRows_of_tight hStride]
  · rw [if_neg hSame]
    apply bind_of (v := (List.range target.2).map fun targetY =>
      (List.range target.1).flatMap fun targetX =>
        pixelAt f (nearestCoordinate targetY f.height target.2)
          (nearestCoordinate targetX f.width target.1))
    · apply collect_of
      intro targetY hY
      have hY := List.mem_range.1 hY
      apply bind_of (v := (List.range target.1).map fun targetX =>
        pixelAt f (nearestCoordinate targetY f.height target.2)
          (nearestCoordinate targetX f.width target.1))
      · apply collect_of
        intro targetX hX
        exact checkedSampledPixel_of h hWidth hHeight hY (List.mem_range.1 hX)
      · rfl
    · rfl

end Downscale

/-! ## Range of the channels -/

/-- All values of a channel of the frame lie between two bounds. -/
def ChannelWithin (f : OwnedRgbaFrame) (channel low high : Nat) : Prop :=
  ∀ y x, y < f.height → x < f.width →
    low ≤ frameChannel f y x channel ∧ frameChannel f y x channel ≤ high

section Range

variable {f g : OwnedRgbaFrame} {outputWidth outputHeight outputY outputX channel low high : Nat}

/-- The channel that is resampled for a place of the output. -/
theorem resampleRgb_getD (f : OwnedRgbaFrame) (hY : outputY < outputHeight)
    (hX : outputX < outputWidth) (hChannel : channel < 3) :
    (resampleRgb f outputWidth outputHeight).getD
        ((outputY * outputWidth + outputX) * 3 + channel) 0 =
      resampledChannel f outputWidth outputHeight outputY outputX channel := by
  have hInner : ∀ y k, k < outputWidth → ((List.range 3).map fun c =>
      resampledChannel f outputWidth outputHeight y k c).length = 3 := by
    intro y k _
    rw [List.length_map, List.length_range]
  have hOuter : ∀ k, k < outputHeight → ((List.range outputWidth).flatMap fun x =>
      (List.range 3).map fun c =>
        resampledChannel f outputWidth outputHeight k x c).length = outputWidth * 3 := by
    intro k _
    simp [List.length_flatMap]
  have hIndex : (outputY * outputWidth + outputX) * 3 + channel =
      outputY * (outputWidth * 3) + (outputX * 3 + channel) := by
    rw [Nat.add_mul, Nat.mul_assoc, Nat.add_assoc]
  unfold resampleRgb
  rw [List.getD_eq_getElem?_getD, hIndex,
    getElem?_flatMap_range hOuter hY (by omega), getElem?_flatMap_range (hInner outputY) hX hChannel,
    getElem?_map_range _ hChannel]
  rfl

/-- A resampled channel lies within the range of the frame's. -/
theorem resampledChannel_within (h : ChannelWithin f channel low high)
    (hY : outputY < outputHeight) (hX : outputX < outputWidth) :
    low ≤ (resampledChannel f outputWidth outputHeight outputY outputX channel).toNat ∧
      (resampledChannel f outputWidth outputHeight outputY outputX channel).toNat ≤ high := by
  have hHeightPos := f.height_pos
  have hWidthPos := f.width_pos
  have hY0 := fixedPointCoordinate_lt hY f.height_pos
  have hX0 := fixedPointCoordinate_lt hX f.width_pos
  have hY1 : min (fixedPointCoordinate outputY outputHeight f.height / 2 ^ 16 + 1)
      (f.height - 1) < f.height := Nat.lt_of_le_of_lt (Nat.min_le_right _ _) (by omega)
  have hX1 : min (fixedPointCoordinate outputX outputWidth f.width / 2 ^ 16 + 1)
      (f.width - 1) < f.width := Nat.lt_of_le_of_lt (Nat.min_le_right _ _) (by omega)
  have hLow : low ≤ 255 := Nat.le_trans (h 0 0 hHeightPos hWidthPos).1 (frameChannel_le _ _ _ _)
  have hByte : ∀ p00 p10 p01 p11 fx fy : Nat,
      (UInt8.ofNat (bilinear p00 p10 p01 p11 fx fy)).toNat = bilinear p00 p10 p01 p11 fx fy := by
    intro p00 p10 p01 p11 fx fy
    have hLe : bilinear p00 p10 p01 p11 fx fy ≤ 255 := Nat.min_le_right _ _
    rw [UInt8.toNat_ofNat']
    exact Nat.mod_eq_of_lt (by omega)
  rw [resampledChannel_eq, hByte]
  constructor
  · exact le_bilinear (by omega) (by omega) hLow (h _ _ hY0 hX0).1 (h _ _ hY0 hX1).1
      (h _ _ hY1 hX0).1 (h _ _ hY1 hX1).1
  · exact bilinear_le (by omega) (by omega) (h _ _ hY0 hX0).2 (h _ _ hY0 hX1).2
      (h _ _ hY1 hX0).2 (h _ _ hY1 hX1).2

theorem length_pixelAt {y x : Nat} (hy : y < f.height) (hx : x < f.width) :
    (pixelAt f y x).length = 4 := by
  have hRows : (y + 1) * f.strideBytes ≤ f.height * f.strideBytes := Nat.mul_le_mul_right _ hy
  have hStride := f.stride_ge
  rw [Nat.succ_mul, Nat.mul_comm f.height] at hRows
  unfold pixelAt
  rw [List.length_take, List.length_drop, f.pixels_length]
  omega

theorem length_sampledRow (f : OwnedRgbaFrame) (targetWidth targetHeight targetY : Nat) :
    ((List.range targetWidth).flatMap fun targetX =>
      pixelAt f (nearestCoordinate targetY f.height targetHeight)
        (nearestCoordinate targetX f.width targetWidth)).length = targetWidth * 4 := by
  rw [List.length_flatMap, List.map_congr_left (g := fun _ => 4)]
  · simp
  · intro targetX _
    exact length_pixelAt (nearestCoordinate_lt f.height_pos) (nearestCoordinate_lt f.width_pos)

theorem length_sampledPixels (f : OwnedRgbaFrame) (targetWidth targetHeight : Nat) :
    (sampledPixels f targetWidth targetHeight).length = targetWidth * 4 * targetHeight := by
  unfold sampledPixels
  rw [List.length_flatMap, List.map_congr_left (g := fun _ => targetWidth * 4)]
  · simp [Nat.mul_comm]
  · intro targetY _
    exact length_sampledRow f targetWidth targetHeight targetY

/-- A payload of the size that its dimensions ask for is accepted. -/
theorem new_accepts {width height strideBytes : Nat} {pixels : List UInt8} (hWidth : 0 < width)
    (hHeight : 0 < height) (hStride : width * 4 ≤ strideBytes)
    (hBytes : strideBytes * height < 2 ^ 64) (hLength : pixels.length = strideBytes * height) :
    ∃ f, OwnedRgbaFrame.new width height strideBytes pixels = .ok f := by
  have hRow : width * 4 * 1 ≤ strideBytes * height := Nat.mul_le_mul hStride hHeight
  unfold OwnedRgbaFrame.new
  rw [dif_neg (by omega), if_neg (by omega), dif_neg (by omega), if_neg (by omega),
    dif_neg (fun hNot => hNot hLength)]
  exact ⟨_, rfl⟩

/-- A channel of a preview is a channel of its source. -/
theorem frameChannel_sampled {target : Nat × Nat} (hWidth : g.width = target.1)
    (hHeight : g.height = target.2) (hStride : g.strideBytes = target.1 * 4)
    (hPixels : g.pixels = sampledPixels f target.1 target.2) {y x : Nat} (hy : y < g.height)
    (hx : x < g.width) (hChannel : channel < 4) :
    frameChannel g y x channel = frameChannel f (nearestCoordinate y f.height target.2)
      (nearestCoordinate x f.width target.1) channel := by
  have hPixel : ∀ k, k < target.1 → (pixelAt f (nearestCoordinate y f.height target.2)
      (nearestCoordinate k f.width target.1)).length = 4 := by
    intro k _
    exact length_pixelAt (nearestCoordinate_lt f.height_pos) (nearestCoordinate_lt f.width_pos)
  unfold frameChannel
  rw [hPixels, hStride, List.getD_eq_getElem?_getD, List.getD_eq_getElem?_getD, Nat.add_assoc]
  unfold sampledPixels
  rw [getElem?_flatMap_range (fun k _ => length_sampledRow f target.1 target.2 k)
    (by omega) (by omega), getElem?_flatMap_range hPixel (by omega) hChannel]
  unfold pixelAt
  rw [List.getElem?_take, if_pos hChannel, List.getElem?_drop]

end Range

/-- **Sampling stays in bounds and in range.**  For an admitted frame, the four loops run to their
end with every index inside of its buffer and no operation overflowing, and give what the plain
functions give.  A channel that is resampled, or of a preview, lies between any two bounds of that
channel of the frame, so between its minimum and its maximum. -/
theorem sampling_in_bounds_and_range {width height strideBytes : Nat} {pixels : List UInt8}
    {f : OwnedRgbaFrame} (hNew : OwnedRgbaFrame.new width height strideBytes pixels = .ok f)
    (hWidth : width < 2 ^ 32) (hHeight : height < 2 ^ 32) :
    (∀ outputWidth outputHeight, outputWidth ≤ 65536 → outputHeight ≤ 65536 →
      checkedResampleRgb f outputWidth outputHeight =
          some (resampleRgb f outputWidth outputHeight) ∧
        ∀ outputY outputX channel low high, outputY < outputHeight → outputX < outputWidth →
          channel < 3 → ChannelWithin f channel low high →
          let value := ((resampleRgb f outputWidth outputHeight).getD
            ((outputY * outputWidth + outputX) * 3 + channel) 0).toNat
          low ≤ value ∧ value ≤ high) ∧
    checkedDhash f = some (dhash f) ∧
    (∀ right, Admitted right → f.width = right.width → f.height = right.height →
      ∃ score, checkedRgbSimilarity f right = some score ∧
        rgbMeanAbsoluteSimilarity f right = .ok score) ∧
    ∀ maxEdge, 0 < maxEdge → ∃ g, downscaleScrubPreview f maxEdge = .ok g ∧
      checkedDownscale f maxEdge = some ((g.width, g.height), g.strideBytes, g.pixels) ∧
      ∀ y x channel low high, y < g.height → x < g.width → channel < 4 →
        ChannelWithin f channel low high →
        low ≤ frameChannel g y x channel ∧ frameChannel g y x channel ≤ high := by
  have h := admitted_of_new hNew hWidth hHeight
  refine ⟨?_, checkedDhash_of h, fun right hRight => checkedRgbSimilarity_of h hRight, ?_⟩
  · intro outputWidth outputHeight hOutputWidth hOutputHeight
    refine ⟨checkedResampleRgb_of h hOutputWidth hOutputHeight, ?_⟩
    intro outputY outputX channel low high hY hX hChannel hWithin
    rw [resampleRgb_getD f hY hX hChannel]
    exact resampledChannel_within hWithin hY hX
  · intro maxEdge hEdge
    obtain ⟨target, hTarget, hChecked⟩ := checkedDownscale_of h hEdge
    obtain ⟨hTargetWidth, hLeWidth, hTargetHeight, hLeHeight⟩ := previewDimensions_le hTarget
    obtain ⟨g, hg⟩ := new_accepts hTargetWidth hTargetHeight (Nat.le_refl (target.1 * 4))
      (h.tight_lt hLeWidth hLeHeight) (length_sampledPixels f target.1 target.2)
    obtain ⟨hGWidth, hGHeight, hGStride, hGPixels⟩ := OwnedRgbaFrame.new_ok hg
    refine ⟨g, ?_, ?_, ?_⟩
    · rw [downscaleScrubPreview_eq h, if_neg (by omega), hTarget, ok_bind, hg]
      rfl
    · rw [hChecked, hGWidth, hGHeight, hGStride, hGPixels]
    · intro y x channel low high hy hx hChannel hWithin
      rw [frameChannel_sampled hGWidth hGHeight hGStride hGPixels hy hx hChannel]
      exact hWithin _ _ (nearestCoordinate_lt f.height_pos) (nearestCoordinate_lt f.width_pos)

theorem sampling_in_bounds_and_range_onePixel :
    checkedDhash (paddedPixel [7, 7]) = some (dhash (paddedPixel [7, 7])) :=
  (sampling_in_bounds_and_range (Admitted.new_self (admitted_paddedPixel (by decide)))
    (by decide) (by decide)).2.1

end FrameScope.Ports.SamplingBounds
