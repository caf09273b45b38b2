import FrameScope.Ports.Perceptual
import FrameScope.Ports.GlobalDescriptors
import FrameScope.Ports.ScrubPreview

/-!
# Results depend on the visible pixels only

The rows of an owned frame may be padded.  `SameVisible` says of two frames that
they show the same picture, whatever their strides and padding bytes are.  Each
of the sampling loops reads a frame through offsets of its own, and each of
them gives one result for two such frames.

A frame that `OwnedRgbaFrame.new` admits has dimensions of 32 bits and a size
that fits memory, which is what keeps the checked offsets of the loops from
overflowing.
-/

namespace FrameScope.Ports.VisiblePixels

open FrameScope.Ports.Core
open FrameScope.Ports.FrameCache
open FrameScope.Ports.Similarity
open FrameScope.Ports.Perceptual
open FrameScope.Ports.GlobalDescriptors
  (frameChannel resampledChannel resampleRgb descriptorForFrame fixedPointCoordinate)
open FrameScope.Ports.ScrubPreview

/-! ## Tight copies -/

/-- The variants of `ImageExportError` that are raised outside of the encoders. -/
inductive ImageExportError where
  | invalidJpegQuality (quality : Nat)
  | numericRange
  deriving DecidableEq, Repr

/-- The visible rows of a frame without their padding. -/
def visibleRows (f : OwnedRgbaFrame) : List UInt8 :=
  (List.range f.height).flatMap fun y => visibleRow f (f.width * 4) y

/-- One row of the loop of `tight_rgba`. -/
def tightRow (f : OwnedRgbaFrame) (rowBytes row : Nat) : Except ImageExportError (List UInt8) := do
  let start ← okOr (checkedMulU64 row f.strideBytes) .numericRange
  let _ ← okOr (checkedAddU64 start rowBytes) .numericRange
  .ok (visibleRow f rowBytes row)

/-- `tight_rgba`. -/
def tightRgba (f : OwnedRgbaFrame) : Except ImageExportError (List UInt8) := do
  let rowBytes ← okOr (checkedMulU64 f.width 4) .numericRange
  let _ ← okOr (checkedMulU64 rowBytes f.height) .numericRange
  if f.strideBytes = rowBytes then .ok f.pixels
  else do
    let rows ← (List.range f.height).mapM (tightRow f rowBytes)
    .ok rows.flatten

/-! ## Frames that are admitted -/

/-- The bounds of a frame that the types of the source and `OwnedRgbaFrame.new` give. -/
structure Admitted (f : OwnedRgbaFrame) : Prop where
  width_lt : f.width < 2 ^ 32
  height_lt : f.height < 2 ^ 32
  bytes_lt : f.strideBytes * f.height < 2 ^ 64

theorem admitted_of_new {width height strideBytes : Nat} {pixels : List UInt8}
    {f : OwnedRgbaFrame} (h : OwnedRgbaFrame.new width height strideBytes pixels = .ok f)
    (hWidth : width < 2 ^ 32) (hHeight : height < 2 ^ 32) : Admitted f := by
  unfold OwnedRgbaFrame.new at h
  split_ifs at h with _ _ _ hBytes
  cases h
  exact ⟨hWidth, hHeight, Nat.lt_of_not_le hBytes⟩

section Frames

variable {f left right left' right' : OwnedRgbaFrame}

theorem Admitted.new_self (h : Admitted f) :
    OwnedRgbaFrame.new f.width f.height f.strideBytes f.pixels = .ok f := by
  have hWidth := h.width_lt
  have hBytes := h.bytes_lt
  have hStride := f.stride_ge
  have hPos := f.width_pos
  have hPos' := f.height_pos
  unfold OwnedRgbaFrame.new
  rw [dif_neg (by omega), if_neg (by omega), dif_neg (by omega), if_neg (by omega),
    dif_neg (fun hLength => hLength f.pixels_length)]

/-- The start of a row in bounds. -/
theorem Admitted.row_lt (h : Admitted f) {y : Nat} (hy : y < f.height) :
    y * f.strideBytes + f.strideBytes ≤ f.strideBytes * f.height ∧
      y * f.strideBytes + f.width * 4 < 2 ^ 64 := by
  have hRows : (y + 1) * f.strideBytes ≤ f.height * f.strideBytes :=
    Nat.mul_le_mul_right _ hy
  rw [Nat.succ_mul, Nat.mul_comm f.height] at hRows
  have hBytes := h.bytes_lt
  have hStride := f.stride_ge
  omega

/-- Two frames of one size that show the same pixels. -/
structure SameVisible (f f' : OwnedRgbaFrame) : Prop where
  width : f.width = f'.width
  height : f.height = f'.height
  bytes : ∀ y x channel, y < f.height → x < f.width → channel < 4 →
    f.pixels[y * f.strideBytes + x * 4 + channel]? =
      f'.pixels[y * f'.strideBytes + x * 4 + channel]?

/-- A byte of a visible row. -/
theorem SameVisible.rowByte (h : SameVisible f left) {y i : Nat} (hy : y < f.height)
    (hi : i < f.width * 4) :
    f.pixels[y * f.strideBytes + i]? = left.pixels[y * left.strideBytes + i]? := by
  have hByte := h.bytes y (i / 4) (i % 4) hy (by omega) (by omega)
  rwa [Nat.add_assoc, Nat.add_assoc, Nat.div_add_mod'] at hByte

theorem SameVisible.visibleRow (h : SameVisible f left) {y : Nat} (hy : y < f.height) :
    visibleRow f (f.width * 4) y = visibleRow left (f.width * 4) y := by
  apply List.ext_getElem?
  intro i
  unfold Similarity.visibleRow
  rw [List.getElem?_take, List.getElem?_take]
  by_cases hi : i < f.width * 4
  · rw [if_pos hi, if_pos hi, List.getElem?_drop, List.getElem?_drop]
    exact h.rowByte hy hi
  · rw [if_neg hi, if_neg hi]

theorem SameVisible.visibleRows (h : SameVisible f left) : visibleRows f = visibleRows left := by
  unfold VisiblePixels.visibleRows
  rw [← h.width, ← h.height, List.flatMap_congr]
  intro y hy
  exact h.visibleRow (List.mem_range.1 hy)

end Frames

/-! ## Copies of the visible bytes -/

/-- The pieces of a list, put together again. -/
theorem flatMap_pieces {α : Type} (xs : List α) (size count : Nat) :
    (List.range count).flatMap (fun i => (xs.drop (i * size)).take size) =
      xs.take (count * size) := by
  induction count with
  | zero => simp
  | succ count ih =>
      rw [List.range_succ, List.flatMap_append, ih, Nat.succ_mul, List.take_add]
      simp

/-- A loop none of whose rounds fails. -/
theorem mapM_of_ok {ε α β : Type} {f : α → Except ε β} {g : α → β} {items : List α}
    (h : ∀ x ∈ items, f x = .ok (g x)) : items.mapM f = .ok (items.map g) := by
  induction items with
  | nil => rfl
  | cons x rest ih =>
      rw [List.mapM_cons, h x List.mem_cons_self,
        ih fun y hy => h y (List.mem_cons_of_mem x hy)]
      rfl

section Copies

variable {f f' : OwnedRgbaFrame} {a b : Nat}

theorem okOr_mul {ε : Type} {error : ε} (h : a * b < 2 ^ 64) :
    okOr (checkedMulU64 a b) error = .ok (a * b) :=
  okOr_eq_ok.2 (checkedMulU64_eq_some.2 ⟨h, rfl⟩)

theorem okOr_add {ε : Type} {error : ε} (h : a + b < 2 ^ 64) :
    okOr (checkedAddU64 a b) error = .ok (a + b) :=
  okOr_eq_ok.2 (checkedAddU64_eq_some.2 ⟨h, rfl⟩)

/-- Without padding the payload is the visible rows. -/
theorem visibleRows_of_tight (h : f.strideBytes = f.width * 4) : visibleRows f = f.pixels := by
  unfold visibleRows Similarity.visibleRow
  rw [h, flatMap_pieces, Nat.mul_comm f.height, ← h, ← f.pixels_length, List.take_length]

/-- The bytes of the visible picture fit memory. -/
theorem Admitted.tight_lt (h : Admitted f) {width height : Nat} (hWidth : width ≤ f.width)
    (hHeight : height ≤ f.height) : width * 4 * height < 2 ^ 64 := by
  have hTight : width * 4 * height ≤ f.strideBytes * f.height :=
    Nat.mul_le_mul (Nat.le_trans (Nat.mul_le_mul_right 4 hWidth) f.stride_ge) hHeight
  have hBytes := h.bytes_lt
  omega

/-- The tight copy of a frame is its visible rows. -/
theorem tightRgba_eq (h : Admitted f) : tightRgba f = .ok (visibleRows f) := by
  have hWidth := h.width_lt
  unfold tightRgba
  rw [okOr_mul (show f.width * 4 < 2 ^ 64 by omega), ok_bind,
    okOr_mul (h.tight_lt (Nat.le_refl _) (Nat.le_refl _)), ok_bind]
  by_cases hTight : f.strideBytes = f.width * 4
  · rw [if_pos hTight, visibleRows_of_tight hTight]
  · rw [if_neg hTight]
    have hRows : (List.range f.height).mapM (tightRow f (f.width * 4)) =
        .ok ((List.range f.height).map fun y => visibleRow f (f.width * 4) y) := by
      apply mapM_of_ok
      intro y hy
      obtain ⟨hRow, hEnd⟩ := h.row_lt (List.mem_range.1 hy)
      unfold tightRow
      rw [okOr_mul (by omega), ok_bind, okOr_add hEnd, ok_bind]
    rw [hRows, ok_bind]
    rfl

/-! ## The downscaled preview -/

/-- The pixels that the loops of `downscale_scrub_preview` pick. -/
def sampledPixels (f : OwnedRgbaFrame) (targetWidth targetHeight : Nat) : List UInt8 :=
  (List.range targetHeight).flatMap fun targetY => (List.range targetWidth).flatMap fun targetX =>
    pixelAt f (nearestCoordinate targetY f.height targetHeight)
      (nearestCoordinate targetX f.width targetWidth)

theorem nearestCoordinate_lt {target sourceSize targetSize : Nat} (h : 0 < sourceSize) :
    nearestCoordinate target sourceSize targetSize < sourceSize := by
  unfold nearestCoordinate
  omega

theorem nearestCoordinate_self {target size : Nat} (h : target < size) :
    nearestCoordinate target size size = target := by
  unfold nearestCoordinate
  rw [Nat.mul_div_cancel _ (by omega)]
  omega

/-- Sampling at the size of the source copies the visible rows. -/
theorem sampledPixels_self (f : OwnedRgbaFrame) :
    sampledPixels f f.width f.height = visibleRows f := by
  unfold sampledPixels visibleRows
  apply List.flatMap_congr
  intro y hy
  rw [nearestCoordinate_self (List.mem_range.1 hy)]
  unfold Similarity.visibleRow
  rw [← flatMap_pieces]
  apply List.flatMap_congr
  intro x hx
  rw [nearestCoordinate_self (List.mem_range.1 hx), List.drop_drop]
  rfl

/-- One edge of a preview is no longer than that of its source. -/
theorem scaledEdge_le {edge maxEdge longest scaled : Nat} (hEdge : 0 < edge)
    (hMax : maxEdge < longest) (h : scaledEdge edge maxEdge longest = .ok scaled) :
    0 < scaled ∧ scaled ≤ edge := by
  have hProduct : edge * maxEdge ≤ edge * longest := Nat.mul_le_mul_left _ (Nat.le_of_lt hMax)
  have hLess : (edge * maxEdge + longest / 2) / longest < edge + 1 := by
    apply Nat.div_lt_of_lt_mul
    rw [Nat.mul_comm longest, Nat.add_mul]
    omega
  unfold scaledEdge at h
  dsimp only at h
  split_ifs at h
  cases h
  omega

/-- A preview is no larger than its source. -/
theorem previewDimensions_le {width height maxEdge : Nat} {target : Nat × Nat}
    (h : previewDimensions width height maxEdge = .ok target) :
    0 < target.1 ∧ target.1 ≤ width ∧ 0 < target.2 ∧ target.2 ≤ height := by
  unfold previewDimensions at h
  dsimp only at h
  split_ifs at h with hZero hSmall
  · cases h
    dsimp only
    omega
  · obtain ⟨scaledWidth, hWidth, h⟩ := bind_eq_ok.1 h
    obtain ⟨scaledHeight, hHeight, h⟩ := bind_eq_ok.1 h
    cases h
    have hFirst := scaledEdge_le (by omega) (by omega) hWidth
    have hSecond := scaledEdge_le (by omega) (by omega) hHeight
    dsimp only
    omega

theorem sampledRow_eq (h : Admitted f) {targetWidth targetHeight targetY : Nat}
    (hWidth : targetWidth ≤ f.width) (hHeight : targetHeight ≤ f.height)
    (hY : targetY < targetHeight) :
    sampledRow f targetWidth targetHeight (targetWidth * 4) targetY =
      .ok ((List.range targetWidth).flatMap fun targetX =>
        pixelAt f (nearestCoordinate targetY f.height targetHeight)
          (nearestCoordinate targetX f.width targetWidth)) := by
  have hSourceY : nearestCoordinate targetY f.height targetHeight < f.height :=
    nearestCoordinate_lt f.height_pos
  obtain ⟨hRow, hEnd⟩ := h.row_lt hSourceY
  have hTargetRow : targetY * (targetWidth * 4) + targetWidth * 4 < 2 ^ 64 := by
    have hRows : (targetY + 1) * (targetWidth * 4) ≤ targetHeight * (targetWidth * 4) :=
      Nat.mul_le_mul_right _ hY
    have hTight := h.tight_lt hWidth hHeight
    rw [Nat.succ_mul, Nat.mul_comm targetHeight] at hRows
    omega
  unfold sampledRow
  dsimp only
  rw [okOr_mul (by omega), ok_bind, okOr_mul (by omega), ok_bind]
  have hPixels : (List.range targetWidth).mapM
      (sampledPixel f targetWidth (nearestCoordinate targetY f.height targetHeight)
        (nearestCoordinate targetY f.height targetHeight * f.strideBytes)
        (targetY * (targetWidth * 4))) =
      .ok ((List.range targetWidth).map fun targetX =>
        pixelAt f (nearestCoordinate targetY f.height targetHeight)
          (nearestCoordinate targetX f.width targetWidth)) := by
    apply mapM_of_ok
    intro targetX hX
    have hX := List.mem_range.1 hX
    have hSourceX : nearestCoordinate targetX f.width targetWidth < f.width :=
      nearestCoordinate_lt f.width_pos
    unfold sampledPixel
    dsimp only
    rw [okOr_mul (by omega), ok_bind, okOr_add (by omega), ok_bind, okOr_mul (by omega), ok_bind,
      okOr_add (by omega), ok_bind]
  rw [hPixels, ok_bind]
  rfl

/-- A preview of an admitted frame is made of the sampled pixels, also where the source hands the
frame itself back. -/
theorem downscaleScrubPreview_eq (h : Admitted f) (maxEdge : Nat) :
    downscaleScrubPreview f maxEdge =
      if maxEdge = 0 then .error .invalidMaxEdge
      else previewDimensions f.width f.height maxEdge >>= fun target =>
        (OwnedRgbaFrame.new target.1 target.2 (target.1 * 4)
          (sampledPixels f target.1 target.2)).mapError .frame := by
  unfold downscaleScrubPreview
  by_cases hZero : maxEdge = 0
  · rw [if_pos hZero, if_pos hZero]
  · rw [if_neg hZero, if_neg hZero]
    cases hTarget : previewDimensions f.width f.height maxEdge with
    | error error => rfl
    | ok target =>
        obtain ⟨-, hWidth, -, hHeight⟩ := previewDimensions_le hTarget
        have hFrame := h.width_lt
        rw [ok_bind, ok_bind, okOr_mul (show target.1 * 4 < 2 ^ 64 by omega), ok_bind,
          okOr_mul (h.tight_lt hWidth hHeight), ok_bind]
        by_cases hSame : target.1 = f.width ∧ target.2 = f.height ∧ f.strideBytes = target.1 * 4
        · rw [if_pos hSame]
          obtain ⟨hWidthEq, hHeightEq, hStride⟩ := hSame
          rw [hWidthEq] at hStride
          rw [hWidthEq, hHeightEq, sampledPixels_self, visibleRows_of_tight hStride, ← hStride,
            h.new_self]
          rfl
        · rw [if_neg hSame]
          have hRows : (List.range target.2).mapM
              (sampledRow f target.1 target.2 (target.1 * 4)) =
              .ok ((List.range target.2).map fun targetY =>
                (List.range target.1).flatMap fun targetX =>
                  pixelAt f (nearestCoordinate targetY f.height target.2)
                    (nearestCoordinate targetX f.width target.1)) := by
            apply mapM_of_ok
            intro targetY hY
            exact sampledRow_eq h hWidth hHeight (List.mem_range.1 hY)
          rw [hRows, ok_bind]
          rfl

end Copies

/-! ## Results -/

section Results

variable {f f' left right left' right' : OwnedRgbaFrame}

theorem SameVisible.pixelAt (h : SameVisible f f') {y x : Nat} (hy : y < f.height)
    (hx : x < f.width) : pixelAt f y x = pixelAt f' y x := by
  apply List.ext_getElem?
  intro i
  unfold ScrubPreview.pixelAt
  rw [List.getElem?_take, List.getElem?_take]
  by_cases hi : i < 4
  · rw [if_pos hi, if_pos hi, List.getElem?_drop, List.getElem?_drop]
    exact h.bytes y x i hy hx hi
  · rw [if_neg hi, if_neg hi]

theorem SameVisible.sampledPixels (h : SameVisible f f') (targetWidth targetHeight : Nat) :
    sampledPixels f targetWidth targetHeight = sampledPixels f' targetWidth targetHeight := by
  unfold VisiblePixels.sampledPixels
  rw [← h.width, ← h.height]
  apply List.flatMap_congr
  intro targetY _
  apply List.flatMap_congr
  intro targetX _
  exact h.pixelAt (nearestCoordinate_lt f.height_pos) (nearestCoordinate_lt f.width_pos)

/-- The tight copies agree. -/
theorem SameVisible.tightRgba_eq (h : SameVisible f f') (hf : Admitted f) (hf' : Admitted f') :
    tightRgba f = tightRgba f' := by
  rw [VisiblePixels.tightRgba_eq hf, VisiblePixels.tightRgba_eq hf', h.visibleRows]

/-- The previews agree. -/
theorem SameVisible.downscale_eq (h : SameVisible f f') (hf : Admitted f) (hf' : Admitted f')
    (maxEdge : Nat) : downscaleScrubPreview f maxEdge = downscaleScrubPreview f' maxEdge := by
  rw [downscaleScrubPreview_eq hf, downscaleScrubPreview_eq hf', ← h.width, ← h.height]
  congr 2
  funext target
  rw [h.sampledPixels]

/-- A channel of a pixel. -/
theorem SameVisible.byte (h : SameVisible f f') {y x channel : Nat} (hy : y < f.height)
    (hx : x < f.width) (hChannel : channel < 4) :
    f.pixels.getD (y * f.strideBytes + x * 4 + channel) 0 =
      f'.pixels.getD (y * f'.strideBytes + x * 4 + channel) 0 := by
  rw [List.getD_eq_getElem?_getD, List.getD_eq_getElem?_getD, h.bytes y x channel hy hx hChannel]

theorem sampleCoordinate_lt {size index sampleCount : Nat} (hSize : 0 < size)
    (hIndex : index < sampleCount) : sampleCoordinate size index sampleCount < size := by
  unfold sampleCoordinate
  have hProduct : (size - 1) * index ≤ (size - 1) * (sampleCount - 1) :=
    Nat.mul_le_mul_left _ (by omega)
  have hDiv : (size - 1) * index / (sampleCount - 1) ≤ size - 1 :=
    Nat.div_le_of_le_mul (by rwa [Nat.mul_comm (sampleCount - 1)])
  omega

theorem SameVisible.lumaAt (h : SameVisible f f') {y x : Nat} (hy : y < f.height)
    (hx : x < f.width) : lumaAt f x y = lumaAt f' x y := by
  have hRed := h.byte hy hx (show 0 < 4 by decide)
  have hGreen := h.byte hy hx (show 1 < 4 by decide)
  have hBlue := h.byte hy hx (show 2 < 4 by decide)
  unfold Perceptual.lumaAt
  dsimp only
  rw [Nat.add_zero, Nat.add_zero] at hRed
  rw [hRed, hGreen, hBlue]

theorem SameVisible.sampleAt (h : SameVisible f f') {row column : Nat} (hRow : row < 8)
    (hColumn : column < 9) : sampleAt f row column = sampleAt f' row column := by
  unfold Perceptual.sampleAt
  rw [← h.width, ← h.height]
  exact h.lumaAt (sampleCoordinate_lt f.height_pos hRow) (sampleCoordinate_lt f.width_pos hColumn)

/-- The perceptual hashes agree. -/
theorem SameVisible.dhash (h : SameVisible f f') : dhash f = dhash f' := by
  unfold Perceptual.dhash
  congr 1
  apply List.foldl_ext
  intro bits bit hBit
  have hBit := List.mem_range.1 hBit
  rw [h.sampleAt (show bit / 8 < 8 by omega) (show bit % 8 + 1 < 9 by omega),
    h.sampleAt (show bit / 8 < 8 by omega) (show bit % 8 < 9 by omega)]

/-- Two pairs of frames that show the same, each pair of one size. -/
structure SamePair (left right left' right' : OwnedRgbaFrame) : Prop where
  sameLeft : SameVisible left left'
  sameRight : SameVisible right right'
  width : left.width = right.width
  height : left.height = right.height

theorem SamePair.rows (h : SamePair left right left' right') {y : Nat} (hy : y < left.height) :
    visibleRow left (left.width * 4) y = visibleRow left' (left.width * 4) y ∧
      visibleRow right (left.width * 4) y = visibleRow right' (left.width * 4) y := by
  have hRight := h.sameRight.visibleRow (show y < right.height by rw [← h.height]; exact hy)
  rw [← h.width] at hRight
  exact ⟨h.sameLeft.visibleRow hy, hRight⟩

theorem SamePair.visiblePixelsIdentical (h : SamePair left right left' right') :
    visiblePixelsIdentical left right (left.width * 4) =
      visiblePixelsIdentical left' right' (left.width * 4) := by
  unfold Similarity.visiblePixelsIdentical
  rw [← h.sameLeft.height]
  rw [Bool.eq_iff_iff, List.all_eq_true, List.all_eq_true]
  apply forall₂_congr
  intro y hy
  obtain ⟨hLeft, hRight⟩ := h.rows (List.mem_range.1 hy)
  rw [hLeft, hRight]

theorem SamePair.totalDifference (h : SamePair left right left' right')
    (difference : UInt8 × UInt8 × UInt8 → UInt8 × UInt8 × UInt8 → Nat) :
    totalDifference difference left right (left.width * 4) =
      totalDifference difference left' right' (left.width * 4) := by
  unfold Similarity.totalDifference
  rw [← h.sameLeft.height]
  congr 1
  apply List.map_congr_left
  intro y hy
  obtain ⟨hLeft, hRight⟩ := h.rows (List.mem_range.1 hy)
  rw [hLeft, hRight]

theorem SamePair.of_valid (hLeft : SameVisible left left') (hRight : SameVisible right right')
    (h : validateDimensions left right = .ok ()) : SamePair left right left' right' := by
  unfold validateDimensions at h
  rw [ensure_eq_ok, Prod.mk.injEq] at h
  exact ⟨hLeft, hRight, h.1, h.2⟩

theorem validateDimensions_eq (hLeft : SameVisible left left') (hRight : SameVisible right right') :
    validateDimensions left right = validateDimensions left' right' := by
  unfold validateDimensions
  rw [hLeft.width, hLeft.height, hRight.width, hRight.height]

/-- The width in bytes of an admitted frame. -/
theorem Admitted.widthBytes (h : Admitted f) : widthBytes f = .ok (f.width * 4) :=
  widthBytes_of_lt h.width_lt

/-- The colour scores agree. -/
theorem SamePair.rgbMeanAbsoluteSimilarity (h : SamePair left right left' right')
    (hAdmitted : Admitted left) :
    rgbMeanAbsoluteSimilarity left right = rgbMeanAbsoluteSimilarity left' right' := by
  have hAdmitted' : left'.width < 2 ^ 32 := by
    rw [← h.sameLeft.width]
    exact hAdmitted.width_lt
  unfold Perceptual.rgbMeanAbsoluteSimilarity
  rw [hAdmitted.widthBytes, widthBytes_of_lt hAdmitted', ok_bind, ok_bind, ← h.sameLeft.width,
    ← h.sameLeft.height, h.visiblePixelsIdentical, h.totalDifference]

/-- The luma comparisons agree. -/
theorem SameVisible.compare (hLeft : SameVisible left left') (hRight : SameVisible right right')
    (hAdmitted : Admitted left) (engine : SimilarityEngine) :
    engine.compare left right = engine.compare left' right' := by
  have hAdmitted' : left'.width < 2 ^ 32 := by
    rw [← hLeft.width]
    exact hAdmitted.width_lt
  unfold SimilarityEngine.compare
  rw [← validateDimensions_eq hLeft hRight]
  cases hValid : validateDimensions left right with
  | error error => rfl
  | ok _ =>
      have hPair := SamePair.of_valid hLeft hRight hValid
      rw [ok_bind, ok_bind, hAdmitted.widthBytes, widthBytes_of_lt hAdmitted', ok_bind, ok_bind,
        ← hLeft.width, ← hLeft.height, hPair.visiblePixelsIdentical, hPair.totalDifference]

/-- The decisions of the hybrid engine agree. -/
theorem SameVisible.hybridCompare (hLeft : SameVisible left left')
    (hRight : SameVisible right right') (hAdmitted : Admitted left)
    (engine : HybridSimilarityEngine) :
    engine.compare left right = engine.compare left' right' := by
  unfold HybridSimilarityEngine.compare dhashCompare
  rw [← validateDimensions_eq hLeft hRight, hLeft.dhash, hRight.dhash]
  cases hValid : validateDimensions left right with
  | error error => rfl
  | ok _ =>
      rw [(SamePair.of_valid hLeft hRight hValid).rgbMeanAbsoluteSimilarity hAdmitted]

/-- The lower of the two coordinates between which a resampling blends. -/
theorem fixedPointCoordinate_lt {output outputSize inputSize : Nat} (hOutput : output < outputSize)
    (hInput : 0 < inputSize) :
    fixedPointCoordinate output outputSize inputSize / 2 ^ 16 < inputSize := by
  unfold fixedPointCoordinate
  split_ifs with hSmall
  · omega
  · have hProduct : output * ((inputSize - 1) * 65536) ≤
        (outputSize - 1) * ((inputSize - 1) * 65536) :=
      Nat.mul_le_mul_right _ (by omega)
    have hDiv : output * (inputSize - 1) * 65536 / (outputSize - 1) ≤ (inputSize - 1) * 65536 :=
      Nat.div_le_of_le_mul (by rwa [Nat.mul_assoc])
    omega

theorem SameVisible.frameChannel (h : SameVisible f f') {y x channel : Nat} (hy : y < f.height)
    (hx : x < f.width) (hChannel : channel < 3) :
    frameChannel f y x channel = frameChannel f' y x channel := by
  unfold GlobalDescriptors.frameChannel
  rw [h.byte hy hx (by omega)]

theorem SameVisible.resampledChannel (h : SameVisible f f') {outputWidth outputHeight outputY
    outputX channel : Nat} (hY : outputY < outputHeight) (hX : outputX < outputWidth)
    (hChannel : channel < 3) :
    resampledChannel f outputWidth outputHeight outputY outputX channel =
      resampledChannel f' outputWidth outputHeight outputY outputX channel := by
  have hY0 := fixedPointCoordinate_lt hY f.height_pos
  have hX0 := fixedPointCoordinate_lt hX f.width_pos
  have hHeight := f.height_pos
  have hWidth := f.width_pos
  unfold GlobalDescriptors.resampledChannel
  dsimp only
  rw [← h.width, ← h.height, h.frameChannel hY0 hX0 hChannel,
    h.frameChannel hY0 (Nat.lt_of_le_of_lt (Nat.min_le_right _ _) (by omega)) hChannel,
    h.frameChannel (Nat.lt_of_le_of_lt (Nat.min_le_right _ _) (by omega)) hX0 hChannel,
    h.frameChannel (Nat.lt_of_le_of_lt (Nat.min_le_right _ _) (by omega))
      (Nat.lt_of_le_of_lt (Nat.min_le_right _ _) (by omega)) hChannel]

theorem SameVisible.resampleRgb (h : SameVisible f f') (outputWidth outputHeight : Nat) :
    resampleRgb f outputWidth outputHeight = resampleRgb f' outputWidth outputHeight := by
  unfold GlobalDescriptors.resampleRgb
  apply List.flatMap_congr
  intro outputY hY
  apply List.flatMap_congr
  intro outputX hX
  apply List.map_congr_left
  intro channel hChannel
  exact h.resampledChannel (List.mem_range.1 hY) (List.mem_range.1 hX)
    (List.mem_range.1 hChannel)

/-- The descriptors agree. -/
theorem SameVisible.descriptorForFrame (h : SameVisible f f') (frameId : Nat) :
    descriptorForFrame frameId f = descriptorForFrame frameId f' := by
  unfold GlobalDescriptors.descriptorForFrame
  rw [h.resampleRgb, h.resampleRgb, h.resampleRgb]

/-- **Results depend on the visible pixels only.**  Two frames that differ in their strides and
padding bytes alone have one hash, one descriptor, one tight copy and one preview for every edge,
and two pairs of them have one colour score and one comparison under every engine. -/
theorem results_depend_on_visible_pixels (hLeft : SameVisible left left')
    (hRight : SameVisible right right') (hAdmitted : Admitted left) (hAdmitted' : Admitted left') :
    dhash left = dhash left' ∧
      (left.width = right.width → left.height = right.height →
        rgbMeanAbsoluteSimilarity left right = rgbMeanAbsoluteSimilarity left' right') ∧
      (∀ engine : HybridSimilarityEngine,
        engine.compare left right = engine.compare left' right') ∧
      (∀ engine : SimilarityEngine, engine.compare left right = engine.compare left' right') ∧
      (∀ frameId, descriptorForFrame frameId left = descriptorForFrame frameId left') ∧
      tightRgba left = tightRgba left' ∧
      ∀ maxEdge, downscaleScrubPreview left maxEdge = downscaleScrubPreview left' maxEdge :=
  ⟨hLeft.dhash,
    fun hWidth hHeight =>
      (SamePair.mk hLeft hRight hWidth hHeight).rgbMeanAbsoluteSimilarity hAdmitted,
    fun engine => hLeft.hybridCompare hRight hAdmitted engine,
    fun engine => hLeft.compare hRight hAdmitted engine,
    fun frameId => hLeft.descriptorForFrame frameId,
    hLeft.tightRgba_eq hAdmitted hAdmitted',
    fun maxEdge => hLeft.downscale_eq hAdmitted hAdmitted' maxEdge⟩

end Results

/-! ## One pixel with and without padding -/

theorem stride_paddedPixel (padding : List UInt8) : 1 * 4 ≤ 4 + padding.length :=
  Nat.le_add_right 4 padding.length

theorem length_paddedPixel (padding : List UInt8) :
    ([1, 2, 3, 255] ++ padding).length = (4 + padding.length) * 1 := by
  rw [List.length_append, Nat.mul_one]
  rfl

/-- A frame of one pixel whose row ends in `padding`. -/
def paddedPixel (padding : List UInt8) : OwnedRgbaFrame where
  width := 1
  height := 1
  strideBytes := 4 + padding.length
  pixels := [1, 2, 3, 255] ++ padding
  width_pos := Nat.one_pos
  height_pos := Nat.one_pos
  stride_ge := stride_paddedPixel padding
  pixels_length := length_paddedPixel padding

theorem sameVisible_paddedPixel (padding padding' : List UInt8) :
    SameVisible (paddedPixel padding) (paddedPixel padding') where
  width := rfl
  height := rfl
  bytes y x channel hy hx hChannel := by
    obtain rfl : y = 0 := Nat.lt_one_iff.1 hy
    obtain rfl : x = 0 := Nat.lt_one_iff.1 hx
    show ([1, 2, 3, 255] ++ padding)[_]? = ([1, 2, 3, 255] ++ padding')[_]?
    rw [Nat.zero_mul, Nat.zero_mul, Nat.zero_mul, Nat.zero_add,
      List.getElem?_append_left hChannel, List.getElem?_append_left hChannel]

theorem admitted_paddedPixel {padding : List UInt8} (h : padding.length < 2 ^ 32) :
    Admitted (paddedPixel padding) where
  width_lt := by
    show 1 < 2 ^ 32
    decide
  height_lt := by
    show 1 < 2 ^ 32
    decide
  bytes_lt := by
    show (4 + padding.length) * 1 < 2 ^ 64
    omega

theorem results_depend_on_visible_pixels_padded :
    dhash (paddedPixel []) = dhash (paddedPixel [7, 7]) ∧
      tightRgba (paddedPixel []) = tightRgba (paddedPixel [7, 7]) := by
  have hResults := results_depend_on_visible_pixels (sameVisible_paddedPixel [] [7, 7])
    (sameVisible_paddedPixel [] [7, 7]) (admitted_paddedPixel (by decide))
    (admitted_paddedPixel (by decide))
  exact ⟨hResults.1, hResults.2.2.2.2.2.1⟩

end FrameScope.Ports.VisiblePixels
