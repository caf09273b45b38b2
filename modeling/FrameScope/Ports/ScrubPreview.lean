import FrameScope.Ports.Decoder
import FrameScope.Ports.FrameCache

/-!
# Bounded preview snapshots

Port of `preview_dimensions`, `downscale_scrub_preview` and
`snapshot_current_frame_preview_rgba`.  The pixels of a snapshot come from the
native scaler, which is outside the repository: `NativeScaler` stands for it,
and nothing is assumed of it.  The dimensions and the byte count of what it
returns are checked as in the source.
-/

namespace FrameScope.Ports.ScrubPreview

open FrameScope.Ports.Core
open FrameScope.Ports.Decoder
open FrameScope.Ports.FrameCache

inductive ScrubPreviewError where
  | invalidMaxEdge
  | numericRange
  | frame (error : FrameCacheError)
  deriving DecidableEq, Repr

def ScrubPreviewError.toText : ScrubPreviewError → String
  | .invalidMaxEdge => "preview max edge must be positive"
  | .numericRange =>
      "preview dimensions or byte layout overflow the supported numeric range"
  | .frame error => "preview RGBA frame is invalid: " ++ error.toText

/-- One edge scaled by `max_edge / longest`, rounded to the nearest. -/
def scaledEdge (edge maxEdge longest : Nat) : Except ScrubPreviewError Nat :=
  if 2 ^ 64 ≤ edge * maxEdge + longest / 2 then .error .numericRange
  else
    let scaled := max ((edge * maxEdge + longest / 2) / longest) 1
    if scaled < 2 ^ 32 then .ok scaled else .error .numericRange

/-- `preview_dimensions`. -/
def previewDimensions (width height maxEdge : Nat) : Except ScrubPreviewError (Nat × Nat) :=
  if width = 0 ∨ height = 0 ∨ maxEdge = 0 then .error .invalidMaxEdge
  else
    let longest := max width height
    if longest ≤ maxEdge then .ok (width, height)
    else do
      let scaledWidth ← scaledEdge width maxEdge longest
      let scaledHeight ← scaledEdge height maxEdge longest
      .ok (scaledWidth, scaledHeight)

/-! ## Downscaling an owned frame -/

/-- The four bytes of a pixel. -/
def pixelAt (f : OwnedRgbaFrame) (y x : Nat) : List UInt8 :=
  (f.pixels.drop (y * f.strideBytes + x * 4)).take 4

/-- The coordinate of the source that is nearest below. -/
def nearestCoordinate (target sourceSize targetSize : Nat) : Nat :=
  min (target * sourceSize / targetSize) (sourceSize - 1)

/-- One pixel of the loops of `downscale_scrub_preview`, with the checks of its offsets. -/
def sampledPixel (source : OwnedRgbaFrame) (targetWidth sourceY sourceRow targetRow
    targetX : Nat) : Except ScrubPreviewError (List UInt8) := do
  let sourceX := nearestCoordinate targetX source.width targetWidth
  let sourceColumn ← okOr (checkedMulU64 sourceX 4) .numericRange
  let _ ← okOr (checkedAddU64 sourceRow sourceColumn) .numericRange
  let targetColumn ← okOr (checkedMulU64 targetX 4) .numericRange
  let _ ← okOr (checkedAddU64 targetRow targetColumn) .numericRange
  .ok (pixelAt source sourceY sourceX)

/-- One row of the loops. -/
def sampledRow (source : OwnedRgbaFrame) (targetWidth targetHeight targetStride targetY : Nat) :
    Except ScrubPreviewError (List UInt8) := do
  let sourceY := nearestCoordinate targetY source.height targetHeight
  let sourceRow ← okOr (checkedMulU64 sourceY source.strideBytes) .numericRange
  let targetRow ← okOr (checkedMulU64 targetY targetStride) .numericRange
  let pixels ← (List.range targetWidth).mapM
    (sampledPixel source targetWidth sourceY sourceRow targetRow)
  .ok pixels.flatten

/-- `downscale_scrub_preview`. -/
def downscaleScrubPreview (source : OwnedRgbaFrame) (maxEdge : Nat) :
    Except ScrubPreviewError OwnedRgbaFrame :=
  if maxEdge = 0 then .error .invalidMaxEdge
  else do
    let target ← previewDimensions source.width source.height maxEdge
    let targetStride ← okOr (checkedMulU64 target.1 4) .numericRange
    let _ ← okOr (checkedMulU64 targetStride target.2) .numericRange
    if target.1 = source.width ∧ target.2 = source.height ∧ source.strideBytes = targetStride then
      .ok source
    else do
      let rows ← (List.range target.2).mapM
        (sampledRow source target.1 target.2 targetStride)
      (OwnedRgbaFrame.new target.1 target.2 targetStride rows.flatten).mapError .frame

/-! ## Snapshots -/

/-- Pixels as the native session returns them. -/
structure NativeRgba where
  width : Nat
  height : Nat
  stride : Nat
  pixels : List UInt8
  deriving DecidableEq, Repr

/-- `copy_current_frame_rgba_resized` on a given current frame. -/
class NativeScaler where
  resize : DecodedRgbaFrame → Nat → Nat → Except FrameScopeError NativeRgba

/-- A bounded preview with the metadata of its source frame. -/
structure DecodedPreviewRgbaFrame where
  frame : DecodedFrame
  width : Nat
  height : Nat
  strideBytes : Nat
  pixels : List UInt8
  deriving DecidableEq, Repr

/-- What the preview snapshot makes of a frame once it is the current one. -/
def previewOf [NativeScaler] (rgba : DecodedRgbaFrame) (maxEdge : Nat) :
    Except FrameScopeError DecodedPreviewRgbaFrame := do
  let (targetWidth, targetHeight) ←
    (previewDimensions rgba.frame.width rgba.frame.height maxEdge).mapError fun error =>
      .decoderFailure ("invalid bounded preview dimensions: " ++ error.toText)
  let native ←
    if targetWidth = rgba.frame.width ∧ targetHeight = rgba.frame.height then
      Except.ok ⟨rgba.frame.width, rgba.frame.height, rgba.strideBytes, rgba.pixels⟩
    else NativeScaler.resize rgba targetWidth targetHeight
  if native.width ≠ targetWidth ∨ native.height ≠ targetHeight then
    .error (.decoderFailure ("bounded RGBA snapshot dimensions " ++ toString native.width ++
      "x" ++ toString native.height ++ " do not match requested " ++ toString targetWidth ++
      "x" ++ toString targetHeight))
  else if 2 ^ 64 ≤ native.stride * targetHeight then
    .error (.decoderFailure "bounded preview RGBA byte size overflows memory")
  else if native.pixels.length ≠ native.stride * targetHeight then
    .error (.decoderFailure ("bounded RGBA snapshot has " ++ toString native.pixels.length ++
      " bytes, expected " ++ toString (native.stride * targetHeight)))
  else .ok ⟨rgba.frame, native.width, native.height, native.stride, native.pixels⟩

/-- `VideoDecoder::snapshot_current_frame_preview_rgba`. -/
def snapshotCurrentFramePreviewRgba [NativeScaler] (d : VideoDecoder) (frame : DecodedFrame)
    (maxEdge : Nat) : Except FrameScopeError DecodedPreviewRgbaFrame :=
  match d.current with
  | none => .error (.decoderFailure
      "preview RGBA snapshot request does not match the decoder's current frame")
  | some e =>
      if e.rgba.frame ≠ frame then
        .error (.decoderFailure
          "preview RGBA snapshot request does not match the decoder's current frame")
      else e.readRgba.bind fun rgba => previewOf rgba maxEdge

/-- The owned copy of a preview. -/
def ownedPreview (preview : DecodedPreviewRgbaFrame) : Except FrameCacheError OwnedRgbaFrame :=
  OwnedRgbaFrame.new preview.width preview.height preview.strideBytes preview.pixels

end FrameScope.Ports.ScrubPreview
