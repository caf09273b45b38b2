import FrameScope.Ports.NativeSession
import FrameScope.Ports.PreviewCache
import FrameScope.Ports.PreviewCancellation

/-!
# From a preview to the screen

Port of the fallback of `TargetRgbaNavigationDecoder`, of `render_preview` and
`finish_preview` of `framescope-ffi/src/scrub_handoff.rs`, and of the reader of
their response in `MicroscopePreviewBridge`.  The caches and the session are
locked for one step at a time, so what a request finds in them is an argument:
the entry of the preview cache, the frame of the source-quality cache, the
result of the bounded navigation, and the token at each of its checks.
-/

namespace FrameScope.Ports.PreviewDelivery

open FrameScope.Ports.Core
open FrameScope.Ports.FrameCache
open FrameScope.Ports.ScrubPreview
open FrameScope.Ports.NativeSession
open FrameScope.Ports.PreviewCancellation (PreviewFailure)

/-! ## The fallback scaler -/

/-- `snapshot_current_preview_rgba_for_target_navigation` as the trait has it, on the result of
the full snapshot. -/
def fallbackPreviewRgba (snapshot : Except FrameScopeError RgbaSnapshot) (maxEdge : Nat) :
    Except FrameScopeError PreviewSnapshot := do
  let rgba ← snapshot
  let source ← (OwnedRgbaFrame.new rgba.frame.width rgba.frame.height rgba.strideBytes
    rgba.pixels).mapError fun error =>
      .decoderFailure ("fallback preview RGBA validation failed: " ++ error.toText)
  let preview ← (downscaleScrubPreview source maxEdge).mapError fun error =>
    .decoderFailure ("fallback preview scaling failed: " ++ error.toText)
  .ok ⟨rgba.frame, preview.width, preview.height, preview.strideBytes, preview.pixels⟩

/-- The copy with which the bounded navigation ends. -/
def ownedSnapshot (preview : PreviewSnapshot) : Except FrameCacheError OwnedRgbaFrame :=
  OwnedRgbaFrame.new preview.width preview.height preview.strideBytes preview.pixels

/-! ## The response -/

inductive PreviewSource where
  | previewRam
  | sourceRam
  | decoded
  deriving DecidableEq, Repr

def PreviewSource.name : PreviewSource → String
  | .previewRam => "preview_ram"
  | .sourceRam => "source_ram"
  | .decoded => "decoded"

structure PreviewDetails where
  sessionId : Int
  frameId : Nat
  timestampUs : Option Int
  width : Nat
  height : Nat
  strideBytes : Nat
  byteLen : Nat
  source : PreviewSource
  decodedFrames : Nat
  deriving DecidableEq, Repr

/-- `finish_preview`, with the bytes of the buffer afterwards. -/
def finishPreview (sessionId : Int) (frameId : Nat) (timestampUs : Option Int)
    (preview : OwnedRgbaFrame) (source : PreviewSource) (decodedFrames : Nat)
    (destination : List UInt8) : Except PreviewFailure (PreviewDetails × List UInt8) :=
  if destination.length < preview.byteLen then
    .error ⟨"buffer_too_small", "Android preview buffer has " ++ toString destination.length ++
      " bytes but " ++ toString preview.byteLen ++ " are required."⟩
  else
    .ok ({ sessionId, frameId, timestampUs, width := preview.width, height := preview.height
           strideBytes := preview.strideBytes, byteLen := preview.byteLen, source
           decodedFrames },
      preview.pixels ++ destination.drop preview.byteLen)

/-! ## A request -/

/-- `MIN_PREVIEW_EDGE..=MAX_PREVIEW_EDGE`. -/
def previewEdge (maxEdge : Int) : Option Nat :=
  (toU32 maxEdge).filter fun edge => 64 ≤ edge ∧ edge ≤ 1024

/-- What a request finds on its way. -/
structure Findings where
  /-- The frame and its time, once the cache root is valid and the operation is registered. -/
  target : Except PreviewFailure (Nat × Option Int)
  /-- `preview_cache.get`. -/
  cachedPreview : Option OwnedRgbaFrame
  /-- `source_quality_ram_hit`. -/
  sourcePixels : Except PreviewFailure (Option OwnedRgbaFrame)
  /-- The bounded navigation: the pixels and the decoded frames. -/
  navigated : Except PreviewFailure (OwnedRgbaFrame × Nat)
  /-- Whether the token is cancelled at a check. -/
  cancelled : Nat → Bool

/-- `ensure_not_cancelled` at the `n`-th of its calls. -/
def Findings.ensureNotCancelled (found : Findings) (n : Nat) : Except PreviewFailure Unit :=
  if found.cancelled n = true then
    .error ⟨"cancelled", "Live preview was superseded by a higher-priority request."⟩
  else .ok ()

/-- The preview of a request, where it comes from, and whether the request puts it in the
cache. -/
structure Rendered where
  preview : OwnedRgbaFrame
  source : PreviewSource
  decodedFrames : Nat
  stored : Bool

/-- The three ways of `render_preview` to the pixels. -/
def Findings.render (found : Findings) (maxEdge : Nat) : Except PreviewFailure Rendered := do
  found.ensureNotCancelled 0
  match found.cachedPreview with
  | some preview =>
      found.ensureNotCancelled 1
      .ok ⟨preview, .previewRam, 0, false⟩
  | none =>
      found.ensureNotCancelled 1
      match ← found.sourcePixels with
      | some sourcePixels =>
          found.ensureNotCancelled 2
          let preview ← (downscaleScrubPreview sourcePixels maxEdge).mapError fun error =>
            ⟨"preview_scale_error", error.toText⟩
          found.ensureNotCancelled 3
          .ok ⟨preview, .sourceRam, 0, true⟩
      | none =>
          found.ensureNotCancelled 2
          let navigated ← found.navigated
          found.ensureNotCancelled 3
          found.ensureNotCancelled 4
          .ok ⟨navigated.1, .decoded, navigated.2, true⟩

/-- `render_preview`. -/
def renderPreview (sessionId maxEdge : Int) (found : Findings) (destination : List UInt8) :
    Except PreviewFailure (PreviewDetails × List UInt8) :=
  if sessionId ≤ 0 then
    .error ⟨"invalid_request", "Live preview requires a positive microscope session id."⟩
  else do
    let edge ← okOr (previewEdge maxEdge)
      ⟨"invalid_request", "Live preview max edge is outside the supported range."⟩
    let target ← found.target
    let rendered ← found.render edge
    finishPreview sessionId target.1 target.2 rendered.preview rendered.source
      rendered.decodedFrames destination

/-! ## The consumer -/

/-- `getLong` of a number of the response; one that is too large goes through a double, which
saturates. -/
def jsonLong (value : Nat) : Int := if value < 2 ^ 63 then value else 2 ^ 63 - 1

/-- `getInt`, which keeps the low bits. -/
def jsonInt (value : Nat) : Int := Int.bmod value (2 ^ 32)

structure MicroscopePreviewDescriptor where
  sessionId : Int
  frameId : Int
  timestampUs : Option Int
  width : Int
  height : Int
  strideBytes : Int
  byteLen : Int
  source : String
  decodedFrames : Int
  deriving DecidableEq, Repr

def validSources : List String := ["preview_ram", "source_ram", "decoded"]

/-- `isSane`. -/
def MicroscopePreviewDescriptor.isSane (d : MicroscopePreviewDescriptor) (maxEdge : Int) : Bool :=
  if d.sessionId ≤ 0 ∨ d.frameId < 0 ∨ d.decodedFrames < 0 then false
  else if maxEdge < 64 ∨ 1024 < maxEdge then false
  else if d.width < 1 ∨ maxEdge < d.width ∨ d.height < 1 ∨ maxEdge < d.height then false
  else if d.source ∉ validSources then false
  else if d.strideBytes ≠ d.width * 4 then false
  else if 2 ^ 63 ≤ d.strideBytes * d.height then false
  else decide (d.strideBytes * d.height = d.byteLen ∧ 1 ≤ d.strideBytes * d.height ∧
    d.strideBytes * d.height ≤ maxEdge * maxEdge * 4)

def PreviewDetails.descriptor (details : PreviewDetails) : MicroscopePreviewDescriptor where
  sessionId := details.sessionId
  frameId := jsonLong details.frameId
  timestampUs := details.timestampUs
  width := jsonInt details.width
  height := jsonInt details.height
  strideBytes := jsonLong details.strideBytes
  byteLen := jsonLong details.byteLen
  source := details.source.name
  decodedFrames := jsonLong details.decodedFrames

/-- The descriptor that `parseResponse` accepts, if it does. -/
def parseResponse (details : PreviewDetails) (expectedSessionId maxEdge : Int) (capacity : Nat) :
    Option MicroscopePreviewDescriptor :=
  let descriptor := details.descriptor
  if descriptor.byteLen < 1 ∨ 2 ^ 31 - 1 < descriptor.byteLen then none
  else if descriptor.sessionId ≠ expectedSessionId ∨ descriptor.isSane maxEdge = false ∨
      (capacity : Int) < descriptor.byteLen then none
  else some descriptor

end FrameScope.Ports.PreviewDelivery
