import FrameScope.Ports.ScrubPreview

/-!
# The decoder over one native session

Port of `next_frame`, `seek_to_timestamp_us` and the snapshot functions of
`VideoDecoder`, and of the wrapper `Session` of `framescope-ffmpeg` below them.
FFmpeg keeps one frame that every read overwrites; `Session.slot` is what it
holds.  Whatever a call into FFmpeg may do is an argument of the call: its
status, the metadata it fills in, what it leaves in the reusable frame.  The
token may be cancelled by another thread before any call, so what a call reads
of it is an argument too.  The cadence of the timestamps is left out.
-/

namespace FrameScope.Ports.NativeSession

open FrameScope.Ports.Core
open FrameScope.Ports.ScrubPreview

/-! ## Errors of the wrapper -/

inductive NativeErrorKind where
  | unsupportedFormat
  | unsupportedCodec
  | invalidSource
  | noVideoStream
  | decoder
  | malformed
  | io
  | cancelled
  | seekUnavailable
  | backend
  deriving DecidableEq, Repr

structure NativeError where
  kind : NativeErrorKind
  ffmpegCode : Int
  message : String
  deriving DecidableEq, Repr

/-- `NativeError::backend`. -/
def NativeError.backend (message : String) : NativeError := ⟨.backend, 0, message⟩

/-- `map_native_error`. -/
def mapNativeError (error : NativeError) : FrameScopeError :=
  match error.kind with
  | .unsupportedFormat => .unsupportedFormat error.message
  | .unsupportedCodec => .unsupportedCodec error.message
  | .invalidSource => .invalidSource error.message
  | .noVideoStream => .noVideoTrack
  | .decoder => .decoderFailure error.message
  | .malformed => .malformedContainer error.message
  | .io => .io error.message
  | .cancelled => .cancelled
  | .seekUnavailable => .seekUnavailable error.message
  | .backend => .backendUnavailable error.message

/-! ## Frames -/

/-- `u32::try_from` of a signed value. -/
def toU32 (value : Int) : Option Nat :=
  if 0 ≤ value ∧ value < 2 ^ 32 then some value.toNat else none

/-- The same with the filter for positive values. -/
def positiveU32 (value : Int) : Option Nat := (toU32 value).filter (0 < ·)

/-- `FsFrameInfo`, which the shim fills in. -/
structure FsFrameInfo where
  epoch : Nat
  index : Nat
  streamIndex : Int
  hasTimestamp : Int
  timestampTicks : Int
  hasDuration : Int
  durationTicks : Int
  timeBaseNum : Int
  timeBaseDen : Int
  keyframe : Int
  corrupt : Int
  width : Int
  height : Int
  pixelFormatName : Option String
  deriving DecidableEq, Repr

structure NativeFrame where
  epoch : Nat
  index : Nat
  streamIndex : Int
  timestampTicks : Option Int
  durationTicks : Option Int
  timeBaseNum : Int
  timeBaseDen : Int
  keyframe : Bool
  corrupt : Bool
  width : Int
  height : Int
  pixelFormatName : Option String
  deriving DecidableEq, Repr

/-- The frame that `Session::next_frame` makes of the metadata. -/
def FsFrameInfo.toNativeFrame (raw : FsFrameInfo) : NativeFrame where
  epoch := raw.epoch
  index := raw.index
  streamIndex := raw.streamIndex
  timestampTicks := if raw.hasTimestamp ≠ 0 then some raw.timestampTicks else none
  durationTicks := if raw.hasDuration ≠ 0 then some raw.durationTicks else none
  timeBaseNum := raw.timeBaseNum
  timeBaseDen := raw.timeBaseDen
  keyframe := decide (raw.keyframe ≠ 0)
  corrupt := decide (raw.corrupt ≠ 0)
  width := raw.width
  height := raw.height
  pixelFormatName := raw.pixelFormatName

/-- The dimensions that `Session::next_frame` records. -/
def FsFrameInfo.dimensions (raw : FsFrameInfo) : Option (Nat × Nat) := do
  let width ← positiveU32 raw.width
  let height ← positiveU32 raw.height
  some (width, height)

/-- A decoded frame with the labels of the session that decoded it. -/
structure LabelledFrame extends DecodedFrame where
  sourceId : Nat
  decodeEpoch : Nat
  index : Nat
  deriving DecidableEq, Repr

/-- Ticks under the time base of the stream, which has to be valid if there are any. -/
def timed {α : Type} (ticks : Option Int) (timeBase : Option TimeBase) (make : Int → TimeBase → α)
    (message : String) : Except FrameScopeError (Option α) :=
  match ticks with
  | none => .ok none
  | some ticks => (okOr timeBase (.decoderFailure message)).map fun base => some (make ticks base)

/-- `map_frame`. -/
def mapFrame (sourceId selectedVideoStream : Nat) (native : NativeFrame) :
    Except FrameScopeError LabelledFrame := do
  let streamIndex ← okOr (toU32 native.streamIndex)
    (.decoderFailure "decoder returned an invalid stream index")
  if streamIndex ≠ selectedVideoStream then
    .error (.decoderFailure ("decoder emitted stream " ++ toString streamIndex ++ ", expected " ++
      toString selectedVideoStream))
  else
    let timeBase := TimeBase.new native.timeBaseNum native.timeBaseDen
    let presentationTimestamp ← timed native.timestampTicks timeBase MediaTimestamp.mk
      "decoded frame timestamp has an invalid stream time base"
    let duration ← timed (native.durationTicks.filter (0 < ·)) timeBase MediaDuration.mk
      "decoded frame duration has an invalid stream time base"
    let width ← okOr (positiveU32 native.width) (.decoderFailure "decoded frame width is invalid")
    let height ← okOr (positiveU32 native.height)
      (.decoderFailure "decoded frame height is invalid")
    .ok { sourceId, streamIndex, decodeEpoch := native.epoch, index := native.index
          presentationTimestamp, duration, keyframe := native.keyframe
          corrupt := native.corrupt, width, height, pixelFormat := native.pixelFormatName }

/-! ## The session -/

/-- The native session and what the wrapper records of it.  A picture is whatever
FFmpeg holds in its reusable frame. -/
structure Session (π : Type) where
  slot : Option π
  lastFrameDimensions : Option (Nat × Nat)

/-- What `framescope_ffmpeg_next_frame` does: status 1 with a frame, 0, -1 or another
status.  Only the first fills the reusable frame with a decoded picture; the others
leave it as the argument says. -/
inductive NativeNext (π : Type) where
  | frame (raw : FsFrameInfo) (picture : π)
  | ended (slot : Option π)
  | failed (error : NativeError) (slot : Option π)
  | unexpected (status : Int) (slot : Option π)

/-- `Session::next_frame`. -/
def Session.nextFrame {π : Type} :
    NativeNext π → Except NativeError (Option NativeFrame) × Session π
  | .frame raw picture =>
      (.ok (some raw.toNativeFrame), ⟨some picture, raw.dimensions⟩)
  | .ended slot => (.ok none, ⟨slot, none⟩)
  | .failed error slot => (.error error, ⟨slot, none⟩)
  | .unexpected status slot =>
      (.error (.backend ("native decoder returned unexpected frame status " ++ toString status)),
        ⟨slot, none⟩)

/-- What `framescope_ffmpeg_seek_us` does. -/
structure NativeSeek (π : Type) where
  result : Except NativeError Unit
  slot : Option π

/-- `Session::seek_us`. -/
def Session.seekUs {π : Type} (native : NativeSeek π) : Except NativeError Unit × Session π :=
  (native.result, ⟨native.slot, none⟩)

/-- The conversion of a picture to RGBA at a size, by the scaler or without it: the
stride that the shim reports and the bytes that it writes. -/
abbrev Converter (π : Type) := π → Bool → Nat → Nat → Int × List UInt8

/-- What else decides a copy: whether the buffer can be allocated, and whether the shim
fails. -/
structure CopyOutcome where
  allocated : Bool
  fault : Option NativeError
  deriving DecidableEq, Repr

/-- The shim writes to a zeroed buffer of the required size. -/
def written (required : Nat) (bytes : List UInt8) : List UInt8 :=
  (bytes ++ List.replicate required 0).take required

section Copies

variable {π : Type} (convert : Converter π)

/-- `framescope_ffmpeg_copy_current_frame_rgba` and its scaled form. -/
def Session.convertCurrent (s : Session π) (fault : Option NativeError) (scaled : Bool)
    (width height : Nat) : Except NativeError (Int × List UInt8) :=
  match fault with
  | some error => .error error
  | none =>
      match s.slot with
      | none => .error ⟨.decoder, 0, "no valid decoded frame is available for RGBA copy"⟩
      | some picture => .ok (convert picture scaled width height)

/-- `i32::try_from` of a target size, which only the scaled form needs. -/
def checkTargetSize (scaled : Bool) (width height : Nat) : Except NativeError Unit :=
  if scaled = true ∧ 2 ^ 31 ≤ width then
    .error (.backend "RGBA resize width exceeds FFmpeg range")
  else if scaled = true ∧ 2 ^ 31 ≤ height then
    .error (.backend "RGBA resize height exceeds FFmpeg range")
  else .ok ()

/-- `copy_current_frame_rgba_to_dimensions`. -/
def Session.copyCurrentFrameRgbaToDimensions (s : Session π) (outcome : CopyOutcome)
    (width height : Nat) (scaled : Bool) : Except NativeError NativeRgba := do
  let stride ← okOr (checkedMulU64 width 4)
    (.backend "decoded frame RGBA stride overflows usize")
  let required ← okOr (checkedMulU64 stride height)
    (.backend "decoded frame RGBA size overflows usize")
  if outcome.allocated = false then
    .error (.backend "failed to allocate owned RGBA frame buffer")
  else
    checkTargetSize scaled width height
    let (outStride, bytes) ← s.convertCurrent convert outcome.fault scaled width height
    if outStride = stride then .ok ⟨width, height, stride, written required bytes⟩
    else .error (.backend "native RGBA conversion returned an invalid stride")

/-- `copy_current_frame_rgba`. -/
def Session.copyCurrentFrameRgba (s : Session π) (outcome : CopyOutcome) :
    Except NativeError NativeRgba := do
  let (width, height) ← okOr s.lastFrameDimensions
    (.backend "no decoded frame is available for RGBA copy")
  s.copyCurrentFrameRgbaToDimensions convert outcome width height false

/-- `copy_current_frame_rgba_resized`. -/
def Session.copyCurrentFrameRgbaResized (s : Session π) (outcome : CopyOutcome)
    (width height : Nat) : Except NativeError NativeRgba := do
  let (sourceWidth, sourceHeight) ← okOr s.lastFrameDimensions
    (.backend "no decoded frame is available for RGBA resize")
  if width = 0 ∨ height = 0 ∨ sourceWidth < width ∨ sourceHeight < height then
    .error (.backend
      "RGBA resize dimensions must be positive and must not upscale the decoded frame")
  else s.copyCurrentFrameRgbaToDimensions convert outcome width height true

end Copies

/-! ## The decoder -/

structure VideoDecoder (π : Type) where
  session : Session π
  selectedVideoStream : Nat
  sourceId : Nat
  currentFrame : Option LabelledFrame

/-- A full-resolution snapshot. -/
structure RgbaSnapshot where
  frame : LabelledFrame
  strideBytes : Nat
  pixels : List UInt8
  deriving DecidableEq, Repr

/-- A bounded preview snapshot. -/
structure PreviewSnapshot where
  frame : LabelledFrame
  width : Nat
  height : Nat
  strideBytes : Nat
  pixels : List UInt8
  deriving DecidableEq, Repr

namespace VideoDecoder

variable {π : Type} (convert : Converter π) (d : VideoDecoder π)

/-- `next_frame`. -/
def nextFrame (cancelled : Bool) (native : NativeNext π) :
    Except FrameScopeError (Option LabelledFrame) × VideoDecoder π :=
  if cancelled = true then (.error .cancelled, d)
  else
    match Session.nextFrame native with
    | (.error error, session) => (.error (mapNativeError error), { d with session })
    | (.ok none, session) => (.ok none, { d with session, currentFrame := none })
    | (.ok (some native), session) =>
        match mapFrame d.sourceId d.selectedVideoStream native with
        | .error error => (.error error, { d with session })
        | .ok frame => (.ok (some frame), { d with session, currentFrame := some frame })

/-- `seek_to_timestamp_us`. -/
def seekToTimestampUs (cancelled : Bool) (timestampUs : Int) (native : NativeSeek π) :
    Except FrameScopeError Unit × VideoDecoder π :=
  if timestampUs < 0 then
    (.error (.seekUnavailable "seek timestamp must be non-negative"), d)
  else if cancelled = true then (.error .cancelled, d)
  else
    match Session.seekUs native with
    | (.error error, session) => (.error (mapNativeError error), { d with session })
    | (.ok (), session) => (.ok (), { d with session, currentFrame := none })

/-- `snapshot_current_frame_rgba`. -/
def snapshotCurrentFrameRgba (cancelled : Bool) (frame : LabelledFrame) (outcome : CopyOutcome) :
    Except FrameScopeError RgbaSnapshot :=
  if cancelled = true then .error .cancelled
  else if d.currentFrame ≠ some frame then
    .error (.decoderFailure "RGBA snapshot request does not match the decoder's current frame")
  else do
    let rgba ← (d.session.copyCurrentFrameRgba convert outcome).mapError mapNativeError
    if rgba.width ≠ frame.width ∨ rgba.height ≠ frame.height then
      .error (.decoderFailure ("RGBA snapshot dimensions " ++ toString rgba.width ++ "x" ++
        toString rgba.height ++ " do not match decoded frame " ++ toString frame.width ++ "x" ++
        toString frame.height))
    else
      let expected ← okOr (checkedMulU64 rgba.stride frame.height)
        (.decoderFailure "RGBA snapshot byte size overflows memory")
      if rgba.pixels.length ≠ expected then
        .error (.decoderFailure ("RGBA snapshot has " ++ toString rgba.pixels.length ++
          " bytes, expected " ++ toString expected))
      else .ok ⟨frame, rgba.stride, rgba.pixels⟩

/-- The copy that the preview snapshot asks for: a frame that is small enough is not scaled. -/
def previewCopy (frame : LabelledFrame) (target : Nat × Nat) (outcome : CopyOutcome) :
    Except NativeError NativeRgba :=
  if target.1 = frame.width ∧ target.2 = frame.height then
    d.session.copyCurrentFrameRgba convert outcome
  else d.session.copyCurrentFrameRgbaResized convert outcome target.1 target.2

/-- `snapshot_current_frame_preview_rgba`. -/
def snapshotCurrentFramePreviewRgba (cancelled : Bool) (frame : LabelledFrame) (maxEdge : Nat)
    (outcome : CopyOutcome) : Except FrameScopeError PreviewSnapshot :=
  if cancelled = true then .error .cancelled
  else if d.currentFrame ≠ some frame then
    .error (.decoderFailure
      "preview RGBA snapshot request does not match the decoder's current frame")
  else do
    let target ← (previewDimensions frame.width frame.height maxEdge).mapError fun error =>
      .decoderFailure ("invalid bounded preview dimensions: " ++ error.toText)
    let rgba ← (d.previewCopy convert frame target outcome).mapError mapNativeError
    if rgba.width ≠ target.1 ∨ rgba.height ≠ target.2 then
      .error (.decoderFailure ("bounded RGBA snapshot dimensions " ++ toString rgba.width ++ "x" ++
        toString rgba.height ++ " do not match requested " ++ toString target.1 ++ "x" ++
        toString target.2))
    else
      let expected ← okOr (checkedMulU64 rgba.stride target.2)
        (.decoderFailure "bounded preview RGBA byte size overflows memory")
      if rgba.pixels.length ≠ expected then
        .error (.decoderFailure ("bounded RGBA snapshot has " ++ toString rgba.pixels.length ++
          " bytes, expected " ++ toString expected))
      else .ok ⟨frame, rgba.width, rgba.height, rgba.stride, rgba.pixels⟩

end VideoDecoder

/-! ## What a copy returns -/

@[simp] theorem length_written (required : Nat) (bytes : List UInt8) :
    (written required bytes).length = required := by
  simp [written]

end FrameScope.Ports.NativeSession
