import FrameScope.Verified.Fallible
import FrameScope.Verified.Runs
import FrameScope.Ports.ExtractionImage
import FrameScope.Ports.FramePreparation
import FrameScope.Ports.Microscope

/-!
# Navigation and pixels of one microscope session

Port of the session operations of `framescope-ffi/src/microscope.rs` and of the
export in `frame_handoff.rs`.  Each operation runs under the session lock, on a
state that it keeps also when it fails.  An export is two such operations, a
preparation and a copy, with other operations in between.

What the cancellation tokens say, and how the decoder, its cursor and the cache
answer, is given with each preparation.
-/

namespace FrameScope.Ports.MicroscopeSession

open FrameScope.Verified.Fallible
open FrameScope.Verified.Runs
open FrameScope.Ports.Core
open FrameScope.Ports.FrameIndexModel
open FrameScope.Ports.FrameIndexStore
open FrameScope.Ports.FrameCache
open FrameScope.Ports.Navigation (NavigationError CachedNavigationResult)
open FrameScope.Ports.ExtractionImage (ExtractionImageFormat EncodedImageReport)
open FrameScope.Ports.FramePreparation (MicroscopeFailure nextPositiveI64)
open FrameScope.Ports.Microscope

def MAX_PRESENTATION_RGBA_BYTES : Nat := 256 * 1024 * 1024

/-- `FrameScopeError::code`. -/
def errorCode : FrameScopeError → String
  | .unsupportedFormat _ => "unsupported_format"
  | .unsupportedCodec _ => "unsupported_codec"
  | .invalidSource _ => "invalid_source"
  | .malformedContainer _ => "malformed_container"
  | .noVideoTrack => "no_video_track"
  | .decoderFailure _ => "decoder_failure"
  | .cancelled => "cancelled"
  | .seekUnavailable _ => "seek_unavailable"
  | .backendUnavailable _ => "backend_unavailable"
  | .invalidMetadata _ => "invalid_metadata"
  | .io _ => "io_error"
  | .bridge _ => "bridge_error"

def fromFrameScope (error : FrameScopeError) : MicroscopeFailure := ⟨errorCode error, error.toText⟩

def fromMicroscope (error : MicroscopeNavigationError) : MicroscopeFailure :=
  let code := match error with
    | .atFirstFrame => "frame_boundary"
    | .atLastFrame => "frame_boundary"
    | .frameNotIndexed => "frame_out_of_range"
    | .timestampNotIndexed => "timestamp_not_indexed"
    | .incompleteIndex => "index_incomplete"
    | .emptyIndex => "no_frames"
    | .index _ => "index_error"
    | .timestampOverflow => "index_error"
  ⟨code, error.toText⟩

def fromCachedNavigation : NavigationError → MicroscopeFailure
  | .decoder error => fromFrameScope error
  | .index error => ⟨"index_error", error.toText⟩
  | .cache error => ⟨"cache_error", error.toText⟩
  | .incompleteIndex => ⟨"index_incomplete", "frame index is incomplete"⟩
  | .frameNotIndexed => ⟨"frame_out_of_range", "frame is not indexed"⟩
  | .streamIdentityMismatch =>
      ⟨"stream_identity_mismatch", "fresh decoder stream does not match the indexed stream"⟩
  | .timelineMismatch =>
      ⟨"timeline_mismatch",
        "decoded presentation timeline diverged from the persistent frame index"⟩
  | .unexpectedEof =>
      ⟨"unexpected_eof", "decoder reached EOF before the requested indexed frame"⟩

def fromPresentation : MicroscopePresentationError → MicroscopeFailure
  | .target error => fromMicroscope error
  | .navigation error => fromCachedNavigation error
  | .identityMismatch =>
      ⟨"presentation_identity_mismatch",
        "microscope identity diverged from the source-quality frame presentation"⟩

/-! ## The session -/

structure ExactNavigationDiagnostics where
  requestedExactFrames : Nat
  randomSeeks : Nat
  forwardDecodes : Nat
  decoderReopenCount : Nat
  decodedFrames : Nat
  warmNavigationHits : Nat
  ramNavigationHits : Nat
  lastSeekDistanceFrames : Nat
  totalSeekDistanceFrames : Nat
  lastFramesDecoded : Nat
  lastDecoderReopens : Nat
  lastRandomSeek : Bool
  lastWarmNavigationHit : Bool
  deriving DecidableEq, Repr

/-- `keyframe_seek_distance_frames`. -/
def keyframeSeekDistanceFrames (presentation : MicroscopeFramePresentation) : Nat :=
  if presentation.usedKeyframeSeek then
    match presentation.target.entry.anchor with
    | .keyframe frameId _ => presentation.frameId - frameId
    | .streamStart => 0
  else 0

namespace ExactNavigationDiagnostics

def initial : ExactNavigationDiagnostics := ⟨0, 0, 0, 0, 0, 0, 0, 0, 0, 0, 0, false, false⟩

def recordSuccess (d : ExactNavigationDiagnostics) (presentation : MicroscopeFramePresentation)
    (decoderReopens : Nat) : ExactNavigationDiagnostics :=
  let randomSeek := presentation.usedKeyframeSeek
  let warm := decide (decoderReopens = 0) && decide (0 < presentation.decodedFrames) && !randomSeek
  let ram := decide (decoderReopens = 0) && decide (presentation.decodedFrames = 0)
  let distance := keyframeSeekDistanceFrames presentation
  { requestedExactFrames := saturatingAddU64 d.requestedExactFrames 1
    randomSeeks := saturatingAddU64 d.randomSeeks (if randomSeek then 1 else 0)
    forwardDecodes :=
      if warm then saturatingAddU64 d.forwardDecodes presentation.decodedFrames
      else d.forwardDecodes
    decoderReopenCount := saturatingAddU64 d.decoderReopenCount decoderReopens
    decodedFrames := saturatingAddU64 d.decodedFrames presentation.decodedFrames
    warmNavigationHits :=
      if warm then saturatingAddU64 d.warmNavigationHits 1 else d.warmNavigationHits
    ramNavigationHits :=
      if ram then saturatingAddU64 d.ramNavigationHits 1 else d.ramNavigationHits
    lastSeekDistanceFrames := distance
    totalSeekDistanceFrames := saturatingAddU64 d.totalSeekDistanceFrames distance
    lastFramesDecoded := presentation.decodedFrames
    lastDecoderReopens := decoderReopens
    lastRandomSeek := randomSeek
    lastWarmNavigationHit := warm }

end ExactNavigationDiagnostics

structure NavigationSession where
  index : FrameIndex
  exactNavigation : ExactNavigationDiagnostics
  frameCount : Nat
  current : Option Nat
  presentationGeneration : Int
  currentPresentation : Option MicroscopeFramePresentation

/-- The session that `open_session` registers. -/
def NavigationSession.opened (index : FrameIndex) (frameCount : Nat) : NavigationSession where
  index := index
  exactNavigation := .initial
  frameCount := frameCount
  current := if 0 < frameCount then some 0 else none
  presentationGeneration := if 0 < frameCount then 1 else 0
  currentPresentation := none

structure FrameDetails where
  frameId : Nat
  timestampTicks : Option Int
  timestampUs : Option Int
  timeBaseNumerator : Int
  timeBaseDenominator : Int
  durationTicks : Option Int
  keyframe : Bool
  corrupt : Bool
  deriving DecidableEq, Repr

structure SessionSnapshot where
  sessionId : Int
  frameCount : Nat
  currentFrame : Option FrameDetails
  canStepPrevious : Bool
  canStepNext : Bool
  deriving DecidableEq, Repr

structure PreparedFrameDetails where
  sessionId : Int
  frameId : Nat
  generation : Int
  width : Nat
  height : Nat
  strideBytes : Nat
  byteLen : Nat
  navigation : ExactNavigationDiagnostics
  deriving DecidableEq, Repr

/-- An operation under the session lock. -/
abbrev SessionM := EStateM MicroscopeFailure NavigationSession

variable (sessionId : Int)

def frameDetails (index : FrameIndex) (target : MicroscopeTarget) : FrameDetails :=
  let entry := target.entry
  { frameId := entry.frameId
    timestampTicks := entry.presentationTimestamp.map (·.ticks)
    timestampUs := entry.timestampUs
    timeBaseNumerator := index.streamIdentity.timeBase.numerator
    timeBaseDenominator := index.streamIdentity.timeBase.denominator
    durationTicks := entry.duration.map (·.ticks)
    keyframe := entry.keyframe
    corrupt := entry.corrupt }

/-- The target of the current frame, when there is one. -/
def currentTarget (session : NavigationSession) :
    Except MicroscopeNavigationError (Option MicroscopeTarget) :=
  match session.current with
  | none => .ok none
  | some frameId => (microscopeTarget session.index frameId).map some

def snapshot : SessionM SessionSnapshot := do
  let session ← get
  let target ← ofExcept fromMicroscope (currentTarget session)
  return {
    sessionId
    frameCount := session.frameCount
    currentFrame := target.map (frameDetails session.index)
    canStepPrevious := target.any (·.hasPrevious)
    canStepNext := target.any (·.hasNext) }

/-! ## Navigation -/

def nextPresentationGeneration (current : Int) : Except MicroscopeFailure Int :=
  okOr (nextPositiveI64 current) ⟨"bridge_error", "frame presentation generation exhausted"⟩

/-- The position moves before the generation, which may be exhausted. -/
def setCurrentFrame (frameId : Nat) : SessionM Unit := do
  let session ← get
  if session.current ≠ some frameId then
    set { session with current := some frameId, currentPresentation := none }
    let next ← ofExcept id (nextPresentationGeneration session.presentationGeneration)
    modify fun moved => { moved with presentationGeneration := next }

def noFrames : MicroscopeFailure := ⟨"no_frames", "video contains no indexed frames"⟩

/-- What follows once a target is found. -/
def moveTo (target : MicroscopeTarget) : SessionM SessionSnapshot := do
  setCurrentFrame target.frameId
  snapshot sessionId

/-- The step that the code of a request stands for. -/
def parseStep (delta : Int) : Except MicroscopeFailure MicroscopeStep :=
  if delta = -1 then .ok .previous
  else if delta = 1 then .ok .next
  else .error ⟨"invalid_request", "frame step must be exactly -1 or +1"⟩

def stepSession (delta : Int) : SessionM SessionSnapshot := do
  let step ← ofExcept id (parseStep delta)
  let session ← get
  let current ← ofExcept id (okOr session.current noFrames)
  let target ← ofExcept fromMicroscope (microscopeStep session.index current step)
  moveTo sessionId target

def jumpToFrame (frameId : Int) : SessionM SessionSnapshot := do
  ofExcept id (ensure (0 ≤ frameId) ⟨"invalid_request", "frame id must be non-negative"⟩)
  let session ← get
  let target ← ofExcept fromMicroscope (microscopeTarget session.index frameId.toNat)
  moveTo sessionId target

def parseSelection (selection : Int) : Except MicroscopeFailure MicroscopeTimestampSelection :=
  if selection = 0 then .ok .atOrBefore
  else if selection = 1 then .ok .atOrAfter
  else if selection = 2 then .ok .nearest
  else .error ⟨"invalid_request",
    "timestamp selection must be 0 (before), 1 (after), or 2 (nearest)"⟩

def jumpToTimestamp (timestampUs selection : Int) : SessionM SessionSnapshot := do
  let selection ← ofExcept id (parseSelection selection)
  let session ← get
  let target ← ofExcept fromMicroscope (microscopeTimestampUs session.index timestampUs selection)
  moveTo sessionId target


/-! ## Preparation and copy -/

/-- What a preparation meets outside the session: whether it could be registered,
what its request token says before the lock, under it and after the decode,
whether it may adopt the token of the retained cursor, and the navigation. -/
structure Preparation where
  registration : Except MicroscopeFailure Unit
  cancelledBefore : Bool
  cancelledInside : Bool
  adopted : Bool
  navigate : Nat → Except NavigationError CachedNavigationResult
  decoderReopens : Nat
  cancelledAfter : Bool

def notCancelled (cancelled : Bool) : SessionM Unit :=
  ofExcept id (ensure (cancelled = false) (fromFrameScope .cancelled))

/-- `prepare_frame_response` up to its serialization. -/
def prepareCurrentFrame (preparation : Preparation) : SessionM PreparedFrameDetails := do
  ofExcept id preparation.registration
  notCancelled preparation.cancelledBefore
  notCancelled preparation.cancelledInside
  let session ← get
  let frameId ← ofExcept id (okOr session.current noFrames)
  notCancelled (!preparation.adopted)
  let presentation ← ofExcept fromPresentation
    (presentMicroscopeFrame session.index preparation.navigate frameId)
  notCancelled preparation.cancelledAfter
  ofExcept id (ensure (presentation.pixels.byteLen ≤ MAX_PRESENTATION_RGBA_BYTES)
    ⟨"frame_too_large", "decoded frame exceeds the Android presentation byte limit"⟩)
  let diagnostics :=
    session.exactNavigation.recordSuccess presentation preparation.decoderReopens
  set { session with
    exactNavigation := diagnostics
    currentPresentation := some presentation }
  return {
    sessionId
    frameId := presentation.frameId
    generation := session.presentationGeneration
    width := presentation.pixels.width
    height := presentation.pixels.height
    strideBytes := presentation.pixels.strideBytes
    byteLen := presentation.pixels.byteLen
    navigation := diagnostics }

/-- The number of bytes copied, and the buffer after it. -/
def copyPreparedFrame (generation : Int) (destination : List UInt8) :
    SessionM (Nat × List UInt8) := do
  ofExcept id (ensure (0 < generation)
    ⟨"invalid_request", "frame presentation generation must be positive"⟩)
  let session ← get
  ofExcept id (ensure (generation = session.presentationGeneration)
    ⟨"stale_generation", "requested frame presentation is stale after navigation"⟩)
  let presentation ← ofExcept id (okOr session.currentPresentation
    ⟨"no_prepared_frame",
      "no source-quality frame has been prepared for the current microscope position"⟩)
  ofExcept id (ensure (session.current = some presentation.frameId)
    ⟨"stale_generation", "prepared frame no longer matches the current microscope position"⟩)
  let pixels := presentation.pixels.pixels
  ofExcept id (ensure (pixels.length ≤ destination.length)
    ⟨"buffer_too_small", "direct frame buffer is smaller than the prepared RGBA payload"⟩)
  return (pixels.length, pixels ++ destination.drop pixels.length)

/-! ## Export -/

structure ExportFailure where
  code : String
  message : String
  deriving DecidableEq, Repr

structure ExportedFrameDetails where
  sessionId : Int
  frameId : Nat
  width : Nat
  height : Nat
  format : String
  mimeType : String
  byteLen : Nat
  deriving DecidableEq, Repr

/-- The arguments of an export, whether its operation could be registered, and
what its token says where it is asked. -/
structure ExportRequest where
  outputFd : Int
  formatCode : Int
  jpegQuality : Int
  operation : Except ExportFailure Unit
  cancelledBefore : Bool
  cancelledPrepared : Bool
  cancelledCopied : Bool

def invalidQuality : ExportFailure :=
  ⟨"invalid_request", "JPEG quality must be in the inclusive range 1..=100"⟩

def parseExportFormat (formatCode jpegQuality : Int) : Except ExportFailure ExtractionImageFormat :=
  if formatCode = 0 then .ok .png
  else if formatCode = 1 then
    if 1 ≤ jpegQuality ∧ jpegQuality ≤ 100 then .ok (.jpeg (UInt8.ofNat jpegQuality.toNat))
    else .error invalidQuality
  else if formatCode = 2 then .ok .webPLossless
  else .error ⟨"invalid_request", "image format must be 0 (PNG), 1 (JPEG), or 2 (lossless WebP)"⟩

def exportFormatName : ExtractionImageFormat → String
  | .png => "png"
  | .jpeg _ => "jpeg"
  | .webPLossless => "webp_lossless"

def cancelledExport : ExportFailure :=
  ⟨"cancelled", "frame export was cancelled before output delivery"⟩

def copyExportFailure (error : MicroscopeFailure) : ExportFailure :=
  let message :=
    if error.code = "invalid_request" then "microscope frame copy request was invalid"
    else if error.code = "session_not_found" then "microscope session is no longer open"
    else if error.code = "stale_generation" then
      "microscope position changed before export could copy the frame"
    else if error.code = "no_prepared_frame" then
      "no source-quality microscope frame is prepared for export"
    else if error.code = "buffer_too_small" then
      "native export buffer is smaller than the prepared RGBA payload"
    else "native microscope frame copy failed"
  ⟨error.code, message⟩

/-- The checks of an export before it prepares the frame. -/
def beginExport (request : ExportRequest) : Except ExportFailure ExtractionImageFormat := do
  ensure (0 < sessionId)
    ⟨"invalid_request", "frame export requires a positive microscope session id"⟩
  ensure (0 ≤ request.outputFd)
    ⟨"invalid_destination", "frame export requires a writable output file descriptor"⟩
  let format ← parseExportFormat request.formatCode request.jpegQuality
  request.operation
  ensure (request.cancelledBefore = false) cancelledExport
  return format

/-- What an export makes of its preparation's response. -/
def acceptPrepared (request : ExportRequest)
    (response : Except MicroscopeFailure PreparedFrameDetails) :
    Except ExportFailure PreparedFrameDetails := do
  let prepared ← response.mapError fun error => ⟨error.code, error.message⟩
  ensure (request.cancelledPrepared = false) cancelledExport
  ensure (prepared.sessionId = sessionId ∧ 0 < prepared.generation)
    ⟨"malformed_response", "prepared microscope frame identity is invalid"⟩
  return prepared

/-- What an export makes of its copy. -/
def acceptCopied (request : ExportRequest) (prepared : PreparedFrameDetails)
    (copy : Except MicroscopeFailure (Nat × List UInt8)) : Except ExportFailure OwnedRgbaFrame := do
  let copied ← copy.mapError copyExportFailure
  ensure (copied.1 = prepared.byteLen)
    ⟨"bridge_error", "prepared frame copy returned " ++ toString copied.1 ++ " bytes, expected " ++
      toString prepared.byteLen⟩
  ensure (request.cancelledCopied = false) cancelledExport
  (OwnedRgbaFrame.new prepared.width prepared.height prepared.strideBytes copied.2).mapError
    fun error => ⟨"frame_error", error.toText⟩

/-- Where an export stands. -/
inductive ExportPhase where
  | idle
  | prepared (request : ExportRequest) (format : ExtractionImageFormat)
      (details : PreparedFrameDetails)
  | encoding (format : ExtractionImageFormat) (details : PreparedFrameDetails)
      (frame : OwnedRgbaFrame)
  | returned (result : Except ExportFailure ExportedFrameDetails)

/-! ## Runs -/

inductive NavigationRequest where
  | step (delta : Int)
  | jumpToFrame (frameId : Int)
  | jumpToTimestamp (timestampUs selection : Int)
  deriving DecidableEq, Repr

def navigate : NavigationRequest → SessionM SessionSnapshot
  | .step delta => stepSession sessionId delta
  | .jumpToFrame frameId => jumpToFrame sessionId frameId
  | .jumpToTimestamp timestampUs selection => jumpToTimestamp sessionId timestampUs selection

/-- `responses` are the preparations that succeeded. -/
structure HandoffState where
  session : NavigationSession
  exports : Nat → ExportPhase
  responses : List PreparedFrameDetails

inductive HandoffEvent where
  | navigate (request : NavigationRequest)
  | prepare (preparation : Preparation)
  | copy (generation : Int) (destination : List UInt8)
  | exportPrepare (e : Nat) (request : ExportRequest) (preparation : Preparation)
  | exportCopy (e : Nat)
  | exportEncode (e : Nat) (report : Except ExportFailure EncodedImageReport)

namespace HandoffState

def opened (index : FrameIndex) (frameCount : Nat) : HandoffState :=
  ⟨.opened index frameCount, fun _ => .idle, []⟩

variable (s : HandoffState)

def setExport (e : Nat) (phase : ExportPhase) : HandoffState :=
  { s with exports := Function.update s.exports e phase }

/-- An operation on the session. -/
def perform {α : Type} (operation : SessionM α) : HandoffState :=
  { s with session := finalState (operation s.session) }

/-- A preparation, whose response is kept. -/
def prepare (preparation : Preparation) :
    Except MicroscopeFailure PreparedFrameDetails × HandoffState :=
  let operation := prepareCurrentFrame sessionId preparation
  let response := outcome (operation s.session)
  (response,
    { s.perform operation with
      responses := match response with
        | .ok details => details :: s.responses
        | .error _ => s.responses })

def exportPrepare (e : Nat) (request : ExportRequest) (preparation : Preparation) : HandoffState :=
  match s.exports e with
  | .idle =>
      match beginExport sessionId request with
      | .error error => s.setExport e (.returned (.error error))
      | .ok format =>
          let attempt := s.prepare sessionId preparation
          match acceptPrepared sessionId request attempt.1 with
          | .error error => attempt.2.setExport e (.returned (.error error))
          | .ok details => attempt.2.setExport e (.prepared request format details)
  | _ => s

def exportCopy (e : Nat) : HandoffState :=
  match s.exports e with
  | .prepared request format details =>
      let operation := copyPreparedFrame details.generation (List.replicate details.byteLen 0)
      match acceptCopied request details (outcome (operation s.session)) with
      | .error error => s.setExport e (.returned (.error error))
      | .ok frame => s.setExport e (.encoding format details frame)
  | _ => s

def exportEncode (e : Nat) (report : Except ExportFailure EncodedImageReport) : HandoffState :=
  match s.exports e with
  | .encoding format details _ =>
      s.setExport e (.returned (report.map fun encoded =>
        { sessionId
          frameId := details.frameId
          width := details.width
          height := details.height
          format := exportFormatName format
          mimeType := format.mimeType
          byteLen := encoded.byteLen }))
  | _ => s

end HandoffState

def applyEvent (s : HandoffState) : HandoffEvent → HandoffState
  | .navigate request => s.perform (navigate sessionId request)
  | .prepare preparation => (s.prepare sessionId preparation).2
  | .copy generation destination => s.perform (copyPreparedFrame generation destination)
  | .exportPrepare e request preparation => s.exportPrepare sessionId e request preparation
  | .exportCopy e => s.exportCopy e
  | .exportEncode e report => s.exportEncode sessionId e report

end FrameScope.Ports.MicroscopeSession
