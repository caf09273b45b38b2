import FrameScope.Ports.BatchExtraction
import FrameScope.Ports.Manifest

/-!
# Streaming exports

Port of `framescope-extraction-output`.  An export plans a request, and for
each frame the batch hands over lets the output sink commit an image and then
adds a line to the manifest.  The sink is the caller's: any program on a state
of its own.  When the batch ends, so does the manifest, with a terminal line
that says how.

`commits` records what the sink committed and what the manifest held at that
moment; no definition reads it.
-/

namespace FrameScope.Ports.Export

open FrameScope.Verified.Fallible
open FrameScope.Ports.Core
open FrameScope.Ports.Decoder
open FrameScope.Ports.FrameIndexModel
open FrameScope.Ports.FrameIndexStore
open FrameScope.Ports.FrameCache
open FrameScope.Ports.Extraction
open FrameScope.Ports.BatchExtraction
open FrameScope.Ports.ExtractionImage
open FrameScope.Ports.Manifest

structure FrameOutput where
  progress : ExtractionProgress
  indexEntry : FrameIndexEntry
  fileName : String
  format : ExtractionImageFormat
  pixels : OwnedRgbaFrame
  deriving DecidableEq, Repr

/-- `FrameOutputSink`: its one operation, and the text of its errors. -/
structure FrameOutputSink (E τ : Type) where
  writeFrame : FrameOutput → EStateM E τ EncodedImageReport
  errorText : E → String

/-- A committed image, and what the manifest held when it was committed. -/
structure Commit where
  output : FrameOutput
  report : EncodedImageReport
  manifest : List Piece
  deriving DecidableEq, Repr

/-- What an export changes.  Before the manifest is opened only the output of
its writer counts. -/
structure ExportState (τ : Type) where
  manifest : ExtractionManifestWriter
  sink : τ
  commits : List Commit

/-- The state an export starts in. -/
def ExportState.start {τ : Type} (output : Output) (sink : τ) : ExportState τ :=
  ⟨⟨output, 0, 0, 0, false⟩, sink, []⟩

inductive VisitorError (E : Type) where
  | output (error : E)
  | manifest (error : ManifestError)
  | sinkContract (message : String)
  deriving DecidableEq, Repr

section Visitor

variable {E τ : Type} (format : ExtractionImageFormat) (sink : FrameOutputSink E τ)
  (device : Device)

/-- A call on the manifest of the export. -/
def onManifest {α : Type} (x : Writing α) : EStateM ManifestError (ExportState τ) α :=
  zoom (·.manifest) (fun manifest s => { s with manifest }) x

/-- A call on the manifest whose failure ends the export: `manifest.finish_..(..)?`. -/
def closing {ε : Type} (wrap : ManifestError → ε) (x : Writing Unit) :
    EStateM ε (ExportState τ) Unit :=
  (onManifest x).adaptExcept wrap

/-- `sink.write_frame(..)`. -/
def commitOutput (output : FrameOutput) : EStateM E (ExportState τ) EncodedImageReport := do
  let report ← zoom (·.sink) (fun sink s => { s with sink }) (sink.writeFrame output)
  modify fun s =>
    { s with commits := s.commits ++ [⟨output, report, s.manifest.writer.accepted⟩] }
  return report

/-- What both exports do with a frame: commit it, check the report, record it. -/
def commitAndRecord (progress : ExtractionProgress) (indexEntry : FrameIndexEntry)
    (pixels : OwnedRgbaFrame) (group : Option ManifestGroup) :
    EStateM (VisitorError E) (ExportState τ) Unit := do
  let fileName := frameFileName progress.frameId format
  let report ←
    (commitOutput sink { progress, indexEntry, fileName, format, pixels }).adaptExcept .output
  ofExcept .sinkContract (ensure (report.format = format)
    "reported image format differs from the requested format")
  ofExcept .sinkContract (ensure (report.byteLen ≠ 0)
    "committed image report has a zero byte count")
  (onManifest (writeFrame device
    { progress, indexEntry, fileName, encodedBytes := report.byteLen, group })).adaptExcept
    .manifest

/-- The visitor of `export_request`. -/
def exportVisitor : Visitor (VisitorError E) (ExportState τ) := fun frame =>
  commitAndRecord format sink device frame.progress frame.indexEntry frame.pixels none

end Visitor

/-! ## `export_request` -/

structure StreamingExtractionReport where
  plan : ExtractionPlan
  batch : BatchExtractionReport
  committedFrames : Nat
  encodedBytes : Nat
  deriving DecidableEq, Repr

inductive StreamingExtractionError (E : Type) where
  | plan (error : ExtractionPlanError)
  | batch (error : BatchExtractionFailure)
  | output (error : E)
  | manifest (error : ManifestError)
  | sinkContract (message : String)
  | cancelled
  deriving DecidableEq, Repr

/-- `manifest_selection`. -/
def manifestSelection (request : ExtractionRequest) : ManifestSelection :=
  let everyN := request.sampling.strideFrames.get
  match request.selection with
  | .currentFrame frameId => .currentFrame frameId
  | .frameRangeInclusive first last => .frameRangeInclusive first last everyN
  | .timestampRangeUsInclusive startUs endUs => .timeRangeMicroseconds startUs endUs everyN
  | .allFrames => .allFrames everyN

/-- A batch inside a larger run, on the visitor's part of the state. -/
def runBatch {E σ α : Type} (x : EStateM (BatchExtractionError E) (BatchState σ) α) :
    EStateM (BatchExtractionError E) σ α :=
  zoom BatchState.start (fun s _ => s.visitor) x

section Request

variable {E τ : Type} (format : ExtractionImageFormat) (sink : FrameOutputSink E τ)
  (device : Device)

/-- The arms of `match batch_result` for a batch that failed. -/
def failRequest (error : BatchExtractionError (VisitorError E)) :
    EStateM (StreamingExtractionError E) (ExportState τ) StreamingExtractionReport :=
  match error with
  | .failure .cancelled => do
      closing .manifest (finishCancelled device (some "streaming extraction was cancelled"))
      throw .cancelled
  | .failure error => do
      closing .manifest (finishFailed device "decode_error" (some error.toText))
      throw (.batch error)
  | .visitor (.output error) => do
      closing .manifest (finishFailed device "output_error" (some (sink.errorText error)))
      throw (.output error)
  | .visitor (.sinkContract message) => do
      closing .manifest (finishFailed device "output_contract_error" (some message))
      throw (.sinkContract message)
  | .visitor (.manifest error) => throw (.manifest error)

/-- The end of `export_request` after a batch that returned. -/
def completeRequest (plan : ExtractionPlan) (batch : BatchExtractionReport) :
    EStateM (StreamingExtractionError E) (ExportState τ) StreamingExtractionReport := do
  let s ← get
  closing .manifest (finishComplete device)
  return {
    plan
    batch
    committedFrames := s.manifest.emittedFrames
    encodedBytes := s.manifest.encodedBytes }

/-- `export_request`. -/
def exportRequest (cancelled : Nat → Bool) (index : FrameIndex) (opens : Opener)
    (request : ExtractionRequest) :
    EStateM (StreamingExtractionError E) (ExportState τ) StreamingExtractionReport := do
  let plan ← ofExcept .plan (planExtraction index request)
  let header ← ofExcept .manifest
    (ManifestHeader.new (manifestSelection request) format plan.selectedCount)
  closing .manifest (newManifest device header)
  let batchResult ← attempt (runBatch
    (extractRgbaPlan cancelled index plan (exportVisitor format sink device) opens))
  match batchResult with
  | .ok batch => completeRequest device plan batch
  | .error error => failRequest sink device error

end Request

end FrameScope.Ports.Export
