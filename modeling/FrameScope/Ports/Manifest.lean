import FrameScope.Verified.Fallible
import FrameScope.Ports.FrameIndexModel
import FrameScope.Ports.Extraction
import FrameScope.Ports.ExtractionImage

/-!
# The export manifest

Port of `framescope-extraction-manifest`.  A manifest is a file of JSON lines:
one header, one line for each committed frame, one terminal line.  The JSON
text of a line is `serde_json`'s and a line is kept as the value it serializes.

The output that takes the lines may fail at any call.  `device n` is the
outcome of its `n`-th call: writing the text of a line, writing the newline, or
flushing.  A text that fails part way leaves a torn piece behind.
-/

namespace FrameScope.Ports.Manifest

open FrameScope.Verified.Fallible
open FrameScope.Ports.Core
open FrameScope.Ports.FrameIndexModel
open FrameScope.Ports.Extraction
open FrameScope.Ports.ExtractionImage

/-- `MANIFEST_SCHEMA_VERSION`. -/
def manifestSchemaVersion : Nat := 1

inductive ManifestError where
  | invalidRecord (reason : String)
  | alreadyFinished
  | io (detail : String)
  | json (detail : String)
  deriving DecidableEq, Repr

def ManifestError.toText : ManifestError → String
  | .invalidRecord reason => "invalid extraction manifest record: " ++ reason
  | .alreadyFinished => "extraction manifest already has a terminal record"
  | .io detail => "extraction manifest I/O failed: " ++ detail
  | .json detail => "extraction manifest JSON serialization failed: " ++ detail

/-! ## Header -/

inductive ManifestSelection where
  | currentFrame (frameId : Nat)
  | frameRangeInclusive (startFrame endFrame everyN : Nat)
  | timeRangeMicroseconds (startUs endUs : Int) (everyN : Nat)
  | allFrames (everyN : Nat)
  | uniqueGroupRepresentatives
  deriving DecidableEq, Repr

/-- `ManifestSelection::validate`. -/
def ManifestSelection.validate : ManifestSelection → Except ManifestError Unit
  | .currentFrame _ | .uniqueGroupRepresentatives => .ok ()
  | .frameRangeInclusive startFrame endFrame everyN => do
      ensure (startFrame ≤ endFrame) (.invalidRecord "frame-range start exceeds end")
      ensure (everyN ≠ 0) (.invalidRecord "frame sampling interval must be positive")
  | .timeRangeMicroseconds startUs endUs everyN => do
      ensure (startUs ≤ endUs) (.invalidRecord "time-range start exceeds end")
      ensure (everyN ≠ 0) (.invalidRecord "time sampling interval must be positive")
  | .allFrames everyN =>
      ensure (everyN ≠ 0) (.invalidRecord "frame sampling interval must be positive")

structure ManifestImageFormat where
  name : String
  mimeType : String
  extension : String
  jpegQuality : Option UInt8
  deriving DecidableEq, Repr

/-- `From<ExtractionImageFormat>`. -/
def ManifestImageFormat.of (format : ExtractionImageFormat) : ManifestImageFormat :=
  let (name, jpegQuality) : String × Option UInt8 := match format with
    | .png => ("png", none)
    | .jpeg quality => ("jpeg", some quality)
    | .webPLossless => ("webp_lossless", none)
  { name, mimeType := format.mimeType, extension := format.extension, jpegQuality }

structure ManifestHeader where
  schemaVersion : Nat
  selection : ManifestSelection
  imageFormat : ManifestImageFormat
  expectedFrames : Nat
  deriving DecidableEq, Repr

/-- `ManifestHeader::new`. -/
def ManifestHeader.new (selection : ManifestSelection) (imageFormat : ExtractionImageFormat)
    (expectedFrames : Nat) : Except ManifestError ManifestHeader := do
  selection.validate
  ensure (expectedFrames ≠ 0) (.invalidRecord "manifest expected frame count must be positive")
  .ok
    { schemaVersion := manifestSchemaVersion
      selection
      imageFormat := .of imageFormat
      expectedFrames }

/-! ## Frame and terminal lines -/

/-- `ManifestTimestamp` and `ManifestDuration`: both have these fields. -/
structure ManifestTime where
  ticks : Int
  timeBaseNumerator : Int
  timeBaseDenominator : Int
  microseconds : Option Int
  deriving DecidableEq, Repr

/-- `From<MediaTimestamp>` and `From<MediaDuration>`, from the parts of either. -/
def ManifestTime.of (ticks : Int) (timeBase : TimeBase) : ManifestTime :=
  { ticks
    timeBaseNumerator := timeBase.numerator
    timeBaseDenominator := timeBase.denominator
    microseconds := scaleTicksToMicroseconds ticks timeBase }

structure ManifestGroup where
  ordinal : Nat
  groupCount : Nat
  representativeFrame : Nat
  firstFrame : Nat
  lastFrame : Nat
  representedFrameCount : Nat
  deriving DecidableEq, Repr

structure ManifestFrame where
  progress : ExtractionProgress
  indexEntry : FrameIndexEntry
  fileName : String
  encodedBytes : Nat
  group : Option ManifestGroup
  deriving DecidableEq, Repr

structure ManifestFrameLine where
  ordinal : Nat
  total : Nat
  frameId : Nat
  fileName : String
  encodedBytes : Nat
  presentationTimestamp : Option ManifestTime
  duration : Option ManifestTime
  keyframe : Bool
  corrupt : Bool
  group : Option ManifestGroup
  deriving DecidableEq, Repr

/-- The line that records a frame. -/
def ManifestFrame.line (frame : ManifestFrame) : ManifestFrameLine :=
  { ordinal := frame.progress.ordinal
    total := frame.progress.total
    frameId := frame.progress.frameId
    fileName := frame.fileName
    encodedBytes := frame.encodedBytes
    presentationTimestamp :=
      frame.indexEntry.presentationTimestamp.map fun t => .of t.ticks t.timeBase
    duration := frame.indexEntry.duration.map fun d => .of d.ticks d.timeBase
    keyframe := frame.indexEntry.keyframe
    corrupt := frame.indexEntry.corrupt
    group := frame.group }

inductive ManifestTerminalStatus where
  | complete | cancelled | failed
  deriving DecidableEq, Repr

structure ManifestTerminalLine where
  status : ManifestTerminalStatus
  emittedFrames : Nat
  expectedFrames : Nat
  encodedBytes : Nat
  code : Option String
  message : Option String
  deriving DecidableEq, Repr

/-- A line; the constructor is its `record_type`. -/
inductive ManifestLine where
  | header (header : ManifestHeader)
  | frame (line : ManifestFrameLine)
  | terminal (line : ManifestTerminalLine)
  deriving DecidableEq, Repr

/-! ## The output -/

/-- What one call left in the output. -/
inductive Piece where
  | text (line : ManifestLine)
  | torn (line : ManifestLine)
  | newline
  deriving DecidableEq, Repr

structure Output where
  accepted : List Piece
  calls : Nat
  deriving DecidableEq, Repr

/-- The outcome of each call on the output: `none`, or the text of its error. -/
abbrev Device := Nat → Option String

/-- The pieces of lines that were written in full. -/
def wholeLines (lines : List ManifestLine) : List Piece :=
  lines.flatMap fun line => [.text line, .newline]

structure ExtractionManifestWriter where
  writer : Output
  expectedFrames : Nat
  emittedFrames : Nat
  encodedBytes : Nat
  finished : Bool
  deriving DecidableEq, Repr

abbrev Writing := EStateM ManifestError ExtractionManifestWriter

section Writer

variable (device : Device)

/-- One call on the output, with what it leaves there when it works and when it
does not. -/
def callOutput (onOk onError : List Piece) (error : String → ManifestError) : Writing Unit := do
  let w ← get
  let failed := device w.writer.calls
  let left := if failed.isNone then onOk else onError
  set { w with writer := ⟨w.writer.accepted ++ left, w.writer.calls + 1⟩ }
  match failed with
  | none => pure ()
  | some detail => throw (error detail)

/-- `write_json_line`. -/
def writeJsonLine (line : ManifestLine) : Writing Unit := do
  callOutput device [.text line] [.torn line] .json
  callOutput device [.newline] [] .io

/-- `ensure_open`. -/
def ExtractionManifestWriter.ensureOpen (w : ExtractionManifestWriter) :
    Except ManifestError Unit :=
  ensure (w.finished = false) .alreadyFinished

/-- `ExtractionManifestWriter::new`, on the output of the state; the rest of
the state is what it sets up. -/
def newManifest (header : ManifestHeader) : Writing Unit := do
  ofExcept id header.selection.validate
  ofExcept id (ensure
    (header.schemaVersion = manifestSchemaVersion ∧ header.expectedFrames ≠ 0)
    (.invalidRecord "manifest header schema or expected count is invalid"))
  let w ← get
  set { w with
    expectedFrames := header.expectedFrames
    emittedFrames := 0
    encodedBytes := 0
    finished := false }
  writeJsonLine device (.header header)

/-- `validate_group`. -/
def validateGroup (frameId : Nat) (group : ManifestGroup) : Except ManifestError Unit := do
  ensure (group.groupCount ≠ 0 ∧ group.ordinal < group.groupCount)
    (.invalidRecord "group ordinal/count is invalid")
  ensure (group.firstFrame ≤ group.representativeFrame ∧
      group.representativeFrame ≤ group.lastFrame ∧ group.representativeFrame = frameId)
    (.invalidRecord "group representative/bounds do not match exported FrameId")
  let expectedCount ← okOr (checkedAddU64 (group.lastFrame - group.firstFrame) 1)
    (.invalidRecord "group frame count overflow")
  ensure (group.representedFrameCount = expectedCount)
    (.invalidRecord "group represented frame count does not match bounds")

/-- `if let Some(group) = frame.group.as_ref() { validate_group(..)? }`. -/
def checkGroup (frameId : Nat) : Option ManifestGroup → Except ManifestError Unit
  | none => .ok ()
  | some group => validateGroup frameId group

/-- The checks of `write_frame`: the ordinal and the byte total that the
manifest has once the frame is recorded. -/
def checkFrame (w : ExtractionManifestWriter) (frame : ManifestFrame) :
    Except ManifestError (Nat × Nat) := do
  w.ensureOpen
  let expectedOrdinal ← okOr (checkedAddU64 w.emittedFrames 1)
    (.invalidRecord "manifest ordinal overflow")
  ensure (frame.progress.ordinal = expectedOrdinal)
    (.invalidRecord ("frame ordinal " ++ toString frame.progress.ordinal ++
      " is not expected ordinal " ++ toString expectedOrdinal))
  ensure (frame.progress.total = w.expectedFrames)
    (.invalidRecord ("frame total " ++ toString frame.progress.total ++
      " does not match manifest total " ++ toString w.expectedFrames))
  ensure (frame.progress.frameId = frame.indexEntry.frameId)
    (.invalidRecord "progress FrameId does not match authoritative index entry")
  ensure (isBlank frame.fileName = false ∧ hasSeparator frame.fileName = false)
    (.invalidRecord "frame output filename must be a non-empty leaf name")
  ensure (frame.encodedBytes ≠ 0)
    (.invalidRecord "encoded frame byte count must be positive")
  checkGroup frame.progress.frameId frame.group
  let nextBytes ← okOr (checkedAddU64 w.encodedBytes frame.encodedBytes)
    (.invalidRecord "encoded byte total overflow")
  .ok (expectedOrdinal, nextBytes)

/-- `write_frame`. -/
def writeFrame (frame : ManifestFrame) : Writing Unit := do
  let (emittedFrames, encodedBytes) ← ofExcept id (checkFrame (← get) frame)
  writeJsonLine device (.frame frame.line)
  modify fun w => { w with emittedFrames, encodedBytes }

/-- `finish`. -/
def finish (status : ManifestTerminalStatus) (code message : Option String) :
    Writing Unit := do
  let w ← get
  ofExcept id w.ensureOpen
  writeJsonLine device (.terminal
    { status
      emittedFrames := w.emittedFrames
      expectedFrames := w.expectedFrames
      encodedBytes := w.encodedBytes
      code
      message })
  callOutput device [] [] .io
  modify fun w => { w with finished := true }

/-- `finish_complete`. -/
def finishComplete : Writing Unit := do
  let w ← get
  ofExcept id (ensure (w.emittedFrames = w.expectedFrames)
    (.invalidRecord ("complete manifest emitted " ++ toString w.emittedFrames ++ " of " ++
      toString w.expectedFrames ++ " expected frames")))
  finish device .complete none none

/-- `finish_cancelled`. -/
def finishCancelled (message : Option String) : Writing Unit :=
  finish device .cancelled (some "cancelled") message

/-- `finish_failed`. -/
def finishFailed (code : String) (message : Option String) : Writing Unit := do
  ofExcept id (ensure (isBlank code = false)
    (.invalidRecord "failed manifest terminal code must not be empty"))
  finish device .failed (some code) message

end Writer

/-! ## What the calls leave -/

/-- Some call on the output fails. -/
def Device.Fails (device : Device) : Prop := ∃ n, device n ≠ none

@[simp] theorem wholeLines_append (lines lines' : List ManifestLine) :
    wholeLines (lines ++ lines') = wholeLines lines ++ wholeLines lines' := by
  unfold wholeLines
  rw [List.flatMap_append]

section Rules

variable {device : Device} {w : ExtractionManifestWriter}
  {Q : Unit → ExtractionManifestWriter → Prop}
  {E : ManifestError → ExtractionManifestWriter → Prop}

theorem callOutput_wp {onOk onError : List Piece} {error : String → ManifestError}
    (hOk : Q () { w with writer := ⟨w.writer.accepted ++ onOk, w.writer.calls + 1⟩ })
    (hError : device.Fails → ∀ e w', E e w') :
    wp (callOutput device onOk onError error) Q E w := by
  unfold callOutput
  rw [wp_bind, wp_get, wp_bind, wp_set]
  cases hCall : device w.writer.calls with
  | none => exact hOk
  | some detail => exact hError ⟨w.writer.calls, by rw [hCall]; exact nofun⟩ _ _

theorem writeJsonLine_wp {line : ManifestLine}
    (hOk : ∀ calls,
      Q () { w with writer := ⟨w.writer.accepted ++ wholeLines [line], calls⟩ })
    (hError : device.Fails → ∀ e w', E e w') : wp (writeJsonLine device line) Q E w := by
  unfold writeJsonLine
  rw [wp_bind]
  refine callOutput_wp ?_ hError
  refine callOutput_wp ?_ hError
  rw [List.append_assoc]
  exact hOk _

/-- A frame that passes the checks continues the manifest. -/
theorem checkFrame_ok {frame : ManifestFrame} {ordinal bytes : Nat}
    (h : checkFrame w frame = .ok (ordinal, bytes)) :
    w.finished = false ∧ ordinal = w.emittedFrames + 1 ∧ frame.progress.ordinal = ordinal ∧
      bytes = w.encodedBytes + frame.encodedBytes := by
  obtain ⟨_, hOpen, h⟩ := bind_eq_ok.1 h
  obtain ⟨expected, hExpected, h⟩ := bind_eq_ok.1 h
  obtain ⟨_, hOrdinal, h⟩ := bind_eq_ok.1 h
  obtain ⟨_, -, h⟩ := bind_eq_ok.1 h
  obtain ⟨_, -, h⟩ := bind_eq_ok.1 h
  obtain ⟨_, -, h⟩ := bind_eq_ok.1 h
  obtain ⟨_, -, h⟩ := bind_eq_ok.1 h
  obtain ⟨_, -, h⟩ := bind_eq_ok.1 h
  obtain ⟨next, hBytes, h⟩ := bind_eq_ok.1 h
  cases h
  rw [okOr_eq_ok, checkedAddU64_eq_some] at hExpected hBytes
  exact ⟨ensure_eq_ok.1 hOpen, hExpected.2, ensure_eq_ok.1 hOrdinal, hBytes.2⟩

/-- A frame that continues the manifest passes the checks. -/
theorem checkFrame_of {frame : ManifestFrame} (hOpen : w.finished = false)
    (hOrdinal : frame.progress.ordinal = w.emittedFrames + 1)
    (hFits : w.emittedFrames + 1 < 2 ^ 64) (hTotal : frame.progress.total = w.expectedFrames)
    (hId : frame.progress.frameId = frame.indexEntry.frameId)
    (hName : isBlank frame.fileName = false ∧ hasSeparator frame.fileName = false)
    (hPositive : frame.encodedBytes ≠ 0)
    (hGroup : checkGroup frame.progress.frameId frame.group = .ok ())
    (hBytes : w.encodedBytes + frame.encodedBytes < 2 ^ 64) :
    checkFrame w frame = .ok (w.emittedFrames + 1, w.encodedBytes + frame.encodedBytes) := by
  refine bind_eq_ok.2 ⟨(), ensure_eq_ok.2 hOpen, ?_⟩
  refine bind_eq_ok.2 ⟨_, okOr_eq_ok.2 (checkedAddU64_eq_some.2 ⟨hFits, rfl⟩), ?_⟩
  refine bind_eq_ok.2 ⟨(), ensure_eq_ok.2 hOrdinal, ?_⟩
  refine bind_eq_ok.2 ⟨(), ensure_eq_ok.2 hTotal, ?_⟩
  refine bind_eq_ok.2 ⟨(), ensure_eq_ok.2 hId, ?_⟩
  refine bind_eq_ok.2 ⟨(), ensure_eq_ok.2 hName, ?_⟩
  refine bind_eq_ok.2 ⟨(), ensure_eq_ok.2 hPositive, ?_⟩
  refine bind_eq_ok.2 ⟨(), hGroup, ?_⟩
  exact bind_eq_ok.2 ⟨_, okOr_eq_ok.2 (checkedAddU64_eq_some.2 ⟨hBytes, rfl⟩), rfl⟩

theorem writeFrame_wp {frame : ManifestFrame}
    (hOk : ∀ ordinal bytes calls, checkFrame w frame = .ok (ordinal, bytes) →
      Q () { w with
        writer := ⟨w.writer.accepted ++ wholeLines [.frame frame.line], calls⟩
        emittedFrames := ordinal
        encodedBytes := bytes })
    (hError : ∀ e w', (checkFrame w frame = .error e ∨ device.Fails) → E e w') :
    wp (writeFrame device frame) Q E w := by
  unfold writeFrame
  rw [wp_bind, wp_get, wp_bind, wp_ofExcept]
  refine ⟨?_, fun e hCheck => hError e w (.inl hCheck)⟩
  rintro ⟨ordinal, bytes⟩ hCheck
  dsimp only
  rw [wp_bind]
  refine writeJsonLine_wp ?_ (fun hFails e w' => hError e w' (.inr hFails))
  intro calls
  rw [wp_modify]
  exact hOk ordinal bytes calls hCheck

/-- The terminal line of a writer. -/
def ExtractionManifestWriter.terminal (w : ExtractionManifestWriter)
    (status : ManifestTerminalStatus) (code message : Option String) : ManifestTerminalLine :=
  ⟨status, w.emittedFrames, w.expectedFrames, w.encodedBytes, code, message⟩

theorem finish_wp {status : ManifestTerminalStatus} {code message : Option String}
    (hOk : ∀ calls, Q () { w with
      writer :=
        ⟨w.writer.accepted ++ wholeLines [.terminal (w.terminal status code message)], calls⟩
      finished := true })
    (hError : (w.finished = true ∨ device.Fails) → ∀ e w', E e w') :
    wp (finish device status code message) Q E w := by
  unfold finish
  rw [wp_bind, wp_get, wp_bind, wp_ofExcept]
  constructor
  · intro _ _
    rw [wp_bind]
    refine writeJsonLine_wp ?_ (fun hFails => hError (.inr hFails))
    intro calls
    rw [wp_bind]
    refine callOutput_wp ?_ (fun hFails => hError (.inr hFails))
    rw [wp_modify, List.append_nil]
    exact hOk (calls + 1)
  · intro e hClosed
    refine hError (.inl ?_) _ _
    cases hFinished : w.finished with
    | true => rfl
    | false =>
        rw [ExtractionManifestWriter.ensureOpen, hFinished] at hClosed
        cases hClosed

end Rules

/-! ## The records of a manifest -/

/-- The writer has added the header and the lines of `frames`, numbered from
one, to what the output had accepted before. -/
structure Recorded (base : List Piece) (header : ManifestHeader) (frames : List ManifestFrame)
    (w : ExtractionManifestWriter) : Prop where
  written : w.writer.accepted =
    base ++ wholeLines (.header header :: frames.map fun f => .frame f.line)
  expected : w.expectedFrames = header.expectedFrames
  emitted : w.emittedFrames = frames.length
  bytes : w.encodedBytes = (frames.map (·.encodedBytes)).sum
  numbered : frames.map (·.progress.ordinal) = List.range' 1 frames.length
  unfinished : w.finished = false

theorem newManifest_recorded {device : Device} {header : ManifestHeader}
    {w : ExtractionManifestWriter} :
    wp (newManifest device header)
      (fun _ w' => Recorded w.writer.accepted header [] w') (fun _ _ => True) w := by
  unfold newManifest
  rw [wp_bind, wp_ofExcept]
  refine ⟨fun _ _ => ?_, fun _ _ => trivial⟩
  rw [wp_bind, wp_ofExcept]
  refine ⟨fun _ _ => ?_, fun _ _ => trivial⟩
  rw [wp_bind, wp_get, wp_bind, wp_set]
  refine writeJsonLine_wp ?_ (fun _ _ _ => trivial)
  intro calls
  exact ⟨rfl, rfl, rfl, rfl, rfl, rfl⟩

/-- A frame that was accepted is recorded after the others. -/
theorem Recorded.writeFrame {device : Device} {base : List Piece} {header : ManifestHeader}
    {frames : List ManifestFrame} {w : ExtractionManifestWriter} (h : Recorded base header frames w)
    {frame : ManifestFrame} :
    wp (writeFrame device frame) (fun _ w' => Recorded base header (frames ++ [frame]) w')
      (fun _ _ => True) w := by
  refine writeFrame_wp ?_ (fun _ _ _ => trivial)
  intro ordinal bytes calls hCheck
  obtain ⟨-, hNext, hOrdinal, hBytes⟩ := checkFrame_ok hCheck
  refine ⟨?_, h.expected, ?_, ?_, ?_, h.unfinished⟩
  · change w.writer.accepted ++ _ = _
    rw [h.written, List.map_append, ← List.cons_append, wholeLines_append, List.append_assoc]
    rfl
  · change ordinal = _
    rw [hNext, h.emitted, List.length_append]
    rfl
  · change bytes = _
    rw [hBytes, h.bytes, List.map_append, List.sum_append]
    simp
  · rw [List.map_append, h.numbered, List.length_append, List.length_singleton,
      List.range'_concat, List.map_singleton, hOrdinal, hNext, h.emitted]
    simp [Nat.add_comm]

/-- The manifest has ended with `terminal`. -/
def Ended (base : List Piece) (header : ManifestHeader) (frames : List ManifestFrame)
    (terminal : ManifestTerminalLine) (w : ExtractionManifestWriter) : Prop :=
  w.writer.accepted = base ++
    wholeLines (.header header :: (frames.map fun f => .frame f.line) ++ [.terminal terminal])

section Finish

variable {device : Device} {base : List Piece} {header : ManifestHeader}
  {frames : List ManifestFrame} {w : ExtractionManifestWriter}

/-- The terminal record of a manifest of `frames`. -/
def terminalOf (header : ManifestHeader) (frames : List ManifestFrame)
    (status : ManifestTerminalStatus) (code message : Option String) : ManifestTerminalLine :=
  ⟨status, frames.length, header.expectedFrames, (frames.map (·.encodedBytes)).sum, code, message⟩

theorem Recorded.finish (h : Recorded base header frames w) {status : ManifestTerminalStatus}
    {code message : Option String} :
    wp (finish device status code message)
      (fun _ w' => Ended base header frames (terminalOf header frames status code message) w')
      (fun _ _ => True) w := by
  refine finish_wp ?_ (fun _ _ _ => trivial)
  intro calls
  unfold Ended
  change w.writer.accepted ++ _ = _
  rw [h.written, wholeLines_append, ExtractionManifestWriter.terminal, h.emitted, h.expected,
    h.bytes, List.append_assoc]
  rfl

theorem Recorded.finishComplete (h : Recorded base header frames w) :
    wp (finishComplete device)
      (fun _ w' => Ended base header frames (terminalOf header frames .complete none none) w')
      (fun _ _ => True) w := by
  unfold Manifest.finishComplete
  rw [wp_bind, wp_get, wp_bind, wp_ofExcept]
  exact ⟨fun _ _ => h.finish, fun _ _ => trivial⟩

theorem Recorded.finishFailed (h : Recorded base header frames w) {code : String}
    {message : Option String} :
    wp (finishFailed device code message)
      (fun _ w' =>
        Ended base header frames (terminalOf header frames .failed (some code) message) w')
      (fun _ _ => True) w := by
  unfold Manifest.finishFailed
  rw [wp_bind, wp_ofExcept]
  exact ⟨fun _ _ => h.finish, fun _ _ => trivial⟩

end Finish

end FrameScope.Ports.Manifest
