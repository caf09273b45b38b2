import FrameScope.Verified.ByteCodes
import FrameScope.Verified.Checked
import FrameScope.Verified.RecordWalk

/-!
# ISO BMFF inspection

Port of `inspect_video` of `framescope-video` and of its box parsers in
`iso.rs`.  The reader is the bytes of the source; every group of reads follows a
seek, so each read names the position it is at.  A read beyond the end fails as
`read_exact` does.

Operations on `u64` that the source leaves unchecked are checked here:
`overflow` is where they would overflow or underflow.  A text that quotes the
kind of a box is kept as the kind and the rest of the text.
-/

namespace FrameScope.Ports.IsoBox

open FrameScope.Verified
open FrameScope.Verified.ByteCodes
open FrameScope.Verified.RecordWalk

/-- The kind of a box, four bytes. -/
structure FourCC where
  b0 : UInt8
  b1 : UInt8
  b2 : UInt8
  b3 : UInt8
  deriving DecidableEq, Repr

namespace FourCC

/-- The bytes of a kind. -/
def bytes (kind : FourCC) : List UInt8 := [kind.b0, kind.b1, kind.b2, kind.b3]

/-- The kind in a buffer of four bytes. -/
def ofBytes (bytes : List UInt8) : FourCC :=
  ⟨bytes.getD 0 0, bytes.getD 1 0, bytes.getD 2 0, bytes.getD 3 0⟩

def ftyp : FourCC := ⟨0x66, 0x74, 0x79, 0x70⟩
def moov : FourCC := ⟨0x6d, 0x6f, 0x6f, 0x76⟩
def mdat : FourCC := ⟨0x6d, 0x64, 0x61, 0x74⟩
def free : FourCC := ⟨0x66, 0x72, 0x65, 0x65⟩
def wide : FourCC := ⟨0x77, 0x69, 0x64, 0x65⟩
def mvhd : FourCC := ⟨0x6d, 0x76, 0x68, 0x64⟩
def trak : FourCC := ⟨0x74, 0x72, 0x61, 0x6b⟩
def tkhd : FourCC := ⟨0x74, 0x6b, 0x68, 0x64⟩
def mdia : FourCC := ⟨0x6d, 0x64, 0x69, 0x61⟩
def mdhd : FourCC := ⟨0x6d, 0x64, 0x68, 0x64⟩
def hdlr : FourCC := ⟨0x68, 0x64, 0x6c, 0x72⟩
def minf : FourCC := ⟨0x6d, 0x69, 0x6e, 0x66⟩
def stbl : FourCC := ⟨0x73, 0x74, 0x62, 0x6c⟩
def stts : FourCC := ⟨0x73, 0x74, 0x74, 0x73⟩
def vide : FourCC := ⟨0x76, 0x69, 0x64, 0x65⟩

end FourCC

/-! ## Results -/

/-- The text of a `MalformedContainer` error. -/
inductive ContainerProblem
  | text (detail : String)
  /-- `box {kind:?} {detail}`. -/
  | box (kind : FourCC) (detail : String)
  deriving DecidableEq, Repr

inductive InspectError
  | unsupportedFormat (detail : String)
  | malformedContainer (problem : ContainerProblem)
  | noVideoTrack
  | invalidMetadata (detail : String)
  | io (detail : String)
  /-- An unchecked operation overflows. -/
  | overflow
  /-- A loop of the model has run for more rounds than it was given. -/
  | outOfFuel
  deriving DecidableEq, Repr

abbrev Parse := Except InspectError

/-- An operation that the source leaves unchecked. -/
def unchecked {α : Type} (x : Option α) : Parse α := x.elim (.error .overflow) .ok

structure VideoMetadata where
  durationUs : Nat
  width : Nat
  height : Nat
  estimatedFrameRate : Option Float
  rotationDegrees : Int
  deriving Repr

/-- `MAX_STTS_ENTRIES`. -/
def maxSttsEntries : Nat := 1000000

structure BoxHeader where
  kind : FourCC
  dataStart : Nat
  /-- `end`. -/
  endPos : Nat
  deriving DecidableEq, Repr

structure TrackFacts where
  isVideo : Bool := false
  width : Option Nat := none
  height : Option Nat := none
  rotationDegrees : Int := 0
  duration : Option (Nat × Nat) := none
  sampleCount : Option Nat := none
  deriving DecidableEq, Repr

structure MovieFacts where
  duration : Option (Nat × Nat) := none
  videoTrack : Option TrackFacts := none
  deriving DecidableEq, Repr

/-! ## Reads -/

section Reads

variable (bytes : List UInt8) (pos : Nat)

/-- `seek(SeekFrom::Start(pos))` and `read_exact` into a buffer of `n` bytes. -/
def readExact (n : Nat) : Parse (List UInt8) :=
  if pos + n ≤ bytes.length then .ok ((bytes.drop pos).take n)
  else .error (.io "failed to fill whole buffer")

def readU8 : Parse Nat := (readExact bytes pos 1).map beValue

def readU32 : Parse Nat := (readExact bytes pos 4).map beValue

def readU64 : Parse Nat := (readExact bytes pos 8).map beValue

/-- The value of a two's complement number of 32 bits. -/
def asI32 (value : Nat) : Int := if value < 2 ^ 31 then value else (value : Int) - 2 ^ 32

def readI32 : Parse Int := (readU32 bytes pos).map asI32

def readKind : Parse FourCC := (readExact bytes pos 4).map FourCC.ofBytes

/-- `read_box_header`. -/
def readBoxHeader (parentEnd : Nat) : Parse BoxHeader := do
  if parentEnd - pos < 8 then
    .error (.malformedContainer (.text "truncated ISO BMFF box header"))
  else do
    let size32 ← readU32 bytes pos
    let kind ← readKind bytes (pos + 4)
    let (size, headerSize) ← boxSize size32
    if size < headerSize then
      .error (.malformedContainer (.box kind "is smaller than its header"))
    else match Checked.add 64 pos size with
      | none => .error (.malformedContainer (.text "box size overflow"))
      | some endPos =>
          if parentEnd < endPos then
            .error (.malformedContainer (.box kind "extends beyond its parent"))
          else do
            let dataStart ← unchecked (Checked.add 64 pos headerSize)
            .ok ⟨kind, dataStart, endPos⟩
where
  /-- The size of the box and of its header. -/
  boxSize (size32 : Nat) : Parse (Nat × Nat) :=
    if size32 = 0 then (unchecked (Checked.sub parentEnd pos)).map fun size => (size, 8)
    else if size32 = 1 then
      if parentEnd - pos < 16 then
        .error (.malformedContainer (.text "truncated extended-size box header"))
      else (readU64 bytes (pos + 8)).map fun size => (size, 16)
    else .ok (size32, 8)

end Reads

/-- `ensure_payload_len`. -/
def ensurePayloadLen (header : BoxHeader) (needed : Nat) : Parse Unit :=
  if header.endPos - header.dataStart < needed then
    .error (.malformedContainer (.box header.kind "is truncated"))
  else .ok ()

/-! ## Field boxes -/

section Fields

variable (bytes : List UInt8)

/-- The loop of `parse_stts_sample_count` over `entries` entries at `pos`. -/
def sumSampleCounts : Nat → Nat → Nat → Parse Nat
  | 0, _, total => .ok total
  | entries + 1, pos, total => do
      let count ← readU32 bytes pos
      match Checked.add 64 total count with
      | none => .error (.malformedContainer (.text "sample count overflow"))
      | some total => do
          let _sampleDelta ← readU32 bytes (pos + 4)
          sumSampleCounts entries (pos + 8) total

/-- `parse_stts_sample_count`. -/
def parseSttsSampleCount (header : BoxHeader) : Parse Nat := do
  ensurePayloadLen header 8
  let pos ← unchecked (Checked.add 64 header.dataStart 4)
  let entryCount ← readU32 bytes pos
  if maxSttsEntries < entryCount then
    .error (.malformedContainer
      (.text ("stts entry count " ++ toString entryCount ++ " exceeds safety bound")))
  else do
    let entryBytes ← unchecked (Checked.mul 64 entryCount 8)
    match Checked.add 64 8 entryBytes with
    | none => .error (.malformedContainer (.text "stts size overflow"))
    | some required => do
        ensurePayloadLen header required
        sumSampleCounts bytes entryCount (pos + 4) 0

/-- `parse_mvhd`. -/
def parseMvhd (header : BoxHeader) : Parse (Option (Nat × Nat)) := do
  ensurePayloadLen header 20
  let version ← readU8 bytes header.dataStart
  if version = 0 then do
    let pos ← unchecked (Checked.add 64 header.dataStart 12)
    let timescale ← readU32 bytes pos
    let duration ← readU32 bytes (pos + 4)
    .ok (some (duration, timescale))
  else if version = 1 then do
    ensurePayloadLen header 32
    let pos ← unchecked (Checked.add 64 header.dataStart 20)
    let timescale ← readU32 bytes pos
    let duration ← readU64 bytes (pos + 4)
    .ok (some (duration, timescale))
  else .error (.malformedContainer (.text ("unsupported mvhd version " ++ toString version)))

/-- `parse_mdhd`. -/
def parseMdhd (header : BoxHeader) : Parse (Option (Nat × Nat)) := parseMvhd bytes header

/-- `parse_hdlr_is_video`. -/
def parseHdlrIsVideo (header : BoxHeader) : Parse Bool := do
  ensurePayloadLen header 12
  let pos ← unchecked (Checked.add 64 header.dataStart 8)
  let kind ← readKind bytes pos
  .ok (kind == .vide)

/-- `matrix_rotation`. -/
def matrixRotation (a b c d : Int) : Option Int :=
  if b = 0 ∧ c = 0 ∧ 0 < a ∧ 0 < d then some 0
  else if a = 0 ∧ d = 0 ∧ 0 < b ∧ c < 0 then some 90
  else if b = 0 ∧ c = 0 ∧ a < 0 ∧ d < 0 then some 180
  else if a = 0 ∧ d = 0 ∧ b < 0 ∧ 0 < c then some 270
  else none

/-- The matrix offset, the width offset and the required length of a `tkhd`
version. -/
def tkhdLayout (version : Nat) : Parse (Nat × Nat × Nat) :=
  if version = 0 then .ok (40, 76, 84)
  else if version = 1 then .ok (52, 88, 96)
  else .error (.malformedContainer (.text ("unsupported tkhd version " ++ toString version)))

/-- `parse_tkhd`.  The version is read before the payload length is checked. -/
def parseTkhd (header : BoxHeader) : Parse (Nat × Nat × Int) := do
  let version ← readU8 bytes header.dataStart
  let (matrixOffset, widthOffset, required) ← tkhdLayout version
  ensurePayloadLen header required
  let pos ← unchecked (Checked.add 64 header.dataStart matrixOffset)
  let a ← readI32 bytes pos
  let b ← readI32 bytes (pos + 4)
  let _u ← readI32 bytes (pos + 8)
  let c ← readI32 bytes (pos + 12)
  let d ← readI32 bytes (pos + 16)
  let _v ← readI32 bytes (pos + 20)
  let _x ← readI32 bytes (pos + 24)
  let _y ← readI32 bytes (pos + 28)
  let _w ← readI32 bytes (pos + 32)
  match matrixRotation a b c d with
  | none => .error (.invalidMetadata "video track uses an unsupported transform matrix")
  | some rotation => do
      let pos ← unchecked (Checked.add 64 header.dataStart widthOffset)
      let widthFixed ← readU32 bytes pos
      let heightFixed ← readU32 bytes (pos + 4)
      .ok (widthFixed / 2 ^ 16, heightFixed / 2 ^ 16, rotation)

end Fields

/-! ## Box loops -/

section Loops

variable (bytes : List UInt8)

/-- `while pos < end`: read the header at the position, look at the box, go on
at its end. -/
def boxLoop {σ : Type} (start stop : Nat) (visit : σ → BoxHeader → Parse (Flow σ)) (s : σ) :
    Parse σ :=
  walk (fun pos => readBoxHeader bytes pos stop) BoxHeader.endPos visit .outOfFuel stop
    (stop - start) start s

/-- The loop body of `parse_stbl_sample_count`. -/
def visitStbl (s : Option Nat) (header : BoxHeader) : Parse (Flow (Option Nat)) :=
  if header.kind = .stts then do
    let count ← parseSttsSampleCount bytes header
    .ok (.done (some count))
  else .ok (.next s)

/-- `parse_stbl_sample_count`. -/
def parseStblSampleCount (start stop : Nat) : Parse (Option Nat) :=
  boxLoop bytes start stop (visitStbl bytes) none

/-- The loop body of `parse_minf_sample_count`. -/
def visitMinf (s : Option Nat) (header : BoxHeader) : Parse (Flow (Option Nat)) :=
  if header.kind = .stbl then do
    let count ← parseStblSampleCount bytes header.dataStart header.endPos
    .ok (.done count)
  else .ok (.next s)

/-- `parse_minf_sample_count`. -/
def parseMinfSampleCount (start stop : Nat) : Parse (Option Nat) :=
  boxLoop bytes start stop (visitMinf bytes) none

/-- The loop body of `parse_mdia`. -/
def visitMdia (facts : TrackFacts) (header : BoxHeader) : Parse (Flow TrackFacts) :=
  if header.kind = .mdhd then do
    let duration ← parseMdhd bytes header
    .ok (.next { facts with duration := duration })
  else if header.kind = .hdlr then do
    let isVideo ← parseHdlrIsVideo bytes header
    .ok (.next { facts with isVideo := isVideo })
  else if header.kind = .minf then do
    let sampleCount ← parseMinfSampleCount bytes header.dataStart header.endPos
    .ok (.next { facts with sampleCount := sampleCount })
  else .ok (.next facts)

/-- `parse_mdia`. -/
def parseMdia (start stop : Nat) (facts : TrackFacts) : Parse TrackFacts :=
  boxLoop bytes start stop (visitMdia bytes) facts

/-- The loop body of `parse_trak`. -/
def visitTrak (facts : TrackFacts) (header : BoxHeader) : Parse (Flow TrackFacts) :=
  if header.kind = .tkhd then do
    let (width, height, rotation) ← parseTkhd bytes header
    .ok (.next
      { facts with
        width := some width
        height := some height
        rotationDegrees := rotation })
  else if header.kind = .mdia then do
    let facts ← parseMdia bytes header.dataStart header.endPos facts
    .ok (.next facts)
  else .ok (.next facts)

/-- `parse_trak`. -/
def parseTrak (start stop : Nat) : Parse TrackFacts :=
  boxLoop bytes start stop (visitTrak bytes) {}

/-- The loop body of `parse_moov`. -/
def visitMoov (facts : MovieFacts) (header : BoxHeader) : Parse (Flow MovieFacts) :=
  if header.kind = .mvhd then do
    let duration ← parseMvhd bytes header
    .ok (.next { facts with duration := duration })
  else if header.kind = .trak then do
    let track ← parseTrak bytes header.dataStart header.endPos
    if track.isVideo ∧ facts.videoTrack.isNone then
      .ok (.next { facts with videoTrack := some track })
    else .ok (.next facts)
  else .ok (.next facts)

/-- `parse_moov`. -/
def parseMoov (start stop : Nat) : Parse MovieFacts :=
  boxLoop bytes start stop (visitMoov bytes) {}

/-- What the loop of `inspect_video` finds. -/
structure Found where
  sawIsoBox : Bool := false
  movie : Option MovieFacts := none
  deriving DecidableEq, Repr

/-- The loop body of `inspect_video`. -/
def visitFile (found : Found) (header : BoxHeader) : Parse (Flow Found) :=
  let found :=
    if header.kind = .ftyp ∨ header.kind = .moov ∨ header.kind = .mdat ∨
        header.kind = .free ∨ header.kind = .wide then
      { found with sawIsoBox := true }
    else found
  if header.kind = .moov then do
    let movie ← parseMoov bytes header.dataStart header.endPos
    .ok (.done { found with movie := some movie })
  else .ok (.next found)

end Loops

/-! ## The result -/

/-- `scale_duration_to_us`. -/
def scaleDurationToUs (duration timescale : Nat) : Parse Nat :=
  match Checked.mul 128 duration 1000000 with
  | none => .error (.invalidMetadata "duration overflow")
  | some product => do
      let micros ← unchecked (Checked.div product timescale)
      if micros < 2 ^ 64 then .ok micros
      else .error (.invalidMetadata "duration exceeds u64")

/-- The body as a function: unfolding it at its arguments makes the kernel count
to a million. -/
theorem scaleDurationToUs_eq : scaleDurationToUs = (fun duration timescale =>
    match Checked.mul 128 duration 1000000 with
    | none => .error (.invalidMetadata "duration overflow")
    | some product => do
        let micros ← unchecked (Checked.div product timescale)
        if micros < 2 ^ 64 then .ok micros
        else .error (.invalidMetadata "duration exceeds u64")) := rfl

/-- The frame rate that a sample count and a duration suggest, in `f64`. -/
def estimateFrameRate (sampleCount : Option Nat) (durationUnits timescale : Nat) :
    Option Float :=
  let durationSeconds := Float.ofNat durationUnits / Float.ofNat timescale
  ((sampleCount.filter fun count => 0 < count).map
    fun count => Float.ofNat count / durationSeconds).filter
      fun fps => fps.isFinite && decide (0.0 < fps) && decide (fps ≤ 1000.0)

/-- `VideoMetadata::validate`. -/
def VideoMetadata.validate (metadata : VideoMetadata) : Parse Unit :=
  if metadata.width = 0 ∨ metadata.height = 0 then
    .error (.invalidMetadata "video dimensions must be non-zero")
  else if 65535 < metadata.width ∨ 65535 < metadata.height then
    .error (.invalidMetadata "video dimensions exceed Phase 1 safety bounds")
  else if metadata.durationUs = 0 then
    .error (.invalidMetadata "video duration must be non-zero")
  else if 2 ^ 63 - 1 < metadata.durationUs then
    .error (.invalidMetadata "video duration exceeds the Android bridge range")
  else if metadata.rotationDegrees ∉ [0, 90, 180, 270] then
    .error (.invalidMetadata "rotation must be 0, 90, 180, or 270 degrees")
  else if metadata.estimatedFrameRate.any fun fps =>
      !fps.isFinite || decide (fps ≤ 0.0) || decide (1000.0 < fps) then
    .error (.invalidMetadata "estimated frame rate is outside safety bounds")
  else .ok ()

/-- `ok_or_else`. -/
def orElseError {α : Type} (x : Option α) (e : InspectError) : Parse α := x.elim (.error e) .ok

/-- The part of `inspect_video` after its loop has found a movie. -/
def metadataOf (movie : MovieFacts) : Parse VideoMetadata := do
  let track ← orElseError movie.videoTrack .noVideoTrack
  let width ← orElseError track.width
    (.invalidMetadata "video track does not declare a width")
  let height ← orElseError track.height
    (.invalidMetadata "video track does not declare a height")
  let (durationUnits, timescale) ← orElseError (track.duration.or movie.duration)
    (.invalidMetadata "video duration or timescale is missing")
  if timescale = 0 ∨ durationUnits = 0 then
    .error (.invalidMetadata "video duration or timescale is zero")
  else do
    let durationUs ← scaleDurationToUs durationUnits timescale
    let metadata : VideoMetadata :=
      { durationUs
        width
        height
        estimatedFrameRate := estimateFrameRate track.sampleCount durationUnits timescale
        rotationDegrees := track.rotationDegrees }
    metadata.validate
    .ok metadata

/-- The error of a file without a movie. -/
def noMovie : InspectError :=
  .unsupportedFormat "Phase 1 supports MP4/MOV (ISO BMFF) files containing a moov box"

/-- `inspect_video`. -/
def inspectVideo (bytes : List UInt8) : Parse VideoMetadata := do
  let fileLen := bytes.length
  if fileLen < 8 then
    .error (.unsupportedFormat "file is too small to be an ISO BMFF video")
  else do
    let found ← boxLoop bytes 0 fileLen (visitFile bytes) {}
    if !found.sawIsoBox then .error noMovie
    else do
      let movie ← orElseError found.movie noMovie
      metadataOf movie

end FrameScope.Ports.IsoBox
