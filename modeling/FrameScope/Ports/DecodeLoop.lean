import Mathlib

/-!
# The decode loop of the shim

Port of `framescope_ffmpeg_next_frame` and `framescope_ffmpeg_seek_us` of
`framescope_ffmpeg_shim.c`.  The codec is a parameter with its send, receive and
flush; the demuxer is the list of what `av_read_frame` will still return, and
after the list it is at the end of the file.  The callback for cancellation
answers by the number of times it has been asked.

The loop of the source runs until it returns; here it runs for as many rounds as
there is input left, which is shown to be enough.
-/

namespace FrameScope.Ports.DecodeLoop

/-! ## What FFmpeg answers -/

/-- `AVERROR(EAGAIN)`, `AVERROR_EOF`, `AVERROR_INVALIDDATA`, `AVERROR_EXIT` and the
other negative codes. -/
inductive AvError where
  | again
  | eof
  | invalidData
  | exit
  | other (code : Int)
  deriving DecidableEq, Repr

inductive FsErrorKind where
  | decoder
  | malformed
  | io
  | cancelled
  | seekUnavailable
  deriving DecidableEq, Repr

structure FsError where
  kind : FsErrorKind
  ffmpegCode : Option AvError
  message : String
  deriving DecidableEq, Repr

structure AvPacket (π : Type) where
  streamIndex : Int
  data : π
  deriving DecidableEq, Repr

/-- A frame as `avcodec_receive_frame` leaves it; no timestamp is `AV_NOPTS_VALUE`. -/
structure AvFrame where
  bestEffortTimestamp : Option Int
  pts : Option Int
  duration : Int
  flagKey : Bool
  flagCorrupt : Bool
  decodeErrorFlags : Int
  width : Int
  height : Int
  format : Int
  deriving DecidableEq, Repr

/-- What `av_read_frame` returns. -/
inductive Demuxed (π : Type) where
  | packet (packet : AvPacket π)
  | failure (error : AvError)
  deriving DecidableEq, Repr

/-- `avcodec_send_packet`, none when the packet is accepted and with no packet for
the flush; `avcodec_receive_frame`; and `avcodec_flush_buffers`. -/
structure Codec (κ π : Type) where
  send : κ → Option π → Option AvError × κ
  receive : κ → Except AvError AvFrame × κ
  flushBuffers : κ → κ

structure FsStream where
  selectedStreamIndex : Int
  timeBaseNum : Int
  timeBaseDen : Int
  deriving DecidableEq, Repr

structure FsFrameInfo where
  epoch : Nat
  index : Nat
  streamIndex : Int
  timestampTicks : Option Int
  durationTicks : Option Int
  timeBaseNum : Int
  timeBaseDen : Int
  keyframe : Bool
  corrupt : Bool
  width : Int
  height : Int
  pixelFormat : Int
  deriving DecidableEq, Repr

/-- `polls` counts how often the callback for cancellation was asked. -/
structure FsSession (κ π : Type) where
  codec : κ
  source : List (Demuxed π)
  packet : Option (AvPacket π)
  demuxEof : Bool
  packetPending : Bool
  flushSent : Bool
  epoch : Nat
  frameIndex : Nat
  polls : Nat

inductive NextFrame where
  | frame (info : FsFrameInfo)
  | endOfStream
  | error (error : FsError)
  deriving DecidableEq, Repr

section Loop

variable {κ π : Type} (codec : Codec κ π) (stream : FsStream) (cancelled : Nat → Bool)

/-- `fs_fill_frame_info`. -/
def fillFrameInfo (epoch index : Nat) (frame : AvFrame) : FsFrameInfo where
  epoch := epoch
  index := index
  streamIndex := stream.selectedStreamIndex
  timestampTicks := frame.bestEffortTimestamp.or frame.pts
  durationTicks := if 0 < frame.duration then some frame.duration else none
  timeBaseNum := stream.timeBaseNum
  timeBaseDen := stream.timeBaseDen
  keyframe := frame.flagKey
  corrupt := frame.flagCorrupt || frame.decodeErrorFlags != 0
  width := frame.width
  height := frame.height
  pixelFormat := frame.format

/-! ## Feeding the codec -/

/-- How an attempt to feed the codec ends. -/
inductive Fed where
  | again
  | endOfStream
  | error (error : FsError)
  deriving DecidableEq, Repr

/-- `fs_submit_current_packet`; a blank packet would flush. -/
def submitCurrentPacket (s : FsSession κ π) : Fed × FsSession κ π :=
  match codec.send s.codec (s.packet.map AvPacket.data) with
  | (none, k) => (.again, { s with codec := k, packet := none, packetPending := false })
  | (some .again, k) => (.again, { s with codec := k, packetPending := true })
  | (some .invalidData, k) =>
      (.error ⟨.malformed, some .invalidData, "decoder rejected malformed packet data"⟩,
        { s with codec := k, packet := none, packetPending := false })
  | (some error, k) =>
      (.error ⟨.decoder, some error, "failed to submit packet to video decoder"⟩,
        { s with codec := k, packet := none, packetPending := false })

/-- The flush at the end of the file. -/
def sendFlush (s : FsSession κ π) : Fed × FsSession κ π :=
  match codec.send s.codec none with
  | (none, k) => (.again, { s with codec := k, flushSent := true })
  | (some .again, k) => (.again, { s with codec := k })
  | (some .eof, k) => (.endOfStream, { s with codec := k, flushSent := true })
  | (some error, k) =>
      (.error ⟨.decoder, some error, "failed to flush video decoder at end of stream"⟩,
        { s with codec := k })

/-- The packets are read up to the first one of the selected stream. -/
inductive Read (π : Type) where
  | packet (packet : AvPacket π) (rest : List (Demuxed π))
  | eof (rest : List (Demuxed π))
  | failure (error : AvError) (rest : List (Demuxed π))

def readSelected : List (Demuxed π) → Read π
  | [] => .eof []
  | .failure .eof :: rest => .eof rest
  | .failure error :: rest => .failure error rest
  | .packet packet :: rest =>
      if packet.streamIndex = stream.selectedStreamIndex then .packet packet rest
      else readSelected rest

/-- The error of a read. -/
def readError (wasCancelled : Bool) (error : AvError) : FsError :=
  if wasCancelled = true ∨ error = .exit then
    ⟨.cancelled, some error, "video decoding was cancelled while reading packets"⟩
  else if error = .invalidData then
    ⟨.malformed, some error, "failed while reading media packets"⟩
  else ⟨.io, some error, "failed while reading media packets"⟩

/-- The inner loop of `framescope_ffmpeg_next_frame`. -/
def feed (s : FsSession κ π) : Fed × FsSession κ π :=
  if s.packetPending = true then submitCurrentPacket codec s
  else if s.demuxEof = true then sendFlush codec s
  else
    match readSelected stream s.source with
    | .packet packet rest =>
        submitCurrentPacket codec { s with source := rest, packet := some packet }
    | .eof rest => sendFlush codec { s with source := rest, packet := none, demuxEof := true }
    | .failure error rest =>
        (.error (readError (cancelled s.polls) error),
          { s with source := rest, packet := none, polls := s.polls + 1 })

/-! ## The calls -/

def receiveError (error : AvError) : FsError :=
  ⟨if error = .invalidData then .malformed else .decoder, some error,
    "failed to receive a decoded video frame"⟩

/-- One round of the outer loop, with no answer when the loop goes on. -/
def decodeRound (s : FsSession κ π) : Option NextFrame × FsSession κ π :=
  if cancelled s.polls = true then
    (some (.error ⟨.cancelled, some .exit, "video decoding was cancelled"⟩),
      { s with polls := s.polls + 1 })
  else
    match codec.receive s.codec with
    | (.ok frame, k) =>
        (some (.frame (fillFrameInfo stream s.epoch s.frameIndex frame)),
          { s with
            codec := k, frameIndex := (s.frameIndex + 1) % 2 ^ 64, polls := s.polls + 1 })
    | (.error .eof, k) => (some .endOfStream, { s with codec := k, polls := s.polls + 1 })
    | (.error .again, k) =>
        if s.flushSent = true then
          (some (.error ⟨.decoder, some .again,
            "decoder requested more packets after end-of-stream flush"⟩),
            { s with codec := k, polls := s.polls + 1 })
        else
          match feed codec stream cancelled { s with codec := k, polls := s.polls + 1 } with
          | (.again, s') => (none, s')
          | (.endOfStream, s') => (some .endOfStream, s')
          | (.error error, s') => (some (.error error), s')
    | (.error error, k) =>
        (some (.error (receiveError error)), { s with codec := k, polls := s.polls + 1 })

/-- The outer loop, none when the rounds are used up. -/
def nextFrameRounds : Nat → FsSession κ π → Option NextFrame × FsSession κ π
  | 0, s => (none, s)
  | rounds + 1, s =>
      match decodeRound codec stream cancelled s with
      | (none, s') => nextFrameRounds rounds s'
      | (some answer, s') => (some answer, s')

/-- The rounds that the input of a session allows. -/
def FsSession.rounds (s : FsSession κ π) : Nat :=
  s.source.length + (if s.packetPending then 1 else 0) + (if s.flushSent then 0 else 1)

/-- `framescope_ffmpeg_next_frame`. -/
def nextFrame (s : FsSession κ π) : Option NextFrame × FsSession κ π :=
  nextFrameRounds codec stream cancelled (s.rounds + 1) s

/-- `framescope_ffmpeg_seek_us`: `avformat_seek_file` fails or not, and either way
leaves the demuxer with what it returns from then on. -/
def seekUs (s : FsSession κ π) (timestampUs : Int) (failure : Option AvError)
    (source : List (Demuxed π)) : Option FsError × FsSession κ π :=
  if timestampUs < 0 then
    (some ⟨.seekUnavailable, some (.other (-22)), "seek timestamp must be non-negative"⟩, s)
  else if cancelled s.polls = true then
    (some ⟨.cancelled, some .exit, "video seek was cancelled"⟩, { s with polls := s.polls + 1 })
  else if stream.timeBaseNum ≤ 0 ∨ stream.timeBaseDen ≤ 0 then
    (some ⟨.seekUnavailable, none, "selected stream has no valid seek time base"⟩,
      { s with polls := s.polls + 1 })
  else
    match failure with
    | some error =>
        (some (if cancelled (s.polls + 1) = true ∨ error = .exit then
            ⟨.cancelled, some error, "video seek was cancelled"⟩
          else ⟨.seekUnavailable, some error, "FFmpeg could not seek this source"⟩),
          { s with source := source, polls := s.polls + 2 })
    | none =>
        (none,
          { codec := codec.flushBuffers s.codec
            source := source
            packet := none
            demuxEof := false
            packetPending := false
            flushSent := false
            epoch := (s.epoch + 1) % 2 ^ 64
            frameIndex := 0
            polls := s.polls + 1 })

/-- What a caller asks of an opened session, with what the demuxer makes of a seek. -/
inductive Call (π : Type) where
  | nextFrame
  | seekUs (timestampUs : Int) (failure : Option AvError) (source : List (Demuxed π))
  deriving DecidableEq, Repr

inductive Answer where
  | frame (answer : Option NextFrame)
  | sought (error : Option FsError)
  deriving DecidableEq, Repr

def FsSession.call (s : FsSession κ π) : Call π → Answer × FsSession κ π
  | .nextFrame =>
      let (answer, s') := nextFrame codec stream cancelled s
      (.frame answer, s')
  | .seekUs timestampUs failure source =>
      let (error, s') := seekUs codec stream cancelled s timestampUs failure source
      (.sought error, s')

/-- The answers of a run of calls, and the session after it. -/
def FsSession.calls (s : FsSession κ π) : List (Call π) → List Answer × FsSession κ π
  | [] => ([], s)
  | request :: requests =>
      let (answer, s') := s.call codec stream cancelled request
      let (answers, s'') := s'.calls requests
      (answer :: answers, s'')

/-- A session as `framescope_ffmpeg_open` leaves it. -/
def FsSession.opened (k : κ) (source : List (Demuxed π)) : FsSession κ π where
  codec := k
  source := source
  packet := none
  demuxEof := false
  packetPending := false
  flushSent := false
  epoch := 0
  frameIndex := 0
  polls := 0

end Loop

end FrameScope.Ports.DecodeLoop
