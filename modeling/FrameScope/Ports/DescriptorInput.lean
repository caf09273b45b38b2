import FrameScope.Ports.Core

/-!
# A file descriptor as FFmpeg's input

Port of `fs_fd_read`, `fs_fd_seek` and the set-up of `framescope_ffmpeg_open_fd` in
`framescope_ffmpeg_shim.c`.  The descriptor is a duplicate of the caller's, so the two
share one open file with its offset; a seekable file is read with `pread` at a position
that the shim keeps for itself.

FFmpeg keeps a position of its own, which starts at zero, moves on by what a read
returns and is set to what a seek returns.
-/

namespace FrameScope.Ports.DescriptorInput

/-- An open file with the offset its descriptors share; where it is not seekable, the
offset counts what has been read. -/
structure OpenFile where
  content : List UInt8
  seekable : Bool
  regular : Bool
  offset : Int
  deriving DecidableEq, Repr

structure FsFdInput where
  seekable : Bool
  position : Int
  size : Int
  deriving DecidableEq, Repr

/-- The negative answers of the two callbacks. -/
inductive AvError where
  | exit
  | eof
  | notImplemented
  | invalid
  | overflow
  | errno (code : Int)
  deriving DecidableEq, Repr

/-- What `framescope_ffmpeg_open_fd` makes of a descriptor. -/
def openFd (file : OpenFile) : FsFdInput where
  seekable := file.seekable
  position := if file.seekable then file.offset else 0
  size := if file.regular then file.content.length else -1

/-- The bytes of a `read` or `pread`, which the kernel may cut short. -/
def transfer (content : List UInt8) (position : Int) (room granted : Nat) : List UInt8 :=
  (content.drop position.toNat).take (min room granted)

/-- `fs_fd_read`, where the kernel fails or transfers what it grants. -/
def fsFdRead (input : FsFdInput) (file : OpenFile) (cancelled : Bool) (bufferSize : Nat)
    (kernel : Except Int Nat) : Except AvError (List UInt8) × FsFdInput × OpenFile :=
  if cancelled = true then (.error .exit, input, file)
  else
    match kernel with
    | .error code => (.error (.errno code), input, file)
    | .ok granted =>
        let bytes := transfer file.content
          (if input.seekable then input.position else file.offset) bufferSize granted
        let file :=
          if input.seekable then file else { file with offset := file.offset + bytes.length }
        if bytes = [] then (.error .eof, input, file)
        else (.ok bytes, { input with position := input.position + bytes.length }, file)

def avseekSize : BitVec 32 := 0x10000
def avseekForce : BitVec 32 := 0x20000
def seekSet : BitVec 32 := 0
def seekCur : BitVec 32 := 1
def seekEnd : BitVec 32 := 2

/-- What a seek is relative to. -/
def seekBase (input : FsFdInput) (whence : BitVec 32) : Except AvError Int :=
  if whence = seekSet then .ok 0
  else if whence = seekCur then .ok input.position
  else if whence = seekEnd then
    if input.size < 0 then .error .notImplemented else .ok input.size
  else .error .invalid

/-- The target of a seek, checked against overflow before it is computed. -/
def seekFrom (input : FsFdInput) (base offset : Int) : Except AvError Int × FsFdInput :=
  if (0 < offset ∧ 2 ^ 63 - 1 - offset < base) ∨ (offset < 0 ∧ base < -2 ^ 63 - offset) then
    (.error .overflow, input)
  else if base + offset < 0 then (.error .invalid, input)
  else (.ok (base + offset), { input with position := base + offset })

/-- `fs_fd_seek`. -/
def fsFdSeek (input : FsFdInput) (cancelled : Bool) (offset : Int) (whence : BitVec 32) :
    Except AvError Int × FsFdInput :=
  if cancelled = true then (.error .exit, input)
  else if whence = avseekSize then
    (if 0 ≤ input.size then .ok input.size else .error .notImplemented, input)
  else if input.seekable = false then (.error .notImplemented, input)
  else
    match seekBase input (whence &&& ~~~avseekForce) with
    | .error error => (.error error, input)
    | .ok base => seekFrom input base offset

/-! ## The input as FFmpeg sees it -/

/-- What happens to an opened descriptor. -/
inductive Op where
  | read (cancelled : Bool) (bufferSize : Nat) (kernel : Except Int Nat)
  | seek (cancelled : Bool) (offset : Int) (whence : BitVec 32)
  /-- The caller moves the offset it shares with the duplicate. -/
  | callerSeeks (offset : Int)

/-- An answer with FFmpeg's position when it asked. -/
inductive Answer where
  | read (position : Int) (answer : Except AvError (List UInt8))
  | sought (position offset : Int) (whence : BitVec 32) (answer : Except AvError Int)

structure Presented where
  file : OpenFile
  input : FsFdInput
  /-- FFmpeg's own position. -/
  avio : Int
  answers : List Answer

def present (file : OpenFile) : Presented :=
  ⟨file, openFd file, 0, []⟩

def readLength : Except AvError (List UInt8) → Int
  | .ok bytes => bytes.length
  | .error _ => 0

/-- The size of a stream is asked without moving in it. -/
def soughtPosition (position : Int) (whence : BitVec 32) : Except AvError Int → Int
  | .ok target => if whence = avseekSize then position else target
  | .error _ => position

def step (s : Presented) : Op → Presented
  | .read cancelled bufferSize kernel =>
      let (answer, input, file) := fsFdRead s.input s.file cancelled bufferSize kernel
      { file := file
        input := input
        avio := s.avio + readLength answer
        answers := s.answers ++ [.read s.avio answer] }
  | .seek cancelled offset whence =>
      let (answer, input) := fsFdSeek s.input cancelled offset whence
      { s with
        input := input
        avio := soughtPosition s.avio whence answer
        answers := s.answers ++ [.sought s.avio offset whence answer] }
  | .callerSeeks offset =>
      if s.file.seekable = true then { s with file := { s.file with offset := offset } } else s

end FrameScope.Ports.DescriptorInput
