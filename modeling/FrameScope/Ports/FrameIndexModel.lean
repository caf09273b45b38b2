import FrameScope.Ports.Core

/-!
# Frame-index entries

Port of `framescope-cache/src/index/model.rs` and of the two functions every
consumer of the index shares: `entry_from_decoded`, which turns a decoded frame
into a row of the authoritative timeline, and `matches_index_entry`, the
metadata comparison by which decoded frames are aligned with rows.

`indexEntries S` is the timeline the index of a decode sequence `S` ought to
hold: it numbers the frames from zero and carries the most recent clean
keyframe along as the anchor.  Persistent frame identities (`FrameId(u64)`) are
plain natural numbers.
-/

namespace FrameScope.Ports.FrameIndexModel

open FrameScope.Ports.Core

def frameIndexSchemaVersion : Int := 1

/-- Compatibility generation for presentation-frame identity. -/
def frameTimelineContractGeneration : Nat := 2

/-! ## Errors -/

/-- The `rusqlite` errors that the index code itself can meet. -/
inductive SqliteError where
  | invalidQuery
  | integralValueOutOfRange (column : Nat) (value : Int)
  | constraintViolation (detail : String)
  deriving DecidableEq, Repr

def SqliteError.toText : SqliteError → String
  | .invalidQuery => "Query is not read-only"
  | .integralValueOutOfRange column value =>
      "Integer " ++ toString value ++ " out of range at index " ++ toString column
  | .constraintViolation detail => detail

inductive FrameIndexError where
  | sqlite (error : SqliteError)
  | invalidState (detail : String)
  | unsupportedSchema (found : Int)
  | timeBaseMismatch
  deriving DecidableEq, Repr

def FrameIndexError.toText : FrameIndexError → String
  | .sqlite error => "SQLite frame-index error: " ++ error.toText
  | .invalidState detail => "invalid persistent frame-index state: " ++ detail
  | .unsupportedSchema found =>
      "unsupported frame-index schema version " ++ toString found
  | .timeBaseMismatch =>
      "timestamp uses a different time base from the indexed stream"

inductive FrameIndexOpenDisposition where
  | created
  | reused
  | rebuiltStaleSource
  | rebuiltUnverifiableSource
  | rebuiltIncompatibleTimelineContract
  | recoveredCorruptState
  | recreatedUnsupportedSchema
  deriving DecidableEq, Repr

/-- `recreation_disposition`: which open errors are answered by purging the
database.  Of the SQLite errors only corruption codes are, and none of the
errors above carries one. -/
def FrameIndexError.recreationDisposition :
    FrameIndexError → Option FrameIndexOpenDisposition
  | .unsupportedSchema _ => some .recreatedUnsupportedSchema
  | .invalidState _ => some .recoveredCorruptState
  | .sqlite _ => none
  | .timeBaseMismatch => none

/-! ## Stream identity -/

structure FrameIndexStreamIdentity where
  streamIndex : Nat
  codecId : Int
  codecName : String
  timeBase : TimeBase
  width : Option Nat
  height : Option Nat
  deriving DecidableEq, Repr

/-- `FrameIndexStreamIdentity::from_stream`. -/
def FrameIndexStreamIdentity.fromStream (stream : StreamInfo) :
    Except FrameIndexError FrameIndexStreamIdentity :=
  if stream.mediaKind ≠ .video then
    .error (.invalidState "frame indexes can only bind to a video stream")
  else match stream.timeBase with
    | none => .error (.invalidState "selected video stream has no valid time base")
    | some timeBase => .ok
        { streamIndex := stream.index
          codecId := stream.codecId
          codecName := stream.codecName
          timeBase := timeBase
          width := stream.width
          height := stream.height }

/-- A stream that binds to a given identity. -/
def FrameIndexStreamIdentity.toStream (identity : FrameIndexStreamIdentity) : StreamInfo :=
  { index := identity.streamIndex
    mediaKind := .video
    codecId := identity.codecId
    codecName := identity.codecName
    timeBase := some identity.timeBase
    width := identity.width
    height := identity.height }

@[simp] theorem fromStream_toStream (identity : FrameIndexStreamIdentity) :
    FrameIndexStreamIdentity.fromStream identity.toStream = .ok identity := rfl

/-! ## Entries -/

inductive KeyframeAnchor where
  | streamStart
  | keyframe (frameId : Nat) (presentationTimestamp : Option MediaTimestamp)
  deriving DecidableEq, Repr

structure FrameIndexEntry where
  frameId : Nat
  presentationTimestamp : Option MediaTimestamp
  duration : Option MediaDuration
  keyframe : Bool
  corrupt : Bool
  anchor : KeyframeAnchor
  deriving DecidableEq, Repr

def FrameIndexEntry.timestampUs (e : FrameIndexEntry) : Option Int :=
  e.presentationTimestamp.bind MediaTimestamp.toMicroseconds

def FrameIndexEntry.isClean (e : FrameIndexEntry) : Bool := e.keyframe && !e.corrupt

/-- The check both the frame's own timestamp and its anchor's must pass. -/
def validateTimestamp (stream : FrameIndexStreamIdentity) (overflow : String) :
    Option MediaTimestamp → Except FrameIndexError Unit
  | none => .ok ()
  | some timestamp =>
      if timestamp.timeBase ≠ stream.timeBase then .error .timeBaseMismatch
      else match timestamp.toMicroseconds with
        | none => .error (.invalidState overflow)
        | some _ => .ok ()

def validateDuration (stream : FrameIndexStreamIdentity) :
    Option MediaDuration → Except FrameIndexError Unit
  | none => .ok ()
  | some duration =>
      if duration.ticks ≤ 0 then
        .error (.invalidState "frame duration must be positive when present")
      else if duration.timeBase ≠ stream.timeBase then .error .timeBaseMismatch
      else .ok ()

def FrameIndexEntry.validateAnchor (e : FrameIndexEntry)
    (stream : FrameIndexStreamIdentity) : Except FrameIndexError Unit :=
  match e.anchor with
  | .streamStart =>
      if e.isClean then .error (.invalidState "clean keyframe must anchor itself")
      else .ok ()
  | .keyframe frameId presentationTimestamp =>
      if frameId > e.frameId then
        .error (.invalidState "keyframe anchor cannot follow its target frame")
      else match validateTimestamp stream
          "keyframe anchor timestamp overflows microseconds" presentationTimestamp with
        | .error error => .error error
        | .ok () =>
            if e.isClean ∧ (frameId ≠ e.frameId ∨
                presentationTimestamp ≠ e.presentationTimestamp) then
              .error (.invalidState
                "clean keyframe must anchor itself with the same timestamp")
            else .ok ()

/-- `FrameIndexEntry::validate`. -/
def FrameIndexEntry.validate (e : FrameIndexEntry) (stream : FrameIndexStreamIdentity) :
    Except FrameIndexError Unit := do
  validateTimestamp stream "frame timestamp overflows microseconds" e.presentationTimestamp
  validateDuration stream e.duration
  e.validateAnchor stream

/-- The seek that an anchor allows: a keyframe with a timestamp that is not
negative in microseconds. -/
def anchorSeek : KeyframeAnchor → Option (Nat × Int)
  | .keyframe frameId (some timestamp) =>
      (timestamp.toMicroseconds.filter (0 ≤ ·)).map fun us => (frameId, us)
  | _ => none

theorem anchorSeek_some {anchor : KeyframeAnchor} {id : Nat} {us : Int}
    (h : anchorSeek anchor = some (id, us)) : ∃ t, anchor = .keyframe id (some t) := by
  unfold anchorSeek at h
  split at h
  · rename_i frameId timestamp
    obtain ⟨us', -, hEq⟩ := Option.map_eq_some_iff.1 h
    cases hEq
    exact ⟨timestamp, rfl⟩
  · cases h

/-! ## Lifecycle and seek safety -/

inductive FrameIndexLifecycle where
  | building | incomplete | complete | failedRecoverable
  deriving DecidableEq, Repr

def FrameIndexLifecycle.asI64 : FrameIndexLifecycle → Int
  | .building => 1
  | .incomplete => 2
  | .complete => 3
  | .failedRecoverable => 4

def FrameIndexLifecycle.fromI64 (value : Int) : Except FrameIndexError FrameIndexLifecycle :=
  if value = 1 then .ok .building
  else if value = 2 then .ok .incomplete
  else if value = 3 then .ok .complete
  else if value = 4 then .ok .failedRecoverable
  else .error (.invalidState ("unknown frame-index lifecycle value " ++ toString value))

@[simp] theorem FrameIndexLifecycle.fromI64_asI64 (l : FrameIndexLifecycle) :
    FrameIndexLifecycle.fromI64 l.asI64 = .ok l := by
  cases l <;> rfl

inductive TimestampSeekSafety where
  | unambiguous | ambiguous
  deriving DecidableEq, Repr

def TimestampSeekSafety.asI64 : TimestampSeekSafety → Int
  | .unambiguous => 1
  | .ambiguous => 0

def TimestampSeekSafety.fromI64 (value : Int) : Except FrameIndexError TimestampSeekSafety :=
  if value = 1 then .ok .unambiguous
  else if value = 0 then .ok .ambiguous
  else .error (.invalidState ("unknown timestamp-seek safety value " ++ toString value))

@[simp] theorem TimestampSeekSafety.fromI64_asI64 (s : TimestampSeekSafety) :
    TimestampSeekSafety.fromI64 s.asI64 = .ok s := by
  cases s <;> rfl

def TimestampSeekSafety.permitsTimestampSeek : TimestampSeekSafety → Bool
  | .unambiguous => true
  | .ambiguous => false

structure FrameIndexStatus where
  lifecycle : FrameIndexLifecycle
  indexedFrames : Nat
  frameCount : Option Nat
  lastFrameId : Option Nat
  lastPresentationTimestamp : Option MediaTimestamp
  lastError : Option String
  deriving DecidableEq, Repr

/-! ## From decoded frames to entries -/

/-- `matches_index_entry`: the metadata by which a decoded frame is recognised
as the frame of a row.  The anchor is not decoded metadata. -/
def matchesIndexEntry (decoded : DecodedFrame) (indexed : FrameIndexEntry) : Bool :=
  decoded.presentationTimestamp = indexed.presentationTimestamp &&
    decoded.duration = indexed.duration &&
    decoded.keyframe = indexed.keyframe &&
    decoded.corrupt = indexed.corrupt

/-- The anchor after a frame: a clean keyframe becomes the anchor itself. -/
def nextAnchor (frameId : Nat) (decoded : DecodedFrame)
    (anchor : KeyframeAnchor) : KeyframeAnchor :=
  if decoded.isClean then .keyframe frameId decoded.presentationTimestamp else anchor

/-- `entry_from_decoded`, with `anchor` the value before the call. -/
def entryFromDecoded (frameId : Nat) (decoded : DecodedFrame)
    (anchor : KeyframeAnchor) : FrameIndexEntry :=
  { frameId := frameId
    presentationTimestamp := decoded.presentationTimestamp
    duration := decoded.duration
    keyframe := decoded.keyframe
    corrupt := decoded.corrupt
    anchor := nextAnchor frameId decoded anchor }

/-- Entries of consecutive frames, the first of which gets identity `id`. -/
def entriesFrom (id : Nat) (anchor : KeyframeAnchor) :
    List DecodedFrame → List FrameIndexEntry
  | [] => []
  | f :: rest =>
      entryFromDecoded id f anchor :: entriesFrom (id + 1) (nextAnchor id f anchor) rest

/-- The timeline of a whole decode sequence. -/
def indexEntries (frames : List DecodedFrame) : List FrameIndexEntry :=
  entriesFrom 0 .streamStart frames

/-- The anchor after a run of frames. -/
def anchorAfter (id : Nat) (anchor : KeyframeAnchor) : List DecodedFrame → KeyframeAnchor
  | [] => anchor
  | f :: rest => anchorAfter (id + 1) (nextAnchor id f anchor) rest

section EntriesFrom

variable (id : Nat) (anchor : KeyframeAnchor)

@[simp] theorem entriesFrom_length (frames : List DecodedFrame) :
    (entriesFrom id anchor frames).length = frames.length := by
  induction frames generalizing id anchor with
  | nil => rfl
  | cons f rest ih => simp [entriesFrom, ih]

theorem entriesFrom_append (xs ys : List DecodedFrame) :
    entriesFrom id anchor (xs ++ ys) =
      entriesFrom id anchor xs ++
        entriesFrom (id + xs.length) (anchorAfter id anchor xs) ys := by
  induction xs generalizing id anchor with
  | nil => rfl
  | cons f rest ih =>
      simp only [List.cons_append, entriesFrom, anchorAfter, ih, List.length_cons]
      rw [Nat.add_right_comm, ← Nat.add_assoc]

theorem anchorAfter_append (xs ys : List DecodedFrame) :
    anchorAfter id anchor (xs ++ ys) =
      anchorAfter (id + xs.length) (anchorAfter id anchor xs) ys := by
  induction xs generalizing id anchor with
  | nil => rfl
  | cons f rest ih =>
      simp only [List.cons_append, anchorAfter, ih, List.length_cons]
      rw [Nat.add_right_comm, ← Nat.add_assoc]

/-- One more frame is one more entry. -/
theorem entriesFrom_concat (frames : List DecodedFrame) (f : DecodedFrame) :
    entriesFrom id anchor (frames ++ [f]) =
      entriesFrom id anchor frames ++
        [entryFromDecoded (id + frames.length) f (anchorAfter id anchor frames)] := by
  rw [entriesFrom_append]
  rfl

theorem anchorAfter_concat (frames : List DecodedFrame) (f : DecodedFrame) :
    anchorAfter id anchor (frames ++ [f]) =
      nextAnchor (id + frames.length) f (anchorAfter id anchor frames) := by
  rw [anchorAfter_append]
  rfl

/-- From a clean keyframe on, the entries do not depend on the anchor before. -/
theorem entriesFrom_cons_clean {f : DecodedFrame} (hClean : f.isClean = true)
    (other : KeyframeAnchor) (rest : List DecodedFrame) :
    entriesFrom id anchor (f :: rest) = entriesFrom id other (f :: rest) := by
  simp only [entriesFrom, entryFromDecoded, nextAnchor, hClean, if_true]

/-- Row `i` is the entry of frame `i` under the anchor reached by then. -/
theorem entriesFrom_getElem? (frames : List DecodedFrame) (i : Nat) :
    (entriesFrom id anchor frames)[i]? =
      (frames[i]?).map fun f =>
        entryFromDecoded (id + i) f (anchorAfter id anchor (frames.take i)) := by
  induction frames generalizing id anchor i with
  | nil => simp [entriesFrom]
  | cons f rest ih =>
      cases i with
      | zero => simp [entriesFrom, anchorAfter]
      | succ i =>
          simp only [entriesFrom, List.getElem?_cons_succ, ih, List.take_succ_cons,
            anchorAfter]
          rw [show id + 1 + i = id + (i + 1) by omega]

theorem entriesFrom_take (frames : List DecodedFrame) (n : Nat) :
    (entriesFrom id anchor frames).take n = entriesFrom id anchor (frames.take n) := by
  induction frames generalizing id anchor n with
  | nil => simp [entriesFrom]
  | cons f rest ih =>
      cases n with
      | zero => simp [entriesFrom]
      | succ n => simp [entriesFrom, ih]

end EntriesFrom

@[simp] theorem indexEntries_length (frames : List DecodedFrame) :
    (indexEntries frames).length = frames.length :=
  entriesFrom_length 0 .streamStart frames

/-- A frame that matches a row has the row's timestamp, duration and flags. -/
theorem matchesIndexEntry_iff (f : DecodedFrame) (e : FrameIndexEntry) :
    matchesIndexEntry f e = true ↔
      f.presentationTimestamp = e.presentationTimestamp ∧ f.duration = e.duration ∧
        f.keyframe = e.keyframe ∧ f.corrupt = e.corrupt := by
  simp [matchesIndexEntry, and_assoc]

@[simp] theorem entryFromDecoded_isClean (id : Nat) (f : DecodedFrame)
    (anchor : KeyframeAnchor) : (entryFromDecoded id f anchor).isClean = f.isClean := rfl

theorem isClean_of_matches {f : DecodedFrame} {e : FrameIndexEntry}
    (h : matchesIndexEntry f e = true) : f.isClean = e.isClean := by
  obtain ⟨-, -, hKey, hCorrupt⟩ := (matchesIndexEntry_iff f e).1 h
  rw [DecodedFrame.isClean, FrameIndexEntry.isClean, hKey, hCorrupt]

/-- A decoded frame matches the row made from it. -/
theorem matches_entryFromDecoded (id : Nat) (f : DecodedFrame)
    (anchor : KeyframeAnchor) : matchesIndexEntry f (entryFromDecoded id f anchor) = true := by
  simp [matchesIndexEntry, entryFromDecoded]

end FrameScope.Ports.FrameIndexModel
