import FrameScope.Verified.Runs
import FrameScope.Ports.NativeSession

/-!
# Which frame a snapshot shows

Runs of the calls on one `VideoDecoder`, whatever the native session does.  A
snapshot copies the reusable frame and puts the label of the recorded frame on
it, so the two have to belong together.  `next_frame` records the dimensions of
a native frame before it maps the metadata; where the mapping fails, the label of
the frame before stays while the picture is already the next one.
-/

namespace FrameScope.Ports.SnapshotLabels

open FrameScope.Verified.Runs
open FrameScope.Ports.Core
open FrameScope.Ports.ScrubPreview
open FrameScope.Ports.NativeSession

/-- The calls, each with what the environment does in it. -/
inductive DecoderCall (π : Type) where
  | nextFrame (cancelled : Bool) (native : NativeNext π)
  | seekToTimestampUs (cancelled : Bool) (timestampUs : Int) (native : NativeSeek π)
  | snapshotRgba (cancelled : Bool) (frame : LabelledFrame) (outcome : CopyOutcome)
  | snapshotPreviewRgba (cancelled : Bool) (frame : LabelledFrame) (maxEdge : Nat)
      (outcome : CopyOutcome)

/-- The decoder, with the native frame of the last call that reached the native
session and the value that `next_frame` returned for it.  There is none if that
call was a seek, failed, or reported the end. -/
structure Observed (π : Type) where
  decoder : VideoDecoder π
  latest : Option (π × LabelledFrame)

section Steps

variable {π : Type}

/-- What is latest after a `next_frame` that was not cancelled before. -/
def latestOf (native : NativeNext π) (result : Except FrameScopeError (Option LabelledFrame)) :
    Option (π × LabelledFrame) :=
  match native, result with
  | .frame _ picture, .ok (some frame) => some (picture, frame)
  | _, _ => none

def step (s : Observed π) : DecoderCall π → Observed π
  | .nextFrame cancelled native =>
      let called := s.decoder.nextFrame cancelled native
      ⟨called.2, if cancelled = true then s.latest else latestOf native called.1⟩
  | .seekToTimestampUs cancelled timestampUs native =>
      ⟨(s.decoder.seekToTimestampUs cancelled timestampUs native).2,
        if timestampUs < 0 ∨ cancelled = true then s.latest else none⟩
  | .snapshotRgba .. => s
  | .snapshotPreviewRgba .. => s

/-- Every snapshot that succeeds shows the latest native frame, and `next_frame` returned the
label for that one. -/
structure Faithful (convert : Converter π) (s : Observed π) : Prop where
  full : ∀ cancelled frame outcome shot,
    s.decoder.snapshotCurrentFrameRgba convert cancelled frame outcome = .ok shot →
      shot.frame = frame ∧ ∃ picture, s.latest = some (picture, frame) ∧
        shot.pixels = written (frame.width * 4 * frame.height)
          (convert picture false frame.width frame.height).2
  preview : ∀ cancelled frame maxEdge outcome shot,
    s.decoder.snapshotCurrentFramePreviewRgba convert cancelled frame maxEdge outcome = .ok shot →
      shot.frame = frame ∧ ∃ picture scaled, s.latest = some (picture, frame) ∧
        shot.pixels = written (shot.width * 4 * shot.height)
          (convert picture scaled shot.width shot.height).2

/-- The metadata of a native frame are good enough for a label, or its dimensions are not good
enough for a copy, or there is no label yet that could stay. -/
def KeepsLabels (s : Observed π) : DecoderCall π → Prop
  | .nextFrame false (.frame raw _) =>
      s.decoder.currentFrame = none ∨ raw.dimensions = none ∨
        ∃ frame, mapFrame s.decoder.sourceId s.decoder.selectedVideoStream raw.toNativeFrame =
          .ok frame
  | _ => True

/-- A decoder that has just been opened. -/
def opened (slot : Option π) (selectedVideoStream sourceId : Nat) : Observed π :=
  ⟨⟨⟨slot, none⟩, selectedVideoStream, sourceId, none⟩, none⟩

/-! ## The invariant -/

/-- The label belongs to the picture, or no snapshot can succeed. -/
def Agreed (s : Observed π) : Prop :=
  match s.latest with
  | some (picture, frame) =>
      s.decoder.session.slot = some picture ∧ s.decoder.currentFrame = some frame
  | none => s.decoder.currentFrame = none ∨ s.decoder.session.lastFrameDimensions = none

theorem agreed_nextFrame {s : Observed π} {native : NativeNext π}
    (h : KeepsLabels s (.nextFrame false native)) : Agreed (step s (.nextFrame false native)) := by
  cases native with
  | frame raw picture =>
      cases hMap : mapFrame s.decoder.sourceId s.decoder.selectedVideoStream
          raw.toNativeFrame with
      | ok frame =>
          have hStep : step s (.nextFrame false (.frame raw picture)) =
              ⟨{ s.decoder with
                  session := ⟨some picture, raw.dimensions⟩
                  currentFrame := some frame }, some (picture, frame)⟩ := by
            simp [step, VideoDecoder.nextFrame, Session.nextFrame, hMap, latestOf]
          rw [hStep]
          exact ⟨rfl, rfl⟩
      | error error =>
          have hStep : step s (.nextFrame false (.frame raw picture)) =
              ⟨{ s.decoder with session := ⟨some picture, raw.dimensions⟩ }, none⟩ := by
            simp [step, VideoDecoder.nextFrame, Session.nextFrame, hMap, latestOf]
          rw [hStep]
          -- a rejected frame: the condition is what keeps its picture away from the old label
          rcases h with hNone | hDimensions | ⟨frame, hFrame⟩
          · exact .inl hNone
          · exact .inr hDimensions
          · rw [hMap] at hFrame
            cases hFrame
  | ended slot => exact .inl rfl
  | failed error slot => exact .inr rfl
  | unexpected status slot => exact .inr rfl

theorem agreed_seek {s : Observed π} (h : Agreed s) (cancelled : Bool) (timestampUs : Int)
    (native : NativeSeek π) : Agreed (step s (.seekToTimestampUs cancelled timestampUs native)) := by
  by_cases hEarly : timestampUs < 0 ∨ cancelled = true
  · have hStep : step s (.seekToTimestampUs cancelled timestampUs native) = s := by
      unfold step VideoDecoder.seekToTimestampUs
      dsimp only
      rw [if_pos hEarly]
      by_cases hNegative : timestampUs < 0
      · rw [if_pos hNegative]
      · rw [if_neg hNegative, if_pos (hEarly.resolve_left hNegative)]
    rw [hStep]
    exact h
  · have hDone : ¬ timestampUs < 0 := fun hNegative => hEarly (.inl hNegative)
    have hLive : ¬ cancelled = true := fun hCancelled => hEarly (.inr hCancelled)
    unfold step VideoDecoder.seekToTimestampUs
    dsimp only
    rw [if_neg hEarly, if_neg hDone, if_neg hLive]
    unfold Session.seekUs
    cases native.result with
    | error error => exact .inr rfl
    | ok done => exact .inr rfl

theorem agreed_step {s : Observed π} (call : DecoderCall π) (h : Agreed s)
    (hKeeps : KeepsLabels s call) : Agreed (step s call) := by
  cases call with
  | nextFrame cancelled native =>
      cases cancelled with
      | true => exact h
      | false => exact agreed_nextFrame hKeeps
  | seekToTimestampUs cancelled timestampUs native => exact agreed_seek h cancelled timestampUs native
  | snapshotRgba cancelled frame outcome => exact h
  | snapshotPreviewRgba cancelled frame maxEdge outcome => exact h

/-! ## Snapshots of a decoder that agrees -/

variable {convert : Converter π}

/-- A copy that succeeds shows the picture in the reusable frame. -/
theorem copyToDimensions_pixels {s : Session π} {outcome : CopyOutcome} {width height : Nat}
    {scaled : Bool} {rgba : NativeRgba}
    (h : s.copyCurrentFrameRgbaToDimensions convert outcome width height scaled = .ok rgba) :
    rgba.width = width ∧ rgba.height = height ∧ ∃ picture, s.slot = some picture ∧
      rgba.pixels = written (width * 4 * height) (convert picture scaled width height).2 := by
  unfold Session.copyCurrentFrameRgbaToDimensions at h
  obtain ⟨stride, hStride, h⟩ := bind_eq_ok.1 h
  obtain ⟨required, hRequired, h⟩ := bind_eq_ok.1 h
  rw [okOr_eq_ok, checkedMulU64_eq_some] at hStride hRequired
  split_ifs at h with hAllocated
  obtain ⟨-, -, h⟩ := bind_eq_ok.1 h
  obtain ⟨converted, hConverted, h⟩ := bind_eq_ok.1 h
  dsimp only at h
  split_ifs at h with hOut
  cases h
  refine ⟨rfl, rfl, ?_⟩
  unfold Session.convertCurrent at hConverted
  cases hFault : outcome.fault with
  | some error =>
      rw [hFault] at hConverted
      cases hConverted
  | none =>
      rw [hFault] at hConverted
      cases hSlot : s.slot with
      | none =>
          rw [hSlot] at hConverted
          cases hConverted
      | some picture =>
          rw [hSlot] at hConverted
          cases hConverted
          refine ⟨picture, rfl, ?_⟩
          show written required _ = _
          rw [hRequired.2, hStride.2]

/-- Of a decoder that agrees, a copy and a label come from one native frame. -/
theorem Agreed.latest_of {s : Observed π} (h : Agreed s) {frame : LabelledFrame} {picture : π}
    {dimensions : Nat × Nat} (hCurrent : s.decoder.currentFrame = some frame)
    (hDimensions : s.decoder.session.lastFrameDimensions = some dimensions)
    (hSlot : s.decoder.session.slot = some picture) : s.latest = some (picture, frame) := by
  unfold Agreed at h
  cases hLatest : s.latest with
  | none =>
      rw [hLatest] at h
      rcases h with hNone | hNone
      · rw [hNone] at hCurrent
        cases hCurrent
      · rw [hNone] at hDimensions
        cases hDimensions
  | some pair =>
      rw [hLatest] at h
      cases hSlot.symm.trans h.1
      cases hCurrent.symm.trans h.2
      rfl

theorem Agreed.full {s : Observed π} (h : Agreed s) {cancelled : Bool} {frame : LabelledFrame}
    {outcome : CopyOutcome} {shot : RgbaSnapshot}
    (hShot : s.decoder.snapshotCurrentFrameRgba convert cancelled frame outcome = .ok shot) :
    shot.frame = frame ∧ ∃ picture, s.latest = some (picture, frame) ∧
      shot.pixels = written (frame.width * 4 * frame.height)
        (convert picture false frame.width frame.height).2 := by
  unfold VideoDecoder.snapshotCurrentFrameRgba at hShot
  split_ifs at hShot with hCancelled hCurrent
  obtain ⟨rgba, hCopy, hShot⟩ := bind_eq_ok.1 hShot
  split_ifs at hShot with hSame
  obtain ⟨expected, -, hShot⟩ := bind_eq_ok.1 hShot
  split_ifs at hShot
  cases hShot
  obtain ⟨dimensions, hDimensions, hCopy⟩ := bind_eq_ok.1 (mapError_eq_ok.1 hCopy)
  obtain ⟨hWidth, hHeight, picture, hSlot, hPixels⟩ := copyToDimensions_pixels hCopy
  refine ⟨rfl, picture, h.latest_of (not_not.1 hCurrent) (okOr_eq_ok.1 hDimensions) hSlot, ?_⟩
  have hWidth' : dimensions.1 = frame.width := by
    by_contra hNot
    exact hSame (.inl (by rw [hWidth]; exact hNot))
  have hHeight' : dimensions.2 = frame.height := by
    by_contra hNot
    exact hSame (.inr (by rw [hHeight]; exact hNot))
  show rgba.pixels = _
  rw [hPixels, hWidth', hHeight']

/-- Either copy of a preview shows the picture. -/
theorem previewCopy_pixels {d : VideoDecoder π} {frame : LabelledFrame} {target : Nat × Nat}
    {outcome : CopyOutcome} {rgba : NativeRgba}
    (h : d.previewCopy convert frame target outcome = .ok rgba) :
    ∃ dimensions picture scaled, d.session.lastFrameDimensions = some dimensions ∧
      d.session.slot = some picture ∧
      rgba.pixels = written (rgba.width * 4 * rgba.height)
        (convert picture scaled rgba.width rgba.height).2 := by
  unfold VideoDecoder.previewCopy at h
  split_ifs at h with hSame
  · obtain ⟨dimensions, hDimensions, hCopy⟩ := bind_eq_ok.1 h
    obtain ⟨hWidth, hHeight, picture, hSlot, hPixels⟩ := copyToDimensions_pixels hCopy
    refine ⟨dimensions, picture, false, okOr_eq_ok.1 hDimensions, hSlot, ?_⟩
    rw [hWidth, hHeight]
    exact hPixels
  · obtain ⟨dimensions, hDimensions, hCopy⟩ := bind_eq_ok.1 h
    dsimp only at hCopy
    split_ifs at hCopy
    obtain ⟨hWidth, hHeight, picture, hSlot, hPixels⟩ := copyToDimensions_pixels hCopy
    refine ⟨dimensions, picture, true, okOr_eq_ok.1 hDimensions, hSlot, ?_⟩
    rw [hWidth, hHeight]
    exact hPixels

theorem Agreed.preview {s : Observed π} (h : Agreed s) {cancelled : Bool} {frame : LabelledFrame}
    {maxEdge : Nat} {outcome : CopyOutcome} {shot : PreviewSnapshot}
    (hShot : s.decoder.snapshotCurrentFramePreviewRgba convert cancelled frame maxEdge outcome =
      .ok shot) :
    shot.frame = frame ∧ ∃ picture scaled, s.latest = some (picture, frame) ∧
      shot.pixels = written (shot.width * 4 * shot.height)
        (convert picture scaled shot.width shot.height).2 := by
  unfold VideoDecoder.snapshotCurrentFramePreviewRgba at hShot
  split_ifs at hShot with hCancelled hCurrent
  obtain ⟨target, -, hShot⟩ := bind_eq_ok.1 hShot
  obtain ⟨rgba, hCopy, hShot⟩ := bind_eq_ok.1 hShot
  split_ifs at hShot
  obtain ⟨expected, -, hShot⟩ := bind_eq_ok.1 hShot
  split_ifs at hShot
  cases hShot
  obtain ⟨dimensions, picture, scaled, hDimensions, hSlot, hPixels⟩ :=
    previewCopy_pixels (mapError_eq_ok.1 hCopy)
  exact ⟨rfl, picture, scaled, h.latest_of (not_not.1 hCurrent) hDimensions hSlot, hPixels⟩

/-! ## Runs -/

/-- As long as no native frame with positive dimensions is rejected over a label, every
snapshot shows the frame it names. -/
theorem snapshots_faithful (slot : Option π) (selectedVideoStream sourceId : Nat)
    (calls : List (DecoderCall π))
    (hKeeps : Meets step KeepsLabels (opened slot selectedVideoStream sourceId) calls) :
    Faithful convert (calls.foldl step (opened slot selectedVideoStream sourceId)) := by
  have hStart : Agreed (opened slot selectedVideoStream sourceId) := by
    exact .inl rfl
  have hAgreed : Agreed (calls.foldl step (opened slot selectedVideoStream sourceId)) :=
    run_invariant (fun _ call h hCall => agreed_step call h hCall) hStart hKeeps
  exact ⟨fun _ _ _ _ hShot => hAgreed.full hShot, fun _ _ _ _ _ hShot => hAgreed.preview hShot⟩

end Steps

/-! ## A rejected frame -/

/-- Pictures of one pixel, by the value of its bytes. -/
def onePixel : Converter UInt8 := fun picture _ width _ =>
  ((width * 4 : Nat), List.replicate 4 picture)

/-- Metadata of a frame of one pixel, in milliseconds if the denominator is 1000. -/
def sampleInfo (index : Nat) (timeBaseDen : Int) : FsFrameInfo where
  epoch := 0
  index := index
  streamIndex := 0
  hasTimestamp := 1
  timestampTicks := 40 * index
  hasDuration := 0
  durationTicks := 0
  timeBaseNum := 1
  timeBaseDen := timeBaseDen
  keyframe := 1
  corrupt := 0
  width := 1
  height := 1
  pixelFormatName := none

def firstFrame : LabelledFrame where
  streamIndex := 0
  presentationTimestamp := some ⟨0, sampleTimeBase⟩
  duration := none
  keyframe := true
  corrupt := false
  width := 1
  height := 1
  pixelFormat := none
  sourceId := 1
  decodeEpoch := 0
  index := 0

/-- A frame with the bytes 7. -/
def firstCall : DecoderCall UInt8 := .nextFrame false (.frame (sampleInfo 0 1000) 7)

/-- The next one, with the bytes 9 and a time base that is not valid. -/
def rejectedCall : DecoderCall UInt8 := .nextFrame false (.frame (sampleInfo 1 0) 9)

theorem snapshots_faithful_firstFrame :
    Faithful onePixel ([firstCall].foldl step (opened none 0 1)) :=
  snapshots_faithful none 0 1 [firstCall] ⟨.inl rfl, trivial⟩

/-- The snapshot of the first frame shows the bytes of the second, for which `next_frame`
returned an error. -/
theorem snapshot_shows_rejected :
    ([firstCall].foldl step (opened none 0 1)).latest = some (7, firstFrame) ∧
      ([firstCall, rejectedCall].foldl step (opened none 0 1)).decoder.snapshotCurrentFrameRgba
        onePixel false firstFrame ⟨true, none⟩ = .ok ⟨firstFrame, 4, [9, 9, 9, 9]⟩ ∧
      ¬ Faithful onePixel ([firstCall, rejectedCall].foldl step (opened none 0 1)) := by
  have hShot : ([firstCall, rejectedCall].foldl step
      (opened none 0 1)).decoder.snapshotCurrentFrameRgba onePixel false firstFrame ⟨true, none⟩ =
      .ok ⟨firstFrame, 4, [9, 9, 9, 9]⟩ := by decide
  refine ⟨by decide, hShot, ?_⟩
  intro hFaithful
  obtain ⟨-, picture, hLatest, -⟩ := hFaithful.full _ _ _ _ hShot
  have hNone : ([firstCall, rejectedCall].foldl step (opened none 0 1)).latest = none := by decide
  rw [hNone] at hLatest
  cases hLatest

end FrameScope.Ports.SnapshotLabels
