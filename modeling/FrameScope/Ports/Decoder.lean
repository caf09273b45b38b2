import FrameScope.Ports.Core

/-!
# The decoder as its callers see it

FFmpeg and the codecs behind `VideoDecoder` are outside the repository.  What
the callers of `next_frame`, `seek_to_timestamp_us` and the snapshot functions
can observe of one open session is finite: the frames it will still emit, how
that sequence then ends, whether each snapshot succeeds, and what a seek leads
to.  A session is that data, so every loop over it is structural.

`Conforms S d` is the contract the program relies on: a fresh session emits
the decode sequence `S` from its start, and after a seek it emits `S` from
some position on.  It may fail at any frame; it may report the end of the
stream only at the end of `S`.
-/

namespace FrameScope.Ports.Decoder

open FrameScope.Ports.Core

/-- One frame a session will emit.  `position` is the frame's place in the
decode order of the source; it is a ghost that no modelled function reads. -/
structure Emission where
  position : Nat
  rgba : DecodedRgbaFrame
  snapshotFault : Option FrameScopeError
  deriving DecidableEq, Repr

/-- What a session emits from now on: frames, then the end of the stream
(`none`) or an error. -/
structure Script where
  pending : List Emission
  ending : Option FrameScopeError
  deriving DecidableEq, Repr

/-- One open decoder session. -/
structure VideoDecoder where
  stream : StreamInfo
  current : Option Emission
  script : Script
  seekOutcome : Int → Except FrameScopeError Script

/-- The decoder factory `FnMut() -> Result<D, FrameScopeError>`: the outcome of
its `n`-th call. -/
abbrev Opener := Nat → Except FrameScopeError VideoDecoder

/-- The result of a read when no frame is left. -/
def Script.exhausted {α : Type} (s : Script) : Except FrameScopeError (Option α) :=
  match s.ending with
  | none => .ok none
  | some e => .error e

/-- `VideoDecoder::next_frame`. -/
def VideoDecoder.nextFrame (d : VideoDecoder) :
    Except FrameScopeError (Option DecodedFrame) × VideoDecoder :=
  match d.script.pending with
  | [] => (d.script.exhausted, { d with current := none })
  | e :: rest =>
      (.ok (some e.rgba.frame),
        { d with current := some e, script := { d.script with pending := rest } })

/-- `VideoDecoder::snapshot_current_frame_rgba`: the pixels of the frame most
recently returned by `next_frame`, and of no other. -/
def VideoDecoder.snapshotCurrentFrameRgba (d : VideoDecoder) (frame : DecodedFrame) :
    Except FrameScopeError DecodedRgbaFrame :=
  match d.current with
  | none => .error (.decoderFailure
      "RGBA snapshot request does not match the decoder's current frame")
  | some e =>
      if e.rgba.frame ≠ frame then
        .error (.decoderFailure
          "RGBA snapshot request does not match the decoder's current frame")
      else match e.snapshotFault with
        | some fault => .error fault
        | none => .ok e.rgba

/-- What `next_frame_rgba` makes of one emission: the frame is read and its
pixels are copied at once. -/
def Emission.readRgba (e : Emission) : Except FrameScopeError DecodedRgbaFrame :=
  match e.snapshotFault with
  | some fault => .error fault
  | none => .ok e.rgba

/-- `VideoDecoder::seek_to_timestamp_us`. -/
def VideoDecoder.seekToTimestampUs (d : VideoDecoder) (timestampUs : Int) :
    Except FrameScopeError VideoDecoder :=
  match d.seekOutcome timestampUs with
  | .error e => .error e
  | .ok script => .ok { d with current := none, script := script }

/-! ## The contract -/

/-- `script` emits `S` from position `p` on. -/
def EmitsFrom (S : List DecodedRgbaFrame) (p : Nat) : List Emission →
    Option FrameScopeError → Prop
  | [], ending => ending = none → S.length ≤ p
  | e :: rest, ending =>
      e.position = p ∧ S[p]? = some e.rgba ∧ EmitsFrom S (p + 1) rest ending

def Script.Emits (S : List DecodedRgbaFrame) (p : Nat) (s : Script) : Prop :=
  EmitsFrom S p s.pending s.ending

/-- A session fit to decode the source whose decode sequence is `S`. -/
structure Conforms (S : List DecodedRgbaFrame) (d : VideoDecoder) : Prop where
  fresh : d.script.Emits S 0
  seeks : ∀ t script, d.seekOutcome t = .ok script →
    ∃ p, p ≤ S.length ∧ script.Emits S p

/-- Every session the factory opens is fit. -/
def OpensConforming (S : List DecodedRgbaFrame) (opens : Opener) : Prop :=
  ∀ n d, opens n = .ok d → Conforms S d

section EmitsFrom

variable {S : List DecodedRgbaFrame} {p : Nat} {e : Emission}
  {pending : List Emission} {ending : Option FrameScopeError}

theorem EmitsFrom.head (h : EmitsFrom S p (e :: pending) ending) :
    S[p]? = some e.rgba := h.2.1

theorem EmitsFrom.position (h : EmitsFrom S p (e :: pending) ending) :
    e.position = p := h.1

theorem EmitsFrom.tail (h : EmitsFrom S p (e :: pending) ending) :
    EmitsFrom S (p + 1) pending ending := h.2.2

theorem EmitsFrom.lt (h : EmitsFrom S p (e :: pending) ending) :
    p < S.length := by
  have hHead := h.head
  rw [List.getElem?_eq_some_iff] at hHead
  exact hHead.1

/-- What is left after some emissions continues `S` where they end. -/
theorem EmitsFrom.drop {before : List Emission} :
    ∀ {p : Nat}, EmitsFrom S p (before ++ pending) ending →
      EmitsFrom S (p + before.length) pending ending := by
  induction before with
  | nil => intro p h; simpa using h
  | cons e before ih =>
      intro p h
      have hRest := ih h.tail
      rw [List.length_cons]
      rwa [show p + (before.length + 1) = p + 1 + before.length by omega]

/-- The `j`-th emission from here is the frame of `S` at `p + j`. -/
theorem EmitsFrom.getElem? (h : EmitsFrom S p pending ending) {j : Nat}
    (hj : pending[j]? = some e) : S[p + j]? = some e.rgba := by
  induction pending generalizing p j with
  | nil => simp at hj
  | cons x pending ih =>
      cases j with
      | zero =>
          rw [List.getElem?_cons_zero, Option.some.injEq] at hj
          subst hj
          exact h.head
      | succ j =>
          rw [List.getElem?_cons_succ] at hj
          have hRest := ih h.tail hj
          rwa [show p + 1 + j = p + (j + 1) by omega] at hRest

/-- The emitted frames are the frames of `S` from `p` on, as far as they go. -/
theorem EmitsFrom.map_rgba :
    ∀ {p : Nat} {pending : List Emission}, EmitsFrom S p pending ending →
      pending.map (·.rgba) = (S.drop p).take pending.length := by
  intro p pending
  induction pending generalizing p with
  | nil => intro _; simp
  | cons e rest ih =>
      intro h
      have hHead := h.head
      rw [List.getElem?_eq_some_iff] at hHead
      obtain ⟨hlt, hget⟩ := hHead
      rw [List.map_cons, ih h.tail, List.drop_eq_getElem_cons hlt, hget]
      rfl

/-- A session that reports the end of the stream has emitted all of `S`. -/
theorem EmitsFrom.map_rgba_of_eof
    (h : EmitsFrom S p pending none) :
    pending.map (·.rgba) = S.drop p := by
  have hEnd : ∀ {p : Nat} {pending : List Emission},
      EmitsFrom S p pending none → S.length ≤ p + pending.length := by
    intro p pending
    induction pending generalizing p with
    | nil => intro h; simpa using h rfl
    | cons e rest ih =>
        intro h
        have hRest := ih h.tail
        simp only [List.length_cons]
        omega
  rw [h.map_rgba]
  apply List.take_of_length_le
  have := hEnd h
  simp only [List.length_drop]
  omega

end EmitsFrom

/-! ## Where a session stands -/

/-- The session stands at position `q` of `S`: the frame it emitted last is the
one there, and it goes on from there. -/
structure StandsAt (S : List DecodedRgbaFrame) (q : Nat) (d : VideoDecoder) : Prop where
  current : ∃ e, d.current = some e ∧ e.position = q ∧ S[q]? = some e.rgba
  onward : d.script.Emits S (q + 1)

/-- A frame that is read is the next one of `S`. -/
theorem nextFrame_standsAt {S : List DecodedRgbaFrame} {d d' : VideoDecoder} {p : Nat}
    {frame : DecodedFrame} (hEmits : d.script.Emits S p)
    (h : d.nextFrame = (.ok (some frame), d')) :
    StandsAt S p d' ∧ ∃ e, d'.current = some e ∧ e.rgba.frame = frame := by
  unfold VideoDecoder.nextFrame at h
  unfold Script.Emits at hEmits
  cases hPending : d.script.pending with
  | nil =>
      rw [hPending] at h
      cases hEnding : d.script.ending with
      | none => simp [Script.exhausted, hEnding] at h
      | some error => simp [Script.exhausted, hEnding] at h
  | cons e rest =>
      rw [hPending] at h hEmits
      cases h
      exact ⟨⟨⟨e, rfl, hEmits.position, hEmits.head⟩, hEmits.tail⟩, e, rfl, rfl⟩

/-- A snapshot of the current frame is that frame. -/
theorem snapshot_ok {d : VideoDecoder} {e : Emission} {frame : DecodedFrame}
    {rgba : DecodedRgbaFrame} (hCurrent : d.current = some e)
    (h : d.snapshotCurrentFrameRgba frame = .ok rgba) : rgba = e.rgba := by
  unfold VideoDecoder.snapshotCurrentFrameRgba at h
  rw [hCurrent] at h
  dsimp only at h
  split_ifs at h
  split at h
  · cases h
  · exact (Except.ok.inj h).symm

theorem seekToTimestampUs_ok {S : List DecodedRgbaFrame} {d d' : VideoDecoder} {us : Int}
    (hConforms : Conforms S d) (h : d.seekToTimestampUs us = .ok d') : ∃ p, d'.script.Emits S p := by
  unfold VideoDecoder.seekToTimestampUs at h
  split at h
  · cases h
  · rename_i script hSeek
    cases h
    obtain ⟨p, -, hEmits⟩ := hConforms.seeks us script hSeek
    exact ⟨p, hEmits⟩

/-! ## A faultless session

The session that reads `S` without a fault and whose seek to `t` lands at
`landing t`.
-/

/-- The emissions of `S` from position `p` on. -/
def emissionsFrom (p : Nat) : List DecodedRgbaFrame → List Emission
  | [] => []
  | f :: rest => ⟨p, f, none⟩ :: emissionsFrom (p + 1) rest

def faultlessScript (S : List DecodedRgbaFrame) (p : Nat) : Script :=
  ⟨emissionsFrom p (S.drop p), none⟩

def faultlessDecoder (S : List DecodedRgbaFrame) (stream : StreamInfo)
    (landing : Int → Nat) : VideoDecoder :=
  { stream := stream
    current := none
    script := faultlessScript S 0
    seekOutcome := fun t => .ok (faultlessScript S (landing t)) }

theorem faultlessScript_emits (S : List DecodedRgbaFrame) (p : Nat) :
    (faultlessScript S p).Emits S p := by
  have hDrop : ∀ (T : List DecodedRgbaFrame) (p : Nat), S.drop p = T →
      EmitsFrom S p (emissionsFrom p T) none := by
    intro T
    induction T with
    | nil =>
        intro p hT _
        exact List.drop_eq_nil_iff.1 hT
    | cons f rest ih =>
        intro p hT
        refine ⟨rfl, ?_, ih (p + 1) ?_⟩
        · have hget : (S.drop p)[0]? = some f := by rw [hT]; rfl
          simpa using hget
        · rw [← List.tail_drop, hT]
          rfl
  exact hDrop _ p rfl

/-- A read of the faultless session takes the frame at its position. -/
theorem faultlessScript_pending {S : List DecodedRgbaFrame} {p : Nat} {f : DecodedRgbaFrame}
    (h : S[p]? = some f) :
    (faultlessScript S p).pending = ⟨p, f, none⟩ :: (faultlessScript S (p + 1)).pending := by
  rw [List.getElem?_eq_some_iff] at h
  obtain ⟨hLt, hFrame⟩ := h
  unfold faultlessScript
  rw [List.drop_eq_getElem_cons hLt, hFrame]
  rfl

theorem faultlessScript_length (S : List DecodedRgbaFrame) (p : Nat) :
    (faultlessScript S p).pending.length = S.length - p := by
  have hLength : ∀ (T : List DecodedRgbaFrame) (p : Nat), (emissionsFrom p T).length = T.length := by
    intro T
    induction T with
    | nil => intro p; rfl
    | cons f rest ih => intro p; simp only [emissionsFrom, List.length_cons, ih]
  unfold faultlessScript
  rw [hLength, List.length_drop]

theorem faultlessDecoder_conforms (S : List DecodedRgbaFrame) (stream : StreamInfo)
    (landing : Int → Nat) (hLanding : ∀ t, landing t ≤ S.length) :
    Conforms S (faultlessDecoder S stream landing) where
  fresh := faultlessScript_emits S 0
  seeks := by
    intro t script h
    cases h
    exact ⟨landing t, hLanding t, faultlessScript_emits S (landing t)⟩

/-! ## Sample frames -/

/-- A one-pixel clean keyframe with presentation tick `ticks`. -/
def sampleFrame (ticks : Int) (shade : UInt8) : DecodedRgbaFrame where
  frame :=
    { streamIndex := 0
      presentationTimestamp := some ⟨ticks, sampleTimeBase⟩
      duration := none
      keyframe := true
      corrupt := false
      width := 1
      height := 1
      pixelFormat := none }
  strideBytes := 4
  pixels := [shade, shade, shade, 255]

end FrameScope.Ports.Decoder
