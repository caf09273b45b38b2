import FrameScope.Verified.Fallible
import FrameScope.Ports.Extraction
import FrameScope.Ports.FrameCache
import FrameScope.Ports.Decoder

/-!
# Batch extraction

Port of `framescope-extraction-video`.  One decoder executes a plan: it reaches
the first planned frame through the anchor of that frame when there is one, and
then decodes forward, reconciling every frame with its row and handing the
planned ones to the visitor.

The batch is a program on a state that the caller can observe: the frames
decoded so far, the polls of the cancellation flag, and whatever the visitor
changes.  `cancelled n` is the outcome of the `n`-th poll; any behaviour of the
flag over a run is such a sequence.  `handed` records the frames the visitor
was given and is read by no definition.
-/

namespace FrameScope.Ports.BatchExtraction

open FrameScope.Verified.Fallible
open FrameScope.Ports.Core
open FrameScope.Ports.Decoder
open FrameScope.Ports.FrameIndexModel
open FrameScope.Ports.SourceBinding
open FrameScope.Ports.FrameIndexStore
open FrameScope.Ports.FrameCache
open FrameScope.Ports.Extraction

structure ExtractedRgbaFrame where
  progress : ExtractionProgress
  indexEntry : FrameIndexEntry
  pixels : OwnedRgbaFrame
  deriving DecidableEq, Repr

structure BatchExtractionReport where
  selectedFrames : Nat
  decodedFrames : Nat
  usedKeyframeSeek : Bool
  fellBackToStreamStart : Bool
  deriving DecidableEq, Repr

inductive BatchExtractionFailure where
  | cancelled
  | decoder (error : FrameScopeError)
  | index (error : FrameIndexError)
  | frame (error : FrameCacheError)
  | incompleteIndex
  | invalidPlan (reason : String)
  | streamIdentityMismatch
  | timelineMismatch (frameId : Nat)
  | unexpectedEof
  | numericRange
  deriving DecidableEq, Repr

def BatchExtractionFailure.toText : BatchExtractionFailure → String
  | .cancelled => "batch extraction was cancelled"
  | .decoder error => "video decode failed: " ++ error.toText
  | .index error => "frame-index lookup failed: " ++ error.toText
  | .frame error => "source-quality RGBA validation failed: " ++ error.toText
  | .incompleteIndex => "batch extraction requires a complete frame index"
  | .invalidPlan reason => "extraction plan is invalid: " ++ reason
  | .streamIdentityMismatch =>
      "fresh decoder stream does not match the stream bound to the frame index"
  | .timelineMismatch frameId =>
      "decoded presentation timeline diverged at frame " ++ toString frameId
  | .unexpectedEof => "decoder reached EOF before the extraction plan completed"
  | .numericRange => "numeric overflow while advancing batch extraction"

inductive BatchExtractionError (E : Type) where
  | failure (error : BatchExtractionFailure)
  | visitor (error : E)
  deriving DecidableEq, Repr

/-- What a batch changes. -/
structure BatchState (σ : Type) where
  decodedFrames : Nat
  polls : Nat
  handed : List ExtractedRgbaFrame
  visitor : σ

/-- The state a batch starts in. -/
def BatchState.start {σ : Type} (visitor : σ) : BatchState σ := ⟨0, 0, [], visitor⟩

/-- `FnMut(ExtractedRgbaFrame) -> Result<(), E>`. -/
abbrev Visitor (E σ : Type) := ExtractedRgbaFrame → EStateM E σ Unit

abbrev Batch (σ : Type) := EStateM BatchExtractionFailure (BatchState σ)

/-! ## Checks -/

section Checks

variable (index : FrameIndex)

/-- `validate_plan`: the last identity that the plan selects. -/
def validatePlan (plan : ExtractionPlan) : Except BatchExtractionFailure Nat := do
  let status ← index.status.mapError .index
  ensure (status.lifecycle = .complete) .incompleteIndex
  let frameCount ← okOr status.frameCount
    (.invalidPlan "complete index is missing its frame count")
  ensure (plan.selectedCount ≠ 0) (.invalidPlan "selected frame count must be positive")
  ensure (plan.firstFrame ≤ plan.lastFrame) (.invalidPlan "first frame follows last frame")
  ensure (plan.lastFrame < frameCount)
    (.invalidPlan "plan extends beyond the complete frame index")
  let expectedCount ← okOr
    (checkedAddU64 ((plan.lastFrame - plan.firstFrame) / plan.strideFrames.get) 1) .numericRange
  ensure (expectedCount = plan.selectedCount)
    (.invalidPlan "selected frame count does not match plan bounds and stride")
  let selectedOffset ← okOr
    (checkedMulU64 (plan.selectedCount - 1) plan.strideFrames.get) .numericRange
  let lastSelected ← okOr (checkedAddU64 plan.firstFrame selectedOffset) .numericRange
  ensure (lastSelected ≤ plan.lastFrame) (.invalidPlan "last selected frame exceeds plan boundary")
  .ok lastSelected

/-- `validate_plan` accepts plans inside the index only. -/
theorem validatePlan_ok {index : FrameIndex} {plan : ExtractionPlan} {lastSelected : Nat}
    (h : validatePlan index plan = .ok lastSelected) :
    ∃ status frameCount, index.status = .ok status ∧ status.frameCount = some frameCount ∧
      ValidPlan frameCount plan lastSelected := by
  obtain ⟨status, hStatus, h⟩ := bind_eq_ok.1 h
  obtain ⟨_, -, h⟩ := bind_eq_ok.1 h
  obtain ⟨frameCount, hFrameCount, h⟩ := bind_eq_ok.1 h
  obtain ⟨_, hCount, h⟩ := bind_eq_ok.1 h
  obtain ⟨_, hOrder, h⟩ := bind_eq_ok.1 h
  obtain ⟨_, hWithin, h⟩ := bind_eq_ok.1 h
  obtain ⟨expected, hExpected, h⟩ := bind_eq_ok.1 h
  obtain ⟨_, hEqual, h⟩ := bind_eq_ok.1 h
  obtain ⟨offset, hOffset, h⟩ := bind_eq_ok.1 h
  obtain ⟨last, hLast, h⟩ := bind_eq_ok.1 h
  obtain ⟨_, hLe, h⟩ := bind_eq_ok.1 h
  cases h
  simp only [ensure_eq_ok, okOr_eq_ok, mapError_eq_ok, checkedAddU64_eq_some,
    checkedMulU64_eq_some] at *
  refine ⟨status, frameCount, hStatus, hFrameCount, ?_⟩
  refine ⟨Nat.pos_of_ne_zero hCount, ?_, hOrder, hWithin, ?_, hLe, ?_⟩
  · rw [← hEqual, hExpected.2]
  · rw [hLast.2, hOffset.2]
  · omega

/-- `open_checked_decoder` and `ensure_stream_identity`, at the `n`-th call of
the factory. -/
def openCheckedDecoder (opens : Opener) (n : Nat) :
    Except BatchExtractionFailure VideoDecoder := do
  let decoder ← (opens n).mapError .decoder
  let identity ← (FrameIndexStreamIdentity.fromStream decoder.stream).mapError .index
  ensure (identity = index.streamIdentity) .streamIdentityMismatch
  .ok decoder

/-- `index.entry(frame_id)?.ok_or(missing)?`. -/
def requireEntry (frameId : Nat) (missing : BatchExtractionFailure) :
    Except BatchExtractionFailure FrameIndexEntry := do
  let found ← (index.entry frameId).mapError .index
  okOr found missing

/-- `require_matching_entry`. -/
def requireMatchingEntry (frameId : Nat) (decoded : DecodedRgbaFrame) :
    Except BatchExtractionFailure FrameIndexEntry := do
  let entry ← requireEntry index frameId (.timelineMismatch frameId)
  ensure (matchesIndexEntry decoded.frame entry = true) (.timelineMismatch frameId)
  .ok entry

end Checks

/-- `next_frame_id`. -/
def nextFrameId (frameId : Nat) : Except BatchExtractionFailure Nat :=
  okOr (checkedAddU64 frameId 1) .numericRange

/-! ## Decoding -/

section Decoding

variable {σ : Type} (cancelled : Nat → Bool)

/-- One poll of the flag: `if is_cancelled() { return Err(Cancelled) }`. -/
def ensureNotCancelled : Batch σ Unit := do
  let s ← get
  set { s with polls := s.polls + 1 }
  if cancelled s.polls then throw .cancelled else pure ()

/-- `next_decoded`. -/
def nextDecoded (decoder : VideoDecoder) : Batch σ (DecodedRgbaFrame × VideoDecoder) := do
  ensureNotCancelled cancelled
  match decoder.nextFrame with
  | (.error error, _) => throw (.decoder error)
  | (.ok none, _) => throw .unexpectedEof
  | (.ok (some frame), decoder) =>
      let rgba ← ofExcept .decoder (decoder.snapshotCurrentFrameRgba frame)
      let s ← get
      let decodedFrames ← ofExcept id (okOr (checkedAddU64 s.decodedFrames 1) .numericRange)
      set { s with decodedFrames }
      return (rgba, decoder)

variable (index : FrameIndex)

/-- The second loop of `align_from_seek`, entered with a frame in hand that
should be the one of `current`; `align_from_start` reads its first frame and
then runs it from frame 0.  A session has finitely many frames left and each
round reads one, so the rounds never run out. -/
def alignOnward (first : Nat) :
    Nat → Nat → DecodedRgbaFrame → VideoDecoder → Batch σ (DecodedRgbaFrame × VideoDecoder)
  | rounds, current, decoded, decoder => do
      let _ ← ofExcept id (requireMatchingEntry index current decoded)
      if current = first then return (decoded, decoder)
      else
        let next ← ofExcept id (nextFrameId current)
        let (decoded, decoder) ← nextDecoded cancelled decoder
        match rounds with
        | 0 => throw .unexpectedEof
        | rounds + 1 => alignOnward first rounds next decoded decoder

/-- `align_from_start`. -/
def alignFromStart (decoder : VideoDecoder) (first : Nat) :
    Batch σ (DecodedRgbaFrame × VideoDecoder) := do
  let (decoded, decoder) ← nextDecoded cancelled decoder
  alignOnward cancelled index first decoder.script.pending.length 0 decoded decoder

/-- The first loop of `align_from_seek`: frames are passed over until one has
the metadata of the anchor. -/
def scanToAnchor (anchorEntry : FrameIndexEntry) :
    Nat → VideoDecoder → Batch σ (DecodedRgbaFrame × VideoDecoder)
  | rounds, decoder => do
      let (candidate, decoder) ← nextDecoded cancelled decoder
      if matchesIndexEntry candidate.frame anchorEntry then return (candidate, decoder)
      else match rounds with
        | 0 => throw .unexpectedEof
        | rounds + 1 => scanToAnchor anchorEntry rounds decoder

/-- `align_from_seek`. -/
def alignFromSeek (decoder : VideoDecoder) (anchor first : Nat) :
    Batch σ (DecodedRgbaFrame × VideoDecoder) := do
  let anchorEntry ← ofExcept id (requireEntry index anchor (.timelineMismatch anchor))
  let (decoded, decoder) ← scanToAnchor cancelled anchorEntry decoder.script.pending.length decoder
  alignOnward cancelled index first decoder.script.pending.length anchor decoded decoder

/-- A batch that stands at its first frame. -/
structure Aligned where
  decoded : DecodedRgbaFrame
  decoder : VideoDecoder
  usedKeyframeSeek : Bool
  fellBackToStreamStart : Bool

/-- Reach the first planned frame: through its anchor when that has a usable
timestamp, else from the start.  A seek that does not line up is given up for a
fresh decoder. -/
def alignFirst (opens : Opener) (firstEntry : FrameIndexEntry) (first : Nat) :
    Batch σ Aligned := do
  let decoder ← ofExcept id (openCheckedDecoder index opens 0)
  match anchorSeek firstEntry.anchor with
  | none =>
      let (decoded, decoder) ← alignFromStart cancelled index decoder first
      return ⟨decoded, decoder, false, false⟩
  | some (anchorId, timestampUs) =>
      let decoder ← ofExcept .decoder (decoder.seekToTimestampUs timestampUs)
      tryCatch
        (do
          let (decoded, decoder) ← alignFromSeek cancelled index decoder anchorId first
          return ⟨decoded, decoder, true, false⟩)
        fun
        | .timelineMismatch _ | .unexpectedEof => do
            let decoder ← ofExcept id (openCheckedDecoder index opens 1)
            let (decoded, decoder) ← alignFromStart cancelled index decoder first
            return ⟨decoded, decoder, true, true⟩
        | error => throw error

/-! ## Executing a plan -/

variable {E : Type} (plan : ExtractionPlan) (visitor : Visitor E σ)

/-- The visitor, on its own part of the state. -/
def runVisitor (frame : ExtractedRgbaFrame) :
    EStateM (BatchExtractionError E) (BatchState σ) Unit := fun s =>
  let s := { s with handed := s.handed ++ [frame] }
  match visitor frame s.visitor with
  | .ok () visitor => .ok () { s with visitor }
  | .error error visitor => .error (.visitor error) { s with visitor }

/-- Hand a planned frame to the visitor; the number of frames handed so far. -/
def deliver (current selectedFrames : Nat) (entry : FrameIndexEntry)
    (decoded : DecodedRgbaFrame) : EStateM (BatchExtractionError E) (BatchState σ) Nat := do
  (ensureNotCancelled cancelled).adaptExcept .failure
  let ordinal ← ofExcept .failure (okOr (checkedAddU64 selectedFrames 1) .numericRange)
  let pixels ← ofExcept (fun error => .failure (.frame error)) (ownedRgba decoded)
  runVisitor visitor
    { progress := { frameId := current, ordinal, total := plan.selectedCount }
      indexEntry := entry
      pixels }
  return ordinal

/-- Reconcile the frame of `current` with its row, and deliver it when the plan
selects it. -/
def visitCurrent (current selectedFrames : Nat) (decoded : DecodedRgbaFrame) :
    EStateM (BatchExtractionError E) (BatchState σ) Nat := do
  let entry ← ofExcept .failure (requireMatchingEntry index current decoded)
  if plan.contains current then
    deliver cancelled plan visitor current selectedFrames entry decoded
  else return selectedFrames

/-- The main loop, with the frame of `current` in hand. -/
def extractOnward (lastSelected : Nat) :
    Nat → Nat → Nat → DecodedRgbaFrame → VideoDecoder →
      EStateM (BatchExtractionError E) (BatchState σ) Nat
  | rounds, current, selectedFrames, decoded, decoder => do
      let selectedFrames ←
        visitCurrent cancelled index plan visitor current selectedFrames decoded
      if current = lastSelected then return selectedFrames
      else
        let next ← ofExcept .failure (nextFrameId current)
        let (decoded, decoder) ← (nextDecoded cancelled decoder).adaptExcept .failure
        match rounds with
        | 0 => throw (.failure .unexpectedEof)
        | rounds + 1 => extractOnward lastSelected rounds next selectedFrames decoded decoder

/-- `extract_rgba_plan`. -/
def extractRgbaPlan (opens : Opener) :
    EStateM (BatchExtractionError E) (BatchState σ) BatchExtractionReport := do
  let lastSelected ← ofExcept .failure (validatePlan index plan)
  let firstEntry ← ofExcept .failure
    (requireEntry index plan.firstFrame
      (.invalidPlan "first frame is absent from the complete index"))
  let aligned ←
    (alignFirst cancelled index opens firstEntry plan.firstFrame).adaptExcept .failure
  let selectedFrames ← extractOnward cancelled index plan visitor lastSelected
    aligned.decoder.script.pending.length plan.firstFrame 0 aligned.decoded aligned.decoder
  if selectedFrames ≠ plan.selectedCount then
    throw (.failure (.invalidPlan "selected frame count diverged during execution"))
  else
    let s ← get
    return {
      selectedFrames
      decodedFrames := s.decodedFrames
      usedKeyframeSeek := aligned.usedKeyframeSeek
      fellBackToStreamStart := aligned.fellBackToStreamStart }

end Decoding

end FrameScope.Ports.BatchExtraction
