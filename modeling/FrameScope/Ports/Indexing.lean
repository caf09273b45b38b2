import FrameScope.Ports.Decoder
import FrameScope.Ports.FrameIndexStore

/-!
# Building and resuming the frame index

Port of `framescope-video/src/indexing.rs`.  `buildOrResumeFrameIndex` takes
the index as it finds it and returns its result together with the index as it
leaves it, whether it succeeds or not.

The decode loop of one attempt is `runAttempt`, by recursion on the frames the
decoder still emits; one iteration of it is `indexFrame`.  The outer `loop`
makes at most three attempts: a bounded resume from a checkpoint, a replay from
the start of the stream, and one rebuild.  They are `buildFrom`, `reconcile`
and `rebuild`.

Wall-clock measurements are left out; every other counter, every progress event
and every field of the report is there.
-/

namespace FrameScope.Ports.Indexing

open FrameScope.Ports.Core
open FrameScope.Ports.Decoder
open FrameScope.Ports.FrameIndexModel
open FrameScope.Ports.SourceBinding
open FrameScope.Ports.FrameIndexStore

def defaultBatchSize : Nat := 256
def progressFrameInterval : Nat := 64
def reconciliationChunkSize : Nat := 1024
def resumeOverlapFrames : Nat := 32
def maxResumeOverlapFrames : Nat := 4096
def resumeSeekScanLimit : Nat := 4096

/-! ## Options, errors, progress and report -/

inductive IndexingError where
  | decoder (error : FrameScopeError)
  | storage (error : FrameIndexError)
  | invalidConfiguration (detail : String)
  | streamIdentityMismatch
  | partialIndexMismatch
  deriving DecidableEq, Repr

def IndexingError.toText : IndexingError → String
  | .decoder error => "video decoding failed while building frame index: " ++ error.toText
  | .storage error => "frame-index persistence failed: " ++ error.toText
  | .invalidConfiguration detail => "frame-index configuration is invalid: " ++ detail
  | .streamIdentityMismatch =>
      "fresh decoder stream does not match the stream bound to the persistent index"
  | .partialIndexMismatch => "partial index could not be reconciled with a fresh decode"

/-- `IndexingOptions`, whose constructors refuse an empty batch. -/
@[ext] structure IndexingOptions where
  batchSize : Nat
  positive : 0 < batchSize
  deriving Repr

instance : DecidableEq IndexingOptions := fun _ _ =>
  decidable_of_iff _ IndexingOptions.ext_iff.symm

def IndexingOptions.default : IndexingOptions := ⟨defaultBatchSize, by decide⟩

/-- `IndexingOptions::with_batch_size`. -/
def IndexingOptions.withBatchSize (batchSize : Nat) : Except IndexingError IndexingOptions :=
  if h : 0 < batchSize then .ok ⟨batchSize, h⟩
  else .error (.invalidConfiguration "frame-index batch size must be greater than zero")

inductive IndexingProgressStage where
  | checkingExistingIndex
  | reusingExistingIndex
  | validatingExistingIndex
  | rebuildingIndex
  | indexing
  | finalizing
  deriving DecidableEq, Repr

structure IndexingProgress where
  stage : IndexingProgressStage
  indexedFrames : Nat
  reusedFrames : Nat
  expectedReuseFrames : Nat
  currentTimestampUs : Option Int
  deriving DecidableEq, Repr

structure IndexingCounters where
  decoderOpenCount : Nat
  framesDecoded : Nat
  validationFramesReplayed : Nat
  reconciliationRangeQueries : Nat
  sqliteRowsInserted : Nat
  batchCommits : Nat
  boundedResumeAttempted : Bool
  boundedResumeSucceeded : Bool
  boundedResumeFellBack : Bool
  resumeCheckpointFrameId : Option Nat
  resumeSeekScanFrames : Nat
  deriving DecidableEq, Repr

def IndexingCounters.default : IndexingCounters :=
  ⟨0, 0, 0, 0, 0, 0, false, false, false, none, 0⟩

structure IndexingReport where
  status : FrameIndexStatus
  reusedExistingFrames : Nat
  newlyIndexedFrames : Nat
  restartedAfterPartialMismatch : Bool
  maxPendingEntries : Nat
  counters : IndexingCounters
  deriving DecidableEq, Repr

/-- What outlives an attempt: the index, the counters, the progress events
published so far, and the largest batch held. -/
structure Session where
  index : FrameIndex
  counters : IndexingCounters
  progress : List IndexingProgress
  maxPending : Nat
  deriving DecidableEq, Repr

def Session.emit (session : Session) (event : IndexingProgress) : Session :=
  { session with progress := session.progress ++ [event] }

def Session.count (session : Session) (f : IndexingCounters → IndexingCounters) : Session :=
  { session with counters := f session.counters }

/-- `let _ = index.mark_…`: the outcome of a mark is ignored. -/
def Session.mark (session : Session)
    (mark : FrameIndex → Except FrameIndexError FrameIndex) : Session :=
  match mark session.index with
  | .ok index => { session with index := index }
  | .error _ => session

/-! ## One attempt -/

/-- The variables of one attempt. -/
structure Attempt where
  session : Session
  frameId : Nat
  reused : Nat
  anchor : KeyframeAnchor
  batch : List FrameIndexEntry
  persistedChunk : List FrameIndexEntry
  added : Nat
  lastTimestampUs : Option Int
  deriving DecidableEq, Repr

/-- How an attempt ends: the index did not reconcile (`break`), or the call
returns. -/
inductive AttemptOutcome where
  | broke (session : Session)
  | finished (report : IndexingReport) (session : Session)
  | failed (error : IndexingError) (session : Session)
  deriving DecidableEq, Repr

/-- How one iteration of the decode loop ends. -/
inductive FrameOutcome where
  | next (attempt : Attempt)
  | broke (session : Session)
  | failed (error : IndexingError) (session : Session)
  deriving DecidableEq, Repr

section Build

variable [ContentHash]

/-- The session after a committed batch. -/
def Session.committed (session : Session) (index : FrameIndex) (count : Nat) : Session :=
  { session with index := index }.count fun c =>
    { c with
      sqliteRowsInserted := saturatingAddU64 c.sqliteRowsInserted count
      batchCommits := saturatingAddU64 c.batchCommits 1 }

/-- `flush_batch`. -/
def flushBatch (attempt : Attempt) : Except IndexingError Unit × Attempt :=
  if attempt.batch.isEmpty then (.ok (), attempt)
  else match attempt.session.index.appendBatch attempt.batch with
    | .ok index =>
        let count := attempt.batch.length
        (.ok (), { attempt with
          session := attempt.session.committed index count
          batch := []
          added := saturatingAddU64 attempt.added count })
    | .error error =>
        let session := attempt.session.mark (·.markFailedRecoverable error.toText)
        (.error (.storage error), { attempt with session := session })

/-- `load_reconciliation_chunk`. -/
def loadReconciliationChunk (session : Session) (start expectedExisting : Nat) :
    Except IndexingError (List FrameIndexEntry) × Session :=
  let remaining := expectedExisting - start
  let chunkLen := min remaining reconciliationChunkSize
  match checkedAddU64 start chunkLen with
  | none => (.error (.storage (.invalidState "frame id overflow")), session)
  | some last =>
      let session' := session.count fun c =>
        { c with reconciliationRangeQueries :=
            saturatingAddU64 c.reconciliationRangeQueries 1 }
      match session.index.visitRange start last with
      | .error error => (.error (.storage error), session')
      | .ok entries => (.ok entries, session')

/-- The chunk of persisted rows, loaded when the last one is used up. -/
def refillChunk (expectedExisting : Nat) (attempt : Attempt) :
    Except IndexingError (List FrameIndexEntry) × Session :=
  let session := attempt.session.count fun c =>
    { c with validationFramesReplayed := saturatingAddU64 c.validationFramesReplayed 1 }
  if attempt.persistedChunk.isEmpty then
    loadReconciliationChunk session attempt.frameId expectedExisting
  else (.ok attempt.persistedChunk, session)

/-- The comparison of one decoded frame with the persisted row of its identity. -/
def reconcileFrame (expectedExisting : Nat) (attempt : Attempt) (entry : FrameIndexEntry) :
    FrameOutcome :=
  match refillChunk expectedExisting attempt with
  | (.error error, session) => .failed error session
  | (.ok [], session) => .broke session
  | (.ok (existing :: chunk), session) =>
      if existing.frameId = attempt.frameId ∧ existing = entry then
        .next { attempt with
          session := session
          reused := saturatingAddU64 attempt.reused 1
          persistedChunk := chunk }
      else .broke session

/-- A bounded resume has succeeded once it reaches the saved boundary. -/
def Session.noteBoundary (session : Session) (boundedActive : Bool)
    (reused expectedExisting : Nat) : Session :=
  if boundedActive ∧ reused = expectedExisting then
    session.count fun c => { c with boundedResumeSucceeded := true }
  else session

/-- The attempt with one more entry in its batch. -/
def Attempt.push (attempt : Attempt) (boundedActive : Bool) (expectedExisting : Nat)
    (entry : FrameIndexEntry) : Attempt :=
  let session := attempt.session.noteBoundary boundedActive attempt.reused expectedExisting
  let batch := attempt.batch ++ [entry]
  { attempt with
    session := { session with maxPending := max session.maxPending batch.length }
    batch := batch }

/-- The append of one decoded frame that is not yet in the index. -/
def enqueueFrame (options : IndexingOptions) (boundedActive : Bool) (expectedExisting : Nat)
    (attempt : Attempt) (entry : FrameIndexEntry) : FrameOutcome :=
  let attempt := attempt.push boundedActive expectedExisting entry
  if options.batchSize ≤ attempt.batch.length then
    match flushBatch attempt with
    | (.ok (), attempt) => .next attempt
    | (.error error, attempt) => .failed error attempt.session
  else .next attempt

/-- The progress event after a frame, when one is due. -/
def Attempt.reportFrame (attempt : Attempt) (expectedExisting : Nat) : Attempt :=
  let processed := saturatingAddU64 attempt.frameId 1
  let validating := decide (processed ≤ expectedExisting)
  if processed = 1 ∨ processed = expectedExisting ∨
      processed = saturatingAddU64 expectedExisting 1 ∨
      processed % progressFrameInterval = 0 then
    let session := attempt.session.emit
      { stage := if validating then .validatingExistingIndex else .indexing
        indexedFrames :=
          if validating then expectedExisting
          else saturatingAddU64 (saturatingAddU64 attempt.reused attempt.added)
            attempt.batch.length
        reusedFrames := attempt.reused
        expectedReuseFrames := expectedExisting
        currentTimestampUs := attempt.lastTimestampUs }
    { attempt with session := session }
  else attempt

/-- The last part of an iteration: the progress event and the next identity. -/
def Attempt.advance (attempt : Attempt) (expectedExisting : Nat) : FrameOutcome :=
  let attempt := attempt.reportFrame expectedExisting
  match checkedAddU64 attempt.frameId 1 with
  | none => .failed (.storage (.invalidState "frame id overflow")) attempt.session
  | some frameId => .next { attempt with frameId := frameId }

/-- The attempt with the bookkeeping of a decoded frame: `entry_from_decoded`
also moves the anchor. -/
def Attempt.observe (attempt : Attempt) (decoded : DecodedFrame) : Attempt :=
  { attempt with
    session := attempt.session.count fun c =>
      { c with framesDecoded := saturatingAddU64 c.framesDecoded 1 }
    anchor := nextAnchor attempt.frameId decoded attempt.anchor
    lastTimestampUs := decoded.timestampUs }

/-- One iteration of the decode loop, for a decoded frame. -/
def indexFrame (options : IndexingOptions) (boundedActive : Bool) (expectedExisting : Nat)
    (attempt : Attempt) (decoded : DecodedFrame) : FrameOutcome :=
  let entry := entryFromDecoded attempt.frameId decoded attempt.anchor
  let attempt := attempt.observe decoded
  match entry.validate attempt.session.index.streamIdentity with
  | .error error => .failed (.storage error) attempt.session
  | .ok () =>
      let outcome :=
        if attempt.frameId < expectedExisting then reconcileFrame expectedExisting attempt entry
        else enqueueFrame options boundedActive expectedExisting attempt entry
      match outcome with
      | .broke session => .broke session
      | .failed error session => .failed error session
      | .next attempt => attempt.advance expectedExisting

/-- The end of the stream. -/
def finishAttempt (boundedActive restarted : Bool) (expectedExisting : Nat)
    (attempt : Attempt) : AttemptOutcome :=
  if attempt.frameId < expectedExisting then .broke attempt.session
  else
    let session := attempt.session.noteBoundary boundedActive attempt.reused expectedExisting
    match flushBatch { attempt with session := session } with
    | (.error error, attempt) => .failed error attempt.session
    | (.ok (), attempt) =>
        let session := attempt.session.emit
          { stage := .finalizing
            indexedFrames := saturatingAddU64 attempt.reused attempt.added
            reusedFrames := attempt.reused
            expectedReuseFrames := expectedExisting
            currentTimestampUs := attempt.lastTimestampUs }
        match session.index.markComplete with
        | .error error => .failed (.storage error) session
        | .ok index =>
            let session := { session with index := index }
            match index.status with
            | .error error => .failed (.storage error) session
            | .ok status => .finished
                { status := status
                  reusedExistingFrames := attempt.reused
                  newlyIndexedFrames := attempt.added
                  restartedAfterPartialMismatch := restarted
                  maxPendingEntries := session.maxPending
                  counters := session.counters } session

/-- A decoder error, of which cancellation is one. -/
def abandonAttempt (attempt : Attempt) (error : FrameScopeError) : AttemptOutcome :=
  if error = .cancelled then
    match flushBatch attempt with
    | (.error storage, attempt) => .failed storage attempt.session
    | (.ok (), attempt) =>
        .failed (.decoder .cancelled)
          (attempt.session.mark (·.markIncomplete (some "cancelled")))
  else
    match flushBatch attempt with
    | (.error storage, attempt) =>
        .failed storage (attempt.session.mark (·.markFailedRecoverable storage.toText))
    | (.ok (), attempt) =>
        .failed (.decoder error)
          (attempt.session.mark (·.markFailedRecoverable error.toText))

/-- The decode loop of one attempt, over the frames the decoder emits. -/
def runAttempt (options : IndexingOptions) (boundedActive restarted : Bool)
    (expectedExisting : Nat) (ending : Option FrameScopeError) :
    List DecodedFrame → Attempt → AttemptOutcome
  | [], attempt =>
      match ending with
      | none => finishAttempt boundedActive restarted expectedExisting attempt
      | some error => abandonAttempt attempt error
  | decoded :: rest, attempt =>
      match indexFrame options boundedActive expectedExisting attempt decoded with
      | .next attempt =>
          runAttempt options boundedActive restarted expectedExisting ending rest attempt
      | .broke session => .broke session
      | .failed error session => .failed error session

/-- An attempt from `mark_building` on. -/
def beginAttempt (options : IndexingOptions) (boundedActive restarted : Bool)
    (expectedExisting start : Nat) (frames : List DecodedFrame)
    (ending : Option FrameScopeError) (session : Session) : AttemptOutcome :=
  match session.index.markBuilding with
  | .error error => .failed (.storage error) session
  | .ok index =>
      let session := { session with index := index }
      let session := session.emit
        (if 0 < expectedExisting then
          { stage := .validatingExistingIndex
            indexedFrames := expectedExisting
            reusedFrames := start
            expectedReuseFrames := expectedExisting
            currentTimestampUs := none }
        else
          { stage := .indexing
            indexedFrames := 0
            reusedFrames := 0
            expectedReuseFrames := 0
            currentTimestampUs := none })
      runAttempt options boundedActive restarted expectedExisting ending frames
        { session := session
          frameId := start
          reused := start
          anchor := .streamStart
          batch := []
          persistedChunk := []
          added := 0
          lastTimestampUs := none }

/-! ## Decoders and checkpoints -/

/-- `open_checked_decoder`. -/
def openCheckedDecoder (opens : Opener) (session : Session) :
    Except IndexingError VideoDecoder × Session :=
  let opened := opens session.counters.decoderOpenCount
  let session := session.count fun c =>
    { c with decoderOpenCount := saturatingAddU64 c.decoderOpenCount 1 }
  match opened with
  | .error error =>
      (.error (.decoder error), session.mark (·.markFailedRecoverable error.toText))
  | .ok decoder =>
      match FrameIndexStreamIdentity.fromStream decoder.stream with
      | .error error => (.error (.storage error), session)
      | .ok actual =>
          if actual ≠ session.index.streamIdentity then
            (.error .streamIdentityMismatch,
              session.mark (·.markFailedRecoverable "selected stream identity changed"))
          else (.ok decoder, session)

/-- The timestamp a seek to `t` asks for, when it is one a seek can ask for. -/
def seekTimestampUs (t : MediaTimestamp) : Option Int :=
  t.toMicroseconds.filter (decide <| 0 ≤ ·)

/-- `select_resume_checkpoint`. -/
def selectResumeCheckpoint (index : FrameIndex) (expectedExisting : Nat) :
    Except FrameIndexError (Option (Nat × MediaTimestamp)) :=
  if expectedExisting = 0 then .ok none
  else do
    let safety ← index.timestampSeekSafety
    if safety.permitsTimestampSeek = false then .ok none
    else do
      match ← index.entry (expectedExisting - resumeOverlapFrames) with
      | none => .ok none
      | some probe =>
          match probe.anchor with
          | .keyframe id (some timestamp) =>
              if id = 0 ∨ expectedExisting ≤ id then .ok none
              else if expectedExisting - id > maxResumeOverlapFrames then .ok none
              else if (seekTimestampUs timestamp).isNone then .ok none
              else .ok (some (id, timestamp))
          | _ => .ok none

structure BoundedResumeStart where
  decoder : VideoDecoder
  checkpointFrameId : Nat
  checkpointFrame : DecodedFrame

def Session.fallBack (session : Session) : Session :=
  session.count fun c => { c with boundedResumeFellBack := true }

/-- The scan from the landing point of a seek to the checkpoint: the matching
frame and the frames after it. -/
def scanToCheckpoint (checkpoint : FrameIndexEntry) (ending : Option FrameScopeError) :
    Nat → List Emission → Session →
      Except IndexingError (Option (Emission × List Emission)) × Session
  | 0, _, session => (.ok none, session.fallBack)
  | _ + 1, [], session =>
      match ending with
      | some .cancelled =>
          (.error (.decoder .cancelled), session.mark (·.markIncomplete (some "cancelled")))
      | _ => (.ok none, session.fallBack)
  | limit + 1, e :: rest, session =>
      let session := session.count fun c =>
        { c with resumeSeekScanFrames := saturatingAddU64 c.resumeSeekScanFrames 1 }
      if matchesIndexEntry e.rgba.frame checkpoint then (.ok (some (e, rest)), session)
      else
        scanToCheckpoint checkpoint ending limit rest (session.count fun c =>
          { c with framesDecoded := saturatingAddU64 c.framesDecoded 1 })

/-- The row a bounded resume starts from, with its identity and timestamp. -/
def resumeCheckpoint (index : FrameIndex) (expectedExisting : Nat) :
    Except FrameIndexError (Option (FrameIndexEntry × Nat × Int)) := do
  match ← selectResumeCheckpoint index expectedExisting with
  | none => .ok none
  | some (id, timestamp) =>
      match ← index.entry id with
      | none => .ok none
      | some checkpoint =>
          if checkpoint.keyframe = false ∨ checkpoint.corrupt = true ∨
              checkpoint.presentationTimestamp ≠ some timestamp then .ok none
          else .ok ((seekTimestampUs timestamp).map fun us => (checkpoint, id, us))

/-- `try_open_bounded_resume`. -/
def tryOpenBoundedResume (opens : Opener) (expectedExisting : Nat) (session : Session) :
    Except IndexingError (Option BoundedResumeStart) × Session :=
  match resumeCheckpoint session.index expectedExisting with
  | .error error => (.error (.storage error), session)
  | .ok none => (.ok none, session)
  | .ok (some (checkpoint, id, timestampUs)) =>
      let session := session.count fun c =>
        { c with boundedResumeAttempted := true, resumeCheckpointFrameId := some id }
      match openCheckedDecoder opens session with
      | (.error error, session) => (.error error, session)
      | (.ok decoder, session) =>
          match decoder.seekToTimestampUs timestampUs with
          | .error .cancelled =>
              (.error (.decoder .cancelled), session.mark (·.markIncomplete (some "cancelled")))
          | .error _ => (.ok none, session.fallBack)
          | .ok decoder =>
              match scanToCheckpoint checkpoint decoder.script.ending resumeSeekScanLimit
                  decoder.script.pending session with
              | (.error error, session) => (.error error, session)
              | (.ok none, session) => (.ok none, session)
              | (.ok (some (e, rest)), session) =>
                  (.ok (some
                    { decoder := { decoder with
                        current := some e
                        script := { decoder.script with pending := rest } }
                      checkpointFrameId := id
                      checkpointFrame := e.rgba.frame }), session)

/-! ## The attempts of one call -/

/-- The frames `next_frame` still returns. -/
def remainingFrames (decoder : VideoDecoder) : List DecodedFrame :=
  decoder.script.pending.map (·.rgba.frame)

/-- An attempt from the start of the stream. -/
def replay (options : IndexingOptions) (opens : Opener) (restarted : Bool)
    (expectedExisting : Nat) (session : Session) : AttemptOutcome :=
  match openCheckedDecoder opens session with
  | (.error error, session) => .failed error session
  | (.ok decoder, session) =>
      beginAttempt options false restarted expectedExisting 0 (remainingFrames decoder)
        decoder.script.ending session

/-- What the call returns. -/
abbrev BuildResult := Except IndexingError IndexingReport × Session

def partialIndexMismatch (session : Session) : BuildResult :=
  (.error .partialIndexMismatch,
    session.mark (·.markFailedRecoverable "partial index reconciliation failed"))

/-- The rebuild after a mismatch. -/
def rebuild (options : IndexingOptions) (opens : Opener) (session : Session) : BuildResult :=
  let session := session.emit ⟨.rebuildingIndex, 0, 0, 0, none⟩
  let session := { session with index := session.index.clearForRebuild }
  match replay options opens true 0 session with
  | .finished report session => (.ok report, session)
  | .failed error session => (.error error, session)
  | .broke session => partialIndexMismatch session

/-- The full replay, and the rebuild when it does not reconcile. -/
def reconcile (options : IndexingOptions) (opens : Opener) (expectedExisting : Nat)
    (session : Session) : BuildResult :=
  match replay options opens false expectedExisting session with
  | .finished report session => (.ok report, session)
  | .failed error session => (.error error, session)
  | .broke session =>
      if 0 < expectedExisting then rebuild options opens session
      else partialIndexMismatch session

/-- The bounded resume, and the full replay when it is not possible or does not
reconcile. -/
def buildFrom (options : IndexingOptions) (opens : Opener) (expectedExisting : Nat)
    (session : Session) : BuildResult :=
  let (start, session) :=
    if 0 < expectedExisting then tryOpenBoundedResume opens expectedExisting session
    else (.ok none, session)
  match start with
  | .error error => (.error error, session)
  | .ok none => reconcile options opens expectedExisting session
  | .ok (some start) =>
      match beginAttempt options true false expectedExisting start.checkpointFrameId
          (start.checkpointFrame :: remainingFrames start.decoder)
          start.decoder.script.ending session with
      | .finished report session => (.ok report, session)
      | .failed error session => (.error error, session)
      | .broke session =>
          reconcile options opens expectedExisting (session.count fun c =>
            { c with boundedResumeSucceeded := false, boundedResumeFellBack := true })

/-- `build_or_resume_frame_index`. -/
def buildOrResumeFrameIndex (options : IndexingOptions) (opens : Opener)
    (index : FrameIndex) : BuildResult :=
  let session : Session := ⟨index, .default, [], 0⟩
  if options.batchSize = 0 then
    (.error (.invalidConfiguration "frame-index batch size must be greater than zero"), session)
  else match index.status with
    | .error error => (.error (.storage error), session)
    | .ok initial =>
        let timestampUs := initial.lastPresentationTimestamp.bind MediaTimestamp.toMicroseconds
        let session := session.emit
          ⟨.checkingExistingIndex, initial.indexedFrames, 0, initial.indexedFrames, timestampUs⟩
        if initial.lifecycle = .complete then
          let session := session.emit ⟨.reusingExistingIndex, initial.indexedFrames,
            initial.indexedFrames, initial.indexedFrames, timestampUs⟩
          let session := session.emit ⟨.finalizing, initial.indexedFrames,
            initial.indexedFrames, initial.indexedFrames, timestampUs⟩
          (.ok ⟨initial, 0, 0, false, 0, session.counters⟩, session)
        else buildFrom options opens initial.indexedFrames session

end Build

end FrameScope.Ports.Indexing
