import FrameScope.Ports.Indexing

/-!
# The progress of an indexing operation

Port of `index_progress.rs`, and of the reading of its answer in
`MicroscopeIndexingProgress.kt`.  The states of the running operations are kept
in one table behind a lock: `begin` enters an operation, `update` gives it the
next event, `response_json` reads it, and dropping the operation removes it.

A clock reading is a number of nanoseconds.  The JSON answer is modelled by the
values it holds.
-/

namespace FrameScope.Ports.IndexProgress

open FrameScope.Ports.Core
open FrameScope.Ports.Indexing

/-! ## The table of operations -/

abbrev OperationId := Int

def maxActiveProgressOperations : Nat := 8

structure ProgressState where
  startedAt : Nat
  lastSampleAt : Nat
  sequence : Nat
  sampleElapsedMs : Nat
  sampleIntervalUs : Nat
  sampleFrameAdvance : Nat
  sampleFramesPerSecondMilli : Nat
  lastWorkAdvanceElapsedMs : Nat
  stage : String
  indexedFrames : Nat
  reusedFrames : Nat
  expectedReuseFrames : Nat
  firstTimestampUs : Option Int
  currentTimestampUs : Option Int
  maxPresentationTimestampUs : Option Int
  deriving DecidableEq, Repr

/-- `MICROSCOPE_INDEX_PROGRESS`. -/
abbrev ProgressStates := AList fun _ : OperationId => ProgressState

/-- A value as a `u64`, `u64::MAX` when it is larger. -/
def toU64 (value : Nat) : Nat := min value (2 ^ 64 - 1)

/-- `elapsed_ms(later.duration_since(earlier))`. -/
def elapsedMs (earlier later : Nat) : Nat := toU64 ((later - earlier) / 1000000)

/-- `elapsed_us(later.duration_since(earlier))`. -/
def elapsedUs (earlier later : Nat) : Nat := toU64 ((later - earlier) / 1000)

def framesPerSecondMilli (frames intervalUs : Nat) : Nat :=
  if frames = 0 ∨ intervalUs = 0 then 0
  else toU64 (min (frames * 1000000000) (2 ^ 128 - 1) / intervalUs)

def stageName : IndexingProgressStage → String
  | .checkingExistingIndex => "checking_existing_index"
  | .reusingExistingIndex => "reusing_existing_index"
  | .validatingExistingIndex => "validating_existing_index"
  | .rebuildingIndex => "rebuilding_index"
  | .indexing => "indexing"
  | .finalizing => "finalizing"

def ProgressState.new (startedAt : Nat) : ProgressState where
  startedAt := startedAt
  lastSampleAt := startedAt
  sequence := 0
  sampleElapsedMs := 0
  sampleIntervalUs := 0
  sampleFrameAdvance := 0
  sampleFramesPerSecondMilli := 0
  lastWorkAdvanceElapsedMs := 0
  stage := "probing_media"
  indexedFrames := 0
  reusedFrames := 0
  expectedReuseFrames := 0
  firstTimestampUs := none
  currentTimestampUs := none
  maxPresentationTimestampUs := none

/-- `begin`: the table with the operation in it. -/
def begin (states : ProgressStates) (operationId : OperationId) (now : Nat) :
    Option ProgressStates :=
  if operationId ≤ 0 then none
  else if maxActiveProgressOperations ≤ states.entries.length ∧ operationId ∉ states then none
  else some (states.insert operationId (.new now))

/-- Dropping a `ProgressOperation`. -/
def drop (states : ProgressStates) (operationId : OperationId) : ProgressStates :=
  states.erase operationId

/-! ## One event -/

namespace ProgressState

variable (state : ProgressState) (progress : IndexingProgress)

/-- A rebuild starts a new coverage attempt. -/
def forgetCoverage : ProgressState :=
  if progress.stage = .rebuildingIndex then
    { state with
      firstTimestampUs := none, currentTimestampUs := none, maxPresentationTimestampUs := none }
  else state

def frameAdvance : Nat :=
  match progress.stage with
  | .validatingExistingIndex => progress.reusedFrames - state.reusedFrames
  | .indexing => progress.indexedFrames - state.indexedFrames
  | _ => 0

/-- The sample of an event, without its coverage. -/
def sample (sampledAt : Nat) : ProgressState :=
  let sampleIntervalUs := elapsedUs state.lastSampleAt sampledAt
  { state.forgetCoverage progress with
    sequence := saturatingAddU64 state.sequence 1
    sampleElapsedMs := elapsedMs state.startedAt sampledAt
    sampleIntervalUs := sampleIntervalUs
    sampleFrameAdvance := state.frameAdvance progress
    sampleFramesPerSecondMilli :=
      framesPerSecondMilli (state.frameAdvance progress) sampleIntervalUs
    lastSampleAt := sampledAt
    stage := stageName progress.stage
    indexedFrames := progress.indexedFrames
    reusedFrames := progress.reusedFrames
    expectedReuseFrames := progress.expectedReuseFrames
    currentTimestampUs := progress.currentTimestampUs }

/-- The coverage with one more timestamp. -/
def cover : ProgressState :=
  match state.currentTimestampUs with
  | none => state
  | some timestampUs =>
      { state with
        firstTimestampUs := some (state.firstTimestampUs.elim timestampUs (min · timestampUs))
        maxPresentationTimestampUs :=
          some (state.maxPresentationTimestampUs.elim timestampUs (max · timestampUs)) }

def coverageAdvanced (previous current : Option Int) : Bool :=
  match previous, current with
  | some previous, some current => decide (previous < current)
  | none, some _ => true
  | _, _ => false

/-- `update` on the state of its operation. -/
def update (sampledAt : Nat) : ProgressState :=
  let next := (state.sample progress sampledAt).cover
  if state.indexedFrames < next.indexedFrames ∨ state.reusedFrames < next.reusedFrames ∨
      coverageAdvanced state.maxPresentationTimestampUs next.maxPresentationTimestampUs = true then
    { next with lastWorkAdvanceElapsedMs := elapsedMs state.startedAt sampledAt }
  else next

end ProgressState

def update (states : ProgressStates) (operationId : OperationId) (progress : IndexingProgress)
    (sampledAt : Nat) : ProgressStates :=
  match states.lookup operationId with
  | none => states
  | some state => states.insert operationId (state.update progress sampledAt)

/-! ## The answer -/

structure ProgressPayload where
  operationId : OperationId
  sequence : Nat
  stage : String
  indexedFrames : Nat
  reusedFrames : Nat
  expectedReuseFrames : Nat
  firstTimestampUs : Option Int
  currentTimestampUs : Option Int
  maxPresentationTimestampUs : Option Int
  sampleElapsedMs : Nat
  sampleIntervalUs : Nat
  sampleFrameAdvance : Nat
  sampleFramesPerSecondMilli : Nat
  lastWorkAdvanceElapsedMs : Nat
  operationElapsedMs : Nat
  elapsedMs : Nat
  deriving DecidableEq, Repr

def ProgressState.payload (state : ProgressState) (operationId : OperationId) (now : Nat) :
    ProgressPayload where
  operationId := operationId
  sequence := state.sequence
  stage := state.stage
  indexedFrames := state.indexedFrames
  reusedFrames := state.reusedFrames
  expectedReuseFrames := state.expectedReuseFrames
  firstTimestampUs := state.firstTimestampUs
  currentTimestampUs := state.currentTimestampUs
  maxPresentationTimestampUs := state.maxPresentationTimestampUs
  sampleElapsedMs := state.sampleElapsedMs
  sampleIntervalUs := state.sampleIntervalUs
  sampleFrameAdvance := state.sampleFrameAdvance
  sampleFramesPerSecondMilli := state.sampleFramesPerSecondMilli
  lastWorkAdvanceElapsedMs := state.lastWorkAdvanceElapsedMs
  operationElapsedMs := IndexProgress.elapsedMs state.startedAt now
  elapsedMs := IndexProgress.elapsedMs state.startedAt now

/-- `response_json`: the payload, or none while the operation is idle. -/
def responseJson (states : ProgressStates) (operationId : OperationId) (now : Nat) :
    Option ProgressPayload :=
  (states.lookup operationId).map (·.payload operationId now)

/-! ## What Android reads -/

inductive MicroscopeIndexingStage where
  | probingMedia
  | checkingExistingIndex
  | reusingExistingIndex
  | validatingExistingIndex
  | rebuildingIndex
  | indexing
  | finalizing
  deriving DecidableEq, Repr

def MicroscopeIndexingStage.wireName : MicroscopeIndexingStage → String
  | .probingMedia => "probing_media"
  | .checkingExistingIndex => "checking_existing_index"
  | .reusingExistingIndex => "reusing_existing_index"
  | .validatingExistingIndex => "validating_existing_index"
  | .rebuildingIndex => "rebuilding_index"
  | .indexing => "indexing"
  | .finalizing => "finalizing"

def MicroscopeIndexingStage.fromWireName (value : String) : Option MicroscopeIndexingStage :=
  [probingMedia, checkingExistingIndex, reusingExistingIndex, validatingExistingIndex,
    rebuildingIndex, indexing, finalizing].find? fun stage => stage.wireName = value

structure MicroscopeIndexingProgress where
  operationId : Int
  stage : MicroscopeIndexingStage
  indexedFrames : Int
  reusedFrames : Int
  expectedReuseFrames : Int
  firstTimestampUs : Option Int
  currentTimestampUs : Option Int
  elapsedMs : Int
  sequence : Int
  sampleElapsedMs : Int
  operationElapsedMs : Int
  lastWorkAdvanceElapsedMs : Int
  maxPresentationTimestampUs : Option Int
  telemetryAvailable : Bool
  deriving DecidableEq, Repr

/-- An order that holds when both values are there. -/
def orderedIfBoth (earlier later : Option Int) : Bool :=
  match earlier, later with
  | some earlier, some later => decide (earlier ≤ later)
  | _, _ => true

def MicroscopeIndexingProgress.isSane (progress : MicroscopeIndexingProgress) : Bool :=
  decide (0 < progress.operationId) && decide (0 ≤ progress.sequence) &&
    decide (0 ≤ progress.indexedFrames) && decide (0 ≤ progress.reusedFrames) &&
    decide (0 ≤ progress.expectedReuseFrames) &&
    decide (progress.reusedFrames ≤ max progress.indexedFrames progress.expectedReuseFrames) &&
    decide (0 ≤ progress.elapsedMs) && decide (0 ≤ progress.sampleElapsedMs) &&
    decide (progress.sampleElapsedMs ≤ progress.operationElapsedMs) &&
    (decide (0 ≤ progress.lastWorkAdvanceElapsedMs) &&
      decide (progress.lastWorkAdvanceElapsedMs ≤ progress.operationElapsedMs)) &&
    orderedIfBoth progress.firstTimestampUs progress.maxPresentationTimestampUs &&
    orderedIfBoth progress.currentTimestampUs progress.maxPresentationTimestampUs

/-- `JSONObject.getLong` of a number that is not negative: one that is too large
for a `Long` is read as a `Double`, whose `longValue` is `Long.MAX_VALUE`. -/
def getLong (value : Nat) : Int := (min value (2 ^ 63 - 1) : Nat)

/-- The values that `parseResponse` reads, for a stage that it knows. -/
def readProgress (payload : ProgressPayload) (stage : MicroscopeIndexingStage) :
    MicroscopeIndexingProgress where
  operationId := payload.operationId
  stage := stage
  indexedFrames := getLong payload.indexedFrames
  reusedFrames := getLong payload.reusedFrames
  expectedReuseFrames := getLong payload.expectedReuseFrames
  firstTimestampUs := payload.firstTimestampUs
  currentTimestampUs := payload.currentTimestampUs
  elapsedMs := getLong payload.operationElapsedMs
  sequence := getLong payload.sequence
  sampleElapsedMs := getLong payload.sampleElapsedMs
  operationElapsedMs := getLong payload.operationElapsedMs
  lastWorkAdvanceElapsedMs := getLong payload.lastWorkAdvanceElapsedMs
  maxPresentationTimestampUs := payload.maxPresentationTimestampUs
  telemetryAvailable := true

/-- `parseResponse` of an answer with a payload, none when it throws. -/
def parseResponse (payload : ProgressPayload) (expectedOperationId : OperationId) :
    Option MicroscopeIndexingProgress :=
  if payload.operationId ≠ expectedOperationId then none
  else
    match MicroscopeIndexingStage.fromWireName payload.stage with
    | none => none
    | some stage =>
        if (readProgress payload stage).isSane = true then some (readProgress payload stage) else none

/-! ## Calls in any order -/

/-- A call, made while the lock is held, at a clock reading. -/
inductive ProgressCall where
  | begin (operationId : OperationId)
  | update (operationId : OperationId) (progress : IndexingProgress)
  | responseJson (operationId : OperationId)
  | drop (operationId : OperationId)
  deriving DecidableEq, Repr

structure TimedCall where
  clock : Nat
  call : ProgressCall
  deriving DecidableEq, Repr

/-- A call that `begin` refuses leaves the table alone. -/
def step (states : ProgressStates) (timed : TimedCall) : ProgressStates :=
  match timed.call with
  | .begin operationId => (begin states operationId timed.clock).getD states
  | .update operationId progress => update states operationId progress timed.clock
  | .responseJson _ => states
  | .drop operationId => drop states operationId

end FrameScope.Ports.IndexProgress
