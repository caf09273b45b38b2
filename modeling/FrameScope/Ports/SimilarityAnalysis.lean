import FrameScope.Verified.DerivedFile
import FrameScope.Ports.FrameIndexStore
import FrameScope.Ports.Grouping
import FrameScope.Ports.SimilarityStore
import FrameScope.Ports.GlobalStore

/-!
# Similarity analysis

Port of the entry points of `framescope-group-navigation`: the groups of a
source, the global store of its descriptors from the frame index, and the same
store from a timeline that the caller hands out, with a query.

Each call looks at what a former call left at the path of its result, and
builds the result anew when the store refuses it.  A call acts on the two files
of its path; the paths of different policies, and that of the global store, are
different files.

The session around the hybrid grouper counts frames and holds a cancellation
token that no caller can reach; only the grouper is modelled.
-/

namespace FrameScope.Ports.SimilarityAnalysis

open FrameScope.Verified.Fallible
open FrameScope.Verified.DerivedFile
open FrameScope.Ports.Core
open FrameScope.Ports.FrameIndexModel
open FrameScope.Ports.FrameIndexStore (FrameIndex)
open FrameScope.Ports.FrameCache (OwnedRgbaFrame)
open FrameScope.Ports.GroupNavigation (FrameGroup GroupNavigationError)
open FrameScope.Ports.Perceptual (HybridSimilarityPolicy)
open FrameScope.Ports.Grouping (HybridGroupingError HybridFrameGrouper)
open FrameScope.Ports.SimilarityStore (KeyJson SimilarityStoreKey SimilarityStoreLoad
  SimilarityStoreError SimilarityStoreWriter StoreKeyError StoreFile
  similarityStoreSchemaVersion)
open FrameScope.Ports.GlobalDescriptors (GlobalSimilarityError GlobalDescriptor descriptorForFrame)
open FrameScope.Ports.GlobalStore (GlobalDatabase GlobalSimilarityStoreKey
  GlobalSimilarityStoreLoad GlobalSimilarityStoreWriter GlobalSimilarityPolicy
  GlobalSimilarityQuery)

/-! ## What a caller brings -/

structure IndexedRgbaFrame where
  frameId : Nat
  presentationTimestamp : Option MediaTimestamp
  duration : Option MediaDuration
  keyframe : Bool
  corrupt : Bool
  pixels : OwnedRgbaFrame
  deriving DecidableEq, Repr

structure SimilaritySourceError where
  code : String
  message : String
  deriving DecidableEq, Repr

/-- The places where a call asks whether it is cancelled. -/
inductive CancelPoint where
  | beforeOpen
  | beforeRead (frame : Nat)
  | afterRead (frame : Nat)
  | beforeTail
  | beforeFinish
  | beforeQuery
  deriving DecidableEq, Repr

/-- The source factory, the answer of each `next_frame` by its number, and what
`is_cancelled` answers at each place. -/
structure Caller where
  openSource : Except SimilaritySourceError Unit
  nextFrame : Nat → Except SimilaritySourceError (Option IndexedRgbaFrame)
  isCancelled : CancelPoint → Bool

section Steps

variable {ε σ : Type}

/-- `if is_cancelled() { return Err(Cancelled) }`. -/
def checkCancelled (caller : Caller) (point : CancelPoint) (cancelled : ε) : EStateM ε σ Unit :=
  if caller.isCancelled point then throw cancelled else pure ()

end Steps

/-- `validate_source_frame`, with the text of the mismatch.  The three modules
have the same one. -/
def validateSourceFrame (stream : FrameIndexStreamIdentity) (entry : FrameIndexEntry)
    (source : IndexedRgbaFrame) : Except String Unit := do
  ensure (source.frameId = entry.frameId ∧
      source.presentationTimestamp = entry.presentationTimestamp ∧
      source.duration = entry.duration ∧ source.keyframe = entry.keyframe ∧
      source.corrupt = entry.corrupt)
    ("source frame " ++ toString source.frameId ++ " does not match authoritative index frame " ++
      toString entry.frameId)
  ensure ((stream.width.all fun width => width == source.pixels.width) = true ∧
      (stream.height.all fun height => height == source.pixels.height) = true)
    ("source frame " ++ toString source.frameId ++ " dimensions " ++
      toString source.pixels.width ++ "x" ++ toString source.pixels.height ++
      " do not match indexed stream dimensions")

/-! ## Groups -/

/-- The errors of `open_or_build_group_navigation`; `navigation` holds the
variants that the navigator shares. -/
inductive GroupAnalysisError where
  | unsafeSourceIdentity
  | incompleteIndex
  | cancelled
  | source (error : SimilaritySourceError)
  | index (error : FrameIndexError)
  | storeKey (error : StoreKeyError)
  | store (error : SimilarityStoreError)
  | grouping (error : HybridGroupingError)
  | timelineMismatch (detail : String)
  | navigation (error : GroupNavigationError)
  | cannotOpen
  | sqlite (error : SimilarityStore.SqliteError)
  deriving DecidableEq, Repr

/-- The path of the groups under one policy. -/
abbrev GroupFiles := Files StoreFile

/-- A navigator: its connection reads the file that it was opened on. -/
structure OpenNavigator where
  connection : SimilarityStore.Database
  groupCount : Nat
  policy : HybridSimilarityPolicy
  deriving DecidableEq

structure SimilarityAnalysisSummary where
  groupCount : Nat
  disposition : Disposition
  policy : HybridSimilarityPolicy
  deriving DecidableEq, Repr

structure SimilarityGroupAnalysis where
  summary : SimilarityAnalysisSummary
  navigator : OpenNavigator
  deriving DecidableEq

section Groups

variable [KeyJson]

/-- `visit_groups_for_frame_count`, with the removal of a file it refuses. -/
def visitGroups (key : SimilarityStoreKey) (frameCount : Nat) :
    EStateM GroupAnalysisError GroupFiles SimilarityStoreLoad := do
  let files ← get
  let visit := SimilarityStore.visitGroupsForFrameCount files.visible key frameCount
  if visit.purges then set ({ files with visible := .missing } : GroupFiles)
  ofExcept .store visit.outcome

/-- `begin`: whatever stands beside the path is replaced. -/
def beginGroups (key : SimilarityStoreKey) :
    EStateM GroupAnalysisError GroupFiles SimilarityStoreWriter := do
  let writer ← ofExcept .store (SimilarityStore.begin key)
  modify fun files => { files with building := .database writer.database }
  pure writer

/-- `append` of a group that the grouper has completed. -/
def appendCompleted (writer : SimilarityStoreWriter) (completed : Option FrameGroup) :
    EStateM GroupAnalysisError GroupFiles SimilarityStoreWriter :=
  match completed with
  | none => pure writer
  | some group => do
      let writer ← ofExcept .store (writer.append group)
      modify fun files => { files with building := .database writer.database }
      pure writer

/-- `finish`: the file beside the path takes its place. -/
def finishGroups (writer : SimilarityStoreWriter) :
    EStateM GroupAnalysisError GroupFiles Nat := do
  let finished ← ofExcept .store writer.complete
  modify fun _ => ⟨.database finished.2, .missing⟩
  pure finished.1

structure GroupingProgress where
  writer : SimilarityStoreWriter
  grouper : HybridFrameGrouper

/-- One round of the loop over the frames. -/
def groupFrame (index : FrameIndex) (caller : Caller) (rawFrameId : Nat)
    (progress : GroupingProgress) : EStateM GroupAnalysisError GroupFiles GroupingProgress := do
  checkCancelled caller (.beforeRead rawFrameId) .cancelled
  let indexed ← ofExcept .index (index.entry rawFrameId)
  let entry ← ofExcept .timelineMismatch (okOr indexed
    ("authoritative frame " ++ toString rawFrameId ++ " disappeared during analysis"))
  let read ← ofExcept .source (caller.nextFrame rawFrameId)
  let sourceFrame ← ofExcept .timelineMismatch (okOr read
    ("source reached EOF before indexed frame " ++ toString rawFrameId))
  checkCancelled caller (.afterRead rawFrameId) .cancelled
  ofExcept .timelineMismatch (validateSourceFrame index.streamIdentity entry sourceFrame)
  let pushed ← ofExcept .grouping (progress.grouper.push entry sourceFrame.pixels)
  let writer ← appendCompleted progress.writer pushed.2
  pure ⟨writer, pushed.1⟩

/-- The loop over the frames from `rawFrameId` on. -/
def groupRemaining (index : FrameIndex) (caller : Caller) :
    Nat → Nat → GroupingProgress → EStateM GroupAnalysisError GroupFiles GroupingProgress
  | 0, _, progress => pure progress
  | remaining + 1, rawFrameId, progress => do
      let progress ← groupFrame index caller rawFrameId progress
      groupRemaining index caller remaining (rawFrameId + 1) progress

/-- A build up to `finish`: the number of groups that were written. -/
def writeGroups (index : FrameIndex) (key : SimilarityStoreKey) (frameCount : Nat)
    (policy : HybridSimilarityPolicy) (caller : Caller) :
    EStateM GroupAnalysisError GroupFiles Nat := do
  checkCancelled caller .beforeOpen .cancelled
  ofExcept .source caller.openSource
  let writer ← beginGroups key
  let grouper ← ofExcept .grouping (HybridFrameGrouper.new policy)
  let progress ← groupRemaining index caller frameCount 0 ⟨writer, grouper⟩
  checkCancelled caller .beforeTail .cancelled
  let tail ← ofExcept .source (caller.nextFrame frameCount)
  ofExcept .timelineMismatch (ensure (tail.isSome = false)
    "source emitted frames beyond the completed authoritative index")
  -- The group that is still open; there is no check for a cancellation here.
  let writer ← appendCompleted progress.writer progress.grouper.finish.2
  finishGroups writer

/-- What the build makes of the visit after `finish`. -/
def verifiedGroupCount (written : Nat) :
    SimilarityStoreLoad → Except GroupAnalysisError Nat
  | .reused groupCount =>
      if groupCount = written then .ok groupCount
      else .error (.navigation (.invalidPersistedNavigation
        "fresh similarity group count changed during validation"))
  | _ => .error (.navigation (.invalidPersistedNavigation
      "fresh similarity result did not validate after transactional commit"))

/-- The `match` over the first visit. -/
def openOrBuildGroups (index : FrameIndex) (key : SimilarityStoreKey) (frameCount : Nat)
    (policy : HybridSimilarityPolicy) (caller : Caller) :
    EStateM GroupAnalysisError GroupFiles (Nat × Disposition) := do
  let initial ← visitGroups key frameCount
  match initial with
  | .reused groupCount => pure (groupCount, .reused)
  | _ => do
      let written ← writeGroups index key frameCount policy caller
      let verified ← visitGroups key frameCount
      let groupCount ← ofExcept id (verifiedGroupCount written verified)
      pure (groupCount, .built)

/-- `SimilarityGroupNavigator::open`. -/
def openNavigator (file : StoreFile) (groupCount : Nat) (policy : HybridSimilarityPolicy) :
    Except GroupAnalysisError OpenNavigator := do
  ensure (file ≠ .missing) .cannotOpen
  let connection ← file.connect.mapError .sqlite
  ensure (connection.userVersion = similarityStoreSchemaVersion)
    (.navigation (.invalidPersistedNavigation
      ("similarity store schema changed between validation and navigation open: " ++
        toString connection.userVersion)))
  let table ← okOr connection.similarityMeta (.sqlite (.noSuchTable "similarity_meta"))
  let row ← okOr table (.navigation (.invalidPersistedNavigation
    "similarity metadata row disappeared after validation"))
  let state ← (row.state.getI64 0).mapError .sqlite
  let storedCount ← (row.groupCount.getI64 1).mapError .sqlite
  ensure (state = SimilarityStore.stateComplete) (.navigation (.invalidPersistedNavigation
    "similarity metadata changed after validation"))
  let storedGroups ←
    (GroupNavigation.fromSqlU64 storedCount "group count").mapError .navigation
  ensure (storedGroups = groupCount) (.navigation (.invalidPersistedNavigation
    "similarity metadata changed after validation"))
  .ok ⟨connection, groupCount, policy⟩

/-- The checks of `open_or_build_group_navigation` before the store is looked
at: the frame count and the key. -/
def groupRequest (index : FrameIndex) (policy : HybridSimilarityPolicy) :
    Except GroupAnalysisError (Nat × SimilarityStoreKey) := do
  ensure (index.sourceIdentity.isReuseSafe = true) .unsafeSourceIdentity
  let counted ← index.frameCount.mapError .index
  let frameCount ← okOr counted .incompleteIndex
  let key ← (SimilarityStoreKey.newHybrid index.sourceIdentity index.streamIdentity policy).mapError
    .storeKey
  .ok (frameCount, key)

/-- `open_or_build_group_navigation`. -/
def openOrBuildGroupNavigation (index : FrameIndex) (policy : HybridSimilarityPolicy)
    (caller : Caller) : EStateM GroupAnalysisError GroupFiles SimilarityGroupAnalysis := do
  let request ← ofExcept id (groupRequest index policy)
  let counted ← openOrBuildGroups index request.2 request.1 policy caller
  let files ← get
  let navigator ← ofExcept id (openNavigator files.visible counted.1 policy)
  pure ⟨⟨counted.1, counted.2, policy⟩, navigator⟩

end Groups

/-! ## The global store -/

/-- The path of the global store of a source and stream. -/
abbrev GlobalFiles := Files (Option GlobalDatabase)

inductive GlobalSimilarityNavigationError where
  | unsafeSourceIdentity
  | incompleteIndex
  | cancelled
  | source (error : SimilaritySourceError)
  | index (error : FrameIndexError)
  | store (error : GlobalSimilarityError)
  | timelineMismatch (detail : String)
  | frameOutsideIndex (frameId frameCount : Nat)
  | invalidFreshStore (detail : String)
  deriving DecidableEq, Repr

inductive TimelineGlobalSimilarityError where
  | unsafeSourceIdentity
  | cancelled
  | source (error : SimilaritySourceError)
  | store (error : GlobalSimilarityError)
  | timelineProvider (detail : String)
  | timelineMismatch (detail : String)
  | frameOutsideIndex (frameId frameCount : Nat)
  | invalidFreshStore (detail : String)
  deriving DecidableEq, Repr

/-- The variants that both error types have. -/
structure BuildErrors (ε : Type) where
  cancelled : ε
  source : SimilaritySourceError → ε
  store : GlobalSimilarityError → ε
  timelineMismatch : String → ε
  invalidFreshStore : String → ε

def GlobalSimilarityNavigationError.build : BuildErrors GlobalSimilarityNavigationError :=
  ⟨.cancelled, .source, .store, .timelineMismatch, .invalidFreshStore⟩

def TimelineGlobalSimilarityError.build : BuildErrors TimelineGlobalSimilarityError :=
  ⟨.cancelled, .source, .store, .timelineMismatch, .invalidFreshStore⟩

section Global

variable {ε : Type} (errors : BuildErrors ε)

/-- The error side of `map_cancelled_source`. -/
def BuildErrors.ofSource (error : SimilaritySourceError) : ε :=
  if error.code = "cancelled" then errors.cancelled else errors.source error

/-- The answers before which `load` removes the file. -/
def purges : GlobalSimilarityStoreLoad → Bool
  | .missing => false
  | .reused _ => false
  | .invalidatedStale => true
  | .invalidatedIncomplete => true
  | .invalidatedCorrupt => true

/-- `load`. -/
def loadGlobal (key : GlobalSimilarityStoreKey) (frameCount : Nat) :
    EStateM ε GlobalFiles GlobalSimilarityStoreLoad := do
  let files ← get
  let answer ← ofExcept errors.store (GlobalStore.load files.visible key frameCount)
  if purges answer then set ({ files with visible := none } : GlobalFiles)
  pure answer

/-- `begin`. -/
def beginGlobal (key : GlobalSimilarityStoreKey) :
    EStateM ε GlobalFiles GlobalSimilarityStoreWriter := do
  let writer ← ofExcept errors.store (GlobalStore.begin key)
  modify fun files => { files with building := some writer.database }
  pure writer

/-- `append`. -/
def appendGlobal (writer : GlobalSimilarityStoreWriter) (descriptor : GlobalDescriptor) :
    EStateM ε GlobalFiles GlobalSimilarityStoreWriter := do
  let writer ← ofExcept errors.store (writer.append descriptor)
  modify fun files => { files with building := some writer.database }
  pure writer

/-- `finish`. -/
def finishGlobal (writer : GlobalSimilarityStoreWriter) : EStateM ε GlobalFiles Nat := do
  let finished ← ofExcept errors.store writer.finish
  modify fun _ => ⟨some finished.2, none⟩
  pure finished.1

variable (stream : FrameIndexStreamIdentity) (entryAt : Nat → Except ε FrameIndexEntry)
  (caller : Caller)

/-- One round of the loop over the frames. -/
def describeFrame (rawFrameId : Nat) (writer : GlobalSimilarityStoreWriter) :
    EStateM ε GlobalFiles GlobalSimilarityStoreWriter := do
  checkCancelled caller (.beforeRead rawFrameId) errors.cancelled
  let entry ← ofExcept id (entryAt rawFrameId)
  let read ← ofExcept errors.ofSource (caller.nextFrame rawFrameId)
  let sourceFrame ← ofExcept errors.timelineMismatch (okOr read
    ("source reached EOF before indexed frame " ++ toString rawFrameId))
  checkCancelled caller (.afterRead rawFrameId) errors.cancelled
  ofExcept errors.timelineMismatch (validateSourceFrame stream entry sourceFrame)
  appendGlobal errors writer (descriptorForFrame entry.frameId sourceFrame.pixels)

/-- The loop over the frames from `rawFrameId` on. -/
def describeRemaining : Nat → Nat → GlobalSimilarityStoreWriter →
    EStateM ε GlobalFiles GlobalSimilarityStoreWriter
  | 0, _, writer => pure writer
  | remaining + 1, rawFrameId, writer => do
      let writer ← describeFrame errors stream entryAt caller rawFrameId writer
      describeRemaining remaining (rawFrameId + 1) writer

/-- A build up to `finish`: the number of descriptors that were written. -/
def writeGlobal (key : GlobalSimilarityStoreKey) (frameCount : Nat) :
    EStateM ε GlobalFiles Nat := do
  checkCancelled caller .beforeOpen errors.cancelled
  ofExcept errors.ofSource caller.openSource
  let writer ← beginGlobal errors key
  let writer ← describeRemaining errors stream entryAt caller frameCount 0 writer
  checkCancelled caller .beforeTail errors.cancelled
  let tail ← ofExcept errors.ofSource (caller.nextFrame frameCount)
  ofExcept errors.timelineMismatch (ensure (tail.isSome = false)
    "source emitted frames beyond the completed authoritative index")
  checkCancelled caller .beforeFinish errors.cancelled
  finishGlobal errors writer

/-- How `{other:?}` writes the answer of a load. -/
def loadText : GlobalSimilarityStoreLoad → String
  | .missing => "Missing"
  | .reused descriptorCount => "Reused \x7b descriptor_count: " ++ toString descriptorCount ++ " \x7d"
  | .invalidatedStale => "InvalidatedStale"
  | .invalidatedIncomplete => "InvalidatedIncomplete"
  | .invalidatedCorrupt => "InvalidatedCorrupt"

/-- The check of the count that was reused. -/
def checkReused (frameCount descriptorCount : Nat) : Except ε Unit :=
  ensure (descriptorCount = frameCount) (errors.invalidFreshStore
    ("reused descriptor count " ++ toString descriptorCount ++ " differs from frame count " ++
      toString frameCount))

/-- The check of the count that was written. -/
def checkWritten (frameCount written : Nat) : Except ε Unit :=
  ensure (written = frameCount) (errors.invalidFreshStore
    ("wrote " ++ toString written ++ " descriptors for " ++ toString frameCount ++
      " indexed frames"))

/-- The `match` over the second load. -/
def checkReopened (frameCount : Nat) (answer : GlobalSimilarityStoreLoad) : Except ε Unit :=
  ensure (answer = .reused frameCount) (errors.invalidFreshStore
    ("fresh store did not reopen as reusable: " ++ loadText answer))

/-- The `match` over the first load. -/
def openOrBuildGlobal (key : GlobalSimilarityStoreKey) (frameCount : Nat) :
    EStateM ε GlobalFiles Disposition := do
  let loaded ← loadGlobal errors key frameCount
  match loaded with
  | .reused descriptorCount => do
      ofExcept id (checkReused errors frameCount descriptorCount)
      pure .reused
  | _ => do
      let written ← writeGlobal errors stream entryAt caller key frameCount
      ofExcept id (checkWritten errors frameCount written)
      let reopened ← loadGlobal errors key frameCount
      ofExcept id (checkReopened errors frameCount reopened)
      pure .built

/-- `query`. -/
def queryGlobal (key : GlobalSimilarityStoreKey) (frameCount targetFrame : Nat)
    (policy : GlobalSimilarityPolicy) : EStateM ε GlobalFiles GlobalSimilarityQuery := do
  let policy ← ofExcept errors.store policy.validate
  let answer ← loadGlobal errors key frameCount
  ofExcept errors.store (GlobalStore.ensureReused answer)
  let files ← get
  let database ← ofExcept errors.store
    (okOr files.visible (.notReusable "store is missing"))
  ofExcept errors.store (GlobalStore.queryDatabase database frameCount targetFrame policy)

end Global

structure GlobalSimilarityAnalysisSummary where
  descriptorCount : Nat
  disposition : Disposition
  deriving DecidableEq, Repr

structure GlobalSimilarityNavigator where
  key : GlobalSimilarityStoreKey
  frameCount : Nat
  deriving DecidableEq, Repr

/-- `GlobalSimilarityNavigator::query`. -/
def GlobalSimilarityNavigator.query (navigator : GlobalSimilarityNavigator) (targetFrame : Nat)
    (policy : GlobalSimilarityPolicy) :
    EStateM GlobalSimilarityNavigationError GlobalFiles GlobalSimilarityQuery := do
  ofExcept id (ensure (targetFrame < navigator.frameCount)
    (.frameOutsideIndex targetFrame navigator.frameCount))
  queryGlobal GlobalSimilarityNavigationError.build navigator.key navigator.frameCount targetFrame
    policy

structure GlobalSimilarityAnalysis where
  summary : GlobalSimilarityAnalysisSummary
  navigator : GlobalSimilarityNavigator
  deriving DecidableEq, Repr

/-- The entry that the index has for a frame. -/
def indexedEntry (index : FrameIndex) (rawFrameId : Nat) :
    Except GlobalSimilarityNavigationError FrameIndexEntry := do
  let entry ← (index.entry rawFrameId).mapError .index
  okOr entry (.timelineMismatch
    ("authoritative frame " ++ toString rawFrameId ++ " disappeared during global analysis"))

/-- The checks of `open_or_build_global_similarity` before the store is loaded:
the frame count and the key. -/
def globalRequest (index : FrameIndex) :
    Except GlobalSimilarityNavigationError (Nat × GlobalSimilarityStoreKey) := do
  ensure (index.sourceIdentity.isReuseSafe = true) .unsafeSourceIdentity
  let counted ← index.frameCount.mapError .index
  let frameCount ← okOr counted .incompleteIndex
  let key ← (GlobalSimilarityStoreKey.new index.sourceIdentity index.streamIdentity).mapError .store
  .ok (frameCount, key)

/-- `open_or_build_global_similarity`. -/
def openOrBuildGlobalSimilarity (index : FrameIndex) (caller : Caller) :
    EStateM GlobalSimilarityNavigationError GlobalFiles GlobalSimilarityAnalysis := do
  let request ← ofExcept id (globalRequest index)
  let disposition ← openOrBuildGlobal GlobalSimilarityNavigationError.build index.streamIdentity
    (indexedEntry index) caller request.2 request.1
  pure ⟨⟨request.1, disposition⟩, ⟨request.2, request.1⟩⟩

structure TimelineGlobalSimilarityResult where
  disposition : Disposition
  descriptorCount : Nat
  query : GlobalSimilarityQuery
  deriving DecidableEq, Repr

/-- The entry that the caller's timeline hands out for a frame. -/
def providedEntry
    (entryForFrame : Nat → Except TimelineGlobalSimilarityError (Option FrameIndexEntry))
    (rawFrameId : Nat) : Except TimelineGlobalSimilarityError FrameIndexEntry := do
  let provided ← entryForFrame rawFrameId
  let entry ← okOr provided (.timelineMismatch
    ("authoritative frame " ++ toString rawFrameId ++ " disappeared during global analysis"))
  ensure (entry.frameId = rawFrameId) (.timelineMismatch
    ("timeline provider returned frame " ++ toString entry.frameId ++ " for requested frame " ++
      toString rawFrameId))
  .ok entry

/-- The checks of `open_or_build_and_query_with_timeline` before the store is
loaded. -/
def timelineRequest (source : SourceBinding.SourceIdentity) (stream : FrameIndexStreamIdentity)
    (frameCount targetFrame : Nat) :
    Except TimelineGlobalSimilarityError GlobalSimilarityStoreKey := do
  ensure (source.isReuseSafe = true) .unsafeSourceIdentity
  ensure (targetFrame < frameCount) (.frameOutsideIndex targetFrame frameCount)
  (GlobalSimilarityStoreKey.new source stream).mapError .store

/-- `open_or_build_and_query_with_timeline`. -/
def openOrBuildAndQueryWithTimeline (source : SourceBinding.SourceIdentity)
    (stream : FrameIndexStreamIdentity) (frameCount : Nat)
    (entryForFrame : Nat → Except TimelineGlobalSimilarityError (Option FrameIndexEntry))
    (targetFrame : Nat) (policy : GlobalSimilarityPolicy) (caller : Caller) :
    EStateM TimelineGlobalSimilarityError GlobalFiles TimelineGlobalSimilarityResult := do
  let key ← ofExcept id (timelineRequest source stream frameCount targetFrame)
  let disposition ← openOrBuildGlobal TimelineGlobalSimilarityError.build stream
    (providedEntry entryForFrame) caller key frameCount
  checkCancelled caller .beforeQuery .cancelled
  let query ← queryGlobal TimelineGlobalSimilarityError.build key frameCount targetFrame policy
  pure ⟨disposition, frameCount, query⟩

/-! ## Calls one after another -/

/-- A source sequence with its complete index. -/
structure IndexedSource where
  frames : List IndexedRgbaFrame
  index : FrameIndex
  frameCount : Nat
  complete : index.frameCount = .ok (some frameCount)

/-- Where the source of a call fails, where its timeline does, and at which
places the call finds itself cancelled. -/
structure Faults where
  openFails : Option SimilaritySourceError
  readFails : Nat → Option SimilaritySourceError
  entryFails : Nat → Option TimelineGlobalSimilarityError
  cancelledAt : CancelPoint → Bool

/-- A call that nothing disturbs. -/
def noFaults : Faults := ⟨none, fun _ => none, fun _ => none, fun _ => false⟩

/-- The answer, unless there is a fault. -/
def orFault {ε α : Type} (fault : Option ε) (answer : Except ε α) : Except ε α :=
  match fault with
  | none => answer
  | some error => .error error

namespace IndexedSource

variable (source : IndexedSource)

def caller (faults : Faults) : Caller where
  openSource := orFault faults.openFails (.ok ())
  nextFrame := fun i => orFault (faults.readFails i) (.ok source.frames[i]?)
  isCancelled := faults.cancelledAt

/-- The timeline of a live session, which reads the same index. -/
def entryForFrame (faults : Faults) (frameId : Nat) :
    Except TimelineGlobalSimilarityError (Option FrameIndexEntry) :=
  orFault (faults.entryFails frameId)
    ((source.index.entry frameId).mapError fun error => .timelineProvider error.toText)

def groupNavigation [KeyJson] (policy : HybridSimilarityPolicy) (faults : Faults) :
    EStateM GroupAnalysisError GroupFiles SimilarityGroupAnalysis :=
  openOrBuildGroupNavigation source.index policy (source.caller faults)

def globalSimilarity (faults : Faults) :
    EStateM GlobalSimilarityNavigationError GlobalFiles GlobalSimilarityAnalysis :=
  openOrBuildGlobalSimilarity source.index (source.caller faults)

def timelineSimilarity (targetFrame : Nat) (policy : GlobalSimilarityPolicy) (faults : Faults) :
    EStateM TimelineGlobalSimilarityError GlobalFiles TimelineGlobalSimilarityResult :=
  openOrBuildAndQueryWithTimeline source.index.sourceIdentity source.index.streamIdentity
    source.frameCount (source.entryForFrame faults) targetFrame policy (source.caller faults)

end IndexedSource

/-- The stores under one root, for the identity of one source. -/
structure AnalysisStores where
  groups : HybridSimilarityPolicy → GroupFiles
  global : GlobalFiles

def emptyStores : AnalysisStores := ⟨fun _ => ⟨.missing, .missing⟩, ⟨none, none⟩⟩

inductive AnalysisCall where
  | groups (policy : HybridSimilarityPolicy) (faults : Faults)
  | global (faults : Faults)
  | timeline (targetFrame : Nat) (policy : GlobalSimilarityPolicy) (faults : Faults)

/-- What a call leaves, however it ends. -/
def IndexedSource.after [KeyJson] (source : IndexedSource) (stores : AnalysisStores) :
    AnalysisCall → AnalysisStores
  | .groups policy faults =>
      let files := finalState (source.groupNavigation policy faults (stores.groups policy))
      { stores with groups := Function.update stores.groups policy files }
  | .global faults =>
      { stores with global := finalState (source.globalSimilarity faults stores.global) }
  | .timeline targetFrame policy faults =>
      { stores with global :=
          finalState (source.timelineSimilarity targetFrame policy faults stores.global) }

/-- What a history leaves of the empty stores. -/
def IndexedSource.history [KeyJson] (source : IndexedSource) (calls : List AnalysisCall) :
    AnalysisStores :=
  calls.foldl source.after emptyStores

end FrameScope.Ports.SimilarityAnalysis
