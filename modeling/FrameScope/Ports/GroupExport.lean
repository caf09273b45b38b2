import FrameScope.Ports.GroupNavigation
import FrameScope.Ports.Export

/-!
# Exporting the representatives of similarity groups

Port of `framescope-extraction-groups`, `framescope-extraction-groups-video`
and `framescope-extraction-groups-output`.  One batch runs over all frames from
the first representative to the last.  A cursor walks the groups beside it, and
each frame the batch hands over is compared with the representative that the
cursor waits for.
-/

namespace FrameScope.Ports.GroupExport

open FrameScope.Verified.Fallible
open FrameScope.Ports.Core
open FrameScope.Ports.Decoder
open FrameScope.Ports.FrameIndexModel
open FrameScope.Ports.FrameIndexStore
open FrameScope.Ports.FrameCache
open FrameScope.Ports.Extraction
open FrameScope.Ports.BatchExtraction
open FrameScope.Ports.ExtractionImage
open FrameScope.Ports.Manifest
open FrameScope.Ports.Export
open FrameScope.Ports.GroupNavigation

/-! ## The cursor -/

inductive GroupRepresentativeError where
  | navigation (error : GroupNavigationError)
  | invalidNavigation (detail : String)
  deriving DecidableEq, Repr

def GroupRepresentativeError.toText : GroupRepresentativeError → String
  | .navigation error => error.toText
  | .invalidNavigation detail =>
      "persisted group navigation violated representative cursor invariants: " ++ detail

/-- `GroupRepresentativeCursor`, without the navigator it borrows. -/
structure GroupRepresentativeCursor where
  groupCount : Nat
  emitted : Nat
  previousRepresentative : Option Nat
  deriving DecidableEq, Repr

/-- `GroupRepresentativeCursor::new`. -/
def GroupRepresentativeCursor.new (navigator : SimilarityGroupNavigator) :
    GroupRepresentativeCursor := ⟨navigator.groupCount, 0, none⟩

/-- `remaining`. -/
def GroupRepresentativeCursor.remaining (cursor : GroupRepresentativeCursor) : Nat :=
  cursor.groupCount - cursor.emitted

/-- `validate_target`. -/
def validateTarget (target : GroupNavigationTarget) (expectedOrdinal expectedCount : Nat) :
    Except GroupRepresentativeError Unit := do
  ensure (target.ordinal = expectedOrdinal)
    (.invalidNavigation ("expected group ordinal " ++ toString expectedOrdinal ++ ", got " ++
      toString target.ordinal))
  ensure (target.groupCount = expectedCount)
    (.invalidNavigation ("expected group count " ++ toString expectedCount ++ ", got " ++
      toString target.groupCount))
  ensure (target.firstFrame ≤ target.lastFrame ∧ target.firstFrame ≤ target.representativeFrame ∧
      target.representativeFrame ≤ target.lastFrame)
    (.invalidNavigation ("representative " ++ toString target.representativeFrame ++
      " is outside group " ++ toString target.firstFrame ++ "..=" ++ toString target.lastFrame ++
      " "))
  let expectedFrames ← okOr (checkedAddU64 (target.lastFrame - target.firstFrame) 1)
    (.invalidNavigation "group frame-count overflow")
  ensure (target.representedFrameCount = expectedFrames)
    (.invalidNavigation ("group " ++ toString target.ordinal ++ " reports " ++
      toString target.representedFrameCount ++ " frames but bounds contain " ++
      toString expectedFrames))

/-- Where the cursor looks for the next group. -/
def GroupRepresentativeCursor.locate (navigator : SimilarityGroupNavigator) :
    Option Nat → Except GroupNavigationError GroupNavigationTarget
  | none => navigator.groupContaining 0
  | some previous => navigator.adjacentGroup previous .next

/-- The check that representatives ascend. -/
def checkFollows (target : GroupNavigationTarget) : Option Nat →
    Except GroupRepresentativeError Unit
  | none => .ok ()
  | some previous => ensure (previous < target.representativeFrame)
      (.invalidNavigation ("representative " ++ toString target.representativeFrame ++
        " did not follow previous representative " ++ toString previous))

/-- `next_group`: the next target, and the cursor after it. -/
def GroupRepresentativeCursor.nextGroup (navigator : SimilarityGroupNavigator)
    (cursor : GroupRepresentativeCursor) :
    Except GroupRepresentativeError
      (Option GroupNavigationTarget × GroupRepresentativeCursor) :=
  if cursor.groupCount ≤ cursor.emitted then .ok (none, cursor)
  else do
    let target ← (locate navigator cursor.previousRepresentative).mapError .navigation
    validateTarget target cursor.emitted cursor.groupCount
    checkFollows target cursor.previousRepresentative
    let emitted ← okOr (checkedAddU64 cursor.emitted 1)
      (.invalidNavigation "group ordinal overflow")
    .ok (some target,
      { cursor with emitted, previousRepresentative := some target.representativeFrame })

/-! ## Filtering a batch -/

structure ExtractedGroupRepresentative where
  progress : ExtractionProgress
  group : GroupNavigationTarget
  indexEntry : FrameIndexEntry
  pixels : OwnedRgbaFrame
  deriving DecidableEq, Repr

structure GroupBatchExtractionReport where
  representativeFrames : Nat
  scannedFrames : Nat
  decodedFrames : Nat
  usedKeyframeSeek : Bool
  fellBackToStreamStart : Bool
  deriving DecidableEq, Repr

inductive GroupBatchExtractionError (E : Type) where
  | incompleteIndex
  | emptyIndex
  | noGroups
  | index (error : FrameIndexError)
  | plan (error : ExtractionPlanError)
  | navigation (error : GroupNavigationError)
  | groups (error : GroupRepresentativeError)
  | batch (error : BatchExtractionFailure)
  | visitor (error : E)
  | invalidNavigation (message : String)
  deriving DecidableEq, Repr

inductive FilterVisitorError (E : Type) where
  | groups (error : GroupRepresentativeError)
  | visitor (error : E)
  | invalidNavigation (message : String)
  deriving DecidableEq, Repr

/-- What the filter changes. -/
structure FilterState (σ : Type) where
  cursor : GroupRepresentativeCursor
  nextGroup : Option GroupNavigationTarget
  representativeFrames : Nat
  visitor : σ

section Filter

variable {E σ : Type} (navigator : SimilarityGroupNavigator)
  (visitor : ExtractedGroupRepresentative → EStateM E σ Unit)

/-- The end of `filter_representative`, at a frame that is the representative of
`group`. -/
def emitRepresentative (frame : ExtractedRgbaFrame) (group : GroupNavigationTarget) :
    EStateM (FilterVisitorError E) (FilterState σ) Unit := do
  let s ← get
  set { s with nextGroup := none }
  let representativeFrames ← ofExcept .invalidNavigation
    (okOr (checkedAddU64 s.representativeFrames 1) "representative progress overflow")
  modify fun s => { s with representativeFrames }
  (zoom (·.visitor) (fun visitor s => { s with visitor }) (visitor
    { progress := ⟨frame.progress.frameId, representativeFrames, navigator.groupCount⟩
      group
      indexEntry := frame.indexEntry
      pixels := frame.pixels })).adaptExcept .visitor
  let (nextGroup, cursor) ← ofExcept .groups (s.cursor.nextGroup navigator)
  modify fun s => { s with cursor, nextGroup }

/-- `filter_representative`. -/
def filterRepresentative : Visitor (FilterVisitorError E) (FilterState σ) := fun frame => do
  let s ← get
  match s.nextGroup with
  | none => throw (.invalidNavigation
      "batch decoder produced frames after the final representative")
  | some expected =>
      if frame.progress.frameId < expected.representativeFrame then pure ()
      else if frame.progress.frameId ≠ expected.representativeFrame then
        throw (.invalidNavigation ("decoder passed representative " ++
          toString expected.representativeFrame ++ " at frame " ++
          toString frame.progress.frameId))
      else emitRepresentative navigator visitor frame expected

variable (index : FrameIndex)

/-- What `extract_group_representatives` does before it decodes: the plan, the
cursor and the group it waits for. -/
def prepareRepresentatives : Except (GroupBatchExtractionError E)
    (ExtractionPlan × GroupRepresentativeCursor × GroupNavigationTarget) := do
  let status ← index.status.mapError .index
  ensure (status.lifecycle = .complete) .incompleteIndex
  let frameCount ← okOr status.frameCount .incompleteIndex
  ensure (frameCount ≠ 0) .emptyIndex
  ensure (navigator.groupCount ≠ 0) .noGroups
  let (found, cursor) ←
    ((GroupRepresentativeCursor.new navigator).nextGroup navigator).mapError .groups
  let firstGroup ← okOr found .noGroups
  let lastGroup ← (navigator.groupContaining (frameCount - 1)).mapError .navigation
  ensure (lastGroup.groupCount = navigator.groupCount ∧
      checkedAddU64 lastGroup.ordinal 1 = some navigator.groupCount)
    (.invalidNavigation ("last indexed frame resolved to group " ++ toString lastGroup.ordinal ++
      " of " ++ toString navigator.groupCount ++ ", expected final group"))
  ensure (firstGroup.representativeFrame ≤ lastGroup.representativeFrame)
    (.invalidNavigation "final representative precedes first representative")
  let plan ← (planExtraction index
    { selection :=
        .frameRangeInclusive firstGroup.representativeFrame lastGroup.representativeFrame
      sampling := .everyFrame }).mapError .plan
  .ok (plan, cursor, firstGroup)

/-- The arms of `match batch_result` for a batch that failed. -/
def groupBatchError : BatchExtractionError (FilterVisitorError E) → GroupBatchExtractionError E
  | .failure error => .batch error
  | .visitor (.groups error) => .groups error
  | .visitor (.visitor error) => .visitor error
  | .visitor (.invalidNavigation message) => .invalidNavigation message

/-- The batch under the filter, with what the filter ends up with. -/
def extractFiltered (cancelled : Nat → Bool) (opens : Opener) (plan : ExtractionPlan) :
    EStateM (BatchExtractionError (FilterVisitorError E)) (BatchState (FilterState σ))
      (BatchExtractionReport × FilterState σ) := do
  let report ←
    extractRgbaPlan cancelled index plan (filterRepresentative navigator visitor) opens
  let s ← get
  return (report, s.visitor)

/-- `extract_group_representatives`. -/
def extractGroupRepresentatives (cancelled : Nat → Bool) (opens : Opener) :
    EStateM (GroupBatchExtractionError E) σ GroupBatchExtractionReport := do
  let (plan, cursor, firstGroup) ← ofExcept id (prepareRepresentatives navigator index)
  let (batch, filter) ←
    (zoom (fun visitor => BatchState.start ⟨cursor, some firstGroup, 0, visitor⟩)
      (fun s _ => s.visitor.visitor)
      (extractFiltered navigator visitor index cancelled opens plan)).adaptExcept groupBatchError
  if filter.representativeFrames ≠ navigator.groupCount ∨ filter.nextGroup.isSome ∨
      filter.cursor.remaining ≠ 0 then
    throw (.invalidNavigation ("export emitted " ++ toString filter.representativeFrames ++
      " representatives for " ++ toString navigator.groupCount ++ " groups"))
  else
    return {
      representativeFrames := filter.representativeFrames
      scannedFrames := batch.selectedFrames
      decodedFrames := batch.decodedFrames
      usedKeyframeSeek := batch.usedKeyframeSeek
      fellBackToStreamStart := batch.fellBackToStreamStart }

end Filter

/-! ## The export -/

structure GroupStreamingExtractionReport where
  batch : GroupBatchExtractionReport
  committedFrames : Nat
  encodedBytes : Nat
  deriving DecidableEq, Repr

inductive GroupStreamingExtractionError (E : Type) where
  | incompleteIndex
  | emptyIndex
  | noGroups
  | index (error : FrameIndexError)
  | plan (error : ExtractionPlanError)
  | navigation (error : GroupNavigationError)
  | groups (error : GroupRepresentativeError)
  | batch (error : BatchExtractionFailure)
  | output (error : E)
  | manifest (error : ManifestError)
  | sinkContract (message : String)
  | invalidNavigation (message : String)
  | cancelled
  deriving DecidableEq, Repr

/-- The part of a group that a manifest line holds. -/
def manifestGroup (group : GroupNavigationTarget) : ManifestGroup where
  ordinal := group.ordinal
  groupCount := group.groupCount
  representativeFrame := group.representativeFrame
  firstFrame := group.firstFrame
  lastFrame := group.lastFrame
  representedFrameCount := group.representedFrameCount

section Export

variable {E τ : Type} (format : ExtractionImageFormat) (sink : FrameOutputSink E τ)
  (device : Device)

/-- `write_representative`. -/
def writeRepresentative (frame : ExtractedGroupRepresentative) :
    EStateM (VisitorError E) (ExportState τ) Unit :=
  commitAndRecord format sink device frame.progress frame.indexEntry frame.pixels
    (some (manifestGroup frame.group))

/-- The arms of `match extraction` for an extraction that failed. -/
def failRepresentatives (error : GroupBatchExtractionError (VisitorError E)) :
    EStateM (GroupStreamingExtractionError E) (ExportState τ) GroupStreamingExtractionReport :=
  let failing (code : String) (message : Option String)
      (error : GroupStreamingExtractionError E) :
      EStateM (GroupStreamingExtractionError E) (ExportState τ)
        GroupStreamingExtractionReport := do
    closing .manifest (finishFailed device code message)
    throw error
  match error with
  | .batch .cancelled => do
      closing .manifest
        (finishCancelled device (some "group representative extraction was cancelled"))
      throw .cancelled
  | .batch error => failing "decode_error" (some error.toText) (.batch error)
  | .visitor (.output error) =>
      failing "output_error" (some (sink.errorText error)) (.output error)
  | .visitor (.manifest error) => throw (.manifest error)
  | .visitor (.sinkContract message) =>
      failing "output_contract_error" (some message) (.sinkContract message)
  | .incompleteIndex => failing "incomplete_index" none .incompleteIndex
  | .emptyIndex => failing "empty_index" none .emptyIndex
  | .noGroups => failing "no_groups" none .noGroups
  | .index error => failing "index_error" (some error.toText) (.index error)
  | .plan error => failing "selection_error" (some error.toText) (.plan error)
  | .navigation error => failing "group_navigation_error" (some error.toText) (.navigation error)
  | .groups error => failing "group_navigation_error" (some error.toText) (.groups error)
  | .invalidNavigation message =>
      failing "group_navigation_error" (some message) (.invalidNavigation message)

/-- The end of `export_group_representatives` after an extraction that
returned. -/
def completeRepresentatives (expectedFrames : Nat) (batch : GroupBatchExtractionReport) :
    EStateM (GroupStreamingExtractionError E) (ExportState τ)
      GroupStreamingExtractionReport := do
  let s ← get
  let committedFrames := s.manifest.emittedFrames
  if committedFrames ≠ expectedFrames ∨ batch.representativeFrames ≠ expectedFrames then
    let message := "committed " ++ toString committedFrames ++ " representatives while " ++
      toString expectedFrames ++ " were expected"
    closing .manifest (finishFailed device "group_output_contract_error" (some message))
    throw (.invalidNavigation message)
  else
    closing .manifest (finishComplete device)
    return { batch, committedFrames, encodedBytes := s.manifest.encodedBytes }

/-- `export_group_representatives`. -/
def exportGroupRepresentatives (cancelled : Nat → Bool) (index : FrameIndex)
    (navigator : SimilarityGroupNavigator) (opens : Opener) :
    EStateM (GroupStreamingExtractionError E) (ExportState τ)
      GroupStreamingExtractionReport := do
  ofExcept id (ensure (navigator.groupCount ≠ 0) .noGroups)
  let header ← ofExcept .manifest
    (ManifestHeader.new .uniqueGroupRepresentatives format navigator.groupCount)
  closing .manifest (newManifest device header)
  let extraction ← attempt (extractGroupRepresentatives navigator
    (writeRepresentative format sink device) index cancelled opens)
  match extraction with
  | .ok batch => completeRepresentatives device navigator.groupCount batch
  | .error error => failRepresentatives sink device error

end Export

end FrameScope.Ports.GroupExport
