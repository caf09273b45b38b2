import FrameScope.Ports.Perceptual

/-!
# The hybrid grouper

Port of `framescope-grouping`.  The hybrid grouper keeps the same open group as
the basic one, but it turns a frame away as soon as the comparison with the
previous frame does, without comparing it to the representative.

`groupFrames` drives either grouper over a stream: one push for each frame,
then the group that `finish` hands out.
-/

namespace FrameScope.Ports.Grouping

open FrameScope.Ports.Core
open FrameScope.Ports.FrameIndexModel
open FrameScope.Ports.FrameCache
open FrameScope.Ports.GroupNavigation (FrameGroup)
open FrameScope.Ports.Similarity
open FrameScope.Ports.Perceptual

inductive HybridGroupingError where
  | similarity (error : SimilarityError)
  | hybrid (error : HybridSimilarityError)
  deriving DecidableEq, Repr

def HybridGroupingError.toText : HybridGroupingError → String
  | .similarity error => error.toText
  | .hybrid error => error.toText

structure HybridFrameGrouper where
  engine : HybridSimilarityEngine
  active : Option ActiveGroup
  deriving DecidableEq, Repr

/-- `HybridFrameGrouper::new`. -/
def HybridFrameGrouper.new (policy : HybridSimilarityPolicy) :
    Except HybridGroupingError HybridFrameGrouper := do
  let engine ← (HybridSimilarityEngine.new policy).mapError .hybrid
  .ok ⟨engine, none⟩

/-- `accepted_confirmation`. -/
def acceptedConfirmation : HybridDecision → Option SimilarityScore
  | .accepted _ confirmation => some confirmation
  | .rejectedByHash _ => none
  | .rejectedByConfirmation _ _ => none

/-- `HybridFrameGrouper::push`. -/
def HybridFrameGrouper.push (grouper : HybridFrameGrouper) (entry : FrameIndexEntry)
    (pixels : OwnedRgbaFrame) :
    Except HybridGroupingError (HybridFrameGrouper × Option FrameGroup) := do
  let timestamp ← okOr entry.presentationTimestamp
    (.similarity (.missingTimestamp entry.frameId))
  match grouper.active with
  | none => .ok ({ grouper with active := some (activeGroup entry timestamp pixels) }, none)
  | some active =>
      (ensureContiguous active entry).mapError .similarity
      let previous ← (grouper.engine.compare active.previous pixels).mapError .hybrid
      match acceptedConfirmation previous with
      | none =>
          .ok ({ grouper with active := some (activeGroup entry timestamp pixels) },
            some active.metadata)
      | some _ =>
          let representative ←
            (grouper.engine.compare active.representative pixels).mapError .hybrid
          match acceptedConfirmation representative with
          | none =>
              .ok ({ grouper with active := some (activeGroup entry timestamp pixels) },
                some active.metadata)
          | some confirmation =>
              .ok ({ grouper with
                active := some (active.joined entry timestamp pixels confirmation.basisPoints) },
                none)

/-- `HybridFrameGrouper::finish`. -/
def HybridFrameGrouper.finish (grouper : HybridFrameGrouper) :
    HybridFrameGrouper × Option FrameGroup :=
  ({ grouper with active := none }, grouper.active.map (·.metadata))

/-- The answer of the hybrid engine for a pair: the score it is accepted with,
or a rejection by either stage. -/
def hybridVerdict (engine : HybridSimilarityEngine) (left right : OwnedRgbaFrame) :
    Except HybridSimilarityError (Option Nat) := do
  let decision ← engine.compare left right
  .ok ((acceptedConfirmation decision).map (·.basisPoints))

/-! ## Whole streams -/

/-- A frame as a grouper receives it. -/
structure StreamFrame where
  entry : FrameIndexEntry
  pixels : OwnedRgbaFrame
  deriving DecidableEq, Repr

/-- One push for each frame; the groups completed on the way, in order. -/
def pushFrames {G ε : Type}
    (push : G → FrameIndexEntry → OwnedRgbaFrame → Except ε (G × Option FrameGroup)) :
    G → List StreamFrame → Except ε (G × List FrameGroup)
  | grouper, [] => .ok (grouper, [])
  | grouper, frame :: rest => do
      let pushed ← push grouper frame.entry frame.pixels
      let remaining ← pushFrames push pushed.1 rest
      .ok (remaining.1, pushed.2.toList ++ remaining.2)

/-- All groups of a stream: those the pushes complete and the one left open. -/
def groupFrames {G ε : Type}
    (push : G → FrameIndexEntry → OwnedRgbaFrame → Except ε (G × Option FrameGroup))
    (finish : G → G × Option FrameGroup) (grouper : G) (frames : List StreamFrame) :
    Except ε (List FrameGroup) := do
  let pushed ← pushFrames push grouper frames
  .ok (pushed.2 ++ (finish pushed.1).2.toList)

end FrameScope.Ports.Grouping
