import FrameScope.Verified.Rejection
import FrameScope.Ports.Grouping

/-!
# Pushes that fail

The `push` of either grouper as a program on the grouper: the checks and the
comparisons in the order of the source, each assignment through
`self.active.as_mut()` a write of its own.  What `FrameGrouper.push` and
`HybridFrameGrouper.push` return and leave is what the programs do.

A program that fails has written nothing, so a caller may go on with the
grouper as if it had not pushed the frame.
-/

namespace FrameScope.Ports.GrouperPush

open FrameScope.Verified.Fallible
open FrameScope.Verified.Rejection
open FrameScope.Ports.Core
open FrameScope.Ports.FrameIndexModel
open FrameScope.Ports.FrameCache
open FrameScope.Ports.GroupNavigation (FrameGroup)
open FrameScope.Ports.Similarity
open FrameScope.Ports.Perceptual
open FrameScope.Ports.Grouping

/-! ## The programs -/

section Joining

variable {ε G : Type} (write : (ActiveGroup → ActiveGroup) → EStateM ε G PUnit)

/-- The assignments that extend the open group, as both groupers make them. -/
def joinActive (entry : FrameIndexEntry) (timestamp : MediaTimestamp) (pixels : OwnedRgbaFrame)
    (score : Nat) : EStateM ε G PUnit := do
  write fun active => { active with metadata := { active.metadata with
    lastFrame := entry.frameId } }
  write fun active => { active with metadata := { active.metadata with
    frameCount := (active.metadata.frameCount + 1) % 2 ^ 64 } }
  write fun active => { active with metadata := { active.metadata with
    endTimestamp := timestamp } }
  write fun active => { active with metadata := { active.metadata with
    endDuration := entry.duration } }
  write fun active => { active with metadata := { active.metadata with
    representativeSimilarityFloor := min active.metadata.representativeSimilarityFloor score } }
  write fun active => { active with previous := pixels }

end Joining

/-- An assignment to the open group. -/
def FrameGrouper.writeActive (f : ActiveGroup → ActiveGroup) :
    EStateM SimilarityError FrameGrouper PUnit :=
  modify fun grouper => { grouper with active := grouper.active.map f }

/-- `self.active = …`. -/
def FrameGrouper.setActive (active : Option ActiveGroup) :
    EStateM SimilarityError FrameGrouper PUnit :=
  modify fun grouper => { grouper with active := active }

/-- `FrameGrouper::push`. -/
def FrameGrouper.pushProgram (entry : FrameIndexEntry) (pixels : OwnedRgbaFrame) :
    EStateM SimilarityError FrameGrouper (Option FrameGroup) := do
  let timestamp ← ofExcept id
    (okOr entry.presentationTimestamp (SimilarityError.missingTimestamp entry.frameId))
  let grouper ← get
  match grouper.active with
  | none => do
      FrameGrouper.setActive (some (activeGroup entry timestamp pixels))
      pure none
  | some active => do
      ofExcept id (ensureContiguous active entry)
      let previousScore ← ofExcept id (grouper.engine.compare active.previous pixels)
      let representativeScore ← ofExcept id (grouper.engine.compare active.representative pixels)
      if grouper.engine.accepts previousScore && grouper.engine.accepts representativeScore then do
        joinActive FrameGrouper.writeActive entry timestamp pixels representativeScore.basisPoints
        pure none
      else do
        let completed := active.metadata
        FrameGrouper.setActive (some (activeGroup entry timestamp pixels))
        pure (some completed)

/-- `FrameGrouper::finish`. -/
def FrameGrouper.finishProgram : EStateM SimilarityError FrameGrouper (Option FrameGroup) := do
  let grouper ← get
  FrameGrouper.setActive none
  pure (grouper.active.map (·.metadata))

def HybridFrameGrouper.writeActive (f : ActiveGroup → ActiveGroup) :
    EStateM HybridGroupingError HybridFrameGrouper PUnit :=
  modify fun grouper => { grouper with active := grouper.active.map f }

def HybridFrameGrouper.setActive (active : Option ActiveGroup) :
    EStateM HybridGroupingError HybridFrameGrouper PUnit :=
  modify fun grouper => { grouper with active := active }

/-- `HybridFrameGrouper::push`. -/
def HybridFrameGrouper.pushProgram (entry : FrameIndexEntry) (pixels : OwnedRgbaFrame) :
    EStateM HybridGroupingError HybridFrameGrouper (Option FrameGroup) := do
  let timestamp ← ofExcept id
    (okOr entry.presentationTimestamp
      (HybridGroupingError.similarity (.missingTimestamp entry.frameId)))
  let grouper ← get
  match grouper.active with
  | none => do
      HybridFrameGrouper.setActive (some (activeGroup entry timestamp pixels))
      pure none
  | some active => do
      ofExcept .similarity (ensureContiguous active entry)
      let previous ← ofExcept .hybrid (grouper.engine.compare active.previous pixels)
      match acceptedConfirmation previous with
      | none => do
          let completed := active.metadata
          HybridFrameGrouper.setActive (some (activeGroup entry timestamp pixels))
          pure (some completed)
      | some _ => do
          let representative ← ofExcept .hybrid
            (grouper.engine.compare active.representative pixels)
          match acceptedConfirmation representative with
          | none => do
              let completed := active.metadata
              HybridFrameGrouper.setActive (some (activeGroup entry timestamp pixels))
              pure (some completed)
          | some confirmation => do
              joinActive HybridFrameGrouper.writeActive entry timestamp pixels
                confirmation.basisPoints
              pure none

/-- `HybridFrameGrouper::finish`. -/
def HybridFrameGrouper.finishProgram :
    EStateM HybridGroupingError HybridFrameGrouper (Option FrameGroup) := do
  let grouper ← get
  HybridFrameGrouper.setActive none
  pure (grouper.active.map (·.metadata))

/-! ## The programs and the functions -/

theorem joinActive_frameGrouper {grouper : FrameGrouper} {active : ActiveGroup}
    (hActive : grouper.active = some active) (entry : FrameIndexEntry)
    (timestamp : MediaTimestamp) (pixels : OwnedRgbaFrame) (score : Nat) :
    joinActive FrameGrouper.writeActive entry timestamp pixels score grouper =
      .ok ⟨⟩ { grouper with active := some (active.joined entry timestamp pixels score) } := by
  obtain ⟨engine, open_⟩ := grouper
  change open_ = some active at hActive
  subst hActive
  rfl

theorem joinActive_hybridFrameGrouper {grouper : HybridFrameGrouper} {active : ActiveGroup}
    (hActive : grouper.active = some active) (entry : FrameIndexEntry)
    (timestamp : MediaTimestamp) (pixels : OwnedRgbaFrame) (score : Nat) :
    joinActive HybridFrameGrouper.writeActive entry timestamp pixels score grouper =
      .ok ⟨⟩ { grouper with active := some (active.joined entry timestamp pixels score) } := by
  obtain ⟨engine, open_⟩ := grouper
  change open_ = some active at hActive
  subst hActive
  rfl

/-- The program of the basic grouper does what its `push` says. -/
theorem FrameGrouper.pushProgram_eq (grouper : FrameGrouper) (entry : FrameIndexEntry)
    (pixels : OwnedRgbaFrame) :
    FrameGrouper.pushProgram entry pixels grouper =
      ended grouper (grouper.push entry pixels) := by
  unfold FrameGrouper.pushProgram FrameGrouper.push
  apply ended_bind_id
  intro timestamp _
  obtain ⟨engine, open_⟩ := grouper
  cases open_ with
  | none => rfl
  | some active =>
      apply ended_bind_id
      intro _ _
      apply ended_bind_id
      intro previousScore _
      apply ended_bind_id
      intro representativeScore _
      by_cases hAccepted : (engine.accepts previousScore &&
          engine.accepts representativeScore) = true
      · rw [if_pos hAccepted, if_pos hAccepted]
        rw [bind_of_ok (joinActive_frameGrouper rfl entry timestamp pixels
          representativeScore.basisPoints)]
        rfl
      · rw [if_neg hAccepted, if_neg hAccepted]
        rfl

/-- The program of the hybrid grouper does what its `push` says. -/
theorem HybridFrameGrouper.pushProgram_eq (grouper : HybridFrameGrouper)
    (entry : FrameIndexEntry) (pixels : OwnedRgbaFrame) :
    HybridFrameGrouper.pushProgram entry pixels grouper =
      ended grouper (grouper.push entry pixels) := by
  unfold HybridFrameGrouper.pushProgram HybridFrameGrouper.push
  apply ended_bind_id
  intro timestamp _
  obtain ⟨engine, open_⟩ := grouper
  cases open_ with
  | none => rfl
  | some active =>
      apply ended_bind
      intro _ _
      apply ended_bind
      intro previous _
      cases hPrevious : acceptedConfirmation previous with
      | none => rfl
      | some _ =>
          apply ended_bind
          intro representative _
          cases hRepresentative : acceptedConfirmation representative with
          | none => rfl
          | some confirmation =>
              show (joinActive _ entry timestamp pixels confirmation.basisPoints >>= fun _ => _)
                _ = _
              rw [bind_of_ok (joinActive_hybridFrameGrouper rfl entry timestamp pixels
                confirmation.basisPoints)]
              rfl

/-! ## Calls on a grouper -/

inductive GrouperCall where
  | push (entry : FrameIndexEntry) (pixels : OwnedRgbaFrame)
  | finish
  deriving DecidableEq, Repr

def FrameGrouper.call : GrouperCall → EStateM SimilarityError FrameGrouper (Option FrameGroup)
  | .push entry pixels => FrameGrouper.pushProgram entry pixels
  | .finish => FrameGrouper.finishProgram

def HybridFrameGrouper.call :
    GrouperCall → EStateM HybridGroupingError HybridFrameGrouper (Option FrameGroup)
  | .push entry pixels => HybridFrameGrouper.pushProgram entry pixels
  | .finish => HybridFrameGrouper.finishProgram

/-- A call on the basic grouper that fails leaves it as it was. -/
theorem FrameGrouper.call_rejects (call : GrouperCall) : Rejects (FrameGrouper.call call) := by
  cases call with
  | push entry pixels =>
      exact Rejects.of_ended fun grouper => FrameGrouper.pushProgram_eq grouper entry pixels
  | finish => exact Rejects.of_ended (g := fun grouper => .ok grouper.finish) fun _ => rfl

/-- A call on the hybrid grouper that fails leaves it as it was. -/
theorem HybridFrameGrouper.call_rejects (call : GrouperCall) :
    Rejects (HybridFrameGrouper.call call) := by
  cases call with
  | push entry pixels =>
      exact Rejects.of_ended fun grouper =>
        HybridFrameGrouper.pushProgram_eq grouper entry pixels
  | finish => exact Rejects.of_ended (g := fun grouper => .ok grouper.finish) fun _ => rfl

/-- A failed call changes neither the grouper nor what the calls around it give out, and the
same goes for all failed calls of a caller together. -/
structure Undisturbed {ε G : Type} (call : GrouperCall → EStateM ε G (Option FrameGroup)) :
    Prop where
  unchanged : ∀ (grouper grouper' : G) (c : GrouperCall) (error : ε),
    call c grouper = .error error grouper' → grouper' = grouper
  without : ∀ (grouper grouper' : G) (before after : List GrouperCall) (c : GrouperCall)
    (error : ε), call c (calls call grouper before).1 = .error error grouper' →
    calls call grouper (before ++ c :: after) = calls call grouper (before ++ after)
  returning : ∀ (grouper : G) (all : List GrouperCall),
    calls call grouper (returning call grouper all) = calls call grouper all

theorem Undisturbed.of_rejects {ε G : Type}
    {call : GrouperCall → EStateM ε G (Option FrameGroup)} (h : ∀ c, Rejects (call c)) :
    Undisturbed call where
  unchanged grouper grouper' c error hFails := h c grouper error grouper' hFails
  without _ _ _ after _ _ hFails := calls_without h hFails after
  returning _ all := calls_returning h all

/-- **A rejected frame does not disturb grouping.** -/
theorem failed_push_undisturbed :
    Undisturbed FrameGrouper.call ∧ Undisturbed HybridFrameGrouper.call :=
  ⟨Undisturbed.of_rejects FrameGrouper.call_rejects,
    Undisturbed.of_rejects HybridFrameGrouper.call_rejects⟩

end FrameScope.Ports.GrouperPush
