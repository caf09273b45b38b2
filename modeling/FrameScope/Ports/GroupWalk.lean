import FrameScope.Ports.GroupNavigation

/-!
# Walking through the groups

`adjacentGroup` on a partition of the frames.  The step to the next group and
the step to the previous one undo each other, from whichever frame of the group
that is reached the second one is taken.  Taken again and again from the first
frame, the step to the next group visits the groups in their order.

The frames of an index are counted in a signed 64-bit column, which is what
the bound on the number of frames says.
-/

namespace FrameScope.Ports.GroupWalk

open FrameScope.Verified.Tiling
open FrameScope.Ports.Core
open FrameScope.Ports.GroupNavigation

/-- The frame lies in the group of the target. -/
def Within (target : GroupNavigationTarget) (f : Nat) : Prop :=
  target.firstFrame ≤ f ∧ f ≤ target.lastFrame

/-- The targets reached by taking the next group of a frame again and again, each time from
some frame of the group that was reached, and the error that ends the walk. -/
inductive NextWalk (navigator : SimilarityGroupNavigator) :
    Nat → List GroupNavigationTarget → GroupNavigationError → Prop where
  | stop {f : Nat} {error : GroupNavigationError}
      (h : navigator.adjacentGroup f .next = .error error) : NextWalk navigator f [] error
  | step {f f' : Nat} {target : GroupNavigationTarget}
      {visited : List GroupNavigationTarget} {error : GroupNavigationError}
      (h : navigator.adjacentGroup f .next = .ok target) (hWithin : Within target f')
      (rest : NextWalk navigator f' visited error) :
      NextWalk navigator f (target :: visited) error

/-- The targets of all groups, in order. -/
def allTargets (groups : List FrameGroup) : List GroupNavigationTarget :=
  groups.mapIdx (targetOf groups.length)

section Walk

variable {groups : List FrameGroup} {frameCount i f : Nat} {g : FrameGroup}

/-- The frame lies in the group of the ordinal. -/
structure InGroup (groups : List FrameGroup) (f i : Nat) (g : FrameGroup) : Prop where
  stored : groups[i]? = some g
  first_le : g.firstFrame ≤ f
  le_last : f ≤ g.lastFrame

/-- **The search finds the one group that contains the frame.** -/
theorem findGroupOrdinal_unique (h : Partitions frameCount groups)
    (hBound : frameCount < 2 ^ 63) (hf : f < frameCount) :
    ∃ i g, InGroup groups f i g ∧ (∀ j g', InGroup groups f j g' → j = i) ∧
      (navigatorOf groups).findGroupOrdinal f = .ok i := by
  obtain ⟨i, g, hg, hFirst, hLast⟩ := h.tiles.exists_piece (Nat.zero_le f) hf
  refine ⟨i, g, ⟨hg, hFirst, hLast⟩, ?_, findGroupOrdinal_of h hBound hg hFirst hLast⟩
  intro j g' hIn
  exact h.tiles.piece_unique hIn.stored hg ⟨hIn.first_le, hIn.le_last⟩ ⟨hFirst, hLast⟩

/-- The next group is reported when there is one. -/
theorem adjacentGroup_next_eq (h : Partitions frameCount groups) (hBound : frameCount < 2 ^ 63)
    (hIn : InGroup groups f i g) :
    (navigatorOf groups).adjacentGroup f .next =
      (groups[i + 1]?).elim (.error (.groupBoundary .next))
        fun g' => .ok (targetOf groups.length (i + 1) g') := by
  have hi := (List.getElem?_eq_some_iff.1 hIn.stored).1
  cases hNext : groups[i + 1]? with
  | none =>
      have hLength := List.getElem?_eq_none_iff.1 hNext
      exact adjacentGroup_last_of h hBound hIn.stored hIn.first_le hIn.le_last (by omega)
  | some g' => exact adjacentGroup_next_of h hBound hIn.stored hIn.first_le hIn.le_last hNext

/-- The previous group is reported when there is one. -/
theorem adjacentGroup_previous_eq (h : Partitions frameCount groups)
    (hBound : frameCount < 2 ^ 63) (hIn : InGroup groups f i g) :
    (i = 0 ∧ (navigatorOf groups).adjacentGroup f .previous =
        .error (.groupBoundary .previous)) ∨
      ∃ k g', i = k + 1 ∧ groups[k]? = some g' ∧
        (navigatorOf groups).adjacentGroup f .previous =
          .ok (targetOf groups.length k g') := by
  have hi := (List.getElem?_eq_some_iff.1 hIn.stored).1
  cases i with
  | zero =>
      exact .inl ⟨rfl, adjacentGroup_first_of h hBound hIn.stored hIn.first_le hIn.le_last⟩
  | succ k =>
      have hg' := List.getElem?_eq_getElem (show k < groups.length by omega)
      exact .inr ⟨k, groups[k], rfl, hg',
        adjacentGroup_previous_of h hBound hIn.stored hIn.first_le hIn.le_last hg'⟩

/-- A frame within a target lies in its group. -/
theorem inGroup_of_within {g' : FrameGroup} {n j f' : Nat} (hg' : groups[j]? = some g')
    (hWithin : Within (targetOf n j g') f') : InGroup groups f' j g' :=
  ⟨hg', hWithin.1, hWithin.2⟩

/-- **The steps to the two sides undo each other.** -/
theorem adjacentGroup_opposite (h : Partitions frameCount groups) (hBound : frameCount < 2 ^ 63)
    (hf : f < frameCount) {direction : GroupDirection} {target : GroupNavigationTarget}
    (hTarget : (navigatorOf groups).adjacentGroup f direction = .ok target) {f' : Nat}
    (hWithin : Within target f') :
    (navigatorOf groups).adjacentGroup f' direction.opposite =
      (navigatorOf groups).groupContaining f := by
  obtain ⟨i, g, hIn, -, -⟩ := findGroupOrdinal_unique h hBound hf
  rw [groupContaining_of h hBound hIn.stored hIn.first_le hIn.le_last]
  cases direction with
  | next =>
      rw [adjacentGroup_next_eq h hBound hIn] at hTarget
      cases hNext : groups[i + 1]? with
      | none =>
          rw [hNext] at hTarget
          cases hTarget
      | some g' =>
          rw [hNext] at hTarget
          cases hTarget
          have hIn' := inGroup_of_within hNext hWithin
          exact adjacentGroup_previous_of h hBound hNext hIn'.first_le hIn'.le_last hIn.stored
  | previous =>
      rcases adjacentGroup_previous_eq h hBound hIn with ⟨-, hError⟩ | ⟨k, g', rfl, hg', hOk⟩
      · rw [hError] at hTarget
        cases hTarget
      · rw [hOk] at hTarget
        cases hTarget
        have hIn' := inGroup_of_within hg' hWithin
        exact adjacentGroup_next_of h hBound hg' hIn'.first_le hIn'.le_last hIn.stored

/-! ## The walk from the first frame -/

theorem allTargets_getElem? (groups : List FrameGroup) (i : Nat) :
    (allTargets groups)[i]? = (groups[i]?).map (targetOf groups.length i) :=
  List.getElem?_mapIdx

/-- The targets that are left after a group begin with that of the next one. -/
theorem drop_allTargets {g' : FrameGroup} (hg' : groups[i]? = some g') :
    (allTargets groups).drop i =
      targetOf groups.length i g' :: (allTargets groups).drop (i + 1) := by
  have hTarget : (allTargets groups)[i]? = some (targetOf groups.length i g') := by
    rw [allTargets_getElem?, hg']
    rfl
  obtain ⟨hi, hEq⟩ := List.getElem?_eq_some_iff.1 hTarget
  rw [List.drop_eq_getElem_cons hi, hEq]

theorem drop_allTargets_end (hNone : groups[i]? = none) : (allTargets groups).drop i = [] := by
  have hLength := List.getElem?_eq_none_iff.1 hNone
  exact List.drop_eq_nil_of_le (by rw [allTargets, List.length_mapIdx]; exact hLength)

/-- A walk from a group visits the groups after it. -/
theorem NextWalk.visits (h : Partitions frameCount groups) (hBound : frameCount < 2 ^ 63)
    {visited : List GroupNavigationTarget} {error : GroupNavigationError}
    (walk : NextWalk (navigatorOf groups) f visited error) :
    ∀ {i : Nat} {g : FrameGroup}, InGroup groups f i g →
      visited = (allTargets groups).drop (i + 1) ∧ error = .groupBoundary .next := by
  induction walk with
  | stop hStop =>
      intro i g hIn
      rw [adjacentGroup_next_eq h hBound hIn] at hStop
      cases hNext : groups[i + 1]? with
      | none =>
          rw [hNext] at hStop
          cases hStop
          exact ⟨(drop_allTargets_end hNext).symm, rfl⟩
      | some g' =>
          rw [hNext] at hStop
          cases hStop
  | step hStep hWithin _ ih =>
      intro i g hIn
      rw [adjacentGroup_next_eq h hBound hIn] at hStep
      cases hNext : groups[i + 1]? with
      | none =>
          rw [hNext] at hStep
          cases hStep
      | some g' =>
          rw [hNext] at hStep
          cases hStep
          obtain ⟨hVisited, hError⟩ := ih (inGroup_of_within hNext hWithin)
          rw [drop_allTargets hNext, hVisited]
          exact ⟨rfl, hError⟩

/-- From every group there is a walk, by induction on the groups that are left. -/
theorem nextWalk_exists (h : Partitions frameCount groups) (hBound : frameCount < 2 ^ 63)
    (left : Nat) : ∀ {f i : Nat} {g : FrameGroup}, InGroup groups f i g →
      groups.length - i = left →
      ∃ visited error, NextWalk (navigatorOf groups) f visited error := by
  induction left with
  | zero =>
      intro f i g hIn hLeft
      have hi := (List.getElem?_eq_some_iff.1 hIn.stored).1
      omega
  | succ left ih =>
      intro f i g hIn hLeft
      have hStep := adjacentGroup_next_eq h hBound hIn
      cases hNext : groups[i + 1]? with
      | none =>
          rw [hNext] at hStep
          exact ⟨[], _, NextWalk.stop hStep⟩
      | some g' =>
          rw [hNext] at hStep
          have hValid := h.validAt hNext
          have hIn' : InGroup groups g'.representativeFrame (i + 1) g' :=
            ⟨hNext, hValid.first_le, hValid.le_last⟩
          obtain ⟨visited, error, rest⟩ := ih hIn' (by omega)
          exact ⟨_ :: visited, error, NextWalk.step hStep ⟨hValid.first_le, hValid.le_last⟩ rest⟩

/-- **The walk from the first frame visits every group once, in order, and ends at the
boundary.** -/
theorem nextWalk_from_first (h : Partitions frameCount groups) (hBound : frameCount < 2 ^ 63)
    (hFrames : 0 < frameCount) :
    ∃ first, (navigatorOf groups).groupContaining 0 = .ok first ∧
      (∃ visited error, NextWalk (navigatorOf groups) 0 visited error) ∧
      ∀ visited error, NextWalk (navigatorOf groups) 0 visited error →
        first :: visited = allTargets groups ∧ error = .groupBoundary .next := by
  obtain ⟨i, g, hg, hFirst, hLast⟩ := h.tiles.exists_piece (Nat.le_refl 0) hFrames
  -- Frame 0 lies in the group that begins the partition.
  have hi : i = 0 := by
    obtain ⟨first, hfirst⟩ : ∃ first, groups[0]? = some first :=
      ⟨_, List.getElem?_eq_getElem (by
        have := (List.getElem?_eq_some_iff.1 hg).1
        omega)⟩
    exact h.tiles.piece_unique hg hfirst ⟨hFirst, hLast⟩
      ⟨Nat.le_of_eq (h.tiles.first_eq hfirst), Nat.zero_le _⟩
  subst hi
  have hIn : InGroup groups 0 0 g := ⟨hg, hFirst, hLast⟩
  refine ⟨_, groupContaining_of h hBound hg hFirst hLast,
    nextWalk_exists h hBound _ hIn rfl, ?_⟩
  intro visited error walk
  obtain ⟨hVisited, hError⟩ := NextWalk.visits h hBound walk hIn
  refine ⟨?_, hError⟩
  rw [hVisited, ← drop_allTargets hg, List.drop_zero]

/-- **Group navigation is correct on every partition.**  The search gives the ordinal of the one
group that contains the frame.  A group next to it is reported when there is one, and the step
back from any frame of that group reports the group of the frame again.  The walk to the next
group from frame 0 visits every group once and then meets the boundary. -/
theorem group_navigation_correct (h : Partitions frameCount groups)
    (hBound : frameCount < 2 ^ 63) :
    (∀ f, f < frameCount → ∃ i g, InGroup groups f i g ∧
      (∀ j g', InGroup groups f j g' → j = i) ∧
      (navigatorOf groups).findGroupOrdinal f = .ok i ∧
      (navigatorOf groups).adjacentGroup f .next =
        (groups[i + 1]?).elim (.error (.groupBoundary .next))
          (fun g' => .ok (targetOf groups.length (i + 1) g')) ∧
      ((i = 0 ∧ (navigatorOf groups).adjacentGroup f .previous =
          .error (.groupBoundary .previous)) ∨
        ∃ k g', i = k + 1 ∧ groups[k]? = some g' ∧
          (navigatorOf groups).adjacentGroup f .previous =
            .ok (targetOf groups.length k g'))) ∧
    (∀ f direction target, f < frameCount →
      (navigatorOf groups).adjacentGroup f direction = .ok target →
      ∀ f', Within target f' →
        (navigatorOf groups).adjacentGroup f' direction.opposite =
          (navigatorOf groups).groupContaining f) ∧
    (0 < frameCount → ∃ first, (navigatorOf groups).groupContaining 0 = .ok first ∧
      (∃ visited error, NextWalk (navigatorOf groups) 0 visited error) ∧
      ∀ visited error, NextWalk (navigatorOf groups) 0 visited error →
        first :: visited = allTargets groups ∧ error = .groupBoundary .next) := by
  refine ⟨?_, ?_, nextWalk_from_first h hBound⟩
  · intro f hf
    obtain ⟨i, g, hIn, hUnique, hFind⟩ := findGroupOrdinal_unique h hBound hf
    exact ⟨i, g, hIn, hUnique, hFind, adjacentGroup_next_eq h hBound hIn,
      adjacentGroup_previous_eq h hBound hIn⟩
  · intro f direction target hf hTarget f' hWithin
    exact adjacentGroup_opposite h hBound hf hTarget hWithin

end Walk

/-! ## A partition of three frames -/

/-- A group of similar frames that is represented by its first one. -/
def walkGroup (first last : Nat) : FrameGroup where
  representativeFrame := first
  firstFrame := first
  lastFrame := last
  frameCount := last - first + 1
  startTimestamp := ⟨first, sampleTimeBase⟩
  endTimestamp := ⟨last, sampleTimeBase⟩
  startDuration := none
  endDuration := none
  representativeSimilarityFloor := 10000

theorem walkGroup_valid {first last : Nat} (h : first ≤ last) : (walkGroup first last).Valid where
  first_le := Nat.le_refl first
  le_last := h
  count := rfl
  floor := Int.le_refl similarityScale
  startDuration d hd := by cases hd
  endDuration d hd := by cases hd

theorem partitions_walkGroups : Partitions 3 [walkGroup 0 1, walkGroup 2 2] where
  valid g hg := by
    rcases List.mem_cons.1 hg with rfl | hg
    · exact walkGroup_valid (by decide)
    · rw [List.mem_singleton.1 hg]
      exact walkGroup_valid (Nat.le_refl 2)
  tiles := ⟨rfl, by decide, rfl, by decide, rfl⟩

theorem group_navigation_correct_walkGroups :
    (navigatorOf [walkGroup 0 1, walkGroup 2 2]).adjacentGroup 2 .next =
        .error (.groupBoundary .next) ∧
      (navigatorOf [walkGroup 0 1, walkGroup 2 2]).adjacentGroup 2 GroupDirection.next.opposite =
        (navigatorOf [walkGroup 0 1, walkGroup 2 2]).groupContaining 0 := by
  have hNav := group_navigation_correct partitions_walkGroups (by decide)
  exact ⟨rfl, hNav.2.1 0 .next (targetOf 2 1 (walkGroup 2 2)) (by decide) rfl 2
    ⟨Nat.le_refl 2, Nat.le_refl 2⟩⟩

end FrameScope.Ports.GroupWalk
