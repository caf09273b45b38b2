import FrameScope.Verified.KeyedTable
import FrameScope.Verified.Tiling
import FrameScope.Ports.Core

/-!
# Navigation between similarity groups

Port of the navigator of `framescope-group-navigation`.  A navigator reads the
persisted groups of one source, one row for each group.  The group of a frame
is found by a binary search over the spans.

`navigatorOf groups` is the navigator over a store that holds `groups`.  The
store hands out groups that pass its own validation and tile the frames of the
index, which `Partitions` says; over those the search always succeeds.
-/

namespace FrameScope.Ports.GroupNavigation

open FrameScope.Verified.KeyedTable
open FrameScope.Verified.Tiling
open FrameScope.Ports.Core

/-- `SIMILARITY_SCALE`. -/
def similarityScale : Int := 10000

inductive GroupDirection where
  | previous | next
  deriving DecidableEq, Repr

/-- The other direction. -/
def GroupDirection.opposite : GroupDirection → GroupDirection
  | .previous => .next
  | .next => .previous

/-- The variants of `GroupNavigationError` that a navigator reports. -/
inductive GroupNavigationError where
  | invalidPersistedNavigation (detail : String)
  | numericRange (label : String)
  | noGroups
  | frameNotGrouped (frameId : Nat)
  | groupBoundary (direction : GroupDirection)
  deriving DecidableEq, Repr

def GroupDirection.toText : GroupDirection → String
  | .previous => "Previous"
  | .next => "Next"

def GroupNavigationError.toText : GroupNavigationError → String
  | .invalidPersistedNavigation detail =>
      "invalid persisted similarity navigation state: " ++ detail
  | .numericRange label =>
      "similarity store numeric value is outside the supported range: " ++ label
  | .noGroups => "no similarity groups exist for this indexed source"
  | .frameNotGrouped frameId =>
      "frame " ++ toString frameId ++ " is not covered by the validated similarity groups"
  | .groupBoundary direction =>
      "already at the " ++ direction.toText ++ " similarity-group boundary"

structure GroupNavigationTarget where
  ordinal : Nat
  groupCount : Nat
  representativeFrame : Nat
  firstFrame : Nat
  lastFrame : Nat
  representedFrameCount : Nat
  startTimestamp : MediaTimestamp
  endTimestamp : MediaTimestamp
  startDuration : Option MediaDuration
  endDuration : Option MediaDuration
  representativeSimilarityFloor : Nat
  canPrevious : Bool
  canNext : Bool
  deriving DecidableEq, Repr

/-! ## Rows -/

/-- The columns of `similarity_groups` besides the key. -/
structure RawGroup where
  representativeFrame : Int
  firstFrame : Int
  lastFrame : Int
  frameCount : Int
  startTicks : Int
  startTbNum : Int
  startTbDen : Int
  endTicks : Int
  endTbNum : Int
  endTbDen : Int
  startDurationTicks : Option Int
  startDurationTbNum : Option Int
  startDurationTbDen : Option Int
  endDurationTicks : Option Int
  endDurationTbNum : Option Int
  endDurationTbDen : Option Int
  representativeSimilarityFloor : Int
  deriving DecidableEq, Repr

structure GroupRow where
  ordinal : Int
  raw : RawGroup
  deriving DecidableEq, Repr

structure SimilarityGroupNavigator where
  rows : List GroupRow
  groupCount : Nat
  deriving DecidableEq, Repr

/-- `to_sql_u64`. -/
def toSqlU64 (value : Nat) (label : String) : Except GroupNavigationError Int :=
  if value < 2 ^ 63 then .ok value else .error (.numericRange label)

/-- `from_sql_u64`. -/
def fromSqlU64 (value : Int) (label : String) : Except GroupNavigationError Nat :=
  if 0 ≤ value then .ok value.toNat else .error (.numericRange label)

/-- `decode_duration`. -/
def decodeDuration (ticks numerator denominator : Option Int) (label : String) :
    Except GroupNavigationError (Option MediaDuration) :=
  match ticks, numerator, denominator with
  | none, none, none => .ok none
  | some ticks, some numerator, some denominator =>
      if 0 < ticks then do
        let timeBase ← okOr (TimeBase.new numerator denominator)
          (.invalidPersistedNavigation ("invalid group " ++ label ++ " duration time base"))
        .ok (some ⟨ticks, timeBase⟩)
      else .error (.invalidPersistedNavigation
        ("incomplete group " ++ label ++ " duration metadata"))
  | _, _, _ => .error (.invalidPersistedNavigation
      ("incomplete group " ++ label ++ " duration metadata"))

/-- `decode_group`. -/
def decodeGroup (ordinal groupCount : Nat) (raw : RawGroup) :
    Except GroupNavigationError GroupNavigationTarget := do
  let startTimeBase ← okOr (TimeBase.new raw.startTbNum raw.startTbDen)
    (.invalidPersistedNavigation "invalid group start time base")
  let endTimeBase ← okOr (TimeBase.new raw.endTbNum raw.endTbDen)
    (.invalidPersistedNavigation "invalid group end time base")
  let startDuration ← decodeDuration raw.startDurationTicks raw.startDurationTbNum
    raw.startDurationTbDen "start"
  let endDuration ← decodeDuration raw.endDurationTicks raw.endDurationTbNum
    raw.endDurationTbDen "end"
  ensure (0 ≤ raw.representativeSimilarityFloor ∧
      raw.representativeSimilarityFloor ≤ similarityScale)
    (.invalidPersistedNavigation "group similarity floor is outside the documented scale")
  let representativeFrame ← fromSqlU64 raw.representativeFrame "representative frame"
  let firstFrame ← fromSqlU64 raw.firstFrame "first frame"
  let lastFrame ← fromSqlU64 raw.lastFrame "last frame"
  let representedFrameCount ← fromSqlU64 raw.frameCount "represented frame count"
  .ok
    { ordinal
      groupCount
      representativeFrame
      firstFrame
      lastFrame
      representedFrameCount
      startTimestamp := ⟨raw.startTicks, startTimeBase⟩
      endTimestamp := ⟨raw.endTicks, endTimeBase⟩
      startDuration
      endDuration
      representativeSimilarityFloor := raw.representativeSimilarityFloor.toNat
      canPrevious := decide (0 < ordinal)
      canNext := (checkedAddU64 ordinal 1).any fun next => decide (next < groupCount) }

/-! ## Reading -/

section Reading

variable (navigator : SimilarityGroupNavigator)

/-- `SELECT … FROM similarity_groups WHERE ordinal = ?1`. -/
def SimilarityGroupNavigator.rowAt (ordinal : Nat) : Except GroupNavigationError RawGroup := do
  let key ← toSqlU64 ordinal "group ordinal"
  let row ← okOr (navigator.rows.find? (·.ordinal == key))
    (.invalidPersistedNavigation "similarity group ordinal is missing after validation")
  .ok row.raw

/-- `group_bounds`. -/
def SimilarityGroupNavigator.groupBounds (ordinal : Nat) :
    Except GroupNavigationError (Nat × Nat) := do
  let raw ← navigator.rowAt ordinal
  let first ← fromSqlU64 raw.firstFrame "first frame"
  let last ← fromSqlU64 raw.lastFrame "last frame"
  .ok (first, last)

/-- `group_by_ordinal`. -/
def SimilarityGroupNavigator.groupByOrdinal (ordinal : Nat) :
    Except GroupNavigationError GroupNavigationTarget := do
  let raw ← navigator.rowAt ordinal
  decodeGroup ordinal navigator.groupCount raw

/-- The loop of `find_group_ordinal`.  Each round makes the range smaller, so
one round more than there are groups is enough. -/
def SimilarityGroupNavigator.searchOrdinal (frameId : Nat) :
    Nat → Nat → Nat → Except GroupNavigationError Nat
  | 0, _, _ => .error (.frameNotGrouped frameId)
  | rounds + 1, low, high =>
      if low < high then do
        let mid := low + (high - low) / 2
        let (first, last) ← navigator.groupBounds mid
        if frameId < first then searchOrdinal frameId rounds low mid
        else if last < frameId then searchOrdinal frameId rounds (mid + 1) high
        else .ok mid
      else .error (.frameNotGrouped frameId)

/-- `find_group_ordinal`. -/
def SimilarityGroupNavigator.findGroupOrdinal (frameId : Nat) :
    Except GroupNavigationError Nat := do
  ensure (navigator.groupCount ≠ 0) .noGroups
  navigator.searchOrdinal frameId (navigator.groupCount + 1) 0 navigator.groupCount

/-- `group_containing`. -/
def SimilarityGroupNavigator.groupContaining (frameId : Nat) :
    Except GroupNavigationError GroupNavigationTarget := do
  let ordinal ← navigator.findGroupOrdinal frameId
  navigator.groupByOrdinal ordinal

/-- The ordinal next to `current`. -/
def SimilarityGroupNavigator.adjacentOrdinal (current : Nat) :
    GroupDirection → Except GroupNavigationError Nat
  | .previous => if current = 0 then .error (.groupBoundary .previous) else .ok (current - 1)
  | .next => do
      let next ← okOr (checkedAddU64 current 1) (.numericRange "group ordinal")
      ensure (next < navigator.groupCount) (.groupBoundary .next)
      .ok next

/-- `adjacent_group`. -/
def SimilarityGroupNavigator.adjacentGroup (frameId : Nat) (direction : GroupDirection) :
    Except GroupNavigationError GroupNavigationTarget := do
  let current ← navigator.findGroupOrdinal frameId
  let target ← navigator.adjacentOrdinal current direction
  navigator.groupByOrdinal target

end Reading

/-! ## Stored groups -/

/-- `FrameGroup` of `framescope-similarity`. -/
structure FrameGroup where
  representativeFrame : Nat
  firstFrame : Nat
  lastFrame : Nat
  frameCount : Nat
  startTimestamp : MediaTimestamp
  endTimestamp : MediaTimestamp
  startDuration : Option MediaDuration
  endDuration : Option MediaDuration
  representativeSimilarityFloor : Nat
  deriving DecidableEq, Repr

/-- The columns that the store writes for a group. -/
def FrameGroup.raw (g : FrameGroup) : RawGroup where
  representativeFrame := g.representativeFrame
  firstFrame := g.firstFrame
  lastFrame := g.lastFrame
  frameCount := g.frameCount
  startTicks := g.startTimestamp.ticks
  startTbNum := g.startTimestamp.timeBase.numerator
  startTbDen := g.startTimestamp.timeBase.denominator
  endTicks := g.endTimestamp.ticks
  endTbNum := g.endTimestamp.timeBase.numerator
  endTbDen := g.endTimestamp.timeBase.denominator
  startDurationTicks := g.startDuration.map (·.ticks)
  startDurationTbNum := g.startDuration.map (·.timeBase.numerator)
  startDurationTbDen := g.startDuration.map (·.timeBase.denominator)
  endDurationTicks := g.endDuration.map (·.ticks)
  endDurationTbNum := g.endDuration.map (·.timeBase.numerator)
  endDurationTbDen := g.endDuration.map (·.timeBase.denominator)
  representativeSimilarityFloor := g.representativeSimilarityFloor

/-- The rows of `groups`, keyed from `n` on. -/
def groupRows : Nat → List FrameGroup → List GroupRow
  | _, [] => []
  | n, g :: rest => ⟨n, g.raw⟩ :: groupRows (n + 1) rest

/-- The navigator over a store that holds `groups`. -/
def navigatorOf (groups : List FrameGroup) : SimilarityGroupNavigator :=
  ⟨groupRows 0 groups, groups.length⟩

/-- Groups that pass `invalid_group` of the store. -/
structure FrameGroup.Valid (g : FrameGroup) : Prop where
  first_le : g.firstFrame ≤ g.representativeFrame
  le_last : g.representativeFrame ≤ g.lastFrame
  count : g.frameCount = g.lastFrame - g.firstFrame + 1
  floor : (g.representativeSimilarityFloor : Int) ≤ similarityScale
  startDuration : ∀ d, g.startDuration = some d → 0 < d.ticks
  endDuration : ∀ d, g.endDuration = some d → 0 < d.ticks

/-- Valid groups that tile the frames of an index of `frameCount` frames. -/
structure Partitions (frameCount : Nat) (groups : List FrameGroup) : Prop where
  valid : ∀ g ∈ groups, g.Valid
  tiles : TilesFrom (·.firstFrame) (·.lastFrame) 0 frameCount groups

/-- The target that a group is reported as. -/
def targetOf (groupCount ordinal : Nat) (g : FrameGroup) : GroupNavigationTarget where
  ordinal := ordinal
  groupCount := groupCount
  representativeFrame := g.representativeFrame
  firstFrame := g.firstFrame
  lastFrame := g.lastFrame
  representedFrameCount := g.frameCount
  startTimestamp := g.startTimestamp
  endTimestamp := g.endTimestamp
  startDuration := g.startDuration
  endDuration := g.endDuration
  representativeSimilarityFloor := g.representativeSimilarityFloor
  canPrevious := decide (0 < ordinal)
  canNext := (checkedAddU64 ordinal 1).any fun next => decide (next < groupCount)

section Stored

variable {groups : List FrameGroup} {i : Nat} {g : FrameGroup}

theorem groupRows_consecutive (n : Nat) (groups : List FrameGroup) :
    Consecutive (·.ordinal) n (groupRows n groups) := by
  induction groups generalizing n with
  | nil => trivial
  | cons g rest ih => exact ⟨rfl, ih (n + 1)⟩

theorem groupRows_getElem? (n i : Nat) (groups : List FrameGroup) :
    (groupRows n groups)[i]? = (groups[i]?).map fun g => ⟨((n + i : Nat) : Int), g.raw⟩ := by
  induction groups generalizing n i with
  | nil => rfl
  | cons g rest ih =>
      cases i with
      | zero => rfl
      | succ i =>
          change (groupRows (n + 1) rest)[i]? = _
          rw [ih, List.getElem?_cons_succ, show n + 1 + i = n + (i + 1) by omega]

theorem rowAt_navigatorOf (hi : i < 2 ^ 63) (hg : groups[i]? = some g) :
    (navigatorOf groups).rowAt i = .ok g.raw := by
  have hFind : (groupRows 0 groups).find? (fun row => row.ordinal == (i : Int)) =
      some ⟨((0 + i : Nat) : Int), g.raw⟩ := by
    rw [(groupRows_consecutive 0 groups).find? i, groupRows_getElem?, hg]
    rfl
  unfold SimilarityGroupNavigator.rowAt toSqlU64 navigatorOf
  rw [if_pos hi]
  refine bind_eq_ok.2 ⟨(i : Int), rfl, bind_eq_ok.2 ⟨_, okOr_eq_ok.2 hFind, rfl⟩⟩

/-- A row that is read holds the group of its ordinal. -/
theorem rowAt_navigatorOf_ok {raw : RawGroup} (h : (navigatorOf groups).rowAt i = .ok raw) :
    ∃ g, groups[i]? = some g ∧ raw = g.raw := by
  obtain ⟨key, hKey, h⟩ := bind_eq_ok.1 h
  obtain ⟨row, hRow, h⟩ := bind_eq_ok.1 h
  cases h
  unfold toSqlU64 at hKey
  split_ifs at hKey
  cases hKey
  rw [okOr_eq_ok] at hRow
  change (groupRows 0 groups).find? (fun row => row.ordinal == (i : Int)) = some row at hRow
  rw [(groupRows_consecutive 0 groups).find? i, groupRows_getElem?,
    Option.map_eq_some_iff] at hRow
  obtain ⟨g, hg, rfl⟩ := hRow
  exact ⟨g, hg, rfl⟩

theorem fromSqlU64_ok {value n : Nat} {label : String}
    (h : fromSqlU64 (value : Int) label = .ok n) : n = value := by
  unfold fromSqlU64 at h
  rw [if_pos (Int.natCast_nonneg value)] at h
  cases h
  exact Int.toNat_natCast value

theorem decodeDuration_ok {d decoded : Option MediaDuration} {label : String}
    (h : decodeDuration (d.map (·.ticks)) (d.map (·.timeBase.numerator))
      (d.map (·.timeBase.denominator)) label = .ok decoded) : decoded = d := by
  cases d with
  | none =>
      cases h
      rfl
  | some d =>
      simp only [decodeDuration, Option.map_some] at h
      split_ifs at h
      obtain ⟨timeBase, hBase, h⟩ := bind_eq_ok.1 h
      rw [TimeBase.new_self, okOr_eq_ok] at hBase
      cases hBase
      cases h
      rfl

/-- A target that is reported for an ordinal is that of its group. -/
theorem groupByOrdinal_ok {target : GroupNavigationTarget}
    (h : (navigatorOf groups).groupByOrdinal i = .ok target) :
    ∃ g, groups[i]? = some g ∧ target = targetOf groups.length i g := by
  obtain ⟨raw, hRaw, h⟩ := bind_eq_ok.1 h
  obtain ⟨g, hg, rfl⟩ := rowAt_navigatorOf_ok hRaw
  refine ⟨g, hg, ?_⟩
  obtain ⟨startBase, hStartBase, h⟩ := bind_eq_ok.1 h
  obtain ⟨endBase, hEndBase, h⟩ := bind_eq_ok.1 h
  obtain ⟨startDuration, hStart, h⟩ := bind_eq_ok.1 h
  obtain ⟨endDuration, hEnd, h⟩ := bind_eq_ok.1 h
  obtain ⟨_, -, h⟩ := bind_eq_ok.1 h
  obtain ⟨representative, hRepresentative, h⟩ := bind_eq_ok.1 h
  obtain ⟨first, hFirst, h⟩ := bind_eq_ok.1 h
  obtain ⟨last, hLast, h⟩ := bind_eq_ok.1 h
  obtain ⟨count, hCount, h⟩ := bind_eq_ok.1 h
  cases h
  change okOr (TimeBase.new g.startTimestamp.timeBase.numerator
    g.startTimestamp.timeBase.denominator) _ = _ at hStartBase
  change okOr (TimeBase.new g.endTimestamp.timeBase.numerator
    g.endTimestamp.timeBase.denominator) _ = _ at hEndBase
  rw [TimeBase.new_self, okOr_eq_ok, Option.some.injEq] at hStartBase hEndBase
  rw [← hStartBase, ← hEndBase, decodeDuration_ok hStart, decodeDuration_ok hEnd,
    fromSqlU64_ok hRepresentative, fromSqlU64_ok hFirst, fromSqlU64_ok hLast,
    fromSqlU64_ok hCount]
  rfl

theorem fromSqlU64_natCast (value : Nat) (label : String) :
    fromSqlU64 (value : Int) label = .ok value := by
  unfold fromSqlU64
  rw [if_pos (Int.natCast_nonneg value), Int.toNat_natCast]

theorem groupBounds_of (hi : i < 2 ^ 63) (hg : groups[i]? = some g) :
    (navigatorOf groups).groupBounds i = .ok (g.firstFrame, g.lastFrame) := by
  refine bind_eq_ok.2 ⟨g.raw, rowAt_navigatorOf hi hg, ?_⟩
  refine bind_eq_ok.2 ⟨g.firstFrame, fromSqlU64_natCast _ _, ?_⟩
  exact bind_eq_ok.2 ⟨g.lastFrame, fromSqlU64_natCast _ _, rfl⟩

theorem decodeDuration_of {d : Option MediaDuration} (label : String)
    (h : ∀ x, d = some x → 0 < x.ticks) :
    decodeDuration (d.map (·.ticks)) (d.map (·.timeBase.numerator))
      (d.map (·.timeBase.denominator)) label = .ok d := by
  cases d with
  | none => rfl
  | some d =>
      simp only [decodeDuration, Option.map_some]
      rw [if_pos (h d rfl), TimeBase.new_self]
      rfl

/-- The group of an ordinal is reported when it is valid. -/
theorem groupByOrdinal_of (hi : i < 2 ^ 63) (hg : groups[i]? = some g) (hValid : g.Valid) :
    (navigatorOf groups).groupByOrdinal i = .ok (targetOf groups.length i g) := by
  refine bind_eq_ok.2 ⟨g.raw, rowAt_navigatorOf hi hg, ?_⟩
  refine bind_eq_ok.2 ⟨g.startTimestamp.timeBase, okOr_eq_ok.2 (TimeBase.new_self _), ?_⟩
  refine bind_eq_ok.2 ⟨g.endTimestamp.timeBase, okOr_eq_ok.2 (TimeBase.new_self _), ?_⟩
  refine bind_eq_ok.2 ⟨_, decodeDuration_of _ hValid.startDuration, ?_⟩
  refine bind_eq_ok.2 ⟨_, decodeDuration_of _ hValid.endDuration, ?_⟩
  refine bind_eq_ok.2 ⟨(), ensure_eq_ok.2 ⟨Int.natCast_nonneg _, hValid.floor⟩, ?_⟩
  refine bind_eq_ok.2 ⟨_, fromSqlU64_natCast _ _, ?_⟩
  refine bind_eq_ok.2 ⟨_, fromSqlU64_natCast _ _, ?_⟩
  refine bind_eq_ok.2 ⟨_, fromSqlU64_natCast _ _, ?_⟩
  exact bind_eq_ok.2 ⟨_, fromSqlU64_natCast _ _, rfl⟩

end Stored

/-! ## Searching a partition -/

section Search

variable {groups : List FrameGroup} {frameCount i f : Nat} {g : FrameGroup}

theorem Partitions.validAt (h : Partitions frameCount groups) (hg : groups[i]? = some g) :
    g.Valid := h.valid g (List.mem_of_getElem? hg)

theorem Partitions.lt (h : Partitions frameCount groups) (hBound : frameCount < 2 ^ 63)
    (hg : groups[i]? = some g) : i < 2 ^ 63 := by
  have hLength := h.tiles.length_le
  have hi := (List.getElem?_eq_some_iff.1 hg).1
  omega

/-- The search narrows down to the group of the frame. -/
theorem searchOrdinal_of (h : Partitions frameCount groups) (hBound : frameCount < 2 ^ 63)
    (hg : groups[i]? = some g) (hFirst : g.firstFrame ≤ f) (hLast : f ≤ g.lastFrame)
    (rounds : Nat) :
    ∀ {low high : Nat}, low ≤ i → i < high → high ≤ groups.length → high - low < rounds →
      (navigatorOf groups).searchOrdinal f rounds low high = .ok i := by
  induction rounds with
  | zero =>
      intro low high _ _ _ hRounds
      exact absurd hRounds (Nat.not_lt_zero _)
  | succ rounds ih =>
      intro low high hLow hHigh hLength hRounds
      obtain ⟨mid, hMid⟩ : ∃ mid, mid = low + (high - low) / 2 := ⟨_, rfl⟩
      obtain ⟨m, hm⟩ : ∃ m, groups[mid]? = some m :=
        ⟨_, List.getElem?_eq_getElem (show mid < groups.length by omega)⟩
      unfold SimilarityGroupNavigator.searchOrdinal
      rw [if_pos (by omega)]
      dsimp only
      rw [← hMid, groupBounds_of (h.lt hBound hm) hm]
      change (if f < m.firstFrame then _ else if m.lastFrame < f then _ else Except.ok mid) = _
      -- The spans are ordered as the ordinals are.
      rcases Nat.lt_trichotomy mid i with hLt | hEq | hGt
      · have hOrder := h.tiles.ordered hLt hm hg
        have hSpan := h.tiles.span hm
        rw [if_neg (by omega), if_pos (by omega)]
        exact ih (by omega) hHigh hLength (by omega)
      · rw [← hEq, hm, Option.some.injEq] at hg
        subst hg
        rw [if_neg (by omega), if_neg (by omega), hEq]
      · have hOrder := h.tiles.ordered hGt hg hm
        rw [if_pos (by omega)]
        exact ih hLow (by omega) (by omega) (by omega)

/-- **Every frame is found in its group.** -/
theorem findGroupOrdinal_of (h : Partitions frameCount groups) (hBound : frameCount < 2 ^ 63)
    (hg : groups[i]? = some g) (hFirst : g.firstFrame ≤ f) (hLast : f ≤ g.lastFrame) :
    (navigatorOf groups).findGroupOrdinal f = .ok i := by
  have hi := (List.getElem?_eq_some_iff.1 hg).1
  refine bind_eq_ok.2 ⟨(), ensure_eq_ok.2 ?_, ?_⟩
  · change groups.length ≠ 0
    omega
  · exact searchOrdinal_of h hBound hg hFirst hLast _ (Nat.zero_le i) hi (Nat.le_refl _)
      (Nat.lt_succ_self _)

theorem groupContaining_of (h : Partitions frameCount groups) (hBound : frameCount < 2 ^ 63)
    (hg : groups[i]? = some g) (hFirst : g.firstFrame ≤ f) (hLast : f ≤ g.lastFrame) :
    (navigatorOf groups).groupContaining f = .ok (targetOf groups.length i g) :=
  bind_eq_ok.2 ⟨i, findGroupOrdinal_of h hBound hg hFirst hLast,
    groupByOrdinal_of (h.lt hBound hg) hg (h.validAt hg)⟩

/-- The next group of a frame is the one after its group. -/
theorem adjacentGroup_next_of (h : Partitions frameCount groups) (hBound : frameCount < 2 ^ 63)
    (hg : groups[i]? = some g) (hFirst : g.firstFrame ≤ f) (hLast : f ≤ g.lastFrame)
    {g' : FrameGroup} (hg' : groups[i + 1]? = some g') :
    (navigatorOf groups).adjacentGroup f .next = .ok (targetOf groups.length (i + 1) g') := by
  have hLt := h.lt hBound hg'
  refine bind_eq_ok.2 ⟨i, findGroupOrdinal_of h hBound hg hFirst hLast, ?_⟩
  refine bind_eq_ok.2 ⟨i + 1, ?_, groupByOrdinal_of hLt hg' (h.validAt hg')⟩
  refine bind_eq_ok.2 ⟨i + 1, okOr_eq_ok.2 (checkedAddU64_eq_some.2 ⟨by omega, rfl⟩), ?_⟩
  exact bind_eq_ok.2 ⟨(), ensure_eq_ok.2 (List.getElem?_eq_some_iff.1 hg').1, rfl⟩

/-- The previous group of a frame is the one before its group. -/
theorem adjacentGroup_previous_of (h : Partitions frameCount groups)
    (hBound : frameCount < 2 ^ 63) (hg : groups[i + 1]? = some g) (hFirst : g.firstFrame ≤ f)
    (hLast : f ≤ g.lastFrame) {g' : FrameGroup} (hg' : groups[i]? = some g') :
    (navigatorOf groups).adjacentGroup f .previous = .ok (targetOf groups.length i g') := by
  refine bind_eq_ok.2 ⟨i + 1, findGroupOrdinal_of h hBound hg hFirst hLast, ?_⟩
  exact bind_eq_ok.2 ⟨i, rfl, groupByOrdinal_of (h.lt hBound hg') hg' (h.validAt hg')⟩

/-- There is no group after the last one. -/
theorem adjacentGroup_last_of (h : Partitions frameCount groups) (hBound : frameCount < 2 ^ 63)
    (hg : groups[i]? = some g) (hFirst : g.firstFrame ≤ f) (hLast : f ≤ g.lastFrame)
    (hEnd : i + 1 = groups.length) :
    (navigatorOf groups).adjacentGroup f .next = .error (.groupBoundary .next) := by
  have hLt := h.lt hBound hg
  have hAdd : checkedAddU64 i 1 = some (i + 1) := checkedAddU64_eq_some.2 ⟨by omega, rfl⟩
  have hNext : (navigatorOf groups).adjacentOrdinal i .next = .error (.groupBoundary .next) := by
    unfold SimilarityGroupNavigator.adjacentOrdinal
    rw [hAdd]
    change (ensure (i + 1 < groups.length) _ >>= fun _ => _) = _
    rw [ensure_false (by omega)]
    rfl
  unfold SimilarityGroupNavigator.adjacentGroup
  rw [findGroupOrdinal_of h hBound hg hFirst hLast]
  change ((navigatorOf groups).adjacentOrdinal i .next >>= fun target => _) = _
  rw [hNext]
  rfl

/-- There is no group before the first one. -/
theorem adjacentGroup_first_of (h : Partitions frameCount groups) (hBound : frameCount < 2 ^ 63)
    (hg : groups[0]? = some g) (hFirst : g.firstFrame ≤ f) (hLast : f ≤ g.lastFrame) :
    (navigatorOf groups).adjacentGroup f .previous = .error (.groupBoundary .previous) := by
  unfold SimilarityGroupNavigator.adjacentGroup
  rw [findGroupOrdinal_of h hBound hg hFirst hLast]
  rfl

end Search

end FrameScope.Ports.GroupNavigation
