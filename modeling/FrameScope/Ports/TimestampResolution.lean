import FrameScope.Ports.TimestampQueries
import FrameScope.Ports.Microscope

/-!
# Resolving a timestamp

Port of `resolve_timestamp` and `choose_nearest` of `navigation.rs`, and what it
and `microscope_timestamp_us` find.  The two choose between the same two lookups,
one over ticks and one over microseconds.

A lookup from one side is optimal by itself.  Of the two sides the closer one is
the nearest, and the earlier one on a tie, because a lookup from above that is
exact is preferred before the distances are compared.
-/

namespace FrameScope.Ports.TimestampResolution

open FrameScope.Ports.Core
open FrameScope.Ports.Decoder
open FrameScope.Ports.FrameIndexModel
open FrameScope.Ports.SourceBinding
open FrameScope.Ports.FrameIndexStore
open FrameScope.Ports.FrameIndexState
open FrameScope.Ports.IndexingCall
open FrameScope.Ports.CompleteIndex
open FrameScope.Ports.TimestampQueries
open FrameScope.Ports.Navigation (NavigationError)
open FrameScope.Ports.Microscope

inductive TimestampSelection where
  | atOrBefore | atOrAfter | nearest
  deriving DecidableEq, Repr

/-- `i64::checked_sub`. -/
def checkedSubI64 (a b : Int) : Option Int :=
  if InI64 (a - b) then some (a - b) else none

def chooseNearest (target : MediaTimestamp) :
    Option FrameIndexEntry → Option FrameIndexEntry →
      Except NavigationError (Option FrameIndexEntry)
  | none, none => .ok none
  | some entry, none => .ok (some entry)
  | none, some entry => .ok (some entry)
  | some before, some after => do
      let beforeTimestamp ← okOr before.presentationTimestamp .timelineMismatch
      let afterTimestamp ← okOr after.presentationTimestamp .timelineMismatch
      let beforeDistance ←
        okOr (checkedSubI64 target.ticks beforeTimestamp.ticks) .timelineMismatch
      let afterDistance ← okOr (checkedSubI64 afterTimestamp.ticks target.ticks) .timelineMismatch
      -- Repeated exact PTS resolves to the first equal frame (AtOrAfter semantics).
      if afterDistance = 0 then .ok (some after)
      else if beforeDistance ≤ afterDistance then .ok (some before)
      else .ok (some after)

section Index

variable (index : FrameIndex)

def ensureTimeBase (timeBase : TimeBase) : Except FrameIndexError Unit :=
  ensure (timeBase = index.streamIdentity.timeBase) .timeBaseMismatch

def frameAtOrBefore (timestamp : MediaTimestamp) :
    Except FrameIndexError (Option FrameIndexEntry) := do
  ensureTimeBase index timestamp.timeBase
  index.timestampQuery (·.timestampTicks) timestamp.ticks true

def frameAtOrAfter (timestamp : MediaTimestamp) :
    Except FrameIndexError (Option FrameIndexEntry) := do
  ensureTimeBase index timestamp.timeBase
  index.timestampQuery (·.timestampTicks) timestamp.ticks false

variable [ContentHash]

def ensureComplete : Except NavigationError Unit := do
  let status ← index.status.mapError .index
  ensure (status.lifecycle = .complete) .incompleteIndex

def resolveTimestamp (timestamp : MediaTimestamp) (selection : TimestampSelection) :
    Except NavigationError (Option Nat) := do
  ensureComplete index
  let entry ← match selection with
    | .atOrBefore => (frameAtOrBefore index timestamp).mapError .index
    | .atOrAfter => (frameAtOrAfter index timestamp).mapError .index
    | .nearest => do
        let before ← (frameAtOrBefore index timestamp).mapError .index
        let after ← (frameAtOrAfter index timestamp).mapError .index
        chooseNearest timestamp before after
  return entry.map (·.frameId)

end Index

/-! ## The law of a selection -/

/-- Keys that a selection may return. -/
def Qualifies (value x : Int) : TimestampSelection → Prop
  | .atOrBefore => x ≤ value
  | .atOrAfter => value ≤ x
  | .nearest => True

/-- `x` is no worse than `y`: greatest from below, least from above; to the
nearest one, closer, and the earlier of two at one distance. -/
def NoWorse (value x y : Int) : TimestampSelection → Prop
  | .atOrBefore => y ≤ x
  | .atOrAfter => x ≤ y
  | .nearest => |x - value| ≤ |y - value| ∧ (|x - value| = |y - value| → x ≤ y)

/-- An entry that qualifies and that no other entry beats.  On an exact match to
the nearest one it is the first entry with that key. -/
structure Optimal (selection : TimestampSelection) (key : Key) (value : Int)
    (entries : List FrameIndexEntry) (e : FrameIndexEntry) : Prop where
  mem : e ∈ entries
  best : ∃ x, key e = some x ∧ Qualifies value x selection ∧
    ∀ other ∈ entries, ∀ y ∈ key other, Qualifies value y selection → NoWorse value x y selection
  first : selection = .nearest → key e = some value →
    ∀ other ∈ entries, key other = some value → e.frameId ≤ other.frameId

/-- The entries on the two sides of `value`, one of them at a distance beyond
`i64`. -/
def TooFar (key : Key) (value : Int) (entries : List FrameIndexEntry) : Prop :=
  ∃ b x a y, LastAtOrBefore key value entries b x ∧ FirstAtOrAfter key value entries a y ∧
    (2 ^ 63 ≤ value - x ∨ 2 ^ 63 ≤ y - value)

/-- What a selection gives: an optimal entry, none where none qualifies, and a
failure only for a distance that does not fit. -/
inductive Selects {ε : Type} (selection : TimestampSelection) (key : Key) (value : Int)
    (entries : List FrameIndexEntry) : Except ε (Option FrameIndexEntry) → Prop where
  | found {e : FrameIndexEntry} (hOptimal : Optimal selection key value entries e) :
      Selects selection key value entries (.ok (some e))
  | nothing (hNone : ∀ e ∈ entries, ∀ x ∈ key e, ¬Qualifies value x selection) :
      Selects selection key value entries (.ok none)
  | overflows {error : ε} (hNearest : selection = .nearest) (hFar : TooFar key value entries) :
      Selects selection key value entries (.error error)

section Laws

variable {key : Key} {value x y : Int} {entries : List FrameIndexEntry} {a b : FrameIndexEntry}

theorem optimal_atOrBefore (h : LastAtOrBefore key value entries b x) :
    Optimal .atOrBefore key value entries b where
  mem := h.mem
  best := by
    refine ⟨x, h.key_eq, h.le, ?_⟩
    intro other hOther y hy hLe
    have hGreatest := h.greatest other hOther y hy hLe
    show y ≤ x
    omega
  first := by
    intro hNearest
    cases hNearest

theorem optimal_atOrAfter (h : FirstAtOrAfter key value entries a y) :
    Optimal .atOrAfter key value entries a where
  mem := h.mem
  best := by
    refine ⟨y, h.key_eq, h.le, ?_⟩
    intro other hOther x hx hLe
    have hLeast := h.least other hOther x hx hLe
    show y ≤ x
    omega
  first := by
    intro hNearest
    cases hNearest

/-- The entry from below is the nearest when it is not exact and no entry from
above is closer. -/
theorem optimal_before (h : LastAtOrBefore key value entries b x) (hInexact : x < value)
    (hAbove : ∀ other ∈ entries, ∀ y, key other = some y → value ≤ y → value - x ≤ y - value) :
    Optimal .nearest key value entries b where
  mem := h.mem
  best := by
    refine ⟨x, h.key_eq, trivial, ?_⟩
    intro other hOther y hy _
    show |x - value| ≤ |y - value| ∧ (|x - value| = |y - value| → x ≤ y)
    rw [abs_of_neg (by omega)]
    by_cases hSide : y ≤ value
    · have hGreatest := h.greatest other hOther y hy hSide
      rw [abs_of_nonpos (by omega)]
      omega
    · have hFar := hAbove other hOther y hy (by omega)
      rw [abs_of_pos (by omega)]
      omega
  first := by
    intro _ hExact
    rw [h.key_eq, Option.some.injEq] at hExact
    omega

/-- The entry from above is the nearest when it is exact, or when every entry
from below is farther. -/
theorem optimal_after (h : FirstAtOrAfter key value entries a y)
    (hBelow : y ≠ value → ∀ other ∈ entries, ∀ x, key other = some x → x ≤ value →
      y - value < value - x) :
    Optimal .nearest key value entries a where
  mem := h.mem
  best := by
    refine ⟨y, h.key_eq, trivial, ?_⟩
    intro other hOther x hx _
    have hLe := h.le
    show |y - value| ≤ |x - value| ∧ (|y - value| = |x - value| → y ≤ x)
    rw [abs_of_nonneg (by omega)]
    by_cases hSide : value ≤ x
    · have hLeast := h.least other hOther x hx hSide
      rw [abs_of_nonneg (by omega)]
      omega
    · rw [abs_of_neg (by omega)]
      by_cases hExact : y = value
      · omega
      · have hFar := hBelow hExact other hOther x hx (by omega)
        omega
  first := by
    intro _ hExact other hOther hSame
    have hLeast := h.least other hOther value hSame (Int.le_refl value)
    rw [h.key_eq, Option.some.injEq] at hExact
    omega

/-- The choice between the two sides, as both sources make it. -/
theorem selects_nearer {ε : Type} (hBefore : LastAtOrBefore key value entries b x)
    (hAfter : FirstAtOrAfter key value entries a y) :
    @Selects ε .nearest key value entries
      (if y - value = 0 then .ok (some a)
        else if value - x ≤ y - value then .ok (some b) else .ok (some a)) := by
  have hBelow := hBefore.le
  have hAbove := hAfter.le
  by_cases hExact : y - value = 0
  · rw [if_pos hExact]
    exact .found (optimal_after hAfter fun hNot => absurd (by omega) hNot)
  · rw [if_neg hExact]
    -- an entry at `value` itself would also be the first at or after it
    have hInexact : x < value := by
      by_contra hNot
      have hLeast := hAfter.least b hBefore.mem x hBefore.key_eq (by omega)
      omega
    by_cases hCloser : value - x ≤ y - value
    · rw [if_pos hCloser]
      refine .found (optimal_before hBefore hInexact ?_)
      intro other hOther z hz hSide
      have hLeast := hAfter.least other hOther z hz hSide
      omega
    · rw [if_neg hCloser]
      refine .found (optimal_after hAfter fun _ => ?_)
      intro other hOther z hz hSide
      have hGreatest := hBefore.greatest other hOther z hz hSide
      omega

theorem selects_before_only {ε : Type} (h : LastAtOrBefore key value entries b x)
    (hNone : ∀ e ∈ entries, ∀ y, key e = some y → y < value) :
    @Selects ε .nearest key value entries (.ok (some b)) := by
  refine .found (optimal_before h (hNone b h.mem x h.key_eq) ?_)
  intro other hOther y hy hAbove
  have hBelow := hNone other hOther y hy
  omega

theorem selects_after_only {ε : Type} (h : FirstAtOrAfter key value entries a y)
    (hNone : ∀ e ∈ entries, ∀ x, key e = some x → value < x) :
    @Selects ε .nearest key value entries (.ok (some a)) := by
  refine .found (optimal_after h fun _ => ?_)
  intro other hOther x hx hBelow
  have hAbove := hNone other hOther x hx
  omega

end Laws

/-! ## The two resolutions -/

section Resolutions

variable {entries : List FrameIndexEntry} {value x y : Int} {a b : FrameIndexEntry}

theorem ticks_eq_some {e : FrameIndexEntry} (h : ticks e = some x) :
    ∃ timestamp, e.presentationTimestamp = some timestamp ∧ timestamp.ticks = x := by
  unfold ticks at h
  exact Option.map_eq_some_iff.1 h

theorem chooseNearest_selects {target : MediaTimestamp} {before after : Option FrameIndexEntry}
    (hNoBefore : before = none → ∀ e ∈ entries, ∀ x, ticks e = some x → target.ticks < x)
    (hBefore : ∀ e, before = some e → ∃ x, LastAtOrBefore ticks target.ticks entries e x)
    (hNoAfter : after = none → ∀ e ∈ entries, ∀ y, ticks e = some y → y < target.ticks)
    (hAfter : ∀ e, after = some e → ∃ y, FirstAtOrAfter ticks target.ticks entries e y) :
    Selects .nearest ticks target.ticks entries (chooseNearest target before after) := by
  cases before with
  | none =>
      cases after with
      | none =>
          refine .nothing fun e he x hx _ => ?_
          have hAbove := hNoBefore rfl e he x hx
          have hBelow := hNoAfter rfl e he x hx
          omega
      | some a =>
          obtain ⟨y, hA⟩ := hAfter a rfl
          exact selects_after_only hA (hNoBefore rfl)
  | some b =>
      obtain ⟨x, hB⟩ := hBefore b rfl
      cases after with
      | none => exact selects_before_only hB (hNoAfter rfl)
      | some a =>
          obtain ⟨y, hA⟩ := hAfter a rfl
          obtain ⟨beforeTimestamp, hBeforeTime, hX⟩ := ticks_eq_some hB.key_eq
          obtain ⟨afterTimestamp, hAfterTime, hY⟩ := ticks_eq_some hA.key_eq
          have hBelow := hB.le
          have hAbove := hA.le
          simp only [chooseNearest, hBeforeTime, hAfterTime, okOr, ok_bind, hX, hY, checkedSubI64]
          by_cases hBeforeFits : InI64 (target.ticks - x)
          · rw [if_pos hBeforeFits]
            by_cases hAfterFits : InI64 (y - target.ticks)
            · rw [if_pos hAfterFits]
              exact selects_nearer hB hA
            · rw [if_neg hAfterFits]
              refine .overflows rfl ⟨b, x, a, y, hB, hA, .inr ?_⟩
              unfold InI64 at hAfterFits
              omega
          · rw [if_neg hBeforeFits]
            refine .overflows rfl ⟨b, x, a, y, hB, hA, .inl ?_⟩
            unfold InI64 at hBeforeFits
            omega

theorem distanceUs_of_le {later earlier : Int} (h : earlier ≤ later) :
    distanceUs later earlier =
      if later - earlier < 2 ^ 63 then some (later - earlier).toNat else none := by
  unfold distanceUs InI64
  by_cases hFits : later - earlier < 2 ^ 63
  · rw [if_pos hFits, if_pos (by omega)]
  · rw [if_neg hFits, if_neg (by omega)]

theorem nearerEntry_selects
    (hB : LastAtOrBefore FrameIndexEntry.timestampUs value entries b x)
    (hA : FirstAtOrAfter FrameIndexEntry.timestampUs value entries a y) :
    Selects .nearest FrameIndexEntry.timestampUs value entries
      ((nearerEntry value b a).map some) := by
  have hBefore : b.timestampUs = some x := hB.key_eq
  have hAfter : a.timestampUs = some y := hA.key_eq
  have hBelow := hB.le
  have hAbove := hA.le
  have hChoice : @Selects MicroscopeNavigationError .nearest FrameIndexEntry.timestampUs value
      entries _ := selects_nearer hB hA
  simp only [nearerEntry, hBefore, hAfter, okOr, ok_bind, distanceUs_of_le hBelow,
    distanceUs_of_le hAbove]
  by_cases hBeforeFits : value - x < 2 ^ 63
  · rw [if_pos hBeforeFits]
    by_cases hAfterFits : y - value < 2 ^ 63
    · rw [if_pos hAfterFits]
      simp only [ok_bind]
      have hZero : (y - value).toNat = 0 ↔ y - value = 0 := by omega
      have hOrder : (value - x).toNat ≤ (y - value).toNat ↔ value - x ≤ y - value := by omega
      simp only [hZero, hOrder]
      split_ifs at hChoice ⊢ <;> exact hChoice
    · rw [if_neg hAfterFits]
      exact .overflows rfl ⟨b, x, a, y, hB, hA, .inr (by omega)⟩
  · rw [if_neg hBeforeFits]
    exact .overflows rfl ⟨b, x, a, y, hB, hA, .inl (by omega)⟩

end Resolutions

section Sides

variable {ε : Type} {key : Key} {value : Int} {entries : List FrameIndexEntry}
  {found : Option FrameIndexEntry}

theorem selects_of_before
    (hNone : found = none → ∀ e ∈ entries, ∀ x, key e = some x → value < x)
    (hSome : ∀ e, found = some e → ∃ x, LastAtOrBefore key value entries e x) :
    @Selects ε .atOrBefore key value entries (.ok found) := by
  cases found with
  | none =>
      refine .nothing fun e he x hx hLe => ?_
      have hAbove := hNone rfl e he x hx
      change x ≤ value at hLe
      omega
  | some e =>
      obtain ⟨x, hLast⟩ := hSome e rfl
      exact .found (optimal_atOrBefore hLast)

theorem selects_of_after
    (hNone : found = none → ∀ e ∈ entries, ∀ x, key e = some x → x < value)
    (hSome : ∀ e, found = some e → ∃ y, FirstAtOrAfter key value entries e y) :
    @Selects ε .atOrAfter key value entries (.ok found) := by
  cases found with
  | none =>
      refine .nothing fun e he x hx hLe => ?_
      have hBelow := hNone rfl e he x hx
      change value ≤ x at hLe
      omega
  | some e =>
      obtain ⟨y, hFirst⟩ := hSome e rfl
      exact .found (optimal_atOrAfter hFirst)

end Sides

section Complete

variable [ContentHash] {entries : List FrameIndexEntry} {index : FrameIndex}

theorem frameAtOrBefore_of (h : CompleteOver entries index) {timestamp : MediaTimestamp}
    (hBase : timestamp.timeBase = index.streamIdentity.timeBase) :
    ∃ found, frameAtOrBefore index timestamp = .ok found ∧
      (found = none → ∀ e ∈ entries, ∀ x, ticks e = some x → timestamp.ticks < x) ∧
      ∀ e, found = some e → ∃ x, LastAtOrBefore ticks timestamp.ticks entries e x := by
  obtain ⟨hShaped, st, hIndex, rfl, -, -⟩ := h
  unfold frameAtOrBefore ensureTimeBase
  rw [ensure_true hBase, ok_bind, hIndex]
  exact timestampQuery_before hShaped (fun _ => rfl) timestamp.ticks

theorem frameAtOrAfter_of (h : CompleteOver entries index) {timestamp : MediaTimestamp}
    (hBase : timestamp.timeBase = index.streamIdentity.timeBase) :
    ∃ found, frameAtOrAfter index timestamp = .ok found ∧
      (found = none → ∀ e ∈ entries, ∀ x, ticks e = some x → x < timestamp.ticks) ∧
      ∀ e, found = some e → ∃ y, FirstAtOrAfter ticks timestamp.ticks entries e y := by
  obtain ⟨hShaped, st, hIndex, rfl, -, -⟩ := h
  unfold frameAtOrAfter ensureTimeBase
  rw [ensure_true hBase, ok_bind, hIndex]
  exact timestampQuery_after hShaped (fun _ => rfl) timestamp.ticks

/-- `resolve_timestamp` selects by ticks. -/
theorem resolveTimestamp_selects (h : CompleteOver entries index) {timestamp : MediaTimestamp}
    (hBase : timestamp.timeBase = index.streamIdentity.timeBase) (selection : TimestampSelection) :
    ∃ found, Selects selection ticks timestamp.ticks entries found ∧
      resolveTimestamp index timestamp selection = found.map (Option.map (·.frameId)) := by
  obtain ⟨status, hStatus, hComplete, -⟩ := h.status
  obtain ⟨before, hBefore, hNoBefore, hBeforeIs⟩ := frameAtOrBefore_of h hBase
  obtain ⟨after, hAfter, hNoAfter, hAfterIs⟩ := frameAtOrAfter_of h hBase
  simp only [resolveTimestamp, ensureComplete, hStatus, Except.mapError, ok_bind,
    ensure_true hComplete]
  cases selection with
  | atOrBefore =>
      refine ⟨.ok before, selects_of_before hNoBefore hBeforeIs, ?_⟩
      rw [hBefore]
      rfl
  | atOrAfter =>
      refine ⟨.ok after, selects_of_after hNoAfter hAfterIs, ?_⟩
      rw [hAfter]
      rfl
  | nearest =>
      refine ⟨_, chooseNearest_selects hNoBefore hBeforeIs hNoAfter hAfterIs, ?_⟩
      rw [hBefore, hAfter]
      simp only [ok_bind]
      cases chooseNearest timestamp before after <;> rfl

/-- The selection of the microscope that a selection of the navigation is. -/
def microscopeSelection : TimestampSelection → MicroscopeTimestampSelection
  | .atOrBefore => .atOrBefore
  | .atOrAfter => .atOrAfter
  | .nearest => .nearest

/-- `microscope_timestamp_us` selects by microseconds. -/
theorem selectedEntry_selects (h : CompleteOver entries index) (timestampUs : Int)
    (selection : TimestampSelection) :
    Selects selection FrameIndexEntry.timestampUs timestampUs entries
      (selectedEntry index timestampUs (microscopeSelection selection)) := by
  obtain ⟨before, hBefore, hNoBefore, hBeforeIs⟩ := h.frameAtOrBeforeUs timestampUs
  obtain ⟨after, hAfter, hNoAfter, hAfterIs⟩ := h.frameAtOrAfterUs timestampUs
  cases selection with
  | atOrBefore =>
      simp only [selectedEntry, microscopeSelection, hBefore, Except.mapError]
      exact selects_of_before hNoBefore hBeforeIs
  | atOrAfter =>
      simp only [selectedEntry, microscopeSelection, hAfter, Except.mapError]
      exact selects_of_after hNoAfter hAfterIs
  | nearest =>
      simp only [selectedEntry, microscopeSelection, nearestTimestampUs, hBefore, hAfter,
        Except.mapError, ok_bind]
      cases before with
      | none =>
          cases after with
          | none =>
              refine .nothing fun e he x hx _ => ?_
              have hAbove := hNoBefore rfl e he x hx
              have hBelow := hNoAfter rfl e he x hx
              omega
          | some a =>
              obtain ⟨y, hA⟩ := hAfterIs a rfl
              exact selects_after_only hA (hNoBefore rfl)
      | some b =>
          obtain ⟨x, hB⟩ := hBeforeIs b rfl
          cases after with
          | none => exact selects_before_only hB (hNoAfter rfl)
          | some a =>
              obtain ⟨y, hA⟩ := hAfterIs a rfl
              exact nearerEntry_selects hB hA

theorem microscopeTarget_of (h : CompleteOver entries index) {e : FrameIndexEntry}
    (he : e ∈ entries) : microscopeTarget index e.frameId = .ok ⟨e, entries.length⟩ := by
  obtain ⟨status, hStatus, hComplete, hCount⟩ := h.status
  have hWithin := h.frameId_lt he
  have hBounded := h.shaped.bounded
  have hEntry : index.entry e.frameId = .ok (some e) := by
    rw [h.entry (by omega), h.at_frameId he]
  have hFrames : entries.length ≠ 0 := by omega
  simp only [microscopeTarget, completeFrameCount, hStatus, Except.mapError, ok_bind,
    ensure_true hComplete, hCount, okOr, ensure_true hFrames, ensure_true hWithin, hEntry, pure,
    Except.pure]

/-- What a resolution promises of the identity it returns: an optimal entry has
it, and it fails only where no entry qualifies or a distance does not fit. -/
structure ResolvesOptimally {ε : Type} (selection : TimestampSelection) (key : Key) (value : Int)
    (entries : List FrameIndexEntry) (result : Except ε (Option Nat)) : Prop where
  found : ∀ frameId, result = .ok (some frameId) →
    ∃ e, entries[frameId]? = some e ∧ Optimal selection key value entries e
  fails : (∀ frameId, result ≠ .ok (some frameId)) →
    (∀ e ∈ entries, ∀ x ∈ key e, ¬Qualifies value x selection) ∨
      selection = .nearest ∧ TooFar key value entries

theorem resolvesOptimally_of {ε δ : Type} {selection : TimestampSelection} {key : Key}
    {value : Int} {found : Except ε (Option FrameIndexEntry)} {result : Except δ (Option Nat)}
    (h : CompleteOver entries index) (hSelects : Selects selection key value entries found)
    (hSame : ∀ frameId, result = .ok (some frameId) ↔
      ∃ e, found = .ok (some e) ∧ e.frameId = frameId) :
    ResolvesOptimally selection key value entries result := by
  constructor
  · intro frameId hOk
    obtain ⟨e, hFound, rfl⟩ := (hSame frameId).1 hOk
    rw [hFound] at hSelects
    cases hSelects with
    | found hOptimal => exact ⟨e, h.at_frameId hOptimal.mem, hOptimal⟩
  · intro hFails
    cases hSelects with
    | found hOptimal => exact absurd ((hSame _).2 ⟨_, rfl, rfl⟩) (hFails _)
    | nothing hNone => exact .inl hNone
    | overflows hNearest hFar => exact .inr ⟨hNearest, hFar⟩

/-- **Timestamp resolution is optimal.**  Over a complete index with any
timestamps, by ticks and by microseconds. -/
theorem timestamp_resolution_optimal (h : CompleteOver entries index)
    (selection : TimestampSelection) :
    (∀ timestamp : MediaTimestamp, timestamp.timeBase = index.streamIdentity.timeBase →
      ResolvesOptimally selection ticks timestamp.ticks entries
        (resolveTimestamp index timestamp selection)) ∧
    ∀ timestampUs : Int,
      ResolvesOptimally selection FrameIndexEntry.timestampUs timestampUs entries
        ((microscopeTimestampUs index timestampUs (microscopeSelection selection)).map
          fun target => some target.frameId) := by
  constructor
  · intro timestamp hBase
    obtain ⟨found, hSelects, hResult⟩ := resolveTimestamp_selects h hBase selection
    refine resolvesOptimally_of h hSelects fun frameId => ?_
    rw [hResult]
    cases found with
    | error error => simp [Except.map]
    | ok found => simp [Except.map]
  · intro timestampUs
    have hSelects := selectedEntry_selects h timestampUs selection
    refine resolvesOptimally_of h hSelects fun frameId => ?_
    obtain ⟨status, hStatus, hComplete, hCount⟩ := h.status
    unfold microscopeTimestampUs
    constructor
    · intro hOk
      obtain ⟨target, hTarget, hId⟩ := map_eq_ok.1 hOk
      obtain ⟨_, -, hTarget⟩ := bind_eq_ok.1 hTarget
      obtain ⟨found, hFound, hTarget⟩ := bind_eq_ok.1 hTarget
      obtain ⟨e, hEntry, hTarget⟩ := bind_eq_ok.1 hTarget
      have hSame := microscopeTarget_frameId hTarget
      refine ⟨e, ?_, ?_⟩
      · rw [hFound, okOr_eq_ok.1 hEntry]
      · rw [Option.some.injEq] at hId
        rw [← hSame, hId]
    · rintro ⟨e, hFound, rfl⟩
      rw [hFound] at hSelects
      cases hSelects with
      | found hOptimal =>
          have hFrames : entries.length ≠ 0 := by
            have hWithin := h.frameId_lt hOptimal.mem
            omega
          have hTarget := microscopeTarget_of h hOptimal.mem
          simp only [completeFrameCount, hStatus, Except.mapError, ok_bind, ensure_true hComplete,
            hCount, okOr, ensure_true hFrames, pure, Except.pure, hFound, hTarget, Except.map]
          rfl

end Complete

section Samples

local instance : ContentHash := constantHash

theorem timestamp_resolution_optimal_sample :
    (∀ timestamp : MediaTimestamp, timestamp.timeBase = sampleIndex.streamIdentity.timeBase →
      ResolvesOptimally .nearest ticks timestamp.ticks (timeline sampleSequence)
        (resolveTimestamp sampleIndex timestamp .nearest)) ∧
    ∀ timestampUs : Int,
      ResolvesOptimally .nearest FrameIndexEntry.timestampUs timestampUs (timeline sampleSequence)
        ((microscopeTimestampUs sampleIndex timestampUs .nearest).map
          fun target => some target.frameId) :=
  timestamp_resolution_optimal (completeOver_of_indexOf sampleIndex_indexOf) .nearest

/-- The same rows before the indexing has finished. -/
def partialIndex : FrameIndex :=
  toIndex sampleSource sampleStream ⟨.incomplete, none, none, .unambiguous, timeline sampleSequence⟩

/-- The guard on the lifecycle comes before any lookup. -/
theorem partialIndex_fails_otherwise :
    resolveTimestamp partialIndex ⟨0, sampleTimeBase⟩ .atOrBefore = .error .incompleteIndex ∧
      ¬ResolvesOptimally .atOrBefore ticks 0 (timeline sampleSequence)
        (resolveTimestamp partialIndex ⟨0, sampleTimeBase⟩ .atOrBefore) := by
  have hFails : resolveTimestamp partialIndex ⟨0, sampleTimeBase⟩ .atOrBefore =
      .error .incompleteIndex := rfl
  refine ⟨hFails, fun hResolves => ?_⟩
  rw [hFails] at hResolves
  rcases hResolves.fails (fun frameId hOk => by cases hOk) with hNone | ⟨hNearest, -⟩
  · exact hNone _ (List.getElem_mem (n := 0) (by decide)) 0 rfl (Int.le_refl 0)
  · cases hNearest

end Samples

end FrameScope.Ports.TimestampResolution
