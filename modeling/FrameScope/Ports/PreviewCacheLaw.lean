import FrameScope.Verified.KeyedTable
import FrameScope.Verified.Recency
import FrameScope.Verified.Runs
import FrameScope.Ports.PreviewCache

/-!
# The preview cache is a recency list under two limits

The abstract cache `LruPreviews` is the two limits and the list of held
previews, the most recently inserted or fetched one first; every operation ends
by keeping the longest initial part within both limits.  After any run the real
cache holds the same previews.

The counter of bytes and the keys are accounted for first, without a word about
access times.  `InUseOrder` then orders the entries by access time, and each
operation has one lemma that says what becomes of that order.  The access clock
stops at the end of `u64`; the order is stated of runs shorter than that.
-/

namespace FrameScope.Ports.PreviewCacheLaw

open FrameScope.Verified.Loops
open FrameScope.Verified.Recency
open FrameScope.Verified.KeyedTable
open FrameScope.Verified.Runs
open FrameScope.Ports.Core
open FrameScope.Ports.FrameCache
open FrameScope.Ports.PreviewCache

/-! ## The abstract cache -/

abbrev Preview := ScrubPreviewKey × OwnedRgbaFrame

def previewBytes (p : Preview) : Nat := p.2.byteLen

def previewOf (e : ScrubPreviewEntry) : Preview := (e.key, e.pixels)

/-- The previews that are held, the most recently used one first. -/
structure LruPreviews where
  budgetBytes : Nat
  maxFrames : Nat
  recency : List Preview

/-- The least recently used previews go until both limits are met. -/
def LruPreviews.trim (lru : LruPreviews) : LruPreviews :=
  { lru with recency := keepBounded previewBytes lru.budgetBytes lru.maxFrames lru.recency }

def LruPreviews.apply (lru : LruPreviews) : PreviewOp → LruPreviews
  | .insert frameId maxEdge pixels =>
      if lru.budgetBytes = 0 ∨ lru.maxFrames = 0 ∨ lru.budgetBytes < pixels.byteLen then lru
      else LruPreviews.trim { lru with
        recency := (⟨frameId, maxEdge⟩, pixels) :: lru.recency.filter (·.1 ≠ ⟨frameId, maxEdge⟩) }
  | .get frameId maxEdge =>
      match lru.recency.find? (·.1 = ⟨frameId, maxEdge⟩) with
      | some p => { lru with recency := p :: lru.recency.filter (·.1 ≠ ⟨frameId, maxEdge⟩) }
      | none => lru
  | .setBudgetBytes budgetBytes => LruPreviews.trim { lru with budgetBytes }
  | .setMaxFrames maxFrames => LruPreviews.trim { lru with maxFrames }
  | .clear => { lru with recency := [] }

/-- The abstract cache after a run. -/
def lruAfter (budgetBytes maxFrames : Nat) (ops : List PreviewOp) : LruPreviews :=
  ops.foldl LruPreviews.apply ⟨budgetBytes, maxFrames, []⟩

/-! ## What an eviction does -/

section Eviction

variable {cache cache' : ScrubPreviewCache} {key : ScrubPreviewKey} {additionalBytes : Nat}
  {inserting : Bool}

theorem remove_entries (cache : ScrubPreviewCache) (key : ScrubPreviewKey) :
    (cache.remove key).entries = cache.entries.filter (·.key ≠ key) := by
  unfold ScrubPreviewCache.remove
  split
  next hFind =>
    symm
    rw [List.filter_eq_self]
    intro e he
    simpa using List.find?_eq_none.1 hFind e he
  next => rfl

/-- The limits, the clock and the count of insertions are the same. -/
structure SameLimits (cache cache' : ScrubPreviewCache) : Prop where
  budgetBytes : cache'.budgetBytes = cache.budgetBytes
  maxFrames : cache'.maxFrames = cache.maxFrames
  accessClock : cache'.accessClock = cache.accessClock
  insertions : cache'.insertions = cache.insertions

theorem sameLimits_remove (cache : ScrubPreviewCache) (key : ScrubPreviewKey) :
    SameLimits cache (cache.remove key) := by
  unfold ScrubPreviewCache.remove
  split
  · exact ⟨rfl, rfl, rfl, rfl⟩
  · exact ⟨rfl, rfl, rfl, rfl⟩

/-- An eviction removes an entry that no other one is older than. -/
theorem evictLeast_spec (h : cache.entries ≠ []) :
    ∃ lru ∈ cache.entries, (∀ e ∈ cache.entries, lru.lastAccess ≤ e.lastAccess) ∧
      cache.evictLeast =
        { cache.remove lru.key with evictions := saturatingAddU64 cache.evictions 1 } := by
  cases hLru : cache.entries.argmin (·.lastAccess) with
  | none => exact absurd (List.argmin_eq_none.1 hLru) h
  | some lru =>
      refine ⟨lru, List.argmin_mem hLru, fun e he => List.le_of_mem_argmin he hLru, ?_⟩
      unfold ScrubPreviewCache.evictLeast
      rw [hLru]

theorem sameLimits_evictLeast (cache : ScrubPreviewCache) :
    SameLimits cache cache.evictLeast := by
  unfold ScrubPreviewCache.evictLeast
  split
  · exact ⟨rfl, rfl, rfl, rfl⟩
  next lru _ =>
    have h := sameLimits_remove cache lru.key
    exact ⟨h.budgetBytes, h.maxFrames, h.accessClock, h.insertions⟩

/-- Every round of the loop removes an entry. -/
theorem evictLeast_length (h : cache.NeedsEviction additionalBytes inserting) :
    cache.evictLeast.entries.length < cache.entries.length := by
  obtain ⟨lru, hMem, -, hEvict⟩ := evictLeast_spec h.1
  rw [hEvict]
  show (cache.remove lru.key).entries.length < _
  rw [remove_entries]
  exact List.length_filter_lt_length_iff_exists.2 ⟨lru, hMem, by simp⟩

/-- The loop ends, whatever the cache holds. -/
theorem evictUntilFits_ends (cache : ScrubPreviewCache) (additionalBytes : Nat)
    (inserting : Bool) :
    Ends (ScrubPreviewCache.NeedsEviction additionalBytes inserting)
      ScrubPreviewCache.evictLeast cache (cache.evictUntilFits additionalBytes inserting) :=
  ends_rounds (m := fun cache => cache.entries.length)
    (fun _ h => evictLeast_length h) (le_refl _)

theorem SameLimits.trans {cache'' : ScrubPreviewCache} (h : SameLimits cache cache')
    (h' : SameLimits cache' cache'') : SameLimits cache cache'' where
  budgetBytes := h'.budgetBytes.trans h.budgetBytes
  maxFrames := h'.maxFrames.trans h.maxFrames
  accessClock := h'.accessClock.trans h.accessClock
  insertions := h'.insertions.trans h.insertions

theorem sameLimits_evictUntilFits (cache : ScrubPreviewCache) (additionalBytes : Nat)
    (inserting : Bool) : SameLimits cache (cache.evictUntilFits additionalBytes inserting) :=
  (evictUntilFits_ends cache additionalBytes inserting).keeps
    (fun cache' h _ => h.trans (sameLimits_evictLeast cache')) ⟨rfl, rfl, rfl, rfl⟩

end Eviction

/-! ## The accounts -/

/-- The keys are unique and the counter is the bytes of the entries. -/
structure Accounted (cache : ScrubPreviewCache) : Prop where
  unique : (cache.entries.map (·.key)).Nodup
  counter : cache.residentBytes = total (·.byteLen) cache.entries

section Accounts

variable {cache : ScrubPreviewCache} {key : ScrubPreviewKey} {additionalBytes : Nat}
  {inserting : Bool} {pixels : OwnedRgbaFrame} {e : ScrubPreviewEntry}

theorem unique_remove (h : (cache.entries.map (·.key)).Nodup) :
    ((cache.remove key).entries.map (·.key)).Nodup := by
  rw [remove_entries]
  exact (List.filter_sublist.map _).nodup h

theorem Accounted.remove (h : Accounted cache) (key : ScrubPreviewKey) :
    Accounted (cache.remove key) := by
  constructor
  · exact unique_remove h.unique
  · cases hFind : cache.entries.find? (·.key = key) with
    | none =>
        have hSame : cache.remove key = cache := by
          unfold ScrubPreviewCache.remove
          rw [hFind]
        rw [hSame]
        exact h.counter
    | some previous =>
        obtain ⟨hMem, rfl⟩ := (find?_key_eq_some h.unique).1 hFind
        have hSplit := total_perm (·.byteLen) (perm_cons_filter_ne h.unique hMem)
        rw [total_cons, ← h.counter] at hSplit
        rw [remove_entries]
        have hCounter : (cache.remove previous.key).residentBytes =
            cache.residentBytes - previous.byteLen := by
          unfold ScrubPreviewCache.remove
          rw [hFind]
        rw [hCounter, hSplit]
        exact Nat.add_sub_cancel_left ..

theorem Accounted.evictLeast (h : Accounted cache) : Accounted cache.evictLeast := by
  unfold ScrubPreviewCache.evictLeast
  split
  · exact h
  next lru _ => exact ⟨(h.remove lru.key).unique, (h.remove lru.key).counter⟩

theorem Accounted.evictUntilFits (h : Accounted cache) (additionalBytes : Nat)
    (inserting : Bool) : Accounted (cache.evictUntilFits additionalBytes inserting) :=
  (evictUntilFits_ends cache additionalBytes inserting).keeps
    (fun _ hCache _ => hCache.evictLeast) h

/-- What the loop leaves needs no further eviction. -/
theorem evictUntilFits_fits (cache : ScrubPreviewCache) (additionalBytes : Nat)
    (inserting : Bool) :
    ¬ (cache.evictUntilFits additionalBytes inserting).NeedsEviction additionalBytes inserting :=
  (evictUntilFits_ends cache additionalBytes inserting).not_cond

end Accounts

/-! ## The bounds -/

/-- The bounds of the cache. -/
structure Bounded (cache : ScrubPreviewCache) : Prop where
  counter : cache.residentBytes = total (·.byteLen) cache.entries
  within : cache.residentBytes ≤ cache.budgetBytes
  count : cache.entries.length ≤ cache.maxFrames
  unique : (cache.entries.map (·.key)).Nodup

theorem Bounded.accounted {cache : ScrubPreviewCache} (h : Bounded cache) : Accounted cache :=
  ⟨h.unique, h.counter⟩

section Bounds

variable {cache : ScrubPreviewCache} {key : ScrubPreviewKey} {pixels : OwnedRgbaFrame}
  {additionalBytes : Nat} {inserting : Bool}

/-- Where no eviction is needed, the incoming bytes fit. -/
theorem Accounted.bytes_of_fits (h : Accounted cache)
    (hFits : ¬ cache.NeedsEviction additionalBytes inserting)
    (hBudget : BudgetFits cache.budgetBytes) (hRoom : additionalBytes ≤ cache.budgetBytes) :
    cache.residentBytes + additionalBytes ≤ cache.budgetBytes := by
  by_cases hEmpty : cache.entries = []
  · have hNone : cache.residentBytes = 0 := by rw [h.counter, hEmpty, total_nil]
    omega
  · have hLe : ¬ cache.budgetBytes < saturatingAddU64 cache.residentBytes additionalBytes :=
      fun hLt => hFits ⟨hEmpty, .inl hLt⟩
    unfold saturatingAddU64 at hLe
    unfold BudgetFits at hBudget
    omega

theorem count_of_fits (hFits : ¬ cache.NeedsEviction additionalBytes false) :
    cache.entries.length ≤ cache.maxFrames := by
  by_cases hEmpty : cache.entries = []
  · simp [hEmpty]
  · by_contra hLong
    apply hFits
    refine ⟨hEmpty, .inr ?_⟩
    show cache.maxFrames < cache.entries.length
    omega

/-- There is room for one more frame where a frame may be held at all. -/
theorem count_lt_of_fits (hFits : ¬ cache.NeedsEviction additionalBytes true)
    (hFrames : cache.maxFrames ≠ 0) : cache.entries.length < cache.maxFrames := by
  by_cases hEmpty : cache.entries = []
  · rw [hEmpty, List.length_nil]
    omega
  · by_contra hLong
    apply hFits
    refine ⟨hEmpty, .inr ?_⟩
    show cache.maxFrames ≤ cache.entries.length
    omega

/-- A shrunk limit is met at once. -/
theorem Accounted.bounded_evict (h : Accounted cache) (hBudget : BudgetFits cache.budgetBytes) :
    Bounded (cache.evictUntilFits 0 false) := by
  have hNext := h.evictUntilFits 0 false
  have hFits := evictUntilFits_fits cache 0 false
  have hSame := sameLimits_evictUntilFits cache 0 false
  constructor
  · exact hNext.counter
  · apply hNext.bytes_of_fits hFits
    · rw [hSame.budgetBytes]
      exact hBudget
    · exact Nat.zero_le _
  · exact count_of_fits hFits
  · exact hNext.unique

theorem evictLeast_subset (cache : ScrubPreviewCache) :
    cache.evictLeast.entries ⊆ cache.entries := by
  unfold ScrubPreviewCache.evictLeast
  split
  · exact List.Subset.refl _
  next lru _ =>
    show (cache.remove lru.key).entries ⊆ _
    rw [remove_entries]
    exact List.filter_subset_self _

theorem evictUntilFits_subset (cache : ScrubPreviewCache) (additionalBytes : Nat)
    (inserting : Bool) :
    (cache.evictUntilFits additionalBytes inserting).entries ⊆ cache.entries :=
  (evictUntilFits_ends cache additionalBytes inserting).keeps
    (P := fun cache' => cache'.entries ⊆ cache.entries)
    (fun cache' h _ => List.Subset.trans (evictLeast_subset cache') h) (List.Subset.refl _)

theorem saturatingAddU64_of_le {a b limit : Nat} (h : a + b ≤ limit) (hLimit : BudgetFits limit) :
    saturatingAddU64 a b = a + b := by
  unfold BudgetFits at hLimit
  exact min_eq_left (by omega)

/-- The entries under other keys have room for the incoming one. -/
theorem Accounted.bounded_push (h : Accounted cache) (hFresh : key ∉ cache.entries.map (·.key))
    (hBytes : cache.residentBytes + pixels.byteLen ≤ cache.budgetBytes)
    (hCount : cache.entries.length < cache.maxFrames) (hBudget : BudgetFits cache.budgetBytes) :
    Bounded (cache.push key pixels) := by
  have hCounter : (cache.push key pixels).residentBytes =
      cache.residentBytes + pixels.byteLen := saturatingAddU64_of_le hBytes hBudget
  constructor
  · rw [hCounter, h.counter]
    simp [ScrubPreviewCache.push, ScrubPreviewEntry.byteLen]
  · rw [hCounter]
    exact hBytes
  · simpa [ScrubPreviewCache.push] using hCount
  · simp only [ScrubPreviewCache.push, List.map_append, List.map_cons, List.map_nil]
    rw [List.nodup_append]
    refine ⟨h.unique, List.nodup_singleton _, ?_⟩
    intro a ha b hb hEq
    rw [List.mem_singleton] at hb
    exact hFresh (hb ▸ hEq ▸ ha)

/-- Room for an accepted frame, under its key no longer held. -/
def roomFor (cache : ScrubPreviewCache) (key : ScrubPreviewKey) (pixels : OwnedRgbaFrame) :
    ScrubPreviewCache :=
  (cache.remove key).evictUntilFits pixels.byteLen true

theorem insert_of_accepts {frameId maxEdge : Nat} (h : ¬ cache.Refuses pixels) :
    cache.insert frameId maxEdge pixels =
      (roomFor cache ⟨frameId, maxEdge⟩ pixels).push ⟨frameId, maxEdge⟩ pixels := if_neg h

theorem insert_of_refuses {frameId maxEdge : Nat} (h : cache.Refuses pixels) :
    cache.insert frameId maxEdge pixels = cache := if_pos h

theorem sameLimits_roomFor (cache : ScrubPreviewCache) (key : ScrubPreviewKey)
    (pixels : OwnedRgbaFrame) : SameLimits cache (roomFor cache key pixels) :=
  (sameLimits_remove cache key).trans (sameLimits_evictUntilFits _ _ _)

theorem fresh_roomFor : key ∉ (roomFor cache key pixels).entries.map (·.key) := by
  intro hMem
  obtain ⟨e, he, hKey⟩ := List.mem_map.1 hMem
  have hOld := evictUntilFits_subset (cache.remove key) pixels.byteLen true he
  rw [remove_entries] at hOld
  exact of_decide_eq_true (List.mem_filter.1 hOld).2 hKey

theorem Bounded.insert (h : Bounded cache) (hBudget : BudgetFits cache.budgetBytes)
    (frameId maxEdge : Nat) (pixels : OwnedRgbaFrame) :
    Bounded (cache.insert frameId maxEdge pixels) := by
  by_cases hRefuses : cache.Refuses pixels
  · rw [insert_of_refuses hRefuses]
    exact h
  · rw [insert_of_accepts hRefuses]
    unfold ScrubPreviewCache.Refuses at hRefuses
    have hSame := sameLimits_roomFor cache ⟨frameId, maxEdge⟩ pixels
    have hFits := evictUntilFits_fits (cache.remove ⟨frameId, maxEdge⟩) pixels.byteLen true
    have hRoom : Accounted (roomFor cache ⟨frameId, maxEdge⟩ pixels) :=
      (h.accounted.remove _).evictUntilFits _ _
    have hBudget' : BudgetFits (roomFor cache ⟨frameId, maxEdge⟩ pixels).budgetBytes := by
      rw [hSame.budgetBytes]
      exact hBudget
    apply hRoom.bounded_push fresh_roomFor
    · apply hRoom.bytes_of_fits hFits hBudget'
      rw [hSame.budgetBytes]
      omega
    · apply count_lt_of_fits hFits
      show (roomFor cache ⟨frameId, maxEdge⟩ pixels).maxFrames ≠ 0
      rw [hSame.maxFrames]
      omega
    · exact hBudget'

/-- A lookup changes access times alone. -/
theorem Bounded.get (h : Bounded cache) (frameId maxEdge : Nat) :
    Bounded (cache.get frameId maxEdge).2 := by
  unfold ScrubPreviewCache.get
  dsimp only
  split
  · exact ⟨h.counter, h.within, h.count, h.unique⟩
  · constructor
    · show cache.residentBytes = total _ (cache.entries.map _)
      rw [h.counter, total, total, List.map_map]
      congr 1
      apply List.map_congr_left
      intro e _
      simp only [Function.comp_apply]
      split <;> rfl
    · exact h.within
    · simpa using h.count
    · show ((cache.entries.map _).map _).Nodup
      rw [List.map_map]
      convert h.unique using 2
      funext e
      simp only [Function.comp_apply]
      split <;> rfl

/-- One operation keeps the bounds, and the budget below the end of `usize`. -/
theorem bounded_applyOp {op : PreviewOp} (hFits : op.Fits)
    (h : Bounded cache ∧ BudgetFits cache.budgetBytes) :
    Bounded (applyOp cache op) ∧ BudgetFits (applyOp cache op).budgetBytes := by
  obtain ⟨hCache, hBudget⟩ := h
  have hAccounted := hCache.accounted
  cases op with
  | insert frameId maxEdge pixels =>
      constructor
      · exact hCache.insert hBudget frameId maxEdge pixels
      · by_cases hRefuses : cache.Refuses pixels
        · show BudgetFits (cache.insert frameId maxEdge pixels).budgetBytes
          rw [insert_of_refuses hRefuses]
          exact hBudget
        · show BudgetFits (cache.insert frameId maxEdge pixels).budgetBytes
          rw [insert_of_accepts hRefuses]
          show BudgetFits (roomFor cache _ pixels).budgetBytes
          rw [(sameLimits_roomFor cache _ pixels).budgetBytes]
          exact hBudget
  | get frameId maxEdge =>
      constructor
      · exact hCache.get frameId maxEdge
      · show BudgetFits (cache.get frameId maxEdge).2.budgetBytes
        unfold ScrubPreviewCache.get
        dsimp only
        split
        · exact hBudget
        · exact hBudget
  | setBudgetBytes budgetBytes =>
      have hSet : Accounted { cache with budgetBytes } := ⟨hAccounted.unique, hAccounted.counter⟩
      constructor
      · exact hSet.bounded_evict hFits
      · show BudgetFits (cache.setBudgetBytes budgetBytes).budgetBytes
        unfold ScrubPreviewCache.setBudgetBytes
        rw [(sameLimits_evictUntilFits _ _ _).budgetBytes]
        exact hFits
  | setMaxFrames maxFrames =>
      have hSet : Accounted { cache with maxFrames } := ⟨hAccounted.unique, hAccounted.counter⟩
      constructor
      · exact hSet.bounded_evict hBudget
      · show BudgetFits (cache.setMaxFrames maxFrames).budgetBytes
        unfold ScrubPreviewCache.setMaxFrames
        rw [(sameLimits_evictUntilFits _ _ _).budgetBytes]
        exact hBudget
  | clear =>
      exact ⟨⟨rfl, Nat.zero_le _, Nat.zero_le _, List.nodup_nil⟩, hBudget⟩

end Bounds

/-! ## The entries in order of use -/

/-- `ordered` is the entries of the cache, the latest access first. -/
structure InUseOrder (cache : ScrubPreviewCache) (ordered : List ScrubPreviewEntry) : Prop where
  perm : ordered.Perm cache.entries
  recent : ordered.Pairwise fun a b => b.lastAccess < a.lastAccess
  clock : ∀ e ∈ ordered, e.lastAccess ≤ cache.accessClock

section Order

variable {cache cache' : ScrubPreviewCache} {ordered init : List ScrubPreviewEntry}
  {e : ScrubPreviewEntry} {key : ScrubPreviewKey} {pixels : OwnedRgbaFrame}
  {additionalBytes budget count : Nat} {inserting : Bool}

theorem InUseOrder.unique (h : InUseOrder cache ordered) (hCache : Accounted cache) :
    (ordered.map (·.key)).Nodup := (h.perm.map (·.key)).nodup_iff.2 hCache.unique

theorem InUseOrder.filter (h : InUseOrder cache ordered) (p : ScrubPreviewEntry → Bool)
    (hEntries : cache'.entries = cache.entries.filter p)
    (hClock : cache'.accessClock = cache.accessClock) : InUseOrder cache' (ordered.filter p) where
  perm := by
    rw [hEntries]
    exact h.perm.filter p
  recent := h.recent.filter p
  clock := fun x hx => hClock ▸ h.clock x (List.mem_filter.1 hx).1

theorem filter_concat (h : ((init ++ [e]).map (·.key)).Nodup) :
    (init ++ [e]).filter (·.key ≠ e.key) = init := by
  rw [List.filter_append, List.filter_cons_of_neg (by simp), List.filter_nil, List.append_nil,
    List.filter_eq_self]
  intro x hx
  rw [List.map_append, List.nodup_append] at h
  rw [decide_eq_true_eq]
  exact h.2.2 _ (List.mem_map_of_mem hx) _ (by simp)

/-- An eviction takes the last entry. -/
theorem InUseOrder.evictLeast (h : InUseOrder cache (init ++ [e])) (hCache : Accounted cache) :
    InUseOrder cache.evictLeast init := by
  have hMem : e ∈ cache.entries := h.perm.mem_iff.1 (by simp)
  obtain ⟨lru, hLru, hLeast, hEvict⟩ := evictLeast_spec (List.ne_nil_of_mem hMem)
  have hSame : lru = e := by
    rcases List.mem_append.1 (h.perm.mem_iff.2 hLru) with hInit | hLast
    · have hOlder : e.lastAccess < lru.lastAccess :=
        (List.pairwise_append.1 h.recent).2.2 lru hInit e (by simp)
      have := hLeast e hMem
      omega
    · exact List.mem_singleton.1 hLast
  subst hSame
  rw [← filter_concat (h.unique hCache)]
  apply h.filter
  · rw [hEvict]
    exact remove_entries cache lru.key
  · exact (sameLimits_evictLeast cache).accessClock

/-- What the loop is to leave of the entries in order. -/
def keptOf (cache : ScrubPreviewCache) (additionalBytes : Nat) (inserting : Bool)
    (ordered : List ScrubPreviewEntry) : List ScrubPreviewEntry :=
  keepBounded (·.byteLen) (cache.budgetBytes - additionalBytes)
    (if inserting then cache.maxFrames - 1 else cache.maxFrames) ordered

theorem keptOf_of_sameLimits (h : SameLimits cache cache') :
    keptOf cache' additionalBytes inserting ordered =
      keptOf cache additionalBytes inserting ordered := by
  unfold keptOf
  rw [h.budgetBytes, h.maxFrames]

/-- The entries are within the limits where no eviction is needed. -/
theorem InUseOrder.kept_of_fits (h : InUseOrder cache ordered) (hCache : Accounted cache)
    (hBudget : BudgetFits cache.budgetBytes) (hRoom : additionalBytes ≤ cache.budgetBytes)
    (hFrames : inserting → cache.maxFrames ≠ 0)
    (hFits : ¬ cache.NeedsEviction additionalBytes inserting) :
    keptOf cache additionalBytes inserting ordered = ordered := by
  apply keepBounded_of_fits
  · have hBytes := hCache.bytes_of_fits hFits hBudget hRoom
    rw [total_perm _ h.perm, ← hCache.counter]
    omega
  · rw [h.perm.length_eq]
    cases inserting with
    | false => exact count_of_fits hFits
    | true =>
        have := count_lt_of_fits hFits (hFrames rfl)
        show cache.entries.length ≤ cache.maxFrames - 1
        omega

/-- Where an eviction is needed, the last entry does not stay. -/
theorem InUseOrder.kept_concat (h : InUseOrder cache (init ++ [e])) (hCache : Accounted cache)
    (hRoom : additionalBytes ≤ cache.budgetBytes)
    (hNeeds : cache.NeedsEviction additionalBytes inserting) :
    keptOf cache additionalBytes inserting (init ++ [e]) =
      keptOf cache additionalBytes inserting init := by
  apply keepBounded_concat
  rw [total_perm _ h.perm, ← hCache.counter, h.perm.length_eq]
  rcases hNeeds.2 with hHeavy | hLong
  · left
    unfold saturatingAddU64 at hHeavy
    omega
  · right
    have hPos := List.length_pos_iff.2 hNeeds.1
    cases inserting with
    | false => exact hLong
    | true =>
        change cache.maxFrames ≤ cache.entries.length at hLong
        show cache.maxFrames - 1 < cache.entries.length
        omega

/-- The loop keeps the longest recent part within both limits. -/
theorem InUseOrder.of_ends
    (hEnds : Ends (ScrubPreviewCache.NeedsEviction additionalBytes inserting)
      ScrubPreviewCache.evictLeast cache cache')
    (h : InUseOrder cache ordered) (hCache : Accounted cache)
    (hBudget : BudgetFits cache.budgetBytes) (hRoom : additionalBytes ≤ cache.budgetBytes)
    (hFrames : inserting → cache.maxFrames ≠ 0) :
    InUseOrder cache' (keptOf cache additionalBytes inserting ordered) := by
  induction hEnds generalizing ordered with
  | stop hFits =>
      rw [h.kept_of_fits hCache hBudget hRoom hFrames hFits]
      exact h
  | @round cache _ hNeeds _ ih =>
      have hSame := sameLimits_evictLeast cache
      rcases List.eq_nil_or_concat ordered with rfl | ⟨init, e, rfl⟩
      · exact absurd (List.nil_perm.1 h.perm) hNeeds.1
      · rw [List.concat_eq_append] at h ⊢
        rw [h.kept_concat hCache hRoom hNeeds, ← keptOf_of_sameLimits hSame]
        apply ih (h.evictLeast hCache) hCache.evictLeast
        · rw [hSame.budgetBytes]
          exact hBudget
        · rw [hSame.budgetBytes]
          exact hRoom
        · rw [hSame.maxFrames]
          exact hFrames

theorem InUseOrder.evict (h : InUseOrder cache ordered) (hCache : Accounted cache)
    (hBudget : BudgetFits cache.budgetBytes) :
    InUseOrder (cache.evictUntilFits 0 false)
      (keepBounded (·.byteLen) cache.budgetBytes cache.maxFrames ordered) :=
  InUseOrder.of_ends (evictUntilFits_ends cache 0 false) h hCache hBudget (Nat.zero_le _)
    (fun hInserting => by cases hInserting)

theorem now_eq (h : cache.accessClock + 1 < 2 ^ 64) : cache.now = cache.accessClock + 1 :=
  min_eq_left (by omega)

/-- An entry that was just accessed comes first. -/
theorem InUseOrder.cons (h : InUseOrder cache ordered) (hClock : cache.accessClock + 1 < 2 ^ 64)
    (hEntries : (({ key, pixels, lastAccess := cache.now } : ScrubPreviewEntry) ::
      ordered).Perm cache'.entries) (hNow : cache'.accessClock = cache.now) :
    InUseOrder cache' ({ key, pixels, lastAccess := cache.now } :: ordered) where
  perm := hEntries
  recent := by
    rw [List.pairwise_cons]
    refine ⟨fun x hx => ?_, h.recent⟩
    have := h.clock x hx
    show x.lastAccess < cache.now
    rw [now_eq hClock]
    omega
  clock := by
    intro x hx
    rw [hNow]
    rcases List.mem_cons.1 hx with rfl | hOld
    · exact le_refl _
    · have := h.clock x hOld
      rw [now_eq hClock]
      omega

/-- An accepted frame comes first, and then the limits are met. -/
theorem InUseOrder.insert (h : InUseOrder cache ordered) (hCache : Accounted cache)
    (hBudget : BudgetFits cache.budgetBytes) (hClock : cache.accessClock + 1 < 2 ^ 64)
    {frameId maxEdge : Nat} (hAccepts : ¬ cache.Refuses pixels) :
    InUseOrder (cache.insert frameId maxEdge pixels)
      (keepBounded (·.byteLen) cache.budgetBytes cache.maxFrames
        ({ key := ⟨frameId, maxEdge⟩, pixels, lastAccess := cache.now } ::
          ordered.filter (·.key ≠ ⟨frameId, maxEdge⟩))) := by
  rw [insert_of_accepts hAccepts]
  unfold ScrubPreviewCache.Refuses at hAccepts
  have hRoom : pixels.byteLen ≤ cache.budgetBytes := by omega
  have hFrames : cache.maxFrames ≠ 0 := by omega
  have hRemoved := sameLimits_remove cache ⟨frameId, maxEdge⟩
  have hSame := sameLimits_roomFor cache ⟨frameId, maxEdge⟩ pixels
  have hOthers : InUseOrder (cache.remove ⟨frameId, maxEdge⟩)
      (ordered.filter (·.key ≠ ⟨frameId, maxEdge⟩)) :=
    h.filter _ (remove_entries cache ⟨frameId, maxEdge⟩) hRemoved.accessClock
  have hFreed : InUseOrder (roomFor cache ⟨frameId, maxEdge⟩ pixels)
      (keptOf cache pixels.byteLen true (ordered.filter (·.key ≠ ⟨frameId, maxEdge⟩))) := by
    rw [← keptOf_of_sameLimits hRemoved]
    apply InUseOrder.of_ends (evictUntilFits_ends _ _ _) hOthers (hCache.remove _)
    · rw [hRemoved.budgetBytes]
      exact hBudget
    · rw [hRemoved.budgetBytes]
      exact hRoom
    · rw [hRemoved.maxFrames]
      exact fun _ => hFrames
  obtain ⟨count, hCount⟩ := Nat.exists_eq_succ_of_ne_zero hFrames
  have hHead : keepBounded (·.byteLen) cache.budgetBytes (count + 1)
      (({ key := ⟨frameId, maxEdge⟩, pixels, lastAccess := cache.now } : ScrubPreviewEntry) ::
        ordered.filter (·.key ≠ ⟨frameId, maxEdge⟩)) =
      { key := ⟨frameId, maxEdge⟩, pixels, lastAccess := cache.now } ::
        keepBounded (·.byteLen) (cache.budgetBytes - pixels.byteLen) count
          (ordered.filter (·.key ≠ ⟨frameId, maxEdge⟩)) := keepBounded_cons hRoom
  rw [hCount, Nat.succ_eq_add_one, hHead]
  have hNow : (roomFor cache ⟨frameId, maxEdge⟩ pixels).now = cache.now := by
    unfold ScrubPreviewCache.now
    rw [hSame.accessClock]
  have hKept : keptOf cache pixels.byteLen true
      (ordered.filter (·.key ≠ ⟨frameId, maxEdge⟩)) =
      keepBounded (·.byteLen) (cache.budgetBytes - pixels.byteLen) count
        (ordered.filter (·.key ≠ ⟨frameId, maxEdge⟩)) := by
    show keepBounded _ _ (cache.maxFrames - 1) _ = _
    rw [hCount]
    rfl
  rw [hKept] at hFreed
  rw [← hNow]
  apply hFreed.cons
  · rw [hSame.accessClock]
    exact hClock
  · exact (List.perm_append_singleton _ _).symm.trans (hFreed.perm.append_right _)
  · rfl

/-- A hit comes first. -/
theorem InUseOrder.hit (h : InUseOrder cache ordered) (hCache : Accounted cache)
    (hClock : cache.accessClock + 1 < 2 ^ 64) {frameId maxEdge : Nat}
    (hFind : cache.entries.find? (·.key = ⟨frameId, maxEdge⟩) = some e) :
    InUseOrder (cache.get frameId maxEdge).2
      ({ key := e.key, pixels := e.pixels, lastAccess := cache.now } ::
        ordered.filter (·.key ≠ e.key)) := by
  obtain ⟨hMem, hKey⟩ := (find?_key_eq_some hCache.unique).1 hFind
  have hOthers : InUseOrder (cache.remove e.key) (ordered.filter (·.key ≠ e.key)) :=
    h.filter _ (remove_entries cache e.key) (sameLimits_remove cache e.key).accessClock
  have hNow : (cache.remove e.key).now = cache.now := by
    unfold ScrubPreviewCache.now
    rw [(sameLimits_remove cache e.key).accessClock]
  rw [← hNow]
  apply hOthers.cons
  · rw [(sameLimits_remove cache e.key).accessClock]
    exact hClock
  · rw [hNow]
    unfold ScrubPreviewCache.get
    simp only [hFind]
    -- The entry under the key moves to the clock, and the others stay as they are.
    have hPerm := perm_cons_filter_ne hCache.unique hMem
    have hMap := hPerm.map fun x : ScrubPreviewEntry =>
      if x.key = e.key then { x with lastAccess := cache.now } else x
    have hRest : (cache.entries.filter (·.key ≠ e.key)).map (fun x : ScrubPreviewEntry =>
        if x.key = e.key then { x with lastAccess := cache.now } else x) =
        cache.entries.filter (·.key ≠ e.key) := by
      rw [List.map_congr_left (g := id), List.map_id]
      intro x hx
      exact if_neg (of_decide_eq_true (List.mem_filter.1 hx).2)
    rw [List.map_cons, hRest, if_pos rfl] at hMap
    rw [← hKey]
    exact ((h.perm.filter _).cons _).trans hMap.symm
  · rw [hNow]
    unfold ScrubPreviewCache.get
    simp only [hFind]

end Order

/-! ## The recency list -/

/-- The cache holds the previews of the recency list, under the same limits. -/
structure Refines (cache : ScrubPreviewCache) (lru : LruPreviews)
    (ordered : List ScrubPreviewEntry) : Prop where
  order : InUseOrder cache ordered
  recency : lru.recency = ordered.map previewOf
  budget : lru.budgetBytes = cache.budgetBytes
  frames : lru.maxFrames = cache.maxFrames

section Refinement

variable {cache : ScrubPreviewCache} {lru : LruPreviews} {ordered : List ScrubPreviewEntry}
  {op : PreviewOp} {budgetBytes maxFrames : Nat} {ops : List PreviewOp}

/-- Trimming the entries trims the previews. -/
theorem map_keepBounded (budgetBytes maxFrames : Nat) (ordered : List ScrubPreviewEntry) :
    (keepBounded (·.byteLen) budgetBytes maxFrames ordered).map previewOf =
      keepBounded previewBytes budgetBytes maxFrames (ordered.map previewOf) := by
  rw [keepBounded_map previewOf ordered]
  rfl

theorem map_filter_key (key : ScrubPreviewKey) (ordered : List ScrubPreviewEntry) :
    (ordered.filter (·.key ≠ key)).map previewOf =
      (ordered.map previewOf).filter (·.1 ≠ key) := by
  rw [List.filter_map]
  rfl

/-- A lookup in the cache is one in the recency list. -/
theorem Refines.find_recency (h : Refines cache lru ordered) (hCache : Accounted cache)
    (key : ScrubPreviewKey) :
    lru.recency.find? (·.1 = key) = (cache.entries.find? (·.key = key)).map previewOf := by
  rw [h.recency, List.find?_map]
  show (ordered.find? fun e => decide (e.key = key)).map previewOf = _
  cases hFind : cache.entries.find? (·.key = key) with
  | none =>
      have hAbsent : ordered.find? (fun e => decide (e.key = key)) = none := by
        rw [List.find?_eq_none]
        intro e he
        exact List.find?_eq_none.1 hFind e (h.order.perm.mem_iff.1 he)
      rw [hAbsent]
  | some e =>
      have hFound := (find?_key_eq_some hCache.unique).1 hFind
      rw [(find?_key_eq_some (h.order.unique hCache)).2
        ⟨h.order.perm.mem_iff.2 hFound.1, hFound.2⟩]

theorem Refines.insert (h : Refines cache lru ordered) (hCache : Accounted cache)
    (hBudget : BudgetFits cache.budgetBytes) (hClock : cache.accessClock + 1 < 2 ^ 64)
    {frameId maxEdge : Nat} {pixels : OwnedRgbaFrame} (hAccepts : ¬ cache.Refuses pixels) :
    Refines (cache.insert frameId maxEdge pixels) (lru.apply (.insert frameId maxEdge pixels))
      (keepBounded (·.byteLen) cache.budgetBytes cache.maxFrames
        ({ key := ⟨frameId, maxEdge⟩, pixels, lastAccess := cache.now } ::
          ordered.filter (·.key ≠ ⟨frameId, maxEdge⟩))) := by
  have hSame := sameLimits_roomFor cache ⟨frameId, maxEdge⟩ pixels
  have hLru : lru.apply (.insert frameId maxEdge pixels) = LruPreviews.trim { lru with
      recency := (⟨frameId, maxEdge⟩, pixels) ::
        lru.recency.filter (·.1 ≠ ⟨frameId, maxEdge⟩) } := by
    apply if_neg
    rw [h.budget, h.frames]
    exact hAccepts
  rw [hLru]
  constructor
  · exact h.order.insert hCache hBudget hClock hAccepts
  · rw [map_keepBounded, List.map_cons, map_filter_key, ← h.recency, ← h.budget, ← h.frames]
    rfl
  · rw [insert_of_accepts hAccepts]
    exact h.budget.trans hSame.budgetBytes.symm
  · rw [insert_of_accepts hAccepts]
    exact h.frames.trans hSame.maxFrames.symm

theorem Refines.get (h : Refines cache lru ordered) (hCache : Accounted cache)
    (hClock : cache.accessClock + 1 < 2 ^ 64) (frameId maxEdge : Nat) :
    ∃ ordered', Refines (cache.get frameId maxEdge).2 (lru.apply (.get frameId maxEdge))
      ordered' := by
  have hRecency := h.find_recency hCache ⟨frameId, maxEdge⟩
  cases hFind : cache.entries.find? (·.key = ⟨frameId, maxEdge⟩) with
  | none =>
      rw [hFind, Option.map_none] at hRecency
      have hLru : lru.apply (.get frameId maxEdge) = lru := by
        unfold LruPreviews.apply
        dsimp only
        rw [hRecency]
      rw [hLru]
      unfold ScrubPreviewCache.get
      simp only [hFind]
      refine ⟨ordered, ⟨⟨h.order.perm, h.order.recent, ?_⟩, h.recency, h.budget, h.frames⟩⟩
      intro e he
      have := h.order.clock e he
      show e.lastAccess ≤ cache.now
      rw [now_eq hClock]
      omega
  | some e =>
      have hKey := ((find?_key_eq_some hCache.unique).1 hFind).2
      rw [hFind, Option.map_some] at hRecency
      have hLru : lru.apply (.get frameId maxEdge) = { lru with
          recency := previewOf e :: lru.recency.filter (·.1 ≠ ⟨frameId, maxEdge⟩) } := by
        unfold LruPreviews.apply
        dsimp only
        rw [hRecency]
      have hLimits : (cache.get frameId maxEdge).2.budgetBytes = cache.budgetBytes ∧
          (cache.get frameId maxEdge).2.maxFrames = cache.maxFrames := by
        unfold ScrubPreviewCache.get
        simp only [hFind, and_self]
      rw [hLru]
      refine ⟨_, ⟨h.order.hit hCache hClock hFind, ?_, ?_, ?_⟩⟩
      · rw [List.map_cons, map_filter_key, ← h.recency, ← hKey]
        rfl
      · exact h.budget.trans hLimits.1.symm
      · exact h.frames.trans hLimits.2.symm

/-- Meeting limits that were just set. -/
theorem Refines.evict (h : Refines cache lru ordered) (hCache : Accounted cache)
    (hBudget : BudgetFits cache.budgetBytes) :
    Refines (cache.evictUntilFits 0 false) lru.trim
      (keepBounded (·.byteLen) cache.budgetBytes cache.maxFrames ordered) := by
  have hSame := sameLimits_evictUntilFits cache 0 false
  constructor
  · exact h.order.evict hCache hBudget
  · rw [map_keepBounded, ← h.recency, ← h.budget, ← h.frames]
    rfl
  · exact h.budget.trans hSame.budgetBytes.symm
  · exact h.frames.trans hSame.maxFrames.symm

/-- One operation: the cache and the recency list stay in step. -/
theorem Refines.applyOp (h : Refines cache lru ordered) (hCache : Accounted cache)
    (hBudget : BudgetFits cache.budgetBytes) (hFits : op.Fits)
    (hClock : cache.accessClock + 1 < 2 ^ 64) :
    ∃ ordered', Refines (applyOp cache op) (lru.apply op) ordered' := by
  cases op with
  | insert frameId maxEdge pixels =>
      by_cases hRefuses : cache.Refuses pixels
      · have hLru : lru.apply (.insert frameId maxEdge pixels) = lru := by
          apply if_pos
          rw [h.budget, h.frames]
          exact hRefuses
        show ∃ ordered', Refines (cache.insert frameId maxEdge pixels) _ ordered'
        rw [hLru, insert_of_refuses hRefuses]
        exact ⟨ordered, h⟩
      · exact ⟨_, h.insert hCache hBudget hClock hRefuses⟩
  | get frameId maxEdge => exact h.get hCache hClock frameId maxEdge
  | setBudgetBytes budgetBytes =>
      have hSet : Refines { cache with budgetBytes } { lru with budgetBytes } ordered :=
        ⟨⟨h.order.perm, h.order.recent, h.order.clock⟩, h.recency, rfl, h.frames⟩
      exact ⟨_, hSet.evict ⟨hCache.unique, hCache.counter⟩ hFits⟩
  | setMaxFrames maxFrames =>
      have hSet : Refines { cache with maxFrames } { lru with maxFrames } ordered :=
        ⟨⟨h.order.perm, h.order.recent, h.order.clock⟩, h.recency, h.budget, rfl⟩
      exact ⟨_, hSet.evict ⟨hCache.unique, hCache.counter⟩ hBudget⟩
  | clear =>
      refine ⟨[], ⟨⟨List.Perm.refl _, List.Pairwise.nil, ?_⟩, rfl, h.budget, h.frames⟩⟩
      intro e he
      cases he

theorem now_le (cache : ScrubPreviewCache) : cache.now ≤ cache.accessClock + 1 :=
  Nat.min_le_left ..

/-- An operation moves the clock by one at most. -/
theorem accessClock_applyOp (cache : ScrubPreviewCache) (op : PreviewOp) :
    (applyOp cache op).accessClock ≤ cache.accessClock + 1 := by
  cases op with
  | insert frameId maxEdge pixels =>
      show (cache.insert frameId maxEdge pixels).accessClock ≤ _
      by_cases hRefuses : cache.Refuses pixels
      · rw [insert_of_refuses hRefuses]
        omega
      · have hNow := now_le (roomFor cache ⟨frameId, maxEdge⟩ pixels)
        rw [(sameLimits_roomFor cache ⟨frameId, maxEdge⟩ pixels).accessClock] at hNow
        rw [insert_of_accepts hRefuses]
        exact hNow
  | get frameId maxEdge =>
      show (cache.get frameId maxEdge).2.accessClock ≤ _
      unfold ScrubPreviewCache.get
      dsimp only
      split
      · exact now_le cache
      · exact now_le cache
  | setBudgetBytes budgetBytes =>
      have hSame := sameLimits_evictUntilFits { cache with budgetBytes } 0 false
      exact (le_of_eq hSame.accessClock).trans (Nat.le_succ _)
  | setMaxFrames maxFrames =>
      have hSame := sameLimits_evictUntilFits { cache with maxFrames } 0 false
      exact (le_of_eq hSame.accessClock).trans (Nat.le_succ _)
  | clear => exact Nat.le_succ _

/-- A run shorter than the clock: by induction over the operations. -/
theorem Refines.run (h : Refines cache lru ordered)
    (hCache : Bounded cache ∧ BudgetFits cache.budgetBytes) (hFits : ∀ op ∈ ops, op.Fits)
    (hClock : cache.accessClock + ops.length < 2 ^ 64) :
    ∃ ordered', Refines (ops.foldl PreviewCache.applyOp cache)
      (ops.foldl LruPreviews.apply lru) ordered' := by
  induction ops generalizing cache lru ordered with
  | nil => exact ⟨ordered, h⟩
  | cons op ops ih =>
      rw [List.length_cons] at hClock
      have hHead := hFits op (List.mem_cons_self ..)
      have hMoved := accessClock_applyOp cache op
      obtain ⟨_, hNext⟩ := h.applyOp hCache.1.accounted hCache.2 hHead (by omega)
      apply ih hNext (bounded_applyOp hHead hCache)
      · exact fun x hx => hFits x (List.mem_cons_of_mem _ hx)
      · omega

theorem bounded_new (hBudget : BudgetFits budgetBytes) :
    Bounded (ScrubPreviewCache.new budgetBytes maxFrames) ∧
      BudgetFits (ScrubPreviewCache.new budgetBytes maxFrames).budgetBytes :=
  ⟨⟨rfl, Nat.zero_le _, Nat.zero_le _, List.nodup_nil⟩, hBudget⟩

theorem refines_new : Refines (ScrubPreviewCache.new budgetBytes maxFrames)
    ⟨budgetBytes, maxFrames, []⟩ [] := by
  refine ⟨⟨List.Perm.refl _, List.Pairwise.nil, ?_⟩, rfl, rfl, rfl⟩
  intro e he
  cases he

/-- The bounds hold after every run. -/
theorem bounded_cacheAfter (hBudget : BudgetFits budgetBytes) (hFits : ∀ op ∈ ops, op.Fits) :
    Bounded (cacheAfter budgetBytes maxFrames ops) := by
  have hStep : ∀ (cache : ScrubPreviewCache) (op : PreviewOp),
      Bounded cache ∧ BudgetFits cache.budgetBytes → op.Fits →
        Bounded (applyOp cache op) ∧ BudgetFits (applyOp cache op).budgetBytes :=
    fun _ _ hCache hOp => bounded_applyOp hOp hCache
  have hMeets : Meets applyOp (fun _ op => op.Fits) (ScrubPreviewCache.new budgetBytes maxFrames)
      ops := meets_of_forall hFits _
  exact (run_invariant hStep (bounded_new hBudget) hMeets).1

end Refinement

/-! ## The cache as a whole -/

/-- An insertion that is counted leaves its preview in the cache. -/
theorem mem_insert {cache : ScrubPreviewCache} {frameId maxEdge : Nat} {pixels : OwnedRgbaFrame}
    (h : (cache.insert frameId maxEdge pixels).insertions ≠ cache.insertions) :
    (⟨frameId, maxEdge⟩, pixels) ∈ (cache.insert frameId maxEdge pixels).entries.map previewOf := by
  by_cases hRefuses : cache.Refuses pixels
  · rw [insert_of_refuses hRefuses] at h
    exact absurd rfl h
  · rw [insert_of_accepts hRefuses]
    simp [ScrubPreviewCache.push, previewOf]

/-- After every run the counter is the bytes held, both limits are met, keys are
unique and the entries in order of use are those of the recency list, from whose
end evictions take.  Of any cache whatever: the loop of evictions ends, each of
its rounds takes an entry that no other one is older than, and a counted
insertion leaves its preview. -/
theorem previewCache_bounds (budgetBytes maxFrames : Nat) (ops : List PreviewOp)
    (hBudget : BudgetFits budgetBytes) (hFits : ∀ op ∈ ops, op.Fits) :
    Bounded (cacheAfter budgetBytes maxFrames ops) ∧
      (ops.length < 2 ^ 64 → ∃ ordered : List ScrubPreviewEntry,
        Refines (cacheAfter budgetBytes maxFrames ops) (lruAfter budgetBytes maxFrames ops)
          ordered) ∧
      ∀ cache : ScrubPreviewCache,
        (∀ additionalBytes inserting,
          Ends (ScrubPreviewCache.NeedsEviction additionalBytes inserting)
            ScrubPreviewCache.evictLeast cache
            (cache.evictUntilFits additionalBytes inserting)) ∧
        (cache.entries ≠ [] →
          ∃ lru ∈ cache.entries, (∀ e ∈ cache.entries, lru.lastAccess ≤ e.lastAccess) ∧
            cache.evictLeast.entries = cache.entries.filter (·.key ≠ lru.key)) ∧
        ∀ frameId maxEdge pixels,
          (cache.insert frameId maxEdge pixels).insertions ≠ cache.insertions →
            (⟨frameId, maxEdge⟩, pixels) ∈
              (cache.insert frameId maxEdge pixels).entries.map previewOf := by
  refine ⟨bounded_cacheAfter hBudget hFits, ?_, fun cache => ⟨?_, ?_, fun _ _ _ => mem_insert⟩⟩
  · intro hLength
    have hClock : (ScrubPreviewCache.new budgetBytes maxFrames).accessClock + ops.length <
        2 ^ 64 := by
      show 0 + ops.length < 2 ^ 64
      omega
    exact refines_new.run (bounded_new hBudget) hFits hClock
  · exact evictUntilFits_ends cache
  · intro hEntries
    obtain ⟨lru, hMem, hLeast, hEvict⟩ := evictLeast_spec hEntries
    refine ⟨lru, hMem, hLeast, ?_⟩
    rw [hEvict]
    exact remove_entries cache lru.key

/-! ## A run with every kind of operation -/

def onePixel : OwnedRgbaFrame where
  width := 1
  height := 1
  strideBytes := 4
  pixels := [4, 5, 6, 255]
  width_pos := Nat.one_pos
  height_pos := Nat.one_pos
  stride_ge := stride_onePixel
  pixels_length := rfl

/-- The third frame finds the first one used since the second. -/
def samplePreviews : List PreviewOp :=
  [.insert 1 64 onePixel, .insert 2 64 onePixel, .get 1 64, .insert 3 64 onePixel,
    .setBudgetBytes 7, .insert 3 32 onePixel, .setMaxFrames 1]

theorem budgetFits_eight : BudgetFits 8 := by
  unfold BudgetFits
  decide

theorem samplePreviews_fit : ∀ op ∈ samplePreviews, op.Fits := by
  simp [samplePreviews, PreviewOp.Fits, BudgetFits]

example : (cacheAfter 8 2 (samplePreviews.take 4)).entries.map (·.key.frameId) = [1, 3] := by
  decide

theorem samplePreviews_bounds : Bounded (cacheAfter 8 2 samplePreviews) ∧
    ∃ ordered : List ScrubPreviewEntry,
      Refines (cacheAfter 8 2 samplePreviews) (lruAfter 8 2 samplePreviews) ordered := by
  have h := previewCache_bounds 8 2 samplePreviews budgetFits_eight samplePreviews_fit
  exact ⟨h.1, h.2.1 (by decide)⟩

end FrameScope.Ports.PreviewCacheLaw
