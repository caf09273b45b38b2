import FrameScope.Verified.Recency
import FrameScope.Ports.FrameCache

/-!
# The RAM cache is a weighted recency list

The abstract cache `LruCache` is a budget and the list of held frames, the most
recently inserted or fetched one first.  The real cache keeps its entries in a
hash map, finds the least recent one by its access time and counts bytes as it
goes; after any run the two hold the same frames.

`Represents` orders the entries by access time.  Each operation has one lemma
that says what becomes of that order, and the abstract operation does the same
to the list of frames.

The access clock wraps after `2 ^ 64` operations and the byte counter saturates
at the top of `usize`.  Payloads are shorter than `2 ^ 63` bytes, as every slice
is, and the callers configure budgets of at most one gigabyte; budgets up to
`2 ^ 63` already keep the counter away from its end.
-/

namespace FrameScope.Ports.FrameCacheLaw

open FrameScope.Verified.Recency
open FrameScope.Ports.Core
open FrameScope.Ports.SourceBinding
open FrameScope.Ports.FrameCache

/-! ## Operations and the abstract cache -/

inductive RamOp where
  | setBudgetBytes (budgetBytes : Nat)
  | insert (frame : CachedFrame)
  | get (key : FrameCacheKey)
  | invalidateSource (source : SourceIdentity)
  | clear

/-- The values an operation may carry: budgets that callers configure and
payloads that fit a slice. -/
def RamOp.Fits : RamOp → Prop
  | .setBudgetBytes budgetBytes => budgetBytes ≤ 2 ^ 63
  | .insert frame => frame.byteLen < 2 ^ 63
  | _ => True

/-- The frames that are held, the most recently used one first. -/
structure LruCache where
  budgetBytes : Nat
  recency : List CachedFrame

section Operations

variable [ContentHash]

def applyOp (cache : RamFrameCache) : RamOp → RamFrameCache
  | .setBudgetBytes budgetBytes => cache.setBudgetBytes budgetBytes
  | .insert frame => (cache.insert frame).2
  | .get key => (cache.get key).2
  | .invalidateSource source => cache.invalidateSource source
  | .clear => cache.clear

def LruCache.apply (lru : LruCache) : RamOp → LruCache
  | .setBudgetBytes budgetBytes =>
      ⟨budgetBytes, keepFitting CachedFrame.byteLen budgetBytes lru.recency⟩
  | .insert frame =>
      if lru.budgetBytes < frame.byteLen then lru
      else { lru with
        recency := keepFitting CachedFrame.byteLen lru.budgetBytes
          (frame :: lru.recency.filter (·.key ≠ frame.key)) }
  | .get key =>
      match lru.recency.find? (·.key = key) with
      | some frame => { lru with recency := frame :: lru.recency.filter (·.key ≠ key) }
      | none => lru
  | .invalidateSource source =>
      { lru with recency := lru.recency.filter (·.key.sourceKey ≠ ContentHash.stableKey source) }
  | .clear => { lru with recency := [] }

/-- The cache after a run. -/
def cacheAfter (budgetBytes : Nat) (ops : List RamOp) : RamFrameCache :=
  ops.foldl applyOp (RamFrameCache.new budgetBytes)

/-- The abstract cache after a run. -/
def lruAfter (budgetBytes : Nat) (ops : List RamOp) : LruCache :=
  ops.foldl LruCache.apply ⟨budgetBytes, []⟩

/-- What `op` makes of the frame last inserted under `key`: an insertion counts
when it returns `Inserted`. -/
def noteInsert (cache : RamFrameCache) (key : FrameCacheKey) (last : Option CachedFrame) :
    RamOp → Option CachedFrame
  | .insert frame =>
      if frame.key = key ∧ (cache.insert frame).1 = .inserted then some frame else last
  | _ => last

/-- The frame of the last insertion under `key` that returned `Inserted`. -/
def lastInserted (budgetBytes : Nat) (key : FrameCacheKey) (ops : List RamOp) :
    Option CachedFrame :=
  (ops.foldl (fun s op => (applyOp s.1 op, noteInsert s.1 key s.2 op))
    (RamFrameCache.new budgetBytes, none)).2

end Operations

/-! ## The entries in order of use -/

/-- `ordered` lists the entries of the cache, the most recently used one first. -/
structure Represents (cache : RamFrameCache) (ordered : List RamEntry) : Prop where
  perm : ordered.Perm cache.entries
  recent : ordered.Pairwise fun a b => b.lastAccess < a.lastAccess
  clock : ∀ e ∈ ordered, e.lastAccess ≤ cache.accessClock
  unique : (ordered.map (·.frame.key)).Nodup
  counter : cache.residentBytes = total (·.frame.byteLen) ordered

section Order

variable {cache : RamFrameCache} {ordered init : List RamEntry} {e : RamEntry}
  {key : FrameCacheKey} {frame : CachedFrame} {budgetBytes : Nat}

theorem leastRecent_spec (entries : List RamEntry) :
    (leastRecent entries = none → entries = []) ∧
      ∀ e, leastRecent entries = some e →
        e ∈ entries ∧ ∀ other ∈ entries, e.lastAccess ≤ other.lastAccess := by
  induction entries with
  | nil => simp [leastRecent]
  | cons a rest ih =>
      cases hRest : leastRecent rest with
      | none =>
          have hNil := ih.1 hRest
          subst hNil
          simp [leastRecent]
      | some least =>
          obtain ⟨hMem, hLeast⟩ := ih.2 least hRest
          by_cases hLt : least.lastAccess < a.lastAccess
          · simp only [leastRecent, hRest, hLt, if_true]
            refine ⟨by simp, fun e he => ?_⟩
            cases he
            refine ⟨List.mem_cons_of_mem _ hMem, fun other hOther => ?_⟩
            rcases List.mem_cons.1 hOther with rfl | hOther
            · omega
            · exact hLeast other hOther
          · simp only [leastRecent, hRest, hLt, if_false]
            refine ⟨by simp, fun e he => ?_⟩
            cases he
            refine ⟨List.mem_cons_self .., fun other hOther => ?_⟩
            rcases List.mem_cons.1 hOther with rfl | hOther
            · exact le_refl _
            · have := hLeast other hOther
              omega

theorem withoutKey_perm {l l' : List RamEntry} (h : l.Perm l') (key : FrameCacheKey) :
    (withoutKey key l).Perm (withoutKey key l') := h.filter _

/-- Entries with other keys are not removed. -/
theorem withoutKey_eq_self {l : List RamEntry} (h : key ∉ l.map (·.frame.key)) :
    withoutKey key l = l := by
  unfold withoutKey
  rw [List.filter_eq_self]
  intro e he
  rw [decide_eq_true_eq]
  intro hKey
  exact h (List.mem_map.2 ⟨e, he, hKey⟩)

/-- The weight that a removed key frees. -/
theorem total_withoutKey_of_mem (h : (ordered.map (·.frame.key)).Nodup) (he : e ∈ ordered) :
    total (·.frame.byteLen) (withoutKey e.frame.key ordered) + e.frame.byteLen =
      total (·.frame.byteLen) ordered := by
  induction ordered with
  | nil => cases he
  | cons a rest ih =>
      rw [List.map_cons, List.nodup_cons] at h
      by_cases hKey : a.frame.key = e.frame.key
      · -- The first entry is the one, since no other has its key.
        have hSame : e = a := by
          rcases List.mem_cons.1 he with hEq | hRest
          · exact hEq
          · exact absurd (List.mem_map.2 ⟨e, hRest, hKey.symm⟩) h.1
        subst hSame
        have hDrop : withoutKey e.frame.key (e :: rest) = withoutKey e.frame.key rest := by
          simp [withoutKey]
        rw [hDrop, withoutKey_eq_self h.1, total_cons]
        omega
      · have hMem : e ∈ rest := by
          rcases List.mem_cons.1 he with hEq | hRest
          · exact absurd (congrArg (·.frame.key) hEq.symm) hKey
          · exact hRest
        have hDrop : withoutKey e.frame.key (a :: rest) =
            a :: withoutKey e.frame.key rest := by
          simp [withoutKey, hKey]
        rw [hDrop, total_cons, total_cons]
        have := ih h.2 hMem
        omega

/-- Dropping entries keeps what is left in order. -/
theorem Represents.filter (h : Represents cache ordered) (p : RamEntry → Bool)
    (cache' : RamFrameCache) (hEntries : cache'.entries = cache.entries.filter p)
    (hClock : cache.accessClock ≤ cache'.accessClock)
    (hCounter : cache'.residentBytes = total (·.frame.byteLen) (ordered.filter p)) :
    Represents cache' (ordered.filter p) where
  perm := by
    rw [hEntries]
    exact h.perm.filter p
  recent := h.recent.filter p
  clock := fun e he => (h.clock e (List.mem_filter.1 he).1).trans hClock
  unique := (List.filter_sublist.map _).nodup h.unique
  counter := hCounter

/-- The least recent entry is the last one. -/
theorem Represents.leastRecent_concat (h : Represents cache (init ++ [e])) :
    leastRecent cache.entries = some e := by
  have hMem : e ∈ cache.entries := h.perm.mem_iff.1 (by simp)
  cases hLeast : leastRecent cache.entries with
  | none =>
      rw [(leastRecent_spec cache.entries).1 hLeast] at hMem
      cases hMem
  | some least =>
      obtain ⟨hIn, hMin⟩ := (leastRecent_spec cache.entries).2 least hLeast
      rcases List.mem_append.1 (h.perm.mem_iff.2 hIn) with hInit | hLast
      · have hOlder : e.lastAccess < least.lastAccess :=
          (List.pairwise_append.1 h.recent).2.2 least hInit e (by simp)
        have := hMin e hMem
        omega
      · rw [List.mem_singleton] at hLast
        rw [hLast]

theorem withoutKey_concat (h : ((init ++ [e]).map (·.frame.key)).Nodup) :
    withoutKey e.frame.key (init ++ [e]) = init := by
  have hFresh : e.frame.key ∉ init.map (·.frame.key) := by
    rw [List.map_append, List.nodup_append] at h
    intro hMem
    exact h.2.2 _ hMem _ (by simp) rfl
  have hDrop : withoutKey e.frame.key (init ++ [e]) = withoutKey e.frame.key init := by
    simp [withoutKey]
  rw [hDrop, withoutKey_eq_self hFresh]

/-- The eviction loop keeps the longest recent part that fits. -/
theorem Represents.evictRounds (h : Represents cache ordered) {rounds : Nat}
    (hRounds : ordered.length ≤ rounds) :
    Represents (cache.evictRounds rounds)
        (keepFitting (·.frame.byteLen) cache.budgetBytes ordered) ∧
      (cache.evictRounds rounds).budgetBytes = cache.budgetBytes ∧
      (cache.evictRounds rounds).accessClock = cache.accessClock := by
  induction rounds generalizing cache ordered with
  | zero =>
      have hNil : ordered = [] := List.eq_nil_of_length_eq_zero (by omega)
      subst hNil
      exact ⟨h, rfl, rfl⟩
  | succ rounds ih =>
      unfold RamFrameCache.evictRounds
      by_cases hFits : cache.residentBytes ≤ cache.budgetBytes
      · rw [if_pos hFits, keepFitting_of_fits (by rw [← h.counter]; exact hFits)]
        exact ⟨h, rfl, rfl⟩
      · rw [if_neg hFits]
        rcases List.eq_nil_or_concat ordered with rfl | ⟨init, e, rfl⟩
        · have := h.counter
          rw [total_nil] at this
          omega
        · -- The last entry goes, and the rest is still in order.
          rw [List.concat_eq_append] at h hRounds ⊢
          rw [h.leastRecent_concat]
          have hHeavy : cache.budgetBytes < total (·.frame.byteLen) (init ++ [e]) := by
            rw [← h.counter]
            omega
          have hInit := withoutKey_concat h.unique
          have hNext := h.filter (fun x => decide (x.frame.key ≠ e.frame.key))
            { cache with
              entries := withoutKey e.frame.key cache.entries
              residentBytes := cache.residentBytes - e.frame.byteLen
              stats := { cache.stats with
                evictions := saturatingAddU64 cache.stats.evictions 1 } }
            rfl (le_refl _) (by
              show cache.residentBytes - e.frame.byteLen =
                total (·.frame.byteLen) (withoutKey e.frame.key (init ++ [e]))
              rw [hInit, h.counter, total_append, total_cons, total_nil]
              omega)
          change Represents _ (withoutKey e.frame.key (init ++ [e])) at hNext
          rw [hInit] at hNext
          rw [keepFitting_concat hHeavy]
          rw [List.length_append, List.length_singleton] at hRounds
          exact ih hNext (by omega)

theorem Represents.evictToBudget (h : Represents cache ordered) :
    Represents cache.evictToBudget
        (keepFitting (·.frame.byteLen) cache.budgetBytes ordered) ∧
      cache.evictToBudget.budgetBytes = cache.budgetBytes ∧
      cache.evictToBudget.accessClock = cache.accessClock :=
  h.evictRounds (by rw [h.perm.length_eq])

/-! ## One lemma for each operation -/

theorem represents_new (budgetBytes : Nat) : Represents (RamFrameCache.new budgetBytes) [] where
  perm := List.Perm.refl _
  recent := List.Pairwise.nil
  clock := by simp
  unique := List.nodup_nil
  counter := rfl

theorem Represents.setBudgetBytes (h : Represents cache ordered) (budgetBytes : Nat) :
    Represents (cache.setBudgetBytes budgetBytes)
        (keepFitting (·.frame.byteLen) budgetBytes ordered) ∧
      (cache.setBudgetBytes budgetBytes).budgetBytes = budgetBytes ∧
      (cache.setBudgetBytes budgetBytes).accessClock = cache.accessClock := by
  have hCache : Represents { cache with budgetBytes } ordered :=
    ⟨h.perm, h.recent, h.clock, h.unique, h.counter⟩
  exact hCache.evictToBudget

/-- The clock moves on before an access. -/
theorem now_eq (h : cache.accessClock + 1 < 2 ^ 64) : cache.now = cache.accessClock + 1 :=
  Nat.mod_eq_of_lt h

/-- Using an entry, old or new, puts it in front of the entries with other
keys. -/
theorem Represents.use (h : Represents cache ordered) (frame : CachedFrame)
    (hClock : cache.accessClock + 1 < 2 ^ 64) (cache' : RamFrameCache)
    (hEntries : ((⟨frame, cache.now⟩ : RamEntry) :: withoutKey frame.key cache.entries).Perm
      cache'.entries)
    (hNow : cache'.accessClock = cache.now)
    (hCounter : cache'.residentBytes =
      frame.byteLen + total (·.frame.byteLen) (withoutKey frame.key ordered)) :
    Represents cache' (⟨frame, cache.now⟩ :: withoutKey frame.key ordered) where
  perm := ((withoutKey_perm h.perm frame.key).cons _).trans hEntries
  recent := by
    rw [List.pairwise_cons]
    refine ⟨fun e he => ?_, h.recent.filter _⟩
    have := h.clock e (List.mem_filter.1 he).1
    show e.lastAccess < cache.now
    rw [now_eq hClock]
    omega
  clock := by
    intro e he
    rw [hNow]
    rcases List.mem_cons.1 he with rfl | he
    · exact le_refl _
    · have := h.clock e (List.mem_filter.1 he).1
      rw [now_eq hClock]
      omega
  unique := by
    rw [List.map_cons, List.nodup_cons]
    constructor
    · intro hMem
      obtain ⟨e, he, hKey⟩ := List.mem_map.1 hMem
      exact of_decide_eq_true (List.mem_filter.1 he).2 hKey
    · exact (List.filter_sublist.map _).nodup h.unique
  counter := by
    rw [total_cons]
    exact hCounter

/-- Entries found by key are the only ones with it. -/
theorem Represents.find_eq_some (h : Represents cache ordered)
    (hFind : cache.entries.find? (·.frame.key = key) = some e) :
    e ∈ ordered ∧ e.frame.key = key :=
  ⟨h.perm.mem_iff.2 (List.mem_of_find?_eq_some hFind), by simpa using List.find?_some hFind⟩

theorem Represents.find_eq_none (h : Represents cache ordered)
    (hFind : cache.entries.find? (·.frame.key = key) = none) :
    key ∉ ordered.map (·.frame.key) := by
  intro hMem
  obtain ⟨e, he, hKey⟩ := List.mem_map.1 hMem
  have := List.find?_eq_none.1 hFind e (h.perm.mem_iff.1 he)
  simp [hKey] at this

/-- The counter once an entry under `key` is gone. -/
def freedBytes (cache : RamFrameCache) (key : FrameCacheKey) : Nat :=
  match cache.entries.find? (·.frame.key = key) with
  | some previous => cache.residentBytes - previous.frame.byteLen
  | none => cache.residentBytes

theorem Represents.freed_eq (h : Represents cache ordered) (key : FrameCacheKey) :
    freedBytes cache key = total (·.frame.byteLen) (withoutKey key ordered) := by
  unfold freedBytes
  cases hFind : cache.entries.find? (·.frame.key = key) with
  | none =>
      show cache.residentBytes = _
      rw [withoutKey_eq_self (h.find_eq_none hFind), h.counter]
  | some previous =>
      obtain ⟨hMem, hKey⟩ := h.find_eq_some hFind
      have hTotal := total_withoutKey_of_mem h.unique hMem
      show cache.residentBytes - previous.frame.byteLen = _
      rw [h.counter, ← hKey]
      omega

/-- The cache that an accepted insertion trims. -/
def untrimmed (cache : RamFrameCache) (frame : CachedFrame) : RamFrameCache :=
  { cache with
    accessClock := cache.now
    residentBytes := saturatingAddU64 (freedBytes cache frame.key) frame.byteLen
    entries := withoutKey frame.key cache.entries ++ [⟨frame, cache.now⟩]
    stats := { cache.stats with insertions := saturatingAddU64 cache.stats.insertions 1 } }

theorem insert_of_fits (h : ¬ cache.budgetBytes < frame.byteLen) :
    cache.insert frame = (.inserted, (untrimmed cache frame).evictToBudget) := by
  unfold RamFrameCache.insert untrimmed freedBytes
  cases cache.entries.find? (·.frame.key = frame.key) with
  | none => exact if_neg h
  | some previous => exact if_neg h

theorem saturatingAddU64_of_lt {a b : Nat} (h : a + b < 2 ^ 64) : saturatingAddU64 a b = a + b :=
  min_eq_left (by omega)

/-- An accepted insertion puts the frame in front, then trims. -/
theorem Represents.insert (h : Represents cache ordered) (hClock : cache.accessClock + 1 < 2 ^ 64)
    (hWithin : cache.residentBytes ≤ cache.budgetBytes) (hBudget : cache.budgetBytes ≤ 2 ^ 63)
    (hBytes : frame.byteLen < 2 ^ 63) (hRoom : ¬ cache.budgetBytes < frame.byteLen) :
    Represents (cache.insert frame).2
        (keepFitting (·.frame.byteLen) cache.budgetBytes
          (⟨frame, cache.now⟩ :: withoutKey frame.key ordered)) ∧
      (cache.insert frame).2.budgetBytes = cache.budgetBytes ∧
      (cache.insert frame).2.accessClock = cache.accessClock + 1 := by
  have hLe : total (·.frame.byteLen) (withoutKey frame.key ordered) ≤ cache.residentBytes := by
    rw [h.counter, ← total_filter_add _ (fun e => decide (e.frame.key ≠ frame.key)) ordered]
    exact Nat.le_add_right _ _
  have hUsed : Represents (untrimmed cache frame)
      (⟨frame, cache.now⟩ :: withoutKey frame.key ordered) := by
    apply h.use frame hClock
    · exact (List.perm_append_singleton _ _).symm
    · rfl
    · show saturatingAddU64 (freedBytes cache frame.key) frame.byteLen = _
      rw [h.freed_eq, saturatingAddU64_of_lt (by omega), Nat.add_comm]
  rw [insert_of_fits hRoom, ← now_eq hClock]
  exact hUsed.evictToBudget

theorem Represents.miss (h : Represents cache ordered) (hClock : cache.accessClock + 1 < 2 ^ 64)
    (hFind : cache.entries.find? (·.frame.key = key) = none) :
    (cache.get key).1 = none ∧ Represents (cache.get key).2 ordered ∧
      (cache.get key).2.budgetBytes = cache.budgetBytes ∧
      (cache.get key).2.accessClock = cache.accessClock + 1 := by
  unfold RamFrameCache.get
  simp only [hFind]
  rw [now_eq hClock]
  refine ⟨trivial, ⟨h.perm, h.recent, ?_, h.unique, h.counter⟩, trivial, rfl⟩
  intro e he
  exact (h.clock e he).trans (Nat.le_succ _)

/-- With unique keys an entry and the entries under other keys are all of them. -/
theorem perm_cons_withoutKey (h : (ordered.map (·.frame.key)).Nodup) (he : e ∈ ordered) :
    ordered.Perm (e :: withoutKey e.frame.key ordered) := by
  obtain ⟨before, after, rfl⟩ := List.append_of_mem he
  have hSplit : withoutKey e.frame.key (before ++ e :: after) = before ++ after := by
    rw [List.map_append, List.map_cons, List.nodup_append] at h
    obtain ⟨-, hAfter, hApart⟩ := h
    have hBefore : e.frame.key ∉ before.map (·.frame.key) := fun hMem =>
      hApart _ hMem _ (List.mem_cons_self ..) rfl
    have hDrop : withoutKey e.frame.key (before ++ e :: after) =
        withoutKey e.frame.key before ++ withoutKey e.frame.key after := by
      simp [withoutKey]
    rw [hDrop, withoutKey_eq_self hBefore, withoutKey_eq_self (List.nodup_cons.1 hAfter).1]
  rw [hSplit]
  exact List.perm_middle

/-- A hit puts the entry in front. -/
theorem Represents.hit (h : Represents cache ordered) (hClock : cache.accessClock + 1 < 2 ^ 64)
    (hFind : cache.entries.find? (·.frame.key = key) = some e) :
    (cache.get key).1 = some e.frame ∧
      Represents (cache.get key).2 (⟨e.frame, cache.now⟩ :: withoutKey key ordered) ∧
      (cache.get key).2.budgetBytes = cache.budgetBytes ∧
      (cache.get key).2.accessClock = cache.accessClock + 1 := by
  obtain ⟨hMem, hKey⟩ := h.find_eq_some hFind
  subst hKey
  unfold RamFrameCache.get
  simp only [hFind]
  rw [now_eq hClock]
  refine ⟨trivial, ?_, trivial, rfl⟩
  rw [← now_eq hClock]
  apply h.use e.frame hClock
  · -- Only the entry itself gets a new access time.
    have hPerm : cache.entries.Perm (e :: withoutKey e.frame.key cache.entries) :=
      h.perm.symm.trans ((perm_cons_withoutKey h.unique hMem).trans
        ((withoutKey_perm h.perm _).cons _))
    have hOthers : (withoutKey e.frame.key cache.entries).map (fun x =>
        if x.frame.key = e.frame.key then { x with lastAccess := cache.now } else x) =
        withoutKey e.frame.key cache.entries := by
      rw [List.map_congr_left (g := id), List.map_id]
      intro x hx
      exact if_neg (of_decide_eq_true (List.mem_filter.1 hx).2)
    have hMap := hPerm.map fun x : RamEntry =>
      if x.frame.key = e.frame.key then { x with lastAccess := cache.now } else x
    rw [List.map_cons, hOthers, if_pos rfl] at hMap
    exact hMap.symm
  · rfl
  · rw [Nat.add_comm, total_withoutKey_of_mem h.unique hMem]
    exact h.counter

theorem Represents.invalidateSource [ContentHash] (h : Represents cache ordered)
    (source : SourceIdentity) :
    Represents (cache.invalidateSource source)
      (ordered.filter (·.frame.key.sourceKey ≠ ContentHash.stableKey source)) := by
  apply h.filter _ (cache.invalidateSource source) rfl (le_refl _)
  show cache.residentBytes - bytesOf (cache.entries.filter
    (·.frame.key.sourceKey = ContentHash.stableKey source)) = _
  have hSplit := total_filter_add (·.frame.byteLen)
    (fun e : RamEntry => decide (e.frame.key.sourceKey ≠ ContentHash.stableKey source)) ordered
  have hStale : bytesOf (cache.entries.filter
      (·.frame.key.sourceKey = ContentHash.stableKey source)) =
      total (·.frame.byteLen) (ordered.filter fun e =>
        !decide (e.frame.key.sourceKey ≠ ContentHash.stableKey source)) := by
    simp only [ne_eq, decide_not, Bool.not_not]
    exact total_perm _ (h.perm.symm.filter _)
  rw [hStale, h.counter]
  omega

theorem Represents.clear (cache : RamFrameCache) : Represents cache.clear [] where
  perm := List.Perm.refl _
  recent := List.Pairwise.nil
  clock := by simp
  unique := List.nodup_nil
  counter := rfl

end Order

/-! ## Runs -/

/-- The cache holds the frames of the recency list, each the last one inserted
under its key. -/
structure Refines (cache : RamFrameCache) (lru : LruCache)
    (last : FrameCacheKey → Option CachedFrame) (ordered : List RamEntry) : Prop where
  represents : Represents cache ordered
  recency : lru.recency = ordered.map (·.frame)
  budget : lru.budgetBytes = cache.budgetBytes
  budget_le : cache.budgetBytes ≤ 2 ^ 63
  within : cache.residentBytes ≤ cache.budgetBytes
  inserted : ∀ e ∈ ordered, last e.frame.key = some e.frame

section Runs

variable [ContentHash] {cache : RamFrameCache} {lru : LruCache} {ordered : List RamEntry}
  {last : FrameCacheKey → Option CachedFrame} {op : RamOp}

omit [ContentHash] in
/-- The frames under other keys. -/
theorem map_withoutKey (key : FrameCacheKey) (ordered : List RamEntry) :
    (withoutKey key ordered).map (·.frame) =
      (ordered.map (·.frame)).filter (·.key ≠ key) := by
  unfold withoutKey
  rw [List.filter_map]
  rfl

omit [ContentHash] in
/-- The frame found under a key is found in the recency list too. -/
theorem Refines.find_recency (h : Refines cache lru last ordered) (key : FrameCacheKey) :
    lru.recency.find? (·.key = key) =
      (cache.entries.find? (·.frame.key = key)).map (·.frame) := by
  rw [h.recency, List.find?_map]
  show (ordered.find? fun e => decide (e.frame.key = key)).map (·.frame) = _
  cases hFind : cache.entries.find? (·.frame.key = key) with
  | none =>
      have hAbsent : ordered.find? (fun e => decide (e.frame.key = key)) = none := by
        rw [List.find?_eq_none]
        intro e he hKey
        exact h.represents.find_eq_none hFind
          (List.mem_map.2 ⟨e, he, of_decide_eq_true hKey⟩)
      rw [hAbsent]
  | some e =>
      obtain ⟨hMem, hKey⟩ := h.represents.find_eq_some hFind
      cases hFound : ordered.find? (fun e => decide (e.frame.key = key)) with
      | none =>
          have := List.find?_eq_none.1 hFound e hMem
          simp [hKey] at this
      | some e' =>
          -- Unique keys leave only one candidate.
          have hKey' : e'.frame.key = key := by simpa using List.find?_some hFound
          have hSame : e' = e := List.inj_on_of_nodup_map h.represents.unique
            (List.mem_of_find?_eq_some hFound) hMem (hKey'.trans hKey.symm)
          rw [hSame]

omit [ContentHash] in
/-- A step that leaves `cache'` in the order `ordered'`. -/
theorem refines_of_represents {cache' : RamFrameCache} {ordered' : List RamEntry}
    {budgetBytes : Nat} (hNext : Represents cache' ordered')
    (hBudget : cache'.budgetBytes = budgetBytes) (hLe : budgetBytes ≤ 2 ^ 63)
    (hWithin : total (·.frame.byteLen) ordered' ≤ budgetBytes)
    (hInserted : ∀ e ∈ ordered', last e.frame.key = some e.frame) :
    Refines cache' ⟨budgetBytes, ordered'.map (·.frame)⟩ last ordered' where
  represents := hNext
  recency := rfl
  budget := hBudget.symm
  budget_le := hBudget ▸ hLe
  within := by
    rw [hNext.counter, hBudget]
    exact hWithin
  inserted := hInserted

theorem Refines.setBudgetBytes (h : Refines cache lru last ordered) {budgetBytes : Nat}
    (hFits : budgetBytes ≤ 2 ^ 63) :
    Refines (cache.setBudgetBytes budgetBytes) (lru.apply (.setBudgetBytes budgetBytes)) last
      (keepFitting (·.frame.byteLen) budgetBytes ordered) := by
  obtain ⟨hNext, hBudget, -⟩ := h.represents.setBudgetBytes budgetBytes
  have hLru : lru.apply (.setBudgetBytes budgetBytes) =
      ⟨budgetBytes, (keepFitting (·.frame.byteLen) budgetBytes ordered).map (·.frame)⟩ := by
    show LruCache.mk budgetBytes (keepFitting CachedFrame.byteLen budgetBytes lru.recency) = _
    rw [h.recency, keepFitting_map]
  rw [hLru]
  apply refines_of_represents hNext hBudget hFits (keepFitting_longest _ _).fits
  intro e he
  exact h.inserted e ((keepFitting_sublist _ _).subset he)

theorem Refines.insert (h : Refines cache lru last ordered) {frame : CachedFrame}
    (hFits : frame.byteLen < 2 ^ 63) (hClock : cache.accessClock + 1 < 2 ^ 64)
    (hRoom : ¬ cache.budgetBytes < frame.byteLen) :
    Refines (cache.insert frame).2 (lru.apply (.insert frame))
      (fun key => noteInsert cache key (last key) (.insert frame))
      (keepFitting (·.frame.byteLen) cache.budgetBytes
        (⟨frame, cache.now⟩ :: withoutKey frame.key ordered)) := by
  obtain ⟨hNext, hBudget, -⟩ := h.represents.insert hClock h.within h.budget_le hFits hRoom
  have hLru : lru.apply (.insert frame) =
      ⟨cache.budgetBytes, (keepFitting (·.frame.byteLen) cache.budgetBytes
        (⟨frame, cache.now⟩ :: withoutKey frame.key ordered)).map (·.frame)⟩ := by
    rw [← @keepFitting_map _ CachedFrame.byteLen, List.map_cons, map_withoutKey,
      ← h.recency, ← h.budget]
    exact if_neg (by rw [h.budget]; exact hRoom)
  rw [hLru]
  apply refines_of_represents hNext hBudget h.budget_le (keepFitting_longest _ _).fits
  intro e he
  rcases List.mem_cons.1 ((keepFitting_sublist _ _).subset he) with rfl | hOld
  · simp [noteInsert, insert_of_fits hRoom]
  · have hKey : frame.key ≠ e.frame.key :=
      Ne.symm (of_decide_eq_true (List.mem_filter.1 hOld).2)
    simp only [noteInsert, hKey, false_and, if_false]
    exact h.inserted e (List.mem_filter.1 hOld).1

theorem Refines.miss (h : Refines cache lru last ordered) {key : FrameCacheKey}
    (hClock : cache.accessClock + 1 < 2 ^ 64)
    (hFind : cache.entries.find? (·.frame.key = key) = none) :
    Refines (cache.get key).2 (lru.apply (.get key)) last ordered := by
  obtain ⟨-, hNext, hBudget, -⟩ := h.represents.miss hClock hFind
  have hLru : lru.apply (.get key) = ⟨cache.budgetBytes, ordered.map (·.frame)⟩ := by
    have hFound := h.find_recency key
    rw [hFind] at hFound
    simp only [LruCache.apply, hFound, Option.map_none]
    rw [← h.budget, ← h.recency]
  rw [hLru]
  apply refines_of_represents hNext hBudget h.budget_le _ h.inserted
  rw [← h.represents.counter]
  exact h.within

theorem Refines.hit (h : Refines cache lru last ordered) {key : FrameCacheKey} {e : RamEntry}
    (hClock : cache.accessClock + 1 < 2 ^ 64)
    (hFind : cache.entries.find? (·.frame.key = key) = some e) :
    Refines (cache.get key).2 (lru.apply (.get key)) last
      (⟨e.frame, cache.now⟩ :: withoutKey key ordered) := by
  obtain ⟨-, hNext, hBudget, -⟩ := h.represents.hit hClock hFind
  obtain ⟨hMem, rfl⟩ := h.represents.find_eq_some hFind
  have hLru : lru.apply (.get e.frame.key) = ⟨cache.budgetBytes,
      ((⟨e.frame, cache.now⟩ : RamEntry) :: withoutKey e.frame.key ordered).map (·.frame)⟩ := by
    have hFound := h.find_recency e.frame.key
    rw [hFind] at hFound
    simp only [LruCache.apply, hFound, Option.map_some]
    rw [List.map_cons, map_withoutKey, ← h.budget, ← h.recency]
  rw [hLru]
  apply refines_of_represents hNext hBudget h.budget_le
  · rw [total_cons, Nat.add_comm, total_withoutKey_of_mem h.represents.unique hMem,
      ← h.represents.counter]
    exact h.within
  · intro x hx
    rcases List.mem_cons.1 hx with rfl | hOld
    · exact h.inserted e hMem
    · exact h.inserted x (List.mem_filter.1 hOld).1

/-- One operation: the cache and the recency list stay in step. -/
theorem Refines.apply (h : Refines cache lru last ordered) (hFits : op.Fits)
    (hClock : cache.accessClock + 1 < 2 ^ 64) :
    ∃ ordered', Refines (applyOp cache op) (lru.apply op)
      (fun key => noteInsert cache key (last key) op) ordered' := by
  cases op with
  | setBudgetBytes budgetBytes => exact ⟨_, h.setBudgetBytes hFits⟩
  | insert frame =>
      by_cases hRoom : cache.budgetBytes < frame.byteLen
      · -- Too large: nothing happens.
        have hSame : cache.insert frame = (.tooLarge, cache) := by
          unfold RamFrameCache.insert
          rw [if_pos hRoom]
        have hLru : lru.apply (.insert frame) = lru := if_pos (by rw [h.budget]; exact hRoom)
        have hCache : applyOp cache (.insert frame) = cache := congrArg Prod.snd hSame
        rw [hLru, hCache]
        exact ⟨ordered, by simpa [noteInsert, hSame] using h⟩
      · exact ⟨_, h.insert hFits hClock hRoom⟩
  | get key =>
      cases hFind : cache.entries.find? (·.frame.key = key) with
      | none => exact ⟨_, h.miss hClock hFind⟩
      | some e => exact ⟨_, h.hit hClock hFind⟩
  | invalidateSource source =>
      have hNext := h.represents.invalidateSource source
      refine ⟨_, ⟨hNext, ?_, h.budget, h.budget_le, ?_, ?_⟩⟩
      · show lru.recency.filter _ = _
        rw [h.recency, List.filter_map]
        rfl
      · exact (Nat.sub_le _ _).trans h.within
      · intro e he
        exact h.inserted e (List.mem_filter.1 he).1
  | clear =>
      refine ⟨[], ⟨Represents.clear cache, rfl, h.budget, h.budget_le, Nat.zero_le _, ?_⟩⟩
      intro e he
      cases he

/-- An operation moves the clock by one at most. -/
theorem Refines.accessClock_apply (h : Refines cache lru last ordered) (hFits : op.Fits)
    (hClock : cache.accessClock + 1 < 2 ^ 64) :
    (applyOp cache op).accessClock ≤ cache.accessClock + 1 := by
  cases op with
  | setBudgetBytes budgetBytes =>
      obtain ⟨-, -, hNow⟩ := h.represents.setBudgetBytes budgetBytes
      exact (le_of_eq hNow).trans (Nat.le_succ _)
  | insert frame =>
      by_cases hRoom : cache.budgetBytes < frame.byteLen
      · show (cache.insert frame).2.accessClock ≤ _
        unfold RamFrameCache.insert
        rw [if_pos hRoom]
        exact Nat.le_succ _
      · exact le_of_eq (h.represents.insert hClock h.within h.budget_le hFits hRoom).2.2
  | get key =>
      cases hFind : cache.entries.find? (·.frame.key = key) with
      | none => exact le_of_eq (h.represents.miss hClock hFind).2.2.2
      | some e => exact le_of_eq (h.represents.hit hClock hFind).2.2.2
  | invalidateSource source => exact Nat.le_succ _
  | clear => exact Nat.le_succ _

variable {budgetBytes : Nat} {ops : List RamOp}

theorem cacheAfter_concat (budgetBytes : Nat) (ops : List RamOp) (op : RamOp) :
    cacheAfter budgetBytes (ops ++ [op]) = applyOp (cacheAfter budgetBytes ops) op :=
  List.foldl_concat ..

theorem lruAfter_concat (budgetBytes : Nat) (ops : List RamOp) (op : RamOp) :
    lruAfter budgetBytes (ops ++ [op]) = (lruAfter budgetBytes ops).apply op :=
  List.foldl_concat ..

theorem lastInserted_concat (budgetBytes : Nat) (key : FrameCacheKey) (ops : List RamOp)
    (op : RamOp) :
    lastInserted budgetBytes key (ops ++ [op]) =
      noteInsert (cacheAfter budgetBytes ops) key (lastInserted budgetBytes key ops) op := by
  have hCache : ∀ (ops : List RamOp) (cache : RamFrameCache) (last : Option CachedFrame),
      (ops.foldl (fun s op => (applyOp s.1 op, noteInsert s.1 key s.2 op)) (cache, last)).1 =
        ops.foldl applyOp cache := by
    intro ops
    induction ops with
    | nil => exact fun _ _ => rfl
    | cons op ops ih => exact fun cache last => ih _ _
  unfold lastInserted cacheAfter
  rw [List.foldl_concat, hCache]

/-- A whole run: the cache and the recency list stay in step. -/
theorem refines_after (hBudget : budgetBytes ≤ 2 ^ 63) (hFits : ∀ op ∈ ops, op.Fits)
    (hCount : ops.length < 2 ^ 64) :
    ∃ ordered, Refines (cacheAfter budgetBytes ops) (lruAfter budgetBytes ops)
        (fun key => lastInserted budgetBytes key ops) ordered ∧
      (cacheAfter budgetBytes ops).accessClock ≤ ops.length := by
  induction ops using List.reverseRecOn with
  | nil =>
      refine ⟨[], ⟨represents_new budgetBytes, rfl, rfl, hBudget, Nat.zero_le _, ?_⟩, le_refl _⟩
      intro e he
      cases he
  | append_singleton ops op ih =>
      rw [List.length_append, List.length_singleton] at hCount ⊢
      obtain ⟨ordered, h, hTime⟩ := ih (fun op hop => hFits op (List.mem_append_left _ hop))
        (by omega)
      have hOp : op.Fits := hFits op (by simp)
      obtain ⟨ordered', h'⟩ := h.apply hOp (by omega)
      rw [cacheAfter_concat, lruAfter_concat]
      simp only [lastInserted_concat]
      refine ⟨ordered', h', ?_⟩
      have := h.accessClock_apply hOp (by omega)
      omega

/-- The frames that a cache holds. -/
def heldFrames (cache : RamFrameCache) : List CachedFrame := cache.entries.map (·.frame)

/-- What the claims about the cache come to, after the run `ops`. -/
structure RamCacheLaw (budgetBytes : Nat) (ops : List RamOp) : Prop where
  counter : (cacheAfter budgetBytes ops).residentBytes =
    ((heldFrames (cacheAfter budgetBytes ops)).map CachedFrame.byteLen).sum
  within : (cacheAfter budgetBytes ops).residentBytes ≤ (cacheAfter budgetBytes ops).budgetBytes
  unique : ((heldFrames (cacheAfter budgetBytes ops)).map (·.key)).Nodup
  held : (heldFrames (cacheAfter budgetBytes ops)).Perm (lruAfter budgetBytes ops).recency
  get : ∀ key frame, ((cacheAfter budgetBytes ops).get key).1 = some frame ↔
    frame.key = key ∧ lastInserted budgetBytes key ops = some frame ∧
      frame ∈ heldFrames (cacheAfter budgetBytes ops)
  insert_present : ∀ before frame, ops = before ++ [.insert frame] →
    ((cacheAfter budgetBytes before).insert frame).1 = .inserted →
    frame ∈ heldFrames (cacheAfter budgetBytes ops) ∧
      LongestFitting CachedFrame.byteLen (cacheAfter budgetBytes ops).budgetBytes
        (frame :: (lruAfter budgetBytes before).recency.filter (·.key ≠ frame.key))
        (lruAfter budgetBytes ops).recency
  shrink_keeps : ∀ before budget, ops = before ++ [.setBudgetBytes budget] →
    LongestFitting CachedFrame.byteLen budget (lruAfter budgetBytes before).recency
      (lruAfter budgetBytes ops).recency

omit [ContentHash] in
theorem get_fst (cache : RamFrameCache) (key : FrameCacheKey) :
    (cache.get key).1 = (cache.entries.find? (·.frame.key = key)).map (·.frame) := by
  unfold RamFrameCache.get
  cases cache.entries.find? (·.frame.key = key) with
  | none => rfl
  | some e => rfl

omit [ContentHash] in
/-- A lookup finds the held frame of exactly the key asked for. -/
theorem Refines.get_eq_some (h : Refines cache lru last ordered) {key : FrameCacheKey}
    {frame : CachedFrame} :
    (cache.get key).1 = some frame ↔
      frame.key = key ∧ last key = some frame ∧ frame ∈ heldFrames cache := by
  rw [get_fst, Option.map_eq_some_iff]
  constructor
  · rintro ⟨e, hFind, rfl⟩
    obtain ⟨hMem, rfl⟩ := h.represents.find_eq_some hFind
    exact ⟨rfl, h.inserted e hMem, List.mem_map.2 ⟨e, List.mem_of_find?_eq_some hFind, rfl⟩⟩
  · rintro ⟨rfl, -, hHeld⟩
    obtain ⟨e, he, rfl⟩ := List.mem_map.1 hHeld
    cases hFind : cache.entries.find? (·.frame.key = e.frame.key) with
    | none =>
        have := List.find?_eq_none.1 hFind e he
        simp at this
    | some e' =>
        obtain ⟨hMem, hKey⟩ := h.represents.find_eq_some hFind
        have hSame : e' = e := List.inj_on_of_nodup_map h.represents.unique hMem
          (h.represents.perm.mem_iff.2 he) hKey
        exact ⟨e', rfl, by rw [hSame]⟩

omit [ContentHash] in
theorem Refines.held_perm (h : Refines cache lru last ordered) :
    (heldFrames cache).Perm lru.recency := by
  rw [h.recency]
  exact (h.represents.perm.map _).symm

/-- **The RAM cache is a weighted least-recently-used cache.**  After any run of
fewer operations than the clock counts, the byte counter is the size of what is
held and within the budget, keys are unique, a lookup returns the last frame
inserted under its key if it is still held, and a trim keeps the longest
recently used part that fits. -/
theorem ramFrameCache_law (hBudget : budgetBytes ≤ 2 ^ 63) (hFits : ∀ op ∈ ops, op.Fits)
    (hCount : ops.length < 2 ^ 64) : RamCacheLaw budgetBytes ops := by
  obtain ⟨ordered, h, -⟩ := refines_after hBudget hFits hCount
  exact
    { counter := by
        rw [h.represents.counter, total_perm _ h.represents.perm, heldFrames, List.map_map]
        rfl
      within := h.within
      unique := by
        rw [heldFrames, List.map_map]
        exact ((h.represents.perm.map _).nodup_iff).1 h.represents.unique
      held := h.held_perm
      get := fun key frame => h.get_eq_some
      insert_present := by
        rintro before frame rfl hInserted
        rw [List.length_append, List.length_singleton] at hCount
        obtain ⟨ordered', h', hTime⟩ := refines_after hBudget
          (fun op hop => hFits op (List.mem_append_left _ hop)) (by omega : before.length < 2 ^ 64)
        have hRoom : ¬ (cacheAfter budgetBytes before).budgetBytes < frame.byteLen := by
          intro hLarge
          unfold RamFrameCache.insert at hInserted
          rw [if_pos hLarge] at hInserted
          cases hInserted
        have hAfter : (cacheAfter budgetBytes (before ++ [.insert frame])).budgetBytes =
            (cacheAfter budgetBytes before).budgetBytes := by
          rw [cacheAfter_concat]
          exact (h'.represents.insert (by omega) h'.within h'.budget_le
            (hFits (.insert frame) (by simp)) hRoom).2.1
        have hRecency : (lruAfter budgetBytes (before ++ [.insert frame])).recency =
            keepFitting CachedFrame.byteLen (cacheAfter budgetBytes before).budgetBytes
              (frame :: (lruAfter budgetBytes before).recency.filter (·.key ≠ frame.key)) := by
          rw [lruAfter_concat, ← h'.budget]
          show (if _ then _ else _ : LruCache).recency = _
          rw [if_neg (by rw [h'.budget]; exact hRoom)]
        rw [hAfter, hRecency]
        refine ⟨h.held_perm.mem_iff.2 ?_, keepFitting_longest _ _⟩
        rw [hRecency]
        exact keepFitting_head (by omega)
      shrink_keeps := by
        rintro before budget rfl
        rw [lruAfter_concat]
        exact keepFitting_longest _ _ }

end Runs

/-- The payload of one pixel. -/
def samplePixels : OwnedRgbaFrame where
  width := 1
  height := 1
  strideBytes := 4
  pixels := [1, 2, 3, 255]
  width_pos := Nat.one_pos
  height_pos := Nat.one_pos
  stride_ge := stride_onePixel
  pixels_length := rfl

/-- Two frames under a budget for one of them, then a lookup. -/
def sampleOps : List RamOp :=
  [.insert ⟨⟨"source", 0, 1⟩, samplePixels⟩, .insert ⟨⟨"source", 0, 2⟩, samplePixels⟩,
    .setBudgetBytes 4, .get ⟨"source", 0, 2⟩]

theorem ramFrameCache_law_sampleOps :
    @RamCacheLaw constantHash 8 sampleOps := by
  have hFits : ∀ op ∈ sampleOps, op.Fits := by
    simp [sampleOps, RamOp.Fits, CachedFrame.byteLen, OwnedRgbaFrame.byteLen, samplePixels]
  exact @ramFrameCache_law constantHash 8 sampleOps (by decide) hFits (by decide)

end FrameScope.Ports.FrameCacheLaw
