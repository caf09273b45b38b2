import FrameScope.Verified.KeyedTable
import FrameScope.Ports.SharedRam

/-!
# Runs in order keep the shared budget

Two invariants of the registry carry the result.  `Settled` looks forward: the
budget that the last call in flight will apply, or the budget of the cache when
there is none, is the desired one.  `Faithful` looks back: a call carries the
budget of the last configuration before it, and sections were applied in the
order of the calls, up to calls with equal budgets.

Only `cacheSection` can break either, and exactly when it overtakes an older
call that carries another budget.
-/

namespace FrameScope.Ports.SharedRamLaw

open FrameScope.Verified.KeyedTable (eraseIdx_split)
open FrameScope.Verified.Runs
open FrameScope.Ports.FrameCache
open FrameScope.Ports.SharedRam

/-- The budget a live cache of `root` ends up with when the calls in flight
finish in order. -/
def settledBudget (s : SharedRamState) (root : String) (cache : Nat) : Nat :=
  ((s.pending.filter (·.root = root)).getLast?.map (·.budgetBytes)).getD
    (s.caches cache).budgetBytes

/-- The registry names each cache once, calls in flight refer to registered
caches, and the budgets settle at the desired ones. -/
structure Settled (s : SharedRamState) : Prop where
  entry_lt : ∀ root entry cache, s.registry root = some entry → entry.cache = some cache →
    cache < s.nextCache
  handle_lt : ∀ cache ∈ s.handles, cache < s.nextCache
  separate : ∀ root root' entry entry' cache, s.registry root = some entry →
    s.registry root' = some entry' → entry.cache = some cache → entry'.cache = some cache →
    root = root'
  current : ∀ call ∈ s.pending, ∃ entry, s.registry call.root = some entry ∧
    entry.cache = some call.cache
  settled : ∀ root entry cache, s.registry root = some entry → s.upgrade entry = some cache →
    settledBudget s root cache = entry.desiredBudgetBytes

section Settled

variable {s s' : SharedRamState} {root : String} {entry : SharedRamRegistration} {cache i : Nat}
  {call : PendingCall}

theorem settled_initial : Settled .initial where
  entry_lt := fun _ _ _ h => by cases h
  handle_lt := fun _ h => by cases h
  separate := fun _ _ _ _ _ h => by cases h
  current := fun _ h => by cases h
  settled := fun _ _ _ h => by cases h

theorem Settled.agrees (h : Settled s) : Agrees s := by
  intro root entry cache hEntry hLive hIdle
  have hNone : s.pending.filter (·.root = root) = [] := by
    rw [List.filter_eq_nil_iff]
    intro call hCall
    simpa using hIdle call hCall
  have := h.settled root entry cache hEntry hLive
  unfold settledBudget at this
  rwa [hNone] at this

/-- No call is in flight for a root whose cache is gone. -/
theorem Settled.idle_of_dead (h : Settled s)
    (hDead : ∀ entry, s.registry root = some entry → s.upgrade entry = none) :
    ∀ call ∈ s.pending, call.root ≠ root := by
  rintro call hCall rfl
  obtain ⟨entry, hEntry, hCache⟩ := h.current call hCall
  have := upgrade_eq_none (hDead entry hEntry) hCache
  have := strongCount_pos_of_pending hCall
  omega

theorem settledBudget_of_idle (h : ∀ call ∈ s.pending, call.root ≠ root) (cache : Nat) :
    settledBudget s root cache = (s.caches cache).budgetBytes := by
  have hNone : s.pending.filter (·.root = root) = [] := by
    rw [List.filter_eq_nil_iff]
    intro call hCall
    simpa using h call hCall
  unfold settledBudget
  rw [hNone]
  rfl

/-- A step that changes the entry of one root.  The entry keeps its cache or
gets a new one; the other roots are not touched. -/
theorem Settled.replace (h : Settled s) (root : String) (hNext : s.nextCache ≤ s'.nextCache)
    (hHandles : ∀ cache ∈ s'.handles, cache < s'.nextCache)
    (hCurrent : ∀ call ∈ s'.pending, ∃ entry, s'.registry call.root = some entry ∧
      entry.cache = some call.cache)
    (hOthers : ∀ root' entry, root' ≠ root → s'.registry root' = some entry →
      s.registry root' = some entry)
    (hOthersLive : ∀ root' entry cache, root' ≠ root → s'.registry root' = some entry →
      entry.cache = some cache →
      (0 < s'.strongCount cache → 0 < s.strongCount cache) ∧
        settledBudget s' root' cache = settledBudget s root' cache)
    (hHere : ∀ entry cache, s'.registry root = some entry → entry.cache = some cache →
      (cache = s.nextCache ∧ cache < s'.nextCache ∨
        ∃ old, s.registry root = some old ∧ old.cache = some cache) ∧
      (0 < s'.strongCount cache → settledBudget s' root cache = entry.desiredBudgetBytes)) :
    Settled s' := by
  have hApart : ∀ root' entry entry' cache, root' ≠ root → s'.registry root = some entry →
      s'.registry root' = some entry' → entry.cache = some cache → entry'.cache ≠ some cache := by
    intro root' entry entry' cache hNe hEntry hEntry' hCache hCache'
    have hOld := hOthers _ _ hNe hEntry'
    rcases (hHere _ _ hEntry hCache).1 with ⟨rfl, -⟩ | ⟨old, hRoot, hSame⟩
    · exact lt_irrefl _ (h.entry_lt _ _ _ hOld hCache')
    · exact hNe (h.separate _ _ _ _ _ hOld hRoot hCache' hSame)
  constructor
  · intro root' entry cache hEntry hCache
    by_cases hRoot : root' = root
    · subst hRoot
      rcases (hHere _ _ hEntry hCache).1 with ⟨-, hLt⟩ | ⟨old, hOld, hSame⟩
      · exact hLt
      · exact (h.entry_lt _ _ _ hOld hSame).trans_le hNext
    · exact (h.entry_lt _ _ _ (hOthers _ _ hRoot hEntry) hCache).trans_le hNext
  · exact hHandles
  · intro root₁ root₂ entry₁ entry₂ cache h₁ h₂ hCache₁ hCache₂
    by_cases hRoot₁ : root₁ = root
    · by_cases hRoot₂ : root₂ = root
      · rw [hRoot₁, hRoot₂]
      · subst hRoot₁
        exact absurd hCache₂ (hApart _ _ _ _ hRoot₂ h₁ h₂ hCache₁)
    · by_cases hRoot₂ : root₂ = root
      · subst hRoot₂
        exact absurd hCache₁ (hApart _ _ _ _ hRoot₁ h₂ h₁ hCache₂)
      · exact h.separate _ _ _ _ _ (hOthers _ _ hRoot₁ h₁) (hOthers _ _ hRoot₂ h₂)
          hCache₁ hCache₂
  · exact hCurrent
  · intro root' entry cache hEntry hLive
    obtain ⟨hCache, hCount⟩ := upgrade_eq_some.1 hLive
    by_cases hRoot : root' = root
    · subst hRoot
      exact (hHere _ _ hEntry hCache).2 hCount
    · obtain ⟨hAlive, hSame⟩ := hOthersLive _ _ _ hRoot hEntry hCache
      rw [hSame]
      exact h.settled _ _ _ (hOthers _ _ hRoot hEntry)
        (upgrade_eq_some.2 ⟨hCache, hAlive hCount⟩)

/-- A new cache starts with the desired budget. -/
theorem Settled.create (h : Settled s) (hIdle : ∀ call ∈ s.pending, call.root ≠ root) :
    Settled (s.create root entry) := by
  have hOthers : ∀ root' entry', root' ≠ root →
      (s.create root entry).registry root' = some entry' → s.registry root' = some entry' := by
    intro root' entry' hNe hEntry
    simp only [SharedRamState.create, Function.update_of_ne hNe] at hEntry
    exact retained_eq_some hEntry
  apply h.replace root (Nat.le_succ _) _ _ hOthers
  · intro root' entry' cache hNe hEntry hCache
    have hOld := h.entry_lt _ _ _ (hOthers _ _ hNe hEntry) hCache
    have hFresh : s.nextCache ≠ cache := by omega
    constructor
    · simp [SharedRamState.create, SharedRamState.strongCount, hFresh]
    · simp [settledBudget, SharedRamState.create, Ne.symm hFresh]
  · intro entry' cache hEntry hCache
    have hEntry' : entry' = { entry with cache := some s.nextCache } := by
      simp only [SharedRamState.create, Function.update_self, Option.some.injEq] at hEntry
      exact hEntry.symm
    subst hEntry'
    cases hCache
    refine ⟨Or.inl ⟨rfl, Nat.lt_succ_self _⟩, fun _ => ?_⟩
    rw [settledBudget_of_idle (show ∀ call ∈ (s.create root entry).pending, call.root ≠ root
      from hIdle)]
    simp [SharedRamState.create, RamFrameCache.new]
  · intro cache hCache
    show cache < s.nextCache + 1
    rcases List.mem_append.1 hCache with hOld | hNew
    · exact (h.handle_lt cache hOld).trans (Nat.lt_succ_self _)
    · rw [List.mem_singleton] at hNew
      omega
  · intro call hCall
    obtain ⟨entry', hEntry, hCache⟩ := h.current call hCall
    have hLive : s.upgrade entry' = some call.cache :=
      upgrade_eq_some.2 ⟨hCache, strongCount_pos_of_pending hCall⟩
    refine ⟨entry', ?_, hCache⟩
    simp only [SharedRamState.create, Function.update_of_ne (hIdle call hCall)]
    exact retained_of_upgrade hEntry hLive

/-- The last call in flight for a root decides. -/
theorem settledBudget_concat (h : s'.pending = s.pending ++ [call]) (cache : Nat) :
    settledBudget s' call.root cache = call.budgetBytes := by
  unfold settledBudget
  rw [h]
  simp

theorem settledBudget_concat_of_ne (h : s'.pending = s.pending ++ [call])
    (hCaches : s'.caches = s.caches) (hRoot : call.root ≠ root) (cache : Nat) :
    settledBudget s' root cache = settledBudget s root cache := by
  unfold settledBudget
  rw [h, hCaches]
  simp [hRoot]

/-- A call whose cache is live registers a desired budget and goes in flight. -/
theorem Settled.register (h : Settled s) (call : PendingCall) (entry : SharedRamRegistration)
    {old : SharedRamRegistration}
    (hOld : s.registry call.root = some old) (hLive : s.upgrade old = some call.cache)
    (hEntry : entry.cache = old.cache) (hDesired : entry.desiredBudgetBytes = call.budgetBytes)
    (hOthers : ∀ root' entry', root' ≠ call.root → s'.registry root' = some entry' →
      s.registry root' = some entry')
    (hKept : ∀ root' entry' cache, root' ≠ call.root → s.registry root' = some entry' →
      s.upgrade entry' = some cache → s'.registry root' = some entry')
    (hHere : s'.registry call.root = some entry) (hCaches : s'.caches = s.caches)
    (hNext : s'.nextCache = s.nextCache) (hHandles : s'.handles = s.handles)
    (hPending : s'.pending = s.pending ++ [call]) : Settled s' := by
  obtain ⟨hCache, -⟩ := upgrade_eq_some.1 hLive
  apply h.replace call.root (le_of_eq hNext.symm) _ _ hOthers
  · intro root' entry' cache hNe hEntry' hCache'
    have hFar : call.cache ≠ cache := by
      rintro rfl
      exact hNe (h.separate _ _ _ _ _ (hOthers _ _ hNe hEntry') hOld hCache' hCache)
    constructor
    · simp [SharedRamState.strongCount, hPending, hHandles, hFar]
    · exact settledBudget_concat_of_ne hPending hCaches (Ne.symm hNe) cache
  · intro entry' cache hEntry' hCache'
    rw [hHere, Option.some.injEq] at hEntry'
    subst hEntry'
    refine ⟨Or.inr ⟨old, hOld, hEntry ▸ hCache'⟩, fun _ => ?_⟩
    rw [settledBudget_concat hPending, hDesired]
  · intro cache hCache'
    rw [hNext]
    exact h.handle_lt cache (hHandles ▸ hCache')
  · intro other hOther
    rw [hPending] at hOther
    rcases List.mem_append.1 hOther with hBefore | hNew
    · by_cases hRoot : other.root = call.root
      · obtain ⟨entry', hEntry', hCache'⟩ := h.current other hBefore
        rw [hRoot, hOld, Option.some.injEq] at hEntry'
        subst hEntry'
        exact ⟨entry, by rw [hRoot]; exact hHere, by rw [hEntry]; exact hCache'⟩
      · obtain ⟨entry', hEntry', hCache'⟩ := h.current other hBefore
        exact ⟨entry', hKept _ _ _ hRoot hEntry'
          (upgrade_eq_some.2 ⟨hCache', strongCount_pos_of_pending hBefore⟩), hCache'⟩
    · rw [List.mem_singleton] at hNew
      subst hNew
      exact ⟨entry, hHere, hEntry.trans hCache⟩

theorem Settled.sharedRegistrySection (h : Settled s) (root : String) (requested : Nat) :
    Settled (s.sharedRegistrySection root requested) := by
  unfold SharedRamState.sharedRegistrySection
  cases hEntry : s.retained root with
  | none =>
      apply h.create
      apply h.idle_of_dead
      intro entry hRegistered
      by_contra hLive
      obtain ⟨cache, hCache⟩ := Option.ne_none_iff_exists'.1 hLive
      rw [retained_of_upgrade hRegistered hCache] at hEntry
      cases hEntry
  | some old =>
      have hOld := retained_eq_some hEntry
      dsimp only
      -- Raising the desired budget leaves the reference alone.
      generalize hRaised : (if !old.explicitlyConfigured &&
        decide (old.desiredBudgetBytes < requested) then
          { old with desiredBudgetBytes := requested } else old) = raised
      have hCache : raised.cache = old.cache := by
        rw [← hRaised]
        split_ifs <;> rfl
      have hUpgrade : s.upgrade raised = s.upgrade old := by
        unfold SharedRamState.upgrade
        rw [hCache]
      rw [hUpgrade]
      cases hLive : s.upgrade old with
      | none =>
          apply h.create
          apply h.idle_of_dead
          intro entry hRegistered
          rw [hOld, Option.some.injEq] at hRegistered
          rw [← hRegistered]
          exact hLive
      | some cache =>
          apply h.register ⟨.shared, root, cache, raised.desiredBudgetBytes, s.clock⟩ raised
            hOld hLive hCache rfl
          · intro root' entry' hNe hEntry'
            simp only [Function.update_of_ne hNe] at hEntry'
            exact retained_eq_some hEntry'
          · intro root' entry' cache' hNe hEntry' hLive'
            simp only [Function.update_of_ne hNe]
            exact retained_of_upgrade hEntry' hLive'
          · simp
          all_goals rfl

theorem Settled.configureRegistrySection (h : Settled s) (root : String) (budgetBytes : Nat) :
    Settled (s.configureRegistrySection root budgetBytes) := by
  unfold SharedRamState.configureRegistrySection
  cases hLive : (s.registry root).bind s.upgrade with
  | some cache =>
      obtain ⟨old, hOld, hUpgrade⟩ := Option.bind_eq_some_iff.1 hLive
      apply h.register ⟨.configure, root, cache, budgetBytes, s.clock⟩
        ⟨budgetBytes, true, old.cache⟩ hOld hUpgrade rfl rfl
      · intro root' entry' hNe hEntry'
        simpa only [Function.update_of_ne hNe] using hEntry'
      · intro root' entry' cache' hNe hEntry' _
        simpa only [Function.update_of_ne hNe] using hEntry'
      · simp [hOld]
      all_goals rfl
  | none =>
      -- No cache is live, so only the entry changes.
      have hDead : ∀ entry, s.registry root = some entry → s.upgrade entry = none := by
        intro entry hEntry
        rw [hEntry] at hLive
        exact hLive
      have hIdle := h.idle_of_dead hDead
      dsimp only
      rw [Option.toList_none, List.map_nil, List.append_nil]
      refine h.replace root (le_refl _) ?_ ?_ ?_ ?_ ?_
      · exact h.handle_lt
      · intro call hCall
        simpa only [Function.update_of_ne (hIdle call hCall)] using h.current call hCall
      · intro root' entry hNe hEntry
        simpa only [Function.update_of_ne hNe] using hEntry
      · intro root' entry cache hNe hEntry hCache
        constructor
        · simp [SharedRamState.strongCount]
        · simp [settledBudget]
      · intro entry cache hEntry hCache
        simp only [Function.update_self, Option.some.injEq] at hEntry
        subst hEntry
        obtain ⟨old, hOld, hOldCache⟩ := Option.bind_eq_some_iff.1 hCache
        refine ⟨Or.inr ⟨old, hOld, hOldCache⟩, fun hCount => ?_⟩
        have hAlive : 0 < s.strongCount cache := hCount
        have hGone := upgrade_eq_none (hDead old hOld) hOldCache
        omega

theorem Settled.dropHandle (h : Settled s) (i : Nat) : Settled (s.dropHandle i) where
  entry_lt := h.entry_lt
  handle_lt := fun cache hCache => h.handle_lt cache (List.mem_of_mem_eraseIdx hCache)
  separate := h.separate
  current := h.current
  settled := by
    intro root entry cache hEntry hLive
    obtain ⟨hCache, hCount⟩ := upgrade_eq_some.1 hLive
    apply h.settled root entry cache hEntry
    rw [upgrade_eq_some]
    refine ⟨hCache, hCount.trans_le ?_⟩
    exact Nat.add_le_add_right ((List.eraseIdx_sublist _ _).count_le cache) _

/-- The last call of a root leaves its budget behind. -/
theorem settledBudget_takeSection {before after : List PendingCall}
    (hSplit : s.pending = before ++ call :: after) (hErase : s.pending.eraseIdx i = before ++ after)
    (hOlder : ∀ older ∈ before, older.root = call.root → older.budgetBytes = call.budgetBytes) :
    settledBudget (s.takeSection i call) call.root call.cache =
      settledBudget s call.root call.cache := by
  unfold settledBudget SharedRamState.takeSection
  simp only [hErase, Function.update_self, budgetBytes_withBudget]
  rw [hSplit, List.filter_append, List.filter_append, List.filter_cons_of_pos (by simp)]
  rcases List.eq_nil_or_concat (after.filter (·.root = call.root)) with hNil | ⟨init, last, hLast⟩
  · -- Older calls of the root carry the same budget.
    rw [hNil, List.getLast?_concat, List.append_nil]
    cases hBefore : (before.filter (·.root = call.root)).getLast? with
    | none => rfl
    | some older =>
        have hIn := List.mem_filter.1 (List.mem_of_getLast? hBefore)
        exact hOlder older hIn.1 (of_decide_eq_true hIn.2)
  · -- A later call is still to come and decides as before.
    rw [hLast, List.concat_eq_append, ← List.cons_append, ← List.append_assoc,
      ← List.append_assoc, List.getLast?_concat, List.getLast?_concat]
    rfl

theorem settledBudget_takeSection_of_ne {before after : List PendingCall}
    (hSplit : s.pending = before ++ call :: after) (hErase : s.pending.eraseIdx i = before ++ after)
    (hRoot : call.root ≠ root) (hCache : cache ≠ call.cache) :
    settledBudget (s.takeSection i call) root cache = settledBudget s root cache := by
  unfold settledBudget SharedRamState.takeSection
  simp only [hErase, Function.update_of_ne hCache]
  rw [hSplit]
  simp [hRoot]

/-- Taking the section of a call that overtakes no other budget. -/
theorem Settled.takeSection (h : Settled s) (hCall : s.pending[i]? = some call)
    (hOrder : InOrder s (.cacheSection i)) : Settled (s.takeSection i call) := by
  obtain ⟨before, after, hSplit, hErase, hLength⟩ := eraseIdx_split hCall
  have hMem : call ∈ s.pending := List.mem_of_getElem? hCall
  obtain ⟨entry₀, hEntry₀, hCache₀⟩ := h.current call hMem
  have hOlder : ∀ older ∈ before, older.root = call.root →
      older.budgetBytes = call.budgetBytes := by
    intro older hIn hRoot
    obtain ⟨j, hj, hAt⟩ := List.getElem_of_mem hIn
    apply hOrder call hCall j older (by omega) _ hRoot
    rw [hSplit, List.getElem?_append_left hj, List.getElem?_eq_getElem hj, hAt]
  constructor
  · exact h.entry_lt
  · intro cache hCache
    rcases mem_handlesAfter hCache with hOld | hNew
    · exact h.handle_lt cache hOld
    · rw [hNew]
      exact h.entry_lt _ _ _ hEntry₀ hCache₀
  · exact h.separate
  · intro other hOther
    exact h.current other (List.mem_of_mem_eraseIdx hOther)
  · intro root entry cache hEntry hLive
    obtain ⟨hCache, hCount⟩ := upgrade_eq_some.1 hLive
    replace hEntry : s.registry root = some entry := hEntry
    by_cases hRoot : call.root = root
    · subst hRoot
      rw [hEntry₀, Option.some.injEq] at hEntry
      subst hEntry
      rw [hCache₀, Option.some.injEq] at hCache
      subst hCache
      rw [settledBudget_takeSection hSplit hErase hOlder]
      exact h.settled _ _ _ hEntry₀
        (upgrade_eq_some.2 ⟨hCache₀, strongCount_pos_of_pending hMem⟩)
    · have hFar : cache ≠ call.cache := by
        rintro rfl
        exact hRoot (h.separate _ _ _ _ _ hEntry₀ hEntry hCache₀ hCache)
      rw [settledBudget_takeSection_of_ne hSplit hErase hRoot hFar]
      apply h.settled root entry cache hEntry
      rw [upgrade_eq_some]
      refine ⟨hCache, hCount.trans_le ?_⟩
      show (s.handlesAfter call).count cache + _ ≤ s.handles.count cache + _
      rw [count_handlesAfter hFar]
      exact Nat.add_le_add_left (List.eraseIdx_sublist _ _).countP_le _

theorem Settled.apply (h : Settled s) (step : SharedRamStep) (hOrder : InOrder s step) :
    Settled (applyStep s step) := by
  cases step with
  | sharedRegistry root requested => exact h.sharedRegistrySection root requested
  | configureRegistry root budgetBytes => exact h.configureRegistrySection root budgetBytes
  | dropHandle i => exact h.dropHandle i
  | cacheSection i =>
      show Settled (s.cacheSection i)
      unfold SharedRamState.cacheSection
      cases hCall : s.pending[i]? with
      | none => exact h
      | some call => exact h.takeSection hCall hOrder

end Settled

/-! ## What the calls carry -/

/-- `conf` is the last configuration of its root before `stamp`. -/
def LastBefore (s : SharedRamState) (stamp : Nat) (conf : Configuration) : Prop :=
  conf ∈ s.configurations ∧ conf.stamp < stamp ∧
    ∀ newer ∈ s.configurations, newer.root = conf.root → newer.stamp < stamp →
      newer.stamp ≤ conf.stamp

/-- The configuration that a configuring call made. -/
def PendingCall.configuration (call : PendingCall) : Configuration :=
  ⟨call.root, call.budgetBytes, call.stamp⟩

/-- Two sections of one root were applied in the order of their calls, or with
the same budget. -/
def Follows (earlier later : PendingCall) : Prop :=
  later.root = earlier.root →
    earlier.stamp < later.stamp ∨ later.budgetBytes = earlier.budgetBytes

/-- A shared call carries the last budget configured before it; a configuring
call carries its own. -/
def Carries (s : SharedRamState) (call : PendingCall) : Prop :=
  call.stamp < s.clock ∧
    match call.kind with
    | .shared => ∀ conf, LastBefore s call.stamp conf → conf.root = call.root →
        call.budgetBytes = conf.budgetBytes
    | .configure => PendingCall.configuration call ∈ s.configurations

structure Faithful (s : SharedRamState) : Prop where
  conf_lt : ∀ conf ∈ s.configurations, conf.stamp < s.clock
  desired : ∀ conf, LastBefore s s.clock conf → ∃ entry, s.registry conf.root = some entry ∧
    entry.explicitlyConfigured = true ∧ entry.desiredBudgetBytes = conf.budgetBytes
  pending_carries : ∀ call ∈ s.pending, Carries s call
  applied_carries : ∀ call ∈ s.applied, Carries s call
  pending_sorted : s.pending.Pairwise fun a b => a.stamp < b.stamp
  applied_pending : ∀ earlier ∈ s.applied, ∀ later ∈ s.pending, Follows earlier later
  applied_sorted : s.applied.Pairwise Follows

section Faithful

variable {s s' : SharedRamState} {root : String} {entry : SharedRamRegistration} {i : Nat}
  {call : PendingCall}

theorem faithful_initial : Faithful .initial where
  conf_lt := fun _ h => by cases h
  desired := fun _ h => by cases h.1
  pending_carries := fun _ h => by cases h
  applied_carries := fun _ h => by cases h
  pending_sorted := List.Pairwise.nil
  applied_pending := fun _ h => by cases h
  applied_sorted := List.Pairwise.nil

/-- A shared call that writes another budget than an applied configuration was
made after a newer one. -/
theorem Faithful.neverOverrides (h : Faithful s) : NeverOverrides s := by
  intro before between after configured call hApplied hConfigure hShared hRoot hOther
  have hConfigured : configured ∈ s.applied := by
    rw [hApplied]
    simp
  have hCall : call ∈ s.applied := by
    rw [hApplied]
    simp
  have hFollows : Follows configured call := by
    have hSorted := h.applied_sorted
    rw [hApplied, List.append_assoc, List.pairwise_append, List.cons_append,
      List.pairwise_cons] at hSorted
    exact hSorted.2.1.1 call (by simp)
  have hLater : configured.stamp < call.stamp := by
    rcases hFollows hRoot with hLater | hSame
    · exact hLater
    · exact absurd hSame hOther
  have hOwn := (h.applied_carries configured hConfigured).2
  rw [hConfigure] at hOwn
  have hCarries := (h.applied_carries call hCall).2
  rw [hShared] at hCarries
  -- Otherwise the applied configuration is the last one before the call.
  by_contra hNone
  refine hOther (hCarries (PendingCall.configuration configured) ⟨hOwn, hLater, ?_⟩ hRoot.symm)
  intro newer hNewer hNewerRoot hBefore
  by_contra hAfter
  exact hNone ⟨newer, hNewer, hNewerRoot.trans hRoot.symm, not_le.1 hAfter, hBefore⟩

/-- Calls carry the same budgets while no configuration is made. -/
theorem Carries.of_same (h : Carries s call) (hConf : s'.configurations = s.configurations)
    (hClock : s.clock ≤ s'.clock) : Carries s' call := by
  refine ⟨h.1.trans_le hClock, ?_⟩
  have hRest := h.2
  unfold LastBefore at hRest ⊢
  rw [hConf]
  exact hRest

theorem Faithful.takeSection (h : Faithful s) (hCall : s.pending[i]? = some call)
    (hOrder : InOrder s (.cacheSection i)) : Faithful (s.takeSection i call) := by
  obtain ⟨before, after, hSplit, hErase, hLength⟩ := eraseIdx_split hCall
  have hMem : call ∈ s.pending := List.mem_of_getElem? hCall
  have hSorted := h.pending_sorted
  rw [hSplit, List.pairwise_append, List.pairwise_cons] at hSorted
  have hLeft : ∀ later ∈ before ++ after, Follows call later := by
    intro later hLater hRoot
    rcases List.mem_append.1 hLater with hBefore | hAfter
    · obtain ⟨j, hj, hAt⟩ := List.getElem_of_mem hBefore
      apply Or.inr
      apply hOrder call hCall j later (by omega) _ hRoot
      rw [hSplit, List.getElem?_append_left hj, List.getElem?_eq_getElem hj, hAt]
    · exact Or.inl (hSorted.2.1.1 later hAfter)
  constructor
  · exact h.conf_lt
  · exact h.desired
  · intro other hOther
    exact (h.pending_carries other (List.mem_of_mem_eraseIdx hOther)).of_same rfl (le_refl _)
  · intro other hOther
    rcases List.mem_append.1 hOther with hOld | hNew
    · exact (h.applied_carries other hOld).of_same rfl (le_refl _)
    · rw [List.mem_singleton] at hNew
      subst hNew
      exact (h.pending_carries other hMem).of_same rfl (le_refl _)
  · exact h.pending_sorted.sublist (List.eraseIdx_sublist _ _)
  · intro earlier hEarlier later hLater
    rcases List.mem_append.1 hEarlier with hOld | hNew
    · exact h.applied_pending earlier hOld later (List.mem_of_mem_eraseIdx hLater)
    · rw [List.mem_singleton] at hNew
      subst hNew
      exact hLeft later (hErase ▸ hLater)
  · show (s.applied ++ [call]).Pairwise Follows
    rw [List.pairwise_append]
    refine ⟨h.applied_sorted, List.pairwise_singleton _ _, ?_⟩
    intro earlier hEarlier later hLater
    rw [List.mem_singleton] at hLater
    subst hLater
    exact h.applied_pending earlier hEarlier later hMem

/-- A call that goes in flight is newer than everything so far. -/
theorem Faithful.flight (h : Faithful s) (hStamp : call.stamp = s.clock) :
    (s.pending ++ [call]).Pairwise (fun a b => a.stamp < b.stamp) ∧
      ∀ earlier ∈ s.applied, ∀ later ∈ s.pending ++ [call], Follows earlier later := by
  constructor
  · rw [List.pairwise_append]
    refine ⟨h.pending_sorted, List.pairwise_singleton _ _, ?_⟩
    intro earlier hEarlier later hLater
    rw [List.mem_singleton] at hLater
    rw [hLater, hStamp]
    exact (h.pending_carries earlier hEarlier).1
  · intro earlier hEarlier later hLater
    rcases List.mem_append.1 hLater with hOld | hNew
    · exact h.applied_pending earlier hEarlier later hOld
    · rw [List.mem_singleton] at hNew
      intro _
      rw [hNew, hStamp]
      exact Or.inl (h.applied_carries earlier hEarlier).1

/-- A registry section that configures nothing keeps the explicit entries; the
call it may start carries the desired budget. -/
theorem Faithful.register (h : Faithful s) (hConf : s'.configurations = s.configurations)
    (hClock : s'.clock = s.clock + 1) (hApplied : s'.applied = s.applied)
    (hRegistry : ∀ root entry, s.registry root = some entry →
      entry.explicitlyConfigured = true → ∃ entry', s'.registry root = some entry' ∧
        entry'.explicitlyConfigured = true ∧
        entry'.desiredBudgetBytes = entry.desiredBudgetBytes)
    (hPending : s'.pending = s.pending ∨ ∃ call, s'.pending = s.pending ++ [call] ∧
      call.stamp = s.clock ∧ call.kind = .shared ∧ ∀ entry, s.registry call.root = some entry →
        entry.explicitlyConfigured = true → call.budgetBytes = entry.desiredBudgetBytes) :
    Faithful s' := by
  have hKeep : ∀ call, Carries s call → Carries s' call := fun call hCarries =>
    hCarries.of_same hConf (by omega)
  have hLast : ∀ conf stamp, s.clock ≤ stamp → LastBefore s' stamp conf →
      LastBefore s s.clock conf := by
    intro conf stamp hStamp hBefore
    unfold LastBefore at hBefore
    rw [hConf] at hBefore
    exact ⟨hBefore.1, h.conf_lt conf hBefore.1, fun newer hNewer hRoot _ =>
      hBefore.2.2 newer hNewer hRoot ((h.conf_lt newer hNewer).trans_le hStamp)⟩
  have hCalls : ∀ call ∈ s'.pending, Carries s' call := by
    intro call hCall
    rcases hPending with hSame | ⟨new, hNew, hStamp, hKind, hBudget⟩
    · exact hKeep call (h.pending_carries call (hSame ▸ hCall))
    · rw [hNew] at hCall
      rcases List.mem_append.1 hCall with hOld | hCall
      · exact hKeep call (h.pending_carries call hOld)
      · rw [List.mem_singleton] at hCall
        subst hCall
        refine ⟨by omega, ?_⟩
        rw [hKind]
        intro conf hBefore hRoot
        obtain ⟨entry, hEntry, hExplicit, hDesired⟩ :=
          h.desired conf (hLast conf _ (by omega) hBefore)
        rw [← hDesired]
        exact hBudget entry (hRoot ▸ hEntry) hExplicit
  constructor
  · intro conf hIn
    rw [hConf] at hIn
    have := h.conf_lt conf hIn
    omega
  · intro conf hBefore
    obtain ⟨entry, hEntry, hExplicit, hDesired⟩ := h.desired conf (hLast conf _ (by omega) hBefore)
    obtain ⟨entry', hEntry', hExplicit', hDesired'⟩ := hRegistry _ _ hEntry hExplicit
    exact ⟨entry', hEntry', hExplicit', hDesired'.trans hDesired⟩
  · exact hCalls
  · intro call hCall
    exact hKeep call (h.applied_carries call (hApplied ▸ hCall))
  · rcases hPending with hSame | ⟨new, hNew, hStamp, -, -⟩
    · rw [hSame]
      exact h.pending_sorted
    · rw [hNew]
      exact (h.flight hStamp).1
  · rw [hApplied]
    rcases hPending with hSame | ⟨new, hNew, hStamp, -, -⟩
    · rw [hSame]
      exact h.applied_pending
    · rw [hNew]
      exact (h.flight hStamp).2
  · rw [hApplied]
    exact h.applied_sorted

/-- Explicit entries survive the creation of a cache with their budget. -/
theorem Faithful.create (h : Faithful s)
    (hEntry : ∀ old, s.registry root = some old → old.explicitlyConfigured = true →
      entry.explicitlyConfigured = true ∧ entry.desiredBudgetBytes = old.desiredBudgetBytes) :
    Faithful (s.create root entry) := by
  refine h.register rfl rfl rfl ?_ (Or.inl rfl)
  intro root' old hOld hExplicit
  by_cases hRoot : root' = root
  · subst hRoot
    obtain ⟨hExplicit', hDesired⟩ := hEntry old hOld hExplicit
    exact ⟨{ entry with cache := some s.nextCache }, by simp [SharedRamState.create],
      hExplicit', hDesired⟩
  · refine ⟨old, ?_, hExplicit, rfl⟩
    simp only [SharedRamState.create, Function.update_of_ne hRoot]
    exact retained_of_explicit hOld hExplicit

theorem Faithful.sharedRegistrySection (h : Faithful s) (root : String) (requested : Nat) :
    Faithful (s.sharedRegistrySection root requested) := by
  unfold SharedRamState.sharedRegistrySection
  cases hRetained : s.retained root with
  | none =>
      apply h.create
      intro old hOld hExplicit
      rw [retained_of_explicit hOld hExplicit] at hRetained
      cases hRetained
  | some old =>
      have hOld := retained_eq_some hRetained
      dsimp only
      generalize hRaised : (if !old.explicitlyConfigured &&
        decide (old.desiredBudgetBytes < requested) then
          { old with desiredBudgetBytes := requested } else old) = raised
      -- An explicit budget is not raised.
      have hExplicitRaised : old.explicitlyConfigured = true → raised = old := by
        intro hExplicit
        rw [← hRaised, hExplicit]
        rfl
      cases s.upgrade raised with
      | none =>
          apply h.create
          intro old' hOld' hExplicit
          rw [hOld, Option.some.injEq] at hOld'
          subst hOld'
          rw [hExplicitRaised hExplicit]
          exact ⟨hExplicit, rfl⟩
      | some cache =>
          refine h.register rfl rfl rfl ?_ ?_
          · intro root' entry hEntry hExplicit
            by_cases hRoot : root' = root
            · subst hRoot
              rw [hOld, Option.some.injEq] at hEntry
              subst hEntry
              exact ⟨raised, by simp, by rw [hExplicitRaised hExplicit]; exact hExplicit,
                by rw [hExplicitRaised hExplicit]⟩
            · refine ⟨entry, ?_, hExplicit, rfl⟩
              simp only [Function.update_of_ne hRoot]
              exact retained_of_explicit hEntry hExplicit
          · refine Or.inr ⟨_, rfl, rfl, rfl, ?_⟩
            intro entry hEntry hExplicit
            rw [hOld, Option.some.injEq] at hEntry
            subst hEntry
            rw [hExplicitRaised hExplicit]

theorem Faithful.dropHandle (h : Faithful s) (i : Nat) : Faithful (s.dropHandle i) :=
  ⟨h.conf_lt, h.desired, h.pending_carries, h.applied_carries, h.pending_sorted,
    h.applied_pending, h.applied_sorted⟩

/-- Older calls do not notice a configuration. -/
theorem Carries.configure (h : Carries s call) (conf : Configuration)
    (hConf : s'.configurations = s.configurations ++ [conf]) (hStamp : conf.stamp = s.clock)
    (hClock : s'.clock = s.clock + 1) : Carries s' call := by
  have hLt := h.1
  have hRest := h.2
  refine ⟨by omega, ?_⟩
  cases hKind : call.kind with
  | configure =>
      rw [hKind] at hRest
      rw [hConf]
      exact List.mem_append_left _ hRest
  | shared =>
      rw [hKind] at hRest
      intro other hOther hRoot
      apply hRest other _ hRoot
      unfold LastBefore at hOther ⊢
      rw [hConf] at hOther
      obtain ⟨hIn, hBefore, hNewest⟩ := hOther
      refine ⟨?_, hBefore, fun newer hNewer => hNewest newer (List.mem_append_left _ hNewer)⟩
      rcases List.mem_append.1 hIn with hIn | hIn
      · exact hIn
      · rw [List.mem_singleton] at hIn
        subst hIn
        omega

theorem Faithful.configureRegistrySection (h : Faithful s) (root : String) (budgetBytes : Nat) :
    Faithful (s.configureRegistrySection root budgetBytes) := by
  have hKeep : ∀ call, Carries s call →
      Carries (s.configureRegistrySection root budgetBytes) call := fun call hCarries =>
    hCarries.configure ⟨root, budgetBytes, s.clock⟩ rfl rfl rfl
  -- The call that goes in flight, if the cache is live.
  have hPending : (s.configureRegistrySection root budgetBytes).pending = s.pending ∨
      ∃ cache, (s.configureRegistrySection root budgetBytes).pending =
        s.pending ++ [⟨.configure, root, cache, budgetBytes, s.clock⟩] := by
    unfold SharedRamState.configureRegistrySection
    cases (s.registry root).bind s.upgrade with
    | none => exact Or.inl (List.append_nil _)
    | some cache => exact Or.inr ⟨cache, rfl⟩
  constructor
  · intro conf hIn
    show conf.stamp < s.clock + 1
    rcases List.mem_append.1 hIn with hIn | hIn
    · exact (h.conf_lt conf hIn).trans (Nat.lt_succ_self _)
    · rw [List.mem_singleton] at hIn
      rw [hIn]
      exact Nat.lt_succ_self _
  · intro conf hBefore
    obtain ⟨hIn, -, hNewest⟩ := hBefore
    by_cases hRoot : conf.root = root
    · have hNew : conf = ⟨root, budgetBytes, s.clock⟩ := by
        rcases List.mem_append.1 hIn with hOld | hNew
        · have hLe : s.clock ≤ conf.stamp :=
            hNewest ⟨root, budgetBytes, s.clock⟩ (List.mem_append_right _ (by simp)) hRoot.symm
              (Nat.lt_succ_self _)
          have := h.conf_lt conf hOld
          omega
        · simpa using hNew
      subst hNew
      exact ⟨⟨budgetBytes, true, (s.registry root).bind (·.cache)⟩,
        by simp [SharedRamState.configureRegistrySection], rfl, rfl⟩
    · have hOld : conf ∈ s.configurations := by
        rcases List.mem_append.1 hIn with hOld | hNew
        · exact hOld
        · rw [List.mem_singleton] at hNew
          rw [hNew] at hRoot
          exact absurd rfl hRoot
      obtain ⟨entry, hEntry, hRest⟩ := h.desired conf ⟨hOld, h.conf_lt conf hOld,
        fun newer hNewer hSame hLt => hNewest newer (List.mem_append_left _ hNewer) hSame
          (hLt.trans (Nat.lt_succ_self _))⟩
      refine ⟨entry, ?_, hRest⟩
      simp only [SharedRamState.configureRegistrySection, Function.update_of_ne hRoot]
      exact hEntry
  · intro call hCall
    rcases hPending with hSame | ⟨cache, hNew⟩
    · exact hKeep call (h.pending_carries call (hSame ▸ hCall))
    · rw [hNew] at hCall
      rcases List.mem_append.1 hCall with hOld | hCall
      · exact hKeep call (h.pending_carries call hOld)
      · rw [List.mem_singleton] at hCall
        subst hCall
        exact ⟨Nat.lt_succ_self _, List.mem_append_right _ (by simp [PendingCall.configuration])⟩
  · intro call hCall
    exact hKeep call (h.applied_carries call hCall)
  · rcases hPending with hSame | ⟨cache, hNew⟩
    · rw [hSame]
      exact h.pending_sorted
    · rw [hNew]
      exact (h.flight rfl).1
  · rcases hPending with hSame | ⟨cache, hNew⟩
    · rw [hSame]
      exact h.applied_pending
    · rw [hNew]
      exact (h.flight rfl).2
  · exact h.applied_sorted

theorem Faithful.apply (h : Faithful s) (step : SharedRamStep) (hOrder : InOrder s step) :
    Faithful (applyStep s step) := by
  cases step with
  | sharedRegistry root requested => exact h.sharedRegistrySection root requested
  | configureRegistry root budgetBytes => exact h.configureRegistrySection root budgetBytes
  | dropHandle i => exact h.dropHandle i
  | cacheSection i =>
      show Faithful (s.cacheSection i)
      unfold SharedRamState.cacheSection
      cases hCall : s.pending[i]? with
      | none => exact h
      | some call => exact h.takeSection hCall hOrder

end Faithful

/-- **In every run that applies budgets in order, registry and cache agree.**
Once the calls for a root have finished, its live cache has the desired budget,
and no open restores a budget that a configuration had replaced. -/
theorem sharedBudget_agrees {steps : List SharedRamStep}
    (hOrder : Meets applyStep InOrder .initial steps) :
    Agrees (steps.foldl applyStep .initial) ∧ NeverOverrides (steps.foldl applyStep .initial) := by
  have hStep : ∀ s step, Settled s ∧ Faithful s → InOrder s step →
      Settled (applyStep s step) ∧ Faithful (applyStep s step) := by
    intro s step h hMeets
    exact ⟨h.1.apply step hMeets, h.2.apply step hMeets⟩
  have hInv := run_invariant hStep ⟨settled_initial, faithful_initial⟩ hOrder
  exact ⟨hInv.1.agrees, hInv.2.neverOverrides⟩

/-- The same calls, each taking its cache section in turn. -/
def orderlyOpen : List SharedRamStep :=
  [.sharedRegistry "frames" 64, .sharedRegistry "frames" 64, .configureRegistry "frames" 0,
    .cacheSection 0, .cacheSection 0]

theorem sharedBudget_agrees_orderlyOpen :
    Agrees (orderlyOpen.foldl applyStep .initial) ∧
      NeverOverrides (orderlyOpen.foldl applyStep .initial) := by
  apply sharedBudget_agrees
  refine ⟨trivial, trivial, trivial, ?_, ?_, trivial⟩
  · intro call _ j older hj
    omega
  · intro call _ j older hj
    omega

end FrameScope.Ports.SharedRamLaw
