import FrameScope.Verified.KeyedTable
import FrameScope.Ports.ScrubHandoff

/-!
# What the sections of the preview registry keep

The retained sessions have distinct ids and distinct states, there are at most
two of them, and a state outside the registry has no budget (`Retained`).  After
a rebalancing the budgets of the retained sessions add up to the configured one
(`Balanced`).
-/

namespace FrameScope.Ports.ScrubHandoffLaw

open FrameScope.Verified.KeyedTable (find?_key_eq_some)
open FrameScope.Ports.Core
open FrameScope.Ports.PreviewCancellation (PreviewFailure)
open FrameScope.Ports.ScrubHandoff
open FrameScope.Ports.ScrubHandoff.ScrubSessions

structure Retained (s : ScrubSessions) : Prop where
  ids : (s.registry.sessions.map (·.1)).Nodup
  states : (s.registry.sessions.map (·.2.state)).Nodup
  made : ∀ entry ∈ s.registry.sessions, entry.2.state < s.nextState
  bounded : s.registry.sessions.length ≤ MAX_RETAINED_PREVIEW_SESSIONS
  trimmed : ∀ state, (∀ entry ∈ s.registry.sessions, entry.2.state ≠ state) →
    (s.states state).previewBudgetBytes = 0

/-- The budgets of the retained sessions add up to `totalBudget`. -/
def Balanced (totalBudget : UInt64) (s : ScrubSessions) : Prop :=
  s.registry.sessions ≠ [] →
    (s.registry.sessions.map fun entry => (s.states entry.2.state).previewBudgetBytes).sum =
      totalBudget.toNat

/-! ## The shares -/

/-- The remainder goes to as many positions as it has bytes. -/
theorem sum_range_share (total count n : Nat) :
    ((List.range n).map fun position => total / count +
      if position < total % count then 1 else 0).sum =
      n * (total / count) + min n (total % count) := by
  induction n with
  | zero => simp
  | succ n ih =>
      rw [List.range_succ, List.map_append, List.sum_append, ih, List.map_singleton,
        List.sum_singleton]
      by_cases h : n < total % count
      · rw [if_pos h, Nat.succ_mul]
        omega
      · rw [if_neg h, Nat.succ_mul]
        omega

/-- A share is far from the end of the address space. -/
theorem previewShare_eq (totalBudget : UInt64) {sessionCount : Nat} (position : Nat)
    (h : 0 < sessionCount) :
    previewShare totalBudget sessionCount position = totalBudget.toNat / sessionCount +
      if position < totalBudget.toNat % sessionCount then 1 else 0 := by
  have hBound : totalBudget.toNat < 2 ^ 64 := totalBudget.toNat_lt
  have hDiv := Nat.div_add_mod totalBudget.toNat sessionCount
  unfold previewShare saturatingAddU64
  by_cases hExtra : position < totalBudget.toNat % sessionCount
  · have hOne : totalBudget.toNat / sessionCount ≤ sessionCount * (totalBudget.toNat / sessionCount) :=
      Nat.le_mul_of_pos_left _ h
    rw [if_pos hExtra]
    omega
  · have hLe := Nat.div_le_self totalBudget.toNat sessionCount
    rw [if_neg hExtra]
    omega

/-- The shares of all positions are the whole budget. -/
theorem sum_previewShare (totalBudget : UInt64) {sessionCount : Nat} (h : 0 < sessionCount) :
    ((List.range sessionCount).map (previewShare totalBudget sessionCount)).sum =
      totalBudget.toNat := by
  have hShares : (List.range sessionCount).map (previewShare totalBudget sessionCount) =
      (List.range sessionCount).map fun position => totalBudget.toNat / sessionCount +
        if position < totalBudget.toNat % sessionCount then 1 else 0 := by
    apply List.map_congr_left
    intro position _
    exact previewShare_eq totalBudget position h
  rw [hShares, sum_range_share]
  have hMod := Nat.mod_lt totalBudget.toNat h
  have hDiv := Nat.div_add_mod totalBudget.toNat sessionCount
  omega

/-! ## A rebalancing -/

/-- `t` differs from `s` in the budgets of retained sessions alone. -/
structure OnlyBudgets (s t : ScrubSessions) : Prop where
  registry : t.registry = s.registry
  nextState : t.nextState = s.nextState
  states : ∀ state, t.states state =
    { s.states state with previewBudgetBytes := (t.states state).previewBudgetBytes }
  others : ∀ state, (∀ entry ∈ s.registry.sessions, entry.2.state ≠ state) →
    t.states state = s.states state

section Rebalance

variable {s t u : ScrubSessions} {totalBudget : UInt64} {sessionCount : Nat} {sessionId : Int}
  {handle : ScrubSessionHandle}

theorem OnlyBudgets.refl (s : ScrubSessions) : OnlyBudgets s s :=
  ⟨rfl, rfl, fun _ => rfl, fun _ _ => rfl⟩

theorem OnlyBudgets.trans (h : OnlyBudgets s t) (h' : OnlyBudgets t u) : OnlyBudgets s u where
  registry := h'.registry.trans h.registry
  nextState := h'.nextState.trans h.nextState
  states := by
    intro state
    rw [h'.states state, h.states state]
  others := by
    intro state hOther
    rw [h'.others state (by rwa [h.registry]), h.others state hOther]

theorem mem_of_handle? (h : s.handle? sessionId = some handle) :
    (sessionId, handle) ∈ s.registry.sessions := by
  unfold ScrubSessions.handle? at h
  obtain ⟨entry, hFind, rfl⟩ := Option.map_eq_some_iff.1 h
  have hId : entry.1 = sessionId := by simpa using List.find?_some hFind
  rw [← hId]
  exact List.mem_of_find?_eq_some hFind

theorem handle?_eq_some_iff (h : (s.registry.sessions.map (·.1)).Nodup) :
    s.handle? sessionId = some handle ↔ (sessionId, handle) ∈ s.registry.sessions := by
  refine ⟨mem_of_handle?, fun hMem => ?_⟩
  unfold ScrubSessions.handle?
  rw [(find?_key_eq_some h).2 ⟨hMem, rfl⟩]
  rfl

theorem handle?_eq_none_iff :
    s.handle? sessionId = none ↔ ∀ entry ∈ s.registry.sessions, entry.1 ≠ sessionId := by
  simp [ScrubSessions.handle?]

theorem giveShare_onlyBudgets (s : ScrubSessions) (totalBudget : UInt64) (sessionCount : Nat)
    (entry : Int × Nat) : OnlyBudgets s (s.giveShare totalBudget sessionCount entry) := by
  unfold ScrubSessions.giveShare
  cases hHandle : s.handle? entry.1 with
  | none => exact .refl s
  | some handle =>
      constructor
      · rfl
      · rfl
      · intro state
        show Function.update s.states handle.state _ state = _
        by_cases h : state = handle.state
        · subst h
          simp [ScrubSessions.setBudgetBytes, ScrubSessions.updateState]
        · simp [ScrubSessions.setBudgetBytes, ScrubSessions.updateState, h]
      · intro state hOther
        exact Function.update_of_ne (hOther _ (mem_of_handle? hHandle)).symm _ _

theorem foldl_giveShare_onlyBudgets (entries : List (Int × Nat)) (s : ScrubSessions) :
    OnlyBudgets s (entries.foldl (fun t entry => t.giveShare totalBudget sessionCount entry) s) := by
  induction entries generalizing s with
  | nil => exact .refl s
  | cons entry entries ih => exact (giveShare_onlyBudgets s totalBudget sessionCount entry).trans (ih _)

theorem rebalance_onlyBudgets : OnlyBudgets s (s.rebalancePreviewCacheBudgets totalBudget) := by
  unfold ScrubSessions.rebalancePreviewCacheBudgets
  by_cases h : s.registry.sessions.isEmpty = true
  · rw [if_pos h]
    exact .refl s
  · rw [if_neg h]
    exact foldl_giveShare_onlyBudgets _ s

/-- A share goes to its own session. -/
theorem foldl_giveShare_of_ne (entries : List (Int × Nat)) (s : ScrubSessions) {state : Nat}
    (h : ∀ entry ∈ entries, ∀ handle, s.handle? entry.1 = some handle → handle.state ≠ state) :
    (entries.foldl (fun t entry => t.giveShare totalBudget sessionCount entry) s).states state =
      s.states state := by
  induction entries generalizing s with
  | nil => rfl
  | cons entry entries ih =>
      have hRegistry := (giveShare_onlyBudgets s totalBudget sessionCount entry).registry
      rw [List.foldl_cons, ih]
      · unfold ScrubSessions.giveShare
        cases hHandle : s.handle? entry.1 with
        | none => rfl
        | some handle =>
            exact Function.update_of_ne (h entry (List.mem_cons_self ..) handle hHandle).symm _ _
      · intro other hOther handle hHandle
        apply h other (List.mem_cons_of_mem _ hOther) handle
        rwa [ScrubSessions.handle?, hRegistry] at hHandle

theorem foldl_giveShare_budget (totalBudget : UInt64) (sessionCount : Nat)
    (entries : List (Int × Nat)) (s : ScrubSessions) (hIds : (entries.map (·.1)).Nodup)
    (hStates : ∀ id id' handle handle', s.handle? id = some handle → s.handle? id' = some handle' →
      handle.state = handle'.state → id = id') :
    ∀ entry ∈ entries, ∀ handle, s.handle? entry.1 = some handle →
      ((entries.foldl (fun t entry => t.giveShare totalBudget sessionCount entry) s).states
        handle.state).previewBudgetBytes = previewShare totalBudget sessionCount entry.2 := by
  induction entries generalizing s with
  | nil => simp
  | cons first entries ih =>
      intro entry hEntry handle hHandle
      have hRegistry := (giveShare_onlyBudgets s totalBudget sessionCount first).registry
      have hSame : ∀ id, (s.giveShare totalBudget sessionCount first).handle? id = s.handle? id := by
        intro id
        rw [ScrubSessions.handle?, hRegistry]
        rfl
      rw [List.map_cons, List.nodup_cons] at hIds
      rw [List.foldl_cons]
      rcases List.mem_cons.1 hEntry with rfl | hLater
      · -- the later rounds leave this session alone
        rw [foldl_giveShare_of_ne]
        · simp [ScrubSessions.giveShare, hHandle, ScrubSessions.setBudgetBytes,
            ScrubSessions.updateState]
        · intro other hOther handle' hHandle' hState
          rw [hSame] at hHandle'
          have hId := hStates _ _ _ _ hHandle' hHandle hState
          exact hIds.1 (List.mem_map.2 ⟨other, hOther, hId⟩)
      · apply ih _ hIds.2
        · intro id id' handle handle' h h'
          rw [hSame] at h h'
          exact hStates id id' handle handle' h h'
        · exact hLater
        · rwa [hSame]

/-- The shares that the sessions get are the shares of all positions. -/
theorem rebalance_balanced (h : Retained s) :
    Balanced totalBudget (s.rebalancePreviewCacheBudgets totalBudget) := by
  intro hSome
  rw [rebalance_onlyBudgets.registry] at hSome ⊢
  have hIsEmpty : ¬ s.registry.sessions.isEmpty = true := by simpa using hSome
  have hCount : 0 < s.registry.sessions.length := List.length_pos_of_ne_nil hSome
  let t := s.rebalancePreviewCacheBudgets totalBudget
  let budgetOf : Int → Nat := fun id =>
    (s.handle? id).elim 0 fun handle => (t.states handle.state).previewBudgetBytes
  have hPerm : s.sortedIds.Perm (s.registry.sessions.map (·.1)) := List.perm_insertionSort _ _
  have hIds : s.sortedIds.Nodup := hPerm.nodup_iff.2 h.ids
  have hStates : ∀ id id' handle handle', s.handle? id = some handle →
      s.handle? id' = some handle' → handle.state = handle'.state → id = id' := by
    intro id id' handle handle' hId hId' hState
    have hSame := List.inj_on_of_nodup_map h.states (mem_of_handle? hId) (mem_of_handle? hId') hState
    rw [Prod.mk.injEq] at hSame
    exact hSame.1
  have hShares := foldl_giveShare_budget totalBudget s.registry.sessions.length s.sortedIds.zipIdx s
    (by rw [List.zipIdx_map_fst]; exact hIds) hStates
  have hSorted : s.sortedIds.length = s.registry.sessions.length := by
    rw [hPerm.length_eq, List.length_map]
  calc (s.registry.sessions.map fun entry => (t.states entry.2.state).previewBudgetBytes).sum
      = ((s.registry.sessions.map (·.1)).map budgetOf).sum := by
        congr 1
        rw [List.map_map]
        apply List.map_congr_left
        intro entry hEntry
        have hHandle : s.handle? entry.1 = some entry.2 := (handle?_eq_some_iff h.ids).2 hEntry
        simp [budgetOf, hHandle]
    _ = (s.sortedIds.map budgetOf).sum := ((hPerm.map budgetOf).sum_eq).symm
    _ = (s.sortedIds.zipIdx.map fun entry => budgetOf entry.1).sum := by
        have hFst : s.sortedIds.zipIdx.map (fun entry => budgetOf entry.1) =
            (s.sortedIds.zipIdx.map Prod.fst).map budgetOf := by
          rw [List.map_map]
          rfl
        rw [hFst, List.zipIdx_map_fst]
    _ = (s.sortedIds.zipIdx.map fun entry =>
          previewShare totalBudget s.registry.sessions.length entry.2).sum := by
        congr 1
        apply List.map_congr_left
        intro entry hEntry
        have hId : entry.1 ∈ s.sortedIds := by
          rw [← List.zipIdx_map_fst 0 s.sortedIds]
          exact List.mem_map_of_mem hEntry
        obtain ⟨found, hFound, hIs⟩ := List.mem_map.1 (hPerm.mem_iff.1 hId)
        have hHandle : s.handle? entry.1 = some found.2 := by
          rw [handle?_eq_some_iff h.ids, ← hIs]
          exact hFound
        have hShare := hShares entry hEntry found.2 hHandle
        simp only [budgetOf, hHandle, t]
        unfold ScrubSessions.rebalancePreviewCacheBudgets
        rw [if_neg hIsEmpty]
        exact hShare
    _ = ((List.range s.registry.sessions.length).map
          (previewShare totalBudget s.registry.sessions.length)).sum := by
        have hSnd : s.sortedIds.zipIdx.map (fun entry =>
            previewShare totalBudget s.registry.sessions.length entry.2) =
            (s.sortedIds.zipIdx.map Prod.snd).map
              (previewShare totalBudget s.registry.sessions.length) := by
          rw [List.map_map]
          rfl
        rw [hSnd, List.zipIdx_map_snd, hSorted, ← List.range_eq_range']
    _ = totalBudget.toNat := sum_previewShare totalBudget hCount

end Rebalance

/-! ## What the sections keep -/

section Keep

variable {s : ScrubSessions} {totalBudget : UInt64} {sessionId : Int} {handle : ScrubSessionHandle}
  {cacheRoot : String} {sourceCache access : Nat}

theorem retained_initial : Retained .initial where
  ids := List.nodup_nil
  states := List.nodup_nil
  made := fun _ h => by cases h
  bounded := Nat.zero_le _
  trimmed := fun _ _ => rfl

/-- Cursors are of no concern to the budgets. -/
theorem Retained.of_budgets {t : ScrubSessions} (h : Retained s) (hRegistry : t.registry = s.registry)
    (hNext : t.nextState = s.nextState)
    (hBudgets : ∀ state, (t.states state).previewBudgetBytes = (s.states state).previewBudgetBytes) :
    Retained t := by
  constructor
  · rw [hRegistry]
    exact h.ids
  · rw [hRegistry]
    exact h.states
  · rw [hRegistry, hNext]
    exact h.made
  · rw [hRegistry]
    exact h.bounded
  · rw [hRegistry]
    intro state hOther
    rw [hBudgets]
    exact h.trimmed state hOther

theorem Balanced.of_budgets {t : ScrubSessions} (h : Balanced totalBudget s)
    (hRegistry : t.registry = s.registry)
    (hBudgets : ∀ state, (t.states state).previewBudgetBytes = (s.states state).previewBudgetBytes) :
    Balanced totalBudget t := by
  unfold Balanced
  rw [hRegistry]
  simp only [hBudgets]
  exact h

/-- A new cursor leaves the budget of its state. -/
theorem budget_updateState {f : ScrubSessionState → ScrubSessionState} {state : Nat}
    (h : (f (s.states state)).previewBudgetBytes = (s.states state).previewBudgetBytes)
    (other : Nat) : ((s.updateState state f).states other).previewBudgetBytes =
      (s.states other).previewBudgetBytes := by
  by_cases hIs : other = state
  · simp [ScrubSessions.updateState, hIs, h]
  · simp [ScrubSessions.updateState, hIs]

theorem Retained.updateState {f : ScrubSessionState → ScrubSessionState} {state : Nat}
    (h : Retained s)
    (hBudget : (f (s.states state)).previewBudgetBytes = (s.states state).previewBudgetBytes) :
    Retained (s.updateState state f) :=
  h.of_budgets rfl rfl (budget_updateState hBudget)

theorem Retained.rebalance (h : Retained s) :
    Retained (s.rebalancePreviewCacheBudgets totalBudget) := by
  have hOnly : OnlyBudgets s (s.rebalancePreviewCacheBudgets totalBudget) := rebalance_onlyBudgets
  constructor
  · rw [hOnly.registry]
    exact h.ids
  · rw [hOnly.registry]
    exact h.states
  · rw [hOnly.registry, hOnly.nextState]
    exact h.made
  · rw [hOnly.registry]
    exact h.bounded
  · rw [hOnly.registry]
    intro state hOther
    rw [hOnly.others state hOther]
    exact h.trimmed state hOther

theorem Retained.removed (h : Retained s) (hEntry : (sessionId, handle) ∈ s.registry.sessions) :
    Retained ((s.remove sessionId).trimRemovedPreviewState handle) := by
  have hSub : (s.registry.sessions.filter fun entry => entry.1 ≠ sessionId).Sublist
      s.registry.sessions := List.filter_sublist
  constructor
  · exact h.ids.sublist (hSub.map _)
  · exact h.states.sublist (hSub.map _)
  · exact fun entry hMem => h.made entry (hSub.subset hMem)
  · exact hSub.length_le.trans h.bounded
  · intro state hOther
    show (Function.update s.states handle.state _ state).previewBudgetBytes = 0
    by_cases hState : state = handle.state
    · rw [hState, Function.update_self]
    · rw [Function.update_of_ne hState]
      apply h.trimmed
      intro entry hMem hSame
      by_cases hId : entry.1 = sessionId
      · have hIs := List.inj_on_of_nodup_map h.ids hMem hEntry hId
        rw [hIs] at hSame
        exact hState hSame.symm
      · exact hOther entry (List.mem_filter.2 ⟨hMem, by simpa using hId⟩) hSame

theorem Retained.insert (h : Retained s) (hNew : ∀ entry ∈ s.registry.sessions, entry.1 ≠ sessionId)
    (hRoom : s.registry.sessions.length < MAX_RETAINED_PREVIEW_SESSIONS) :
    Retained (s.insert sessionId cacheRoot sourceCache access) := by
  constructor
  · show ((s.registry.sessions ++ [_]).map _).Nodup
    rw [List.map_append]
    apply List.Nodup.append h.ids (List.nodup_singleton _)
    intro id hOld hIs
    obtain ⟨entry, hEntry, rfl⟩ := List.mem_map.1 hOld
    exact hNew entry hEntry (List.mem_singleton.1 hIs)
  · show ((s.registry.sessions ++ [_]).map _).Nodup
    rw [List.map_append]
    apply List.Nodup.append h.states (List.nodup_singleton _)
    intro state hOld hIs
    obtain ⟨entry, hEntry, rfl⟩ := List.mem_map.1 hOld
    have hMade := h.made entry hEntry
    have hState : entry.2.state = s.nextState := List.mem_singleton.1 hIs
    omega
  · intro entry hEntry
    show entry.2.state < s.nextState + 1
    rcases List.mem_append.1 hEntry with hOld | hIs
    · have hMade := h.made entry hOld
      omega
    · rw [List.mem_singleton] at hIs
      rw [hIs]
      exact Nat.lt_succ_self _
  · show (s.registry.sessions ++ [_]).length ≤ _
    rw [List.length_append]
    exact hRoom
  · intro state hOther
    show (Function.update s.states s.nextState _ state).previewBudgetBytes = 0
    by_cases hState : state = s.nextState
    · rw [hState, Function.update_self]
    · rw [Function.update_of_ne hState]
      apply h.trimmed
      intro entry hEntry
      exact hOther entry (List.mem_append_left _ hEntry)

theorem Retained.tick (h : Retained s) : Retained s.tick :=
  ⟨h.ids, h.states, h.made, h.bounded, h.trimmed⟩

/-- An access changes neither ids nor states. -/
theorem map_touch {β : Type} (s : ScrubSessions) (sessionId : Int) (access : Nat)
    (f : Int → Nat → β) :
    ((s.touch sessionId access).registry.sessions.map fun entry => f entry.1 entry.2.state) =
      s.registry.sessions.map fun entry => f entry.1 entry.2.state := by
  show (s.registry.sessions.map _).map _ = _
  rw [List.map_map]
  apply List.map_congr_left
  intro entry _
  by_cases h : entry.1 = sessionId
  · simp [h]
  · simp [h]

theorem Retained.touch (h : Retained s) : Retained (s.touch sessionId access) := by
  have hMem : ∀ entry ∈ (s.touch sessionId access).registry.sessions,
      ∃ old ∈ s.registry.sessions, old.1 = entry.1 ∧ old.2.state = entry.2.state := by
    intro entry hEntry
    obtain ⟨old, hOld, rfl⟩ := List.mem_map.1 hEntry
    refine ⟨old, hOld, ?_⟩
    by_cases hId : old.1 = sessionId
    · simp [hId]
    · simp [hId]
  constructor
  · rw [map_touch s sessionId access fun id _ => id]
    exact h.ids
  · rw [map_touch s sessionId access fun _ state => state]
    exact h.states
  · intro entry hEntry
    obtain ⟨old, hOld, -, hState⟩ := hMem entry hEntry
    rw [← hState]
    exact h.made old hOld
  · exact (List.length_map ..).trans_le h.bounded
  · intro state hOther
    apply h.trimmed
    intro old hOld hState
    have hAll := map_touch s sessionId access fun _ state => state
    have hIn : state ∈ s.registry.sessions.map fun entry => entry.2.state :=
      List.mem_map.2 ⟨old, hOld, hState⟩
    rw [← hAll] at hIn
    obtain ⟨entry, hEntry, hIs⟩ := List.mem_map.1 hIn
    exact hOther entry hEntry hIs

/-- What an eviction removes is least recently used. -/
theorem evictOldest_cases (hSome : s.registry.sessions ≠ []) :
    ∃ entry ∈ s.registry.sessions,
      (∀ other ∈ s.registry.sessions, entry.2.lastAccess ≤ other.2.lastAccess) ∧
      s.evictOldest = (s.remove entry.1).trimRemovedPreviewState entry.2 := by
  unfold ScrubSessions.evictOldest
  cases hOldest : s.oldest with
  | none => exact absurd (List.argmin_eq_none.1 hOldest) hSome
  | some entry =>
      have hMin : entry ∈ s.registry.sessions.argmin fun entry => entry.2.lastAccess := hOldest
      refine ⟨entry, List.argmin_mem hMin, ?_, rfl⟩
      intro other hOther
      exact List.le_of_mem_argmin (f := fun entry : Int × ScrubSessionHandle => entry.2.lastAccess)
        hOther hMin

/-- Making room evicts at most one session. -/
theorem makeRoom_cases (h : Retained s) :
    (s.registry.sessions.length < MAX_RETAINED_PREVIEW_SESSIONS ∧
        makeRoom s.registry.sessions.length s = s) ∨
      (s.registry.sessions.length = MAX_RETAINED_PREVIEW_SESSIONS ∧
        ∃ entry ∈ s.registry.sessions,
          (∀ other ∈ s.registry.sessions, entry.2.lastAccess ≤ other.2.lastAccess) ∧
          makeRoom s.registry.sessions.length s =
            (s.remove entry.1).trimRemovedPreviewState entry.2) := by
  have hBound := h.bounded
  by_cases hRoom : s.registry.sessions.length < MAX_RETAINED_PREVIEW_SESSIONS
  · left
    refine ⟨hRoom, ?_⟩
    cases hLength : s.registry.sessions.length with
    | zero => rfl
    | succ n => rw [makeRoom, if_pos hRoom]
  · right
    have hFull : s.registry.sessions.length = MAX_RETAINED_PREVIEW_SESSIONS := by omega
    have hSome : s.registry.sessions ≠ [] := by
      intro hNone
      rw [hNone] at hFull
      cases hFull
    obtain ⟨entry, hEntry, hLeast, hEvict⟩ := evictOldest_cases hSome
    refine ⟨hFull, entry, hEntry, hLeast, ?_⟩
    have hShort : s.evictOldest.registry.sessions.length < MAX_RETAINED_PREVIEW_SESSIONS := by
      rw [hEvict, ← hFull]
      exact List.length_filter_lt_length_iff_exists.2 ⟨entry, hEntry, by simp⟩
    rw [hFull]
    show makeRoom 2 s = _
    rw [makeRoom, if_neg hRoom, makeRoom, if_pos hShort, hEvict]

theorem Retained.makeRoom (h : Retained s) :
    Retained (makeRoom s.registry.sessions.length s) ∧
      (ScrubSessions.makeRoom s.registry.sessions.length s).registry.sessions.length <
        MAX_RETAINED_PREVIEW_SESSIONS := by
  rcases makeRoom_cases h with ⟨hRoom, hSame⟩ | ⟨hFull, entry, hEntry, -, hEvict⟩
  · rw [hSame]
    exact ⟨h, hRoom⟩
  · rw [hEvict]
    refine ⟨h.removed hEntry, ?_⟩
    rw [← hFull]
    exact List.length_filter_lt_length_iff_exists.2 ⟨entry, hEntry, by simp⟩

/-- Making room keeps some of the entries, and cursors of states. -/
theorem makeRoom_sub (h : Retained s) :
    (∀ entry ∈ (makeRoom s.registry.sessions.length s).registry.sessions,
        entry ∈ s.registry.sessions) ∧
      (makeRoom s.registry.sessions.length s).nextState = s.nextState ∧
      ∀ state cursor,
        ((makeRoom s.registry.sessions.length s).states state).decoderCursor = some cursor →
          (s.states state).decoderCursor = some cursor := by
  rcases makeRoom_cases h with ⟨-, hSame⟩ | ⟨-, removed, -, -, hEvict⟩
  · rw [hSame]
    exact ⟨fun _ hEntry => hEntry, rfl, fun _ _ hCursor => hCursor⟩
  · rw [hEvict]
    refine ⟨fun entry hEntry => List.mem_of_mem_filter hEntry, rfl, ?_⟩
    intro state cursor hCursor
    by_cases hState : state = removed.2.state
    · subst hState
      simp [ScrubSessions.trimRemovedPreviewState, ScrubSessions.updateState] at hCursor
    · simpa [ScrubSessions.trimRemovedPreviewState, ScrubSessions.updateState, hState,
        ScrubSessions.remove] using hCursor

/-- The two ways through `session_state`. -/
theorem sessionState_cases (s : ScrubSessions) (totalBudget : UInt64) (sessionId : Int)
    (cacheRoot : String) (sourceCache : Nat) :
    (∃ handle, s.handle? sessionId = some handle ∧
        (s.sessionState totalBudget sessionId cacheRoot sourceCache).2 =
          s.tick.touch sessionId s.tick.registry.clock ∧
        ∀ state, (s.sessionState totalBudget sessionId cacheRoot sourceCache).1 = .ok state →
          state = handle.state) ∨
      (s.handle? sessionId = none ∧
        s.sessionState totalBudget sessionId cacheRoot sourceCache =
          (.ok (makeRoom s.registry.sessions.length s.tick).nextState,
            ((makeRoom s.registry.sessions.length s.tick).insert sessionId cacheRoot sourceCache
              s.tick.registry.clock).rebalancePreviewCacheBudgets totalBudget)) := by
  unfold ScrubSessions.sessionState
  cases hHandle : s.handle? sessionId with
  | none =>
      right
      exact ⟨rfl, rfl⟩
  | some handle =>
      left
      refine ⟨handle, rfl, ?_⟩
      by_cases hRoot : (s.states handle.state).cacheRoot ≠ cacheRoot
      · simp only [hRoot, ne_eq, not_false_eq_true, if_true, true_and]
        intro state hOk
        cases hOk
      · simp only [hRoot, if_false, true_and]
        intro state hOk
        exact (Except.ok.inj hOk).symm

/-- Everything that a session with no entry finds once room is made. -/
theorem Retained.room (h : Retained s) (hNone : s.handle? sessionId = none) :
    Retained ((ScrubSessions.makeRoom s.registry.sessions.length s.tick).insert sessionId cacheRoot
      sourceCache access) := by
  obtain ⟨hRoom, hLength⟩ := h.tick.makeRoom
  apply hRoom.insert _ hLength
  intro entry hEntry
  exact handle?_eq_none_iff.1 hNone entry ((makeRoom_sub h.tick).1 entry hEntry)

theorem Retained.sessionState (h : Retained s) :
    Retained (s.sessionState totalBudget sessionId cacheRoot sourceCache).2 := by
  rcases sessionState_cases s totalBudget sessionId cacheRoot sourceCache with
    ⟨handle, -, hTouched, -⟩ | ⟨hNone, hMade⟩
  · rw [hTouched]
    exact h.tick.touch
  · rw [hMade]
    exact (h.room hNone).rebalance

theorem Balanced.sessionState (h : Balanced totalBudget s) (hRetained : Retained s) :
    Balanced totalBudget (s.sessionState totalBudget sessionId cacheRoot sourceCache).2 := by
  rcases sessionState_cases s totalBudget sessionId cacheRoot sourceCache with
    ⟨handle, -, hTouched, -⟩ | ⟨hNone, hMade⟩
  · rw [hTouched]
    intro hSome
    have hBudgets := map_touch s.tick sessionId s.tick.registry.clock
      fun _ state => (s.states state).previewBudgetBytes
    refine Eq.trans (congrArg List.sum hBudgets) (h ?_)
    intro hNone
    apply hSome
    show s.registry.sessions.map _ = []
    rw [hNone, List.map_nil]
  · rw [hMade]
    exact rebalance_balanced (hRetained.room hNone)

/-- Where the entries and cursors come from. -/
theorem sessionState_sub (h : Retained s) (totalBudget : UInt64) (sessionId : Int)
    (cacheRoot : String) (sourceCache : Nat) :
    (∀ entry ∈ (s.sessionState totalBudget sessionId cacheRoot sourceCache).2.registry.sessions,
        (∃ old ∈ s.registry.sessions, old.1 = entry.1 ∧ old.2.state = entry.2.state) ∨
          entry.1 = sessionId ∧ entry.2.state = s.nextState) ∧
      s.nextState ≤ (s.sessionState totalBudget sessionId cacheRoot sourceCache).2.nextState ∧
      (∀ state, (s.sessionState totalBudget sessionId cacheRoot sourceCache).1 = .ok state →
        ∃ access, (sessionId, (⟨state, access⟩ : ScrubSessionHandle)) ∈
          (s.sessionState totalBudget sessionId cacheRoot sourceCache).2.registry.sessions) ∧
      ∀ state cursor,
        ((s.sessionState totalBudget sessionId cacheRoot sourceCache).2.states state).decoderCursor =
            some cursor →
          (s.states state).decoderCursor = some cursor := by
  rcases sessionState_cases s totalBudget sessionId cacheRoot sourceCache with
    ⟨handle, hHandle, hTouched, hOk⟩ | ⟨hNone, hMade⟩
  · rw [hTouched]
    refine ⟨?_, le_rfl, ?_, fun _ _ hCursor => hCursor⟩
    · intro entry hEntry
      obtain ⟨old, hOld, rfl⟩ := List.mem_map.1 hEntry
      left
      refine ⟨old, hOld, ?_⟩
      by_cases hId : old.1 = sessionId
      · simp [hId]
      · simp [hId]
    · intro state hState
      rw [hOk state hState]
      refine ⟨s.tick.registry.clock, ?_⟩
      apply List.mem_map.2
      exact ⟨(sessionId, handle), mem_of_handle? hHandle, by simp⟩
  · obtain ⟨hEntries, hNext, hCursors⟩ := makeRoom_sub h.tick
    have hOnly : OnlyBudgets _ (((makeRoom s.registry.sessions.length s.tick).insert sessionId
      cacheRoot sourceCache s.tick.registry.clock).rebalancePreviewCacheBudgets totalBudget) :=
      rebalance_onlyBudgets
    rw [hMade]
    refine ⟨?_, ?_, ?_, ?_⟩
    · rw [hOnly.registry]
      intro entry hEntry
      rcases List.mem_append.1 hEntry with hOld | hIs
      · left
        exact ⟨entry, hEntries entry hOld, rfl, rfl⟩
      · right
        rw [List.mem_singleton] at hIs
        rw [hIs]
        exact ⟨rfl, hNext⟩
    · rw [hOnly.nextState]
      show s.nextState ≤ (makeRoom _ s.tick).nextState + 1
      exact (le_of_eq hNext.symm).trans (Nat.le_succ _)
    · intro state hState
      have hIs : (makeRoom s.registry.sessions.length s.tick).nextState = state :=
        Except.ok.inj hState
      rw [hOnly.registry, ← hIs]
      refine ⟨s.tick.registry.clock, ?_⟩
      exact List.mem_append_right _ (List.mem_singleton_self _)
    · intro state cursor hCursor
      rw [hOnly.states state] at hCursor
      by_cases hState : state = (makeRoom s.registry.sessions.length s.tick).nextState
      · subst hState
        simp [ScrubSessions.insert] at hCursor
      · have hOld : ((makeRoom s.registry.sessions.length s.tick).states state).decoderCursor =
            some cursor := by
          simpa [ScrubSessions.insert, hState] using hCursor
        exact hCursors state cursor hOld

theorem forgetSection_cases (s : ScrubSessions) (totalBudget : UInt64) (sessionId : Int) :
    (s.handle? sessionId = none ∧ (s.forgetSection totalBudget sessionId).2 = s) ∨
      ∃ handle, s.handle? sessionId = some handle ∧
        (s.forgetSection totalBudget sessionId).2 =
          ((s.remove sessionId).trimRemovedPreviewState handle).rebalancePreviewCacheBudgets
            totalBudget := by
  unfold ScrubSessions.forgetSection
  cases hHandle : s.handle? sessionId with
  | none =>
      left
      exact ⟨rfl, rfl⟩
  | some handle =>
      right
      exact ⟨handle, rfl, rfl⟩

theorem Retained.forgetSection (h : Retained s) :
    Retained (s.forgetSection totalBudget sessionId).2 := by
  rcases forgetSection_cases s totalBudget sessionId with ⟨-, hSame⟩ | ⟨handle, hHandle, hForgot⟩
  · rwa [hSame]
  · rw [hForgot]
    exact (h.removed (mem_of_handle? hHandle)).rebalance

theorem Balanced.forgetSection (h : Balanced totalBudget s) (hRetained : Retained s) :
    Balanced totalBudget (s.forgetSection totalBudget sessionId).2 := by
  rcases forgetSection_cases s totalBudget sessionId with ⟨-, hSame⟩ | ⟨handle, hHandle, hForgot⟩
  · rwa [hSame]
  · rw [hForgot]
    exact rebalance_balanced (hRetained.removed (mem_of_handle? hHandle))

/-- A forgotten session has no entry, and the others keep theirs. -/
theorem forgetSection_sub (s : ScrubSessions) (totalBudget : UInt64) (sessionId : Int) :
    (∀ entry ∈ (s.forgetSection totalBudget sessionId).2.registry.sessions,
        entry ∈ s.registry.sessions ∧ entry.1 ≠ sessionId) ∧
      (s.forgetSection totalBudget sessionId).2.nextState = s.nextState ∧
      ∀ state cursor,
        ((s.forgetSection totalBudget sessionId).2.states state).decoderCursor = some cursor →
          (s.states state).decoderCursor = some cursor := by
  rcases forgetSection_cases s totalBudget sessionId with ⟨hNone, hSame⟩ | ⟨handle, -, hForgot⟩
  · rw [hSame]
    exact ⟨fun entry hEntry => ⟨hEntry, handle?_eq_none_iff.1 hNone entry hEntry⟩, rfl,
      fun _ _ hCursor => hCursor⟩
  · have hOnly : OnlyBudgets _ (((s.remove sessionId).trimRemovedPreviewState
      handle).rebalancePreviewCacheBudgets totalBudget) := rebalance_onlyBudgets
    rw [hForgot, hOnly.registry, hOnly.nextState]
    refine ⟨?_, rfl, ?_⟩
    · intro entry hEntry
      obtain ⟨hOld, hId⟩ := List.mem_filter.1 hEntry
      exact ⟨hOld, by simpa using hId⟩
    · intro state cursor hCursor
      rw [hOnly.states state] at hCursor
      by_cases hState : state = handle.state
      · subst hState
        simp [ScrubSessions.trimRemovedPreviewState, ScrubSessions.updateState] at hCursor
      · simpa [ScrubSessions.trimRemovedPreviewState, ScrubSessions.updateState, hState,
          ScrubSessions.remove] using hCursor

end Keep

end FrameScope.Ports.ScrubHandoffLaw
