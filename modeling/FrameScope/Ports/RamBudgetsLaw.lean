import FrameScope.Ports.RamBudgets
import FrameScope.Ports.ScrubHandoffLaw

/-!
# The preview budget is shared out in full

Whatever calls overlap, the sessions that are retained are the two most recently used,
and a state that is no longer retained has no budget.  Between the store of a preview
budget and the registry section of its call the shares may be those of an older value;
wherever no call is in between, they add up to the stored one, because every section
reads the value under the lock and not the one it was called with.
-/

namespace FrameScope.Ports.RamBudgetsLaw

open FrameScope.Ports.Core
open FrameScope.Ports.ScrubHandoff
open FrameScope.Ports.ScrubHandoff.ScrubSessions
open FrameScope.Ports.ScrubHandoffLaw
open FrameScope.Ports.RamBudgets

variable {s t : ScrubSessions} {recent : List Int} {sessionId : Int}

/-! ## The order of use -/

/-- The retained sessions, the latest use first. -/
structure Recent (s : ScrubSessions) (recent : List Int) : Prop where
  ids : recent.Perm (s.registry.sessions.map (·.1))
  ordered : recent.Pairwise fun a b =>
    ∀ later ∈ s.registry.sessions, ∀ earlier ∈ s.registry.sessions, later.1 = a → earlier.1 = b →
      earlier.2.lastAccess < later.2.lastAccess
  clock : ∀ entry ∈ s.registry.sessions, entry.2.lastAccess ≤ s.registry.clock

theorem recent_initial : Recent .initial [] :=
  ⟨List.Perm.nil, List.Pairwise.nil, fun _ h => by cases h⟩

theorem Recent.of_registry (h : Recent s recent) (hSame : t.registry = s.registry) :
    Recent t recent := by
  refine ⟨?_, ?_, ?_⟩
  · rw [hSame]
    exact h.ids
  · rw [hSame]
    exact h.ordered
  · rw [hSame]
    exact h.clock

theorem Recent.nodup (h : Recent s recent) (hRetained : Retained s) : recent.Nodup :=
  h.ids.nodup_iff.2 hRetained.ids

theorem Recent.mem_iff (h : Recent s recent) :
    sessionId ∈ recent ↔ ∃ entry ∈ s.registry.sessions, entry.1 = sessionId := by
  rw [h.ids.mem_iff, List.mem_map]

/-- A session that goes leaves the others in their order. -/
theorem Recent.remove (h : Recent s recent) (hRetained : Retained s) (sessionId : Int)
    (handle : ScrubSessionHandle) :
    Recent ((s.remove sessionId).trimRemovedPreviewState handle) (recent.erase sessionId) := by
  have hErase : recent.erase sessionId = recent.filter fun id => id ≠ sessionId := by
    rw [(h.nodup hRetained).erase_eq_filter sessionId]
    apply List.filter_congr
    intro id _
    by_cases hId : id = sessionId <;> simp [hId]
  refine ⟨?_, ?_, ?_⟩
  · show (recent.erase sessionId).Perm ((s.registry.sessions.filter fun entry =>
      entry.1 ≠ sessionId).map (·.1))
    rw [hErase]
    have hFilter := h.ids.filter fun id => id ≠ sessionId
    rw [List.filter_map] at hFilter
    exact hFilter
  · apply (h.ordered.sublist List.erase_sublist).imp
    intro a b hOrder later hLater earlier hEarlier
    exact hOrder later (List.mem_filter.1 hLater).1 earlier (List.mem_filter.1 hEarlier).1
  · exact fun entry hEntry => h.clock entry (List.mem_filter.1 hEntry).1

/-- A use of a retained session puts it first. -/
theorem Recent.touch (h : Recent s recent) (hRetained : Retained s)
    (hMem : sessionId ∈ recent) (hClock : s.registry.clock + 1 < 2 ^ 64) :
    Recent (s.tick.touch sessionId s.tick.registry.clock)
      (sessionId :: recent.erase sessionId) := by
  have hTick : s.tick.registry.clock = s.registry.clock + 1 := by
    show saturatingAddU64 s.registry.clock 1 = _
    unfold saturatingAddU64
    omega
  -- an entry after the use is the one used or an old one
  have hEntries : ∀ entry ∈ (s.tick.touch sessionId s.tick.registry.clock).registry.sessions,
      (entry.1 = sessionId ∧ entry.2.lastAccess = s.registry.clock + 1) ∨
        (entry.1 ≠ sessionId ∧ entry ∈ s.registry.sessions) := by
    intro entry hEntry
    obtain ⟨old, hOld, rfl⟩ := List.mem_map.1 hEntry
    by_cases hId : old.1 = sessionId
    · left
      rw [if_pos hId]
      exact ⟨hId, hTick⟩
    · right
      rw [if_neg hId]
      exact ⟨hId, hOld⟩
  refine ⟨?_, ?_, ?_⟩
  · rw [map_touch s.tick sessionId s.tick.registry.clock fun id _ => id]
    exact (List.perm_cons_erase hMem).symm.trans h.ids
  · rw [List.pairwise_cons]
    constructor
    · intro b hb later hLater earlier hEarlier hFirst hSecond
      have hOther : b ≠ sessionId := by
        intro hSame
        rw [hSame] at hb
        exact (h.nodup hRetained).not_mem_erase hb
      rcases hEntries later hLater with ⟨-, hNow⟩ | ⟨hNot, -⟩
      · rcases hEntries earlier hEarlier with ⟨hIs, -⟩ | ⟨-, hOld⟩
        · exact absurd (hSecond.symm.trans hIs) hOther
        · have hBefore := h.clock earlier hOld
          omega
      · exact absurd hFirst hNot
    · apply List.Pairwise.imp_of_mem _ (h.ordered.sublist List.erase_sublist)
      intro a b ha hb hOrder later hLater earlier hEarlier hFirst hSecond
      have hOther : ∀ id ∈ recent.erase sessionId, id ≠ sessionId := by
        intro id hId hSame
        rw [hSame] at hId
        exact (h.nodup hRetained).not_mem_erase hId
      rcases hEntries later hLater with ⟨hIs, -⟩ | ⟨-, hLater⟩
      · exact absurd (hFirst.symm.trans hIs) (hOther a ha)
      · rcases hEntries earlier hEarlier with ⟨hIs, -⟩ | ⟨-, hEarlier⟩
        · exact absurd (hSecond.symm.trans hIs) (hOther b hb)
        · exact hOrder later hLater earlier hEarlier hFirst hSecond
  · intro entry hEntry
    show entry.2.lastAccess ≤ s.tick.registry.clock
    rw [hTick]
    rcases hEntries entry hEntry with ⟨-, hNow⟩ | ⟨-, hOld⟩
    · omega
    · have hBefore := h.clock entry hOld
      omega

/-- A new session is the latest. -/
theorem Recent.insert (h : Recent s recent) (hNew : sessionId ∉ recent) {access : Nat}
    (hAccess : s.registry.clock = access) (hLater : ∀ entry ∈ s.registry.sessions,
      entry.2.lastAccess < access) (cacheRoot : String) (sourceCache : Nat) :
    Recent (s.insert sessionId cacheRoot sourceCache access) (sessionId :: recent) := by
  have hEntries : ∀ entry ∈ (s.insert sessionId cacheRoot sourceCache access).registry.sessions,
      entry ∈ s.registry.sessions ∨
        (entry.1 = sessionId ∧ entry.2.lastAccess = access) := by
    intro entry hEntry
    cases List.mem_append.1 hEntry with
    | inl hOld => exact Or.inl hOld
    | inr hIs =>
        right
        rw [List.mem_singleton.1 hIs]
        exact ⟨rfl, rfl⟩
  refine ⟨?_, ?_, ?_⟩
  · show (sessionId :: recent).Perm ((s.registry.sessions ++
      [(sessionId, (⟨s.nextState, access⟩ : ScrubSessionHandle))]).map (·.1))
    rw [List.map_append]
    exact (h.ids.cons sessionId).trans (List.perm_append_singleton _ _).symm
  · rw [List.pairwise_cons]
    constructor
    · intro b hb later hLaterMem earlier hEarlier hFirst hSecond
      rcases hEntries earlier hEarlier with hBefore | ⟨hIs, -⟩
      · rcases hEntries later hLaterMem with hOlder | ⟨-, hNow⟩
        · exact absurd (h.mem_iff.2 ⟨later, hOlder, hFirst⟩) hNew
        · rw [hNow]
          exact hLater earlier hBefore
      · rw [← hSecond, hIs] at hb
        exact absurd hb hNew
    · apply List.Pairwise.imp_of_mem _ h.ordered
      intro a b ha hb hOrder later hLaterMem earlier hEarlier hFirst hSecond
      rcases hEntries later hLaterMem with hA | ⟨hIs, -⟩
      · rcases hEntries earlier hEarlier with hB | ⟨hIs, -⟩
        · exact hOrder later hA earlier hB hFirst hSecond
        · rw [← hSecond, hIs] at hb
          exact absurd hb hNew
      · rw [← hFirst, hIs] at ha
        exact absurd ha hNew
  · intro entry hEntry
    show entry.2.lastAccess ≤ s.registry.clock
    rw [hAccess]
    rcases hEntries entry hEntry with hBefore | ⟨-, hNow⟩
    · exact (hLater entry hBefore).le
    · exact hNow.le

/-- `session_state` uses its session: one that is retained is put first, a new one is
put first and only as many are kept as there is room for. -/
theorem Recent.sessionState (h : Recent s recent) (hRetained : Retained s)
    (hClock : s.registry.clock + 1 < 2 ^ 64) (budget : UInt64) (sessionId : Int)
    (cacheRoot : String) (sourceCache : Nat) :
    Recent (s.sessionState budget sessionId cacheRoot sourceCache).2
        ((sessionId :: recent.erase sessionId).take MAX_RETAINED_PREVIEW_SESSIONS) ∧
      (s.sessionState budget sessionId cacheRoot sourceCache).2.registry.clock =
        s.registry.clock + 1 := by
  have hTick : s.tick.registry.clock = s.registry.clock + 1 := by
    show saturatingAddU64 s.registry.clock 1 = _
    unfold saturatingAddU64
    omega
  have hLength : recent.length = s.registry.sessions.length := by
    rw [h.ids.length_eq, List.length_map]
  have hBounded := hRetained.bounded
  rcases sessionState_cases s budget sessionId cacheRoot sourceCache with
    ⟨handle, hHandle, hTouched, -⟩ | ⟨hNone, hMade⟩
  · have hMem : sessionId ∈ recent := h.mem_iff.2 ⟨_, mem_of_handle? hHandle, rfl⟩
    have hFits : (sessionId :: recent.erase sessionId).length ≤
        MAX_RETAINED_PREVIEW_SESSIONS := by
      rw [(List.perm_cons_erase hMem).symm.length_eq]
      omega
    rw [hTouched, List.take_of_length_le hFits]
    exact ⟨h.touch hRetained hMem hClock, hTick⟩
  · have hNew : sessionId ∉ recent := by
      rw [h.mem_iff]
      rintro ⟨entry, hEntry, hId⟩
      exact handle?_eq_none_iff.1 hNone entry hEntry hId
    rw [hMade, List.erase_of_not_mem hNew]
    have hOnly : OnlyBudgets _ (((makeRoom s.registry.sessions.length s.tick).insert sessionId
      cacheRoot sourceCache s.tick.registry.clock).rebalancePreviewCacheBudgets budget) :=
      rebalance_onlyBudgets
    have hTicked : Recent s.tick recent :=
      ⟨h.ids, h.ordered, fun entry hEntry => (h.clock entry hEntry).trans (by omega)⟩
    have hBefore : ∀ entry ∈ s.registry.sessions, entry.2.lastAccess < s.tick.registry.clock := by
      intro entry hEntry
      have := h.clock entry hEntry
      omega
    -- either there is room, or the last of the two makes room
    obtain ⟨kept, hKept, hSub, hRoom⟩ : ∃ kept,
        (sessionId :: recent).take MAX_RETAINED_PREVIEW_SESSIONS = sessionId :: kept ∧
        kept.Sublist recent ∧ Recent (makeRoom s.registry.sessions.length s.tick) kept := by
      rcases makeRoom_cases hRetained.tick with ⟨hSpace, hSame⟩ | ⟨hFull, entry, hEntry, hLeast, hEvict⟩
      · have hSpace : s.registry.sessions.length < MAX_RETAINED_PREVIEW_SESSIONS := hSpace
        refine ⟨recent, List.take_of_length_le ?_, List.Sublist.refl _, ?_⟩
        · rw [List.length_cons]
          omega
        · rw [show makeRoom s.registry.sessions.length s.tick = s.tick from hSame]
          exact hTicked
      · have hTwo : recent.length = 2 := hLength.trans hFull
        obtain ⟨a, b, rfl⟩ := List.length_eq_two.1 hTwo
        have hNodup := h.nodup hRetained
        have hDifferent : a ≠ b := by
          intro hSame
          simp [hSame] at hNodup
        -- the session that goes was used before the other one
        have hLast : entry.1 = b := by
          have hMem : entry.1 ∈ [a, b] := h.mem_iff.2 ⟨entry, hEntry, rfl⟩
          have hOne : entry.1 = a ∨ entry.1 = b := by simpa using hMem
          cases hOne with
          | inr hIs => exact hIs
          | inl hIs =>
              have hOtherMem : b ∈ [a, b] := by simp
              obtain ⟨other, hOther, hId⟩ := h.mem_iff.1 hOtherMem
              have hOrder := (List.pairwise_cons.1 h.ordered).1 b (by simp) entry hEntry other
                hOther hIs hId
              have hMin := hLeast other hOther
              omega
        refine ⟨[a], rfl, by simp, ?_⟩
        rw [show makeRoom s.registry.sessions.length s.tick = _ from hEvict, hLast]
        have hGone := hTicked.remove hRetained.tick b entry.2
        have hErase : [a, b].erase b = [a] := by
          rw [List.erase_cons_tail (by simpa using hDifferent)]
          simp
        rw [hErase] at hGone
        exact hGone
    rw [hKept]
    have hEntries := (makeRoom_sub hRetained.tick).1
    have hClockRoom : (makeRoom s.registry.sessions.length s.tick).registry.clock =
        s.tick.registry.clock := by
      rcases makeRoom_cases hRetained.tick with ⟨-, hSame⟩ | ⟨-, entry, -, -, hEvict⟩
      · exact congrArg (fun t : ScrubSessions => t.registry.clock) hSame
      · have hGone := congrArg (fun t : ScrubSessions => t.registry.clock) hEvict
        exact hGone
    have hInserted := hRoom.insert (fun hMem => hNew (hSub.subset hMem)) hClockRoom
      (fun entry hEntry => hBefore entry (hEntries entry hEntry)) cacheRoot sourceCache
    refine ⟨hInserted.of_registry hOnly.registry, ?_⟩
    rw [hOnly.registry]
    exact hClockRoom.trans hTick

theorem Recent.forgetSection (h : Recent s recent) (hRetained : Retained s) (budget : UInt64)
    (sessionId : Int) : Recent (s.forgetSection budget sessionId).2 (recent.erase sessionId) := by
  rcases forgetSection_cases s budget sessionId with ⟨hNone, hSame⟩ | ⟨handle, -, hForgot⟩
  · have hNot : sessionId ∉ recent := by
      rw [h.mem_iff]
      rintro ⟨entry, hEntry, hId⟩
      exact handle?_eq_none_iff.1 hNone entry hEntry hId
    rw [hSame, List.erase_of_not_mem hNot]
    exact h
  · have hOnly : OnlyBudgets _ (((s.remove sessionId).trimRemovedPreviewState
      handle).rebalancePreviewCacheBudgets budget) := rebalance_onlyBudgets
    rw [hForgot]
    exact (h.remove hRetained sessionId handle).of_registry hOnly.registry

/-! ## The budgets -/

variable {b : RamBudgets}

/-- `dropCursors` keeps the registry and the budgets. -/
theorem dropCursors_keeps (cacheRoot : String) (s : ScrubSessions) :
    (dropCursors cacheRoot s).registry = s.registry ∧
      (dropCursors cacheRoot s).nextState = s.nextState ∧
      ∀ state, ((dropCursors cacheRoot s).states state).previewBudgetBytes =
        (s.states state).previewBudgetBytes := by
  have hLoop : ∀ (entries : List (Int × ScrubSessionHandle)) (t : ScrubSessions),
      (entries.foldl (fun t entry =>
        if (t.states entry.2.state).cacheRoot = cacheRoot then
          t.updateState entry.2.state fun old => { old with decoderCursor := none }
        else t) t).registry = t.registry ∧
      (entries.foldl (fun t entry =>
        if (t.states entry.2.state).cacheRoot = cacheRoot then
          t.updateState entry.2.state fun old => { old with decoderCursor := none }
        else t) t).nextState = t.nextState ∧
      ∀ state, ((entries.foldl (fun t entry =>
        if (t.states entry.2.state).cacheRoot = cacheRoot then
          t.updateState entry.2.state fun old => { old with decoderCursor := none }
        else t) t).states state).previewBudgetBytes = (t.states state).previewBudgetBytes := by
    intro entries
    induction entries with
    | nil => exact fun t => ⟨rfl, rfl, fun _ => rfl⟩
    | cons entry entries ih =>
        intro t
        rw [List.foldl_cons]
        by_cases hRoot : (t.states entry.2.state).cacheRoot = cacheRoot
        · rw [if_pos hRoot]
          obtain ⟨hRegistry, hNext, hBudgets⟩ := ih (t.updateState entry.2.state fun old =>
            { old with decoderCursor := none })
          refine ⟨hRegistry, hNext, fun state => ?_⟩
          rw [hBudgets state]
          exact budget_updateState rfl state
        · rw [if_neg hRoot]
          exact ih t
  exact hLoop s.registry.sessions s

theorem configureSection_spec (hRetained : Retained s) (cacheRoot : String)
    (sourceCacheBytes budget : UInt64) :
    Retained (configureSection cacheRoot sourceCacheBytes budget s) ∧
      Balanced budget (configureSection cacheRoot sourceCacheBytes budget s) ∧
      (configureSection cacheRoot sourceCacheBytes budget s).registry = s.registry := by
  unfold configureSection
  by_cases hZero : sourceCacheBytes = 0
  · rw [if_pos hZero]
    obtain ⟨hRegistry, hNext, hBudgets⟩ := dropCursors_keeps cacheRoot s
    have hDropped := hRetained.of_budgets hRegistry hNext hBudgets
    exact ⟨hDropped.rebalance, rebalance_balanced hDropped,
      rebalance_onlyBudgets.registry.trans hRegistry⟩
  · rw [if_neg hZero]
    exact ⟨hRetained.rebalance, rebalance_balanced hRetained, rebalance_onlyBudgets.registry⟩

/-- What holds of the budgets between any two steps. -/
structure Inv (b : RamBudgets) (recent : List Int) : Prop where
  retained : Retained b.sessions
  recent : Recent b.sessions recent
  balanced : ¬ Storing b → Balanced b.previewBudgetBytes b.sessions

theorem inv_initial : Inv .initial [] :=
  ⟨retained_initial, recent_initial, fun _ hSome => absurd rfl hSome⟩

theorem Inv.step (h : Inv b recent) (hClock : b.sessions.registry.clock + 1 < 2 ^ 64)
    (step : BudgetStep) :
    Inv (applyStep b step) (recentStep recent step) ∧
      (applyStep b step).sessions.registry.clock ≤ b.sessions.registry.clock + 1 := by
  cases step with
  | storeSource cacheRoot sourceCacheBytes previewCacheBytes =>
      refine ⟨⟨h.retained, h.recent, fun hIdle => h.balanced ?_⟩, Nat.le_succ _⟩
      rintro ⟨call, hCall, hStored⟩
      exact hIdle ⟨call, List.mem_append_left _ hCall, hStored⟩
  | storePreview i =>
      cases hCall : b.calls[i]? with
      | none =>
          simp only [applyStep, hCall, recentStep]
          exact ⟨h, Nat.le_succ _⟩
      | some call =>
          simp only [applyStep, hCall, recentStep]
          by_cases hStored : call.previewStored = true
          · rw [if_pos hStored]
            exact ⟨h, Nat.le_succ _⟩
          · rw [if_neg hStored]
            refine ⟨⟨h.retained, h.recent, fun hIdle => absurd ?_ hIdle⟩, Nat.le_succ _⟩
            -- the call itself is now between its store and its section
            have hBound := (List.getElem?_eq_some_iff.1 hCall).1
            exact ⟨_, List.mem_set hBound _, rfl⟩
  | configure i =>
      cases hCall : b.calls[i]? with
      | none =>
          simp only [applyStep, hCall, recentStep]
          exact ⟨h, Nat.le_succ _⟩
      | some call =>
          simp only [applyStep, hCall, recentStep]
          by_cases hStored : call.previewStored = true
          · rw [if_pos hStored]
            have hSection := configureSection_spec h.retained call.cacheRoot
              call.sourceCacheBytes b.previewBudgetBytes
            refine ⟨⟨hSection.1, h.recent.of_registry hSection.2.2, fun _ => hSection.2.1⟩, ?_⟩
            show (configureSection _ _ _ _).registry.clock ≤ _
            rw [hSection.2.2]
            exact Nat.le_succ _
          · rw [if_neg hStored]
            exact ⟨h, Nat.le_succ _⟩
  | sessionState sessionId cacheRoot sourceCache =>
      have hUsed := h.recent.sessionState h.retained hClock b.previewBudgetBytes sessionId
        cacheRoot sourceCache
      exact ⟨⟨h.retained.sessionState, hUsed.1,
        fun hIdle => (h.balanced hIdle).sessionState h.retained⟩, hUsed.2.le⟩
  | forgetSession sessionId =>
      by_cases hInvalid : sessionId ≤ 0
      · simp only [applyStep, recentStep, if_pos hInvalid]
        exact ⟨h, Nat.le_succ _⟩
      · simp only [applyStep, recentStep, if_neg hInvalid]
        refine ⟨⟨h.retained.forgetSection, h.recent.forgetSection h.retained _ _,
          fun hIdle => (h.balanced hIdle).forgetSection h.retained⟩, ?_⟩
        show (b.sessions.forgetSection _ _).2.registry.clock ≤ _
        rcases forgetSection_cases b.sessions b.previewBudgetBytes sessionId with
          ⟨-, hSame⟩ | ⟨handle, -, hForgot⟩
        · rw [hSame]
          exact Nat.le_succ _
        · rw [hForgot, rebalance_onlyBudgets.registry]
          exact Nat.le_succ _
  | retainCursor state cursor =>
      have hBudgets : ∀ other,
          ((b.sessions.updateState state fun old =>
            { old with decoderCursor := cursor }).states other).previewBudgetBytes =
            (b.sessions.states other).previewBudgetBytes := budget_updateState rfl
      refine ⟨⟨h.retained.of_budgets rfl rfl hBudgets, h.recent.of_registry rfl, ?_⟩,
        Nat.le_succ _⟩
      exact fun hIdle => (h.balanced hIdle).of_budgets rfl hBudgets

theorem inv_run {steps : List BudgetStep} (h : Inv b recent)
    (hClock : b.sessions.registry.clock + steps.length < 2 ^ 64) :
    Inv (steps.foldl applyStep b) (steps.foldl recentStep recent) := by
  induction steps generalizing b recent with
  | nil => exact h
  | cons step steps ih =>
      rw [List.length_cons] at hClock
      obtain ⟨hNext, hNextClock⟩ := h.step (by omega) step
      exact ih hNext (by omega)

/-- In every run of fewer than 2⁶⁴ steps, whatever calls overlap: the retained sessions are
the most recently used ones, in order of use; a state that is not retained has no
budget; and wherever no call is between its store and its section, the budgets of the
retained sessions add up to the stored preview budget. -/
theorem budgets_shared_out (steps : List BudgetStep) (hShort : steps.length < 2 ^ 64) :
    let b := steps.foldl applyStep RamBudgets.initial
    Recent b.sessions (steps.foldl recentStep []) ∧
      b.sessions.registry.sessions.length ≤ MAX_RETAINED_PREVIEW_SESSIONS ∧
      (∀ state, (∀ entry ∈ b.sessions.registry.sessions, entry.2.state ≠ state) →
        (b.sessions.states state).previewBudgetBytes = 0) ∧
      (¬ Storing b → Balanced b.previewBudgetBytes b.sessions) := by
  intro b
  have hRun : Inv b (steps.foldl recentStep []) := by
    apply inv_run inv_initial
    show 0 + steps.length < 2 ^ 64
    omega
  exact ⟨hRun.recent, hRun.retained.bounded, hRun.retained.trimmed, hRun.balanced⟩

/-- Two overlapping calls and three sessions. -/
def overlapping : List BudgetStep :=
  [.sessionState 1 "root" 0, .sessionState 2 "root" 0, .storeSource "root" 8 9,
    .storeSource "root" 4 5, .storePreview 1, .storePreview 0, .configure 1,
    .sessionState 1 "root" 0, .sessionState 3 "root" 0, .configure 0]

theorem budgets_shared_out_overlapping :
    let b := overlapping.foldl applyStep RamBudgets.initial
    overlapping.foldl recentStep [] = [3, 1] ∧ Recent b.sessions [3, 1] ∧
      Balanced b.previewBudgetBytes b.sessions := by
  intro b
  have hRun := budgets_shared_out overlapping (by decide)
  have hRecent : overlapping.foldl recentStep [] = [3, 1] := by decide
  have hIdle : ¬ Storing b := by
    rintro ⟨call, hCall, -⟩
    have hNone : b.calls = [] := rfl
    rw [hNone] at hCall
    cases hCall
  exact ⟨hRecent, hRecent ▸ hRun.1, hRun.2.2.2 hIdle⟩

end FrameScope.Ports.RamBudgetsLaw
