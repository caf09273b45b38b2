import FrameScope.Verified.KeyedTable
import FrameScope.Ports.OperationTokens

/-!
# Cancellations that no purge takes away are kept

A call loses an entry of a table only if the entry's token is cancelled, and
only in a purge or at the end of its own operation (`Keeps`).  So a running
operation that holds an uncancelled token is still found under its id, and a
cancellation reaches it; and a pending cancellation is still found under its id
unless a purge took it (`Recorded`).
-/

namespace FrameScope.Ports.OperationTokensLaw

open FrameScope.Verified.KeyedTable
open FrameScope.Verified.Runs
open FrameScope.Ports.OperationTokens

/-! ## Tables -/

section Tables

variable {table next : TokenTable} {id other : Int} {token : Nat}

/-- The tokens of the table have been made. -/
def Made (table : TokenTable) : Prop := ∀ e ∈ table.entries, e.2 < table.tokens.next

theorem Made.of_get? (h : Made table) (hGet : table.get? id = some token) :
    token < table.tokens.next := by
  obtain ⟨e, hFind, rfl⟩ := Option.map_eq_some_iff.1 hGet
  exact h e (List.mem_of_find?_eq_some hFind)

/-- What a call may do to the table apart from taking one operation's entry
out: tokens stay cancelled, and entries with an uncancelled token stay. -/
structure Keeps (table next : TokenTable) : Prop where
  made : Made table → Made next
  next_le : table.tokens.next ≤ next.tokens.next
  cancelled : ∀ token < table.tokens.next, table.tokens.isCancelled token = true →
    next.tokens.isCancelled token = true
  found : ∀ id token, table.get? id = some token → token < table.tokens.next →
    next.tokens.isCancelled token = false → next.get? id = some token

theorem Keeps.refl : Keeps table table :=
  ⟨fun h => h, le_rfl, fun _ _ h => h, fun _ _ h _ _ => h⟩

theorem Keeps.trans {last : TokenTable} (h : Keeps table next) (hNext : Keeps next last) :
    Keeps table last := by
  have hLe := h.next_le
  constructor
  · exact fun hMade => hNext.made (h.made hMade)
  · exact hLe.trans hNext.next_le
  · intro token hToken hCancelled
    exact hNext.cancelled token (by omega) (h.cancelled token hToken hCancelled)
  · intro id token hGet hToken hLive
    have hBefore : next.tokens.isCancelled token = false := by
      by_contra hCancelled
      have := hNext.cancelled token (by omega) (by simpa using hCancelled)
      simp [this] at hLive
    exact hNext.found id token (h.found id token hGet hToken hBefore) (by omega) hLive

theorem keeps_retainUncancelled : Keeps table table.retainUncancelled := by
  constructor
  · exact fun hMade e he => hMade e (List.mem_of_mem_filter he)
  · exact le_rfl
  · exact fun _ _ h => h
  · intro id token hGet _ hLive
    obtain ⟨e, hFind, rfl⟩ := Option.map_eq_some_iff.1 hGet
    have hKept : (!table.tokens.isCancelled e.2) = true := by
      rw [show table.tokens.isCancelled e.2 = false from hLive]
      rfl
    exact Option.map_eq_some_iff.2 ⟨e, find?_filter_of_pos hFind hKept, rfl⟩

/-- `entry` finds what is there, and otherwise adds a token that nobody has. -/
theorem keeps_entry : Keeps table (table.entry id).2 := by
  unfold TokenTable.entry
  cases hGet : table.get? id with
  | some token => exact Keeps.refl
  | none =>
      constructor
      · intro hMade e he
        show e.2 < table.tokens.next + 1
        rcases List.mem_append.1 he with hOld | hNew
        · have := hMade e hOld
          omega
        · rw [List.mem_singleton] at hNew
          simp [hNew]
      · exact Nat.le_succ _
      · intro token hToken hCancelled
        show table.tokens.new.isCancelled token = true
        rwa [CancellationTokens.isCancelled_new hToken]
      · intro other token hOther _ _
        obtain ⟨e, hFind, rfl⟩ := Option.map_eq_some_iff.1 hOther
        refine Option.map_eq_some_iff.2 ⟨e, ?_, rfl⟩
        show (table.entries ++ _).find? _ = some e
        rw [List.find?_append, hFind, Option.some_or]

/-- Afterwards the id leads to the token that was handed out. -/
theorem get?_entry : (table.entry id).2.get? id = some (table.entry id).1 := by
  unfold TokenTable.entry
  cases hGet : table.get? id with
  | some token => exact hGet
  | none =>
      show ((table.entries ++ [_]).find? _).map _ = _
      rw [List.find?_append, Option.map_eq_none_iff.1 hGet]
      simp

theorem keeps_cancel (token : Nat) :
    Keeps table { table with tokens := table.tokens.cancel token } := by
  constructor
  · exact fun hMade => hMade
  · exact le_rfl
  · exact fun _ _ h => CancellationTokens.isCancelled_cancel h
  · exact fun _ _ h _ _ => h

theorem keeps_cancelEntry : Keeps table (table.cancelEntry id) :=
  keeps_entry.trans (keeps_cancel _)

/-- A cancellation leaves a cancelled token under its id. -/
theorem get?_cancelEntry (table : TokenTable) (id : Int) :
    ∃ token, (table.cancelEntry id).get? id = some token ∧
    (table.cancelEntry id).tokens.isCancelled token = true :=
  ⟨(table.entry id).1, get?_entry, CancellationTokens.isCancelled_cancel_self⟩

theorem get?_remove (h : other ≠ id) : (table.remove id).get? other = table.get? other := by
  unfold TokenTable.get? TokenTable.remove
  show ((table.entries.filter _).find? _).map _ = _
  rw [List.find?_filter]
  congr 2
  funext e
  by_cases hKey : e.1 = other
  · simp [hKey, h]
  · simp [hKey]

end Tables

/-! ## What the calls do -/

section Calls

variable {registry : OperationRegistry} {table : TokenTable} {id : Int}

/-- The table once the call has made room. -/
def purged (registry : OperationRegistry) (table : TokenTable) (event : OperationEvent) :
    TokenTable :=
  if Purges table registry event then table.retainUncancelled else table

theorem keeps_purged (event : OperationEvent) : Keeps table (purged registry table event) := by
  unfold purged
  by_cases h : Purges table registry event
  · rw [if_pos h]
    exact keeps_retainUncancelled
  · rw [if_neg h]
    exact Keeps.refl

theorem purgeUnlessKnown_eq (hId : 0 < id) :
    purgeUnlessKnown table id = purged .similarity table (.start id) ∧
      purgeUnlessKnown table id = purged .similarity table (.cancel id) := by
  unfold purgeUnlessKnown purged Purges
  by_cases h : MAX_SIMILARITY_OPERATIONS ≤ table.len ∧ table.containsKey id = false
  · simp [h, hId]
  · simp [h, hId]

/-- A start purges, and then is refused or takes the entry of its id. -/
theorem token_cases (registry : OperationRegistry) (table : TokenTable) (id : Int) :
    (∃ failure, registry.token table id = (.error failure, purged registry table (.start id))) ∨
      registry.token table id = (.ok ((purged registry table (.start id)).entry id).1,
        ((purged registry table (.start id)).entry id).2) := by
  cases registry with
  | inspection =>
      show (∃ _, operationToken table id = _) ∨ operationToken table id = _
      unfold operationToken
      by_cases hId : id ≤ 0
      · left
        rw [if_pos hId]
        exact ⟨_, rfl⟩
      · right
        rw [if_neg hId]
        rfl
  | similarity =>
      show (∃ _, similarityOperationToken table id = _) ∨ similarityOperationToken table id = _
      unfold similarityOperationToken
      by_cases hId : id ≤ 0
      · left
        rw [if_pos hId]
        have hNo : ¬ Purges table .similarity (.start id) := fun h => by
          have := h.1
          omega
        exact ⟨_, by rw [purged, if_neg hNo]⟩
      · rw [if_neg hId, ← (purgeUnlessKnown_eq (by omega)).1]
        by_cases hFull : (MAX_SIMILARITY_OPERATIONS ≤ (purgeUnlessKnown table id).len &&
            !(purgeUnlessKnown table id).containsKey id) = true
        · left
          exact ⟨_, if_pos hFull⟩
        · right
          exact if_neg hFull

/-- A cancellation purges, and then cancels the token under its id, unless the
id is not positive or the table is still full of other ids. -/
theorem cancel_cases (registry : OperationRegistry) (table : TokenTable) (id : Int) :
    (registry.cancel table id = (false, purged registry table (.cancel id)) ∧
        (Purges table registry (.cancel id) →
          registry.limit ≤ (purged registry table (.cancel id)).len)) ∨
      registry.cancel table id =
        (true, (purged registry table (.cancel id)).cancelEntry id) := by
  cases registry with
  | inspection =>
      show (cancelOperation table id = _ ∧ _) ∨ cancelOperation table id = _
      unfold cancelOperation
      by_cases hId : id ≤ 0
      · left
        have hNo : ¬ Purges table .inspection (.cancel id) := fun h => by
          have := h.1
          omega
        exact ⟨by rw [if_pos hId, purged, if_neg hNo], fun h => absurd h hNo⟩
      · have hPurged : (if MAX_PENDING_CANCELLATIONS ≤ table.len then table.retainUncancelled
            else table) = purged .inspection table (.cancel id) := by
          unfold purged Purges
          simp [show 0 < id by omega]
        rw [if_neg hId, hPurged]
        by_cases hFull : (MAX_PENDING_CANCELLATIONS ≤
            (purged .inspection table (.cancel id)).len &&
            !(purged .inspection table (.cancel id)).containsKey id) = true
        · left
          refine ⟨if_pos hFull, fun _ => ?_⟩
          rw [Bool.and_eq_true, decide_eq_true_eq] at hFull
          exact hFull.1
        · right
          exact if_neg hFull
  | similarity =>
      show (cancelSimilarityOperation table id = _ ∧ _) ∨ cancelSimilarityOperation table id = _
      unfold cancelSimilarityOperation
      by_cases hId : id ≤ 0
      · left
        have hNo : ¬ Purges table .similarity (.cancel id) := fun h => by
          have := h.1
          omega
        exact ⟨by rw [if_pos hId, purged, if_neg hNo], fun h => absurd h hNo⟩
      · rw [if_neg hId, ← (purgeUnlessKnown_eq (by omega)).2]
        by_cases hFull : (MAX_SIMILARITY_OPERATIONS ≤ (purgeUnlessKnown table id).len &&
            !(purgeUnlessKnown table id).containsKey id) = true
        · left
          refine ⟨if_pos hFull, fun _ => ?_⟩
          rw [Bool.and_eq_true, decide_eq_true_eq] at hFull
          exact hFull.1
        · right
          exact if_neg hFull

end Calls

/-! ## Runs -/

/-- A running operation that can still be cancelled is found under its id, and
a pending cancellation has left its token there. -/
structure Recorded (s : OperationState) : Prop where
  made : Made s.table
  holds_made : ∀ id token, s.running id = some token → token < s.table.tokens.next
  has_started : ∀ id token, s.running id = some token → id ∈ s.started
  reachable : ∀ id token, s.running id = some token →
    s.table.tokens.isCancelled token = true ∨
      s.table.get? id = some token ∧ id ∉ s.accepted
  waiting : ∀ id ∈ s.pending, ∃ token, s.table.get? id = some token ∧
    s.table.tokens.isCancelled token = true

section Recorded

variable {registry : OperationRegistry} {s : OperationState} {id : Int} {table : TokenTable}

theorem mem_pending : id ∈ s.pending ↔ id ∈ s.accepted ∧ id ∉ s.started := by
  simp [OperationState.pending]

theorem recorded_initial : Recorded .initial where
  made := fun _ h => by cases h
  holds_made := fun _ _ h => by cases h
  has_started := fun _ _ h => by cases h
  reachable := fun _ _ h => by cases h
  waiting := fun _ h => by cases h

theorem Recorded.cancellationsKept (h : Recorded s) : CancellationsKept s := by
  intro id hAccepted token hRunning
  rcases h.reachable id token hRunning with hCancelled | ⟨-, hNot⟩
  · exact hCancelled
  · exact absurd hAccepted hNot

/-- The table changes, and pending cancellations are still there. -/
theorem Recorded.setTable (h : Recorded s) (hKeeps : Keeps s.table table)
    (hWaiting : ∀ id ∈ s.pending, ∃ token, table.get? id = some token ∧
      table.tokens.isCancelled token = true) :
    Recorded { s with table := table } := by
  have hLe := hKeeps.next_le
  constructor
  · exact hKeeps.made h.made
  · intro id token hRunning
    have := h.holds_made id token hRunning
    show token < table.tokens.next
    omega
  · exact h.has_started
  · intro id token hRunning
    have hToken := h.holds_made id token hRunning
    show table.tokens.isCancelled token = true ∨ table.get? id = some token ∧ id ∉ s.accepted
    rcases h.reachable id token hRunning with hCancelled | ⟨hGet, hNot⟩
    · exact Or.inl (hKeeps.cancelled token hToken hCancelled)
    · by_cases hNow : table.tokens.isCancelled token = true
      · exact Or.inl hNow
      · exact Or.inr ⟨hKeeps.found id token hGet hToken (by simpa using hNow), hNot⟩
  · exact hWaiting

/-- Without a purge a pending cancellation stays where it is. -/
theorem Recorded.waiting_entry (h : Recorded s) (id : Int) {other : Int}
    (hOther : other ∈ s.pending) :
    ∃ token, (s.table.entry id).2.get? other = some token ∧
      (s.table.entry id).2.tokens.isCancelled token = true := by
  obtain ⟨token, hGet, hCancelled⟩ := h.waiting other hOther
  have hToken := h.made.of_get? hGet
  refine ⟨token, ?_, keeps_entry.cancelled token hToken hCancelled⟩
  obtain ⟨e, hFind, rfl⟩ := Option.map_eq_some_iff.1 hGet
  refine Option.map_eq_some_iff.2 ⟨e, ?_, rfl⟩
  unfold TokenTable.entry
  cases s.table.get? id with
  | some token => exact hFind
  | none =>
      show (s.table.entries ++ _).find? _ = some e
      rw [List.find?_append, hFind, Option.some_or]

/-- A purge that meets no pending cancellation. -/
theorem Recorded.purge (h : Recorded s) (event : OperationEvent)
    (hSpares : Purges s.table registry event → s.pending = []) :
    Recorded { s with table := purged registry s.table event } := by
  apply h.setTable (keeps_purged event)
  intro other hOther
  have hNo : ¬ Purges s.table registry event := by
    intro hPurges
    rw [hSpares hPurges] at hOther
    cases hOther
  rw [purged, if_neg hNo]
  exact h.waiting other hOther

/-- Who holds a token once the operation `id` holds `held`. -/
theorem held_update {running : Int → Option Nat} {held : Option Nat} {other : Int} {token : Nat}
    (h : Function.update running id held other = some token) :
    other = id ∧ held = some token ∨ other ≠ id ∧ running other = some token := by
  by_cases hOther : other = id
  · subst hOther
    rw [Function.update_self] at h
    exact Or.inl ⟨rfl, h⟩
  · rw [Function.update_of_ne hOther] at h
    exact Or.inr ⟨hOther, h⟩

/-- An operation takes the entry of its id, cancelled if it was pending. -/
theorem Recorded.admit (h : Recorded s) (hNew : id ∉ s.started) :
    Recorded { s with
      table := (s.table.entry id).2
      running := Function.update s.running id (some (s.table.entry id).1)
      started := id :: s.started } := by
  have hBase := h.setTable keeps_entry fun _ => h.waiting_entry id
  constructor
  · exact hBase.made
  · intro other token hRunning
    rcases held_update hRunning with ⟨rfl, hHeld⟩ | ⟨-, hBefore⟩
    · cases hHeld
      exact hBase.made.of_get? get?_entry
    · exact hBase.holds_made other token hBefore
  · intro other token hRunning
    show other ∈ id :: s.started
    rcases held_update hRunning with ⟨rfl, -⟩ | ⟨-, hBefore⟩
    · exact List.mem_cons_self ..
    · exact List.mem_cons_of_mem _ (h.has_started other token hBefore)
  · intro other token hRunning
    rcases held_update hRunning with ⟨rfl, hHeld⟩ | ⟨-, hBefore⟩
    · cases hHeld
      by_cases hAccepted : other ∈ s.accepted
      · left
        obtain ⟨token, hGet, hCancelled⟩ :=
          h.waiting_entry other (mem_pending.2 ⟨hAccepted, hNew⟩)
        rw [get?_entry, Option.some.injEq] at hGet
        show (s.table.entry other).2.tokens.isCancelled _ = true
        rwa [hGet]
      · exact Or.inr ⟨get?_entry, hAccepted⟩
    · exact hBase.reachable other token hBefore
  · intro other hOther
    have hBefore := mem_pending.1 hOther
    apply h.waiting_entry
    exact mem_pending.2 ⟨hBefore.1, fun hStarted => hBefore.2 (List.mem_cons_of_mem _ hStarted)⟩

theorem Recorded.start (h : Recorded s) (hSpares : SparesPending registry s (.start id)) :
    Recorded (s.start registry id) := by
  unfold OperationState.start
  by_cases hStarted : id ∈ s.started
  · rwa [if_pos hStarted]
  · rw [if_neg hStarted]
    have hPurged := h.purge (.start id) (hSpares hStarted)
    rcases token_cases registry s.table id with ⟨failure, hToken⟩ | hToken
    · rw [hToken]
      exact hPurged
    · rw [hToken]
      exact hPurged.admit hStarted

/-- An operation takes its own entry out, and it is not pending. -/
theorem Recorded.finish (h : Recorded s) : Recorded (s.finish id) := by
  unfold OperationState.finish
  cases hRunning : s.running id with
  | none => exact h
  | some token =>
      have hStarted := h.has_started id token hRunning
      have hElse : ∀ other token, Function.update s.running id none other = some token →
          other ≠ id ∧ s.running other = some token := by
        intro other token hOther
        rcases held_update hOther with ⟨-, hHeld⟩ | hBefore
        · cases hHeld
        · exact hBefore
      constructor
      · exact fun e he => h.made e (List.mem_of_mem_filter he)
      · intro other token hOther
        exact h.holds_made other token (hElse other token hOther).2
      · intro other token hOther
        exact h.has_started other token (hElse other token hOther).2
      · intro other token hOther
        obtain ⟨hNe, hBefore⟩ := hElse other token hOther
        show s.table.tokens.isCancelled token = true ∨
          (s.table.remove id).get? other = some token ∧ other ∉ s.accepted
        rw [get?_remove hNe]
        exact h.reachable other token hBefore
      · intro other hOther
        have hNe : other ≠ id := by
          rintro rfl
          exact (mem_pending.1 hOther).2 hStarted
        show ∃ token, (s.table.remove id).get? other = some token ∧ _
        rw [get?_remove hNe]
        exact h.waiting other hOther

/-- A cancellation that is accepted reaches the operation if it runs, and waits
for it if it does not. -/
theorem Recorded.acceptCancellation (h : Recorded s)
    (hSpares : SparesPending registry s (.cancel id)) :
    Recorded { s with
      table := (purged registry s.table (.cancel id)).cancelEntry id
      accepted := id :: s.accepted } := by
  have hKeeps : Keeps s.table ((purged registry s.table (.cancel id)).cancelEntry id) :=
    (keeps_purged _).trans keeps_cancelEntry
  have hLe := hKeeps.next_le
  constructor
  · exact hKeeps.made h.made
  · intro other token hRunning
    exact (h.holds_made other token hRunning).trans_le hLe
  · exact h.has_started
  · intro other token hRunning
    show ((purged registry s.table (.cancel id)).cancelEntry id).tokens.isCancelled token = true ∨
      ((purged registry s.table (.cancel id)).cancelEntry id).get? other = some token ∧
        other ∉ id :: s.accepted
    have hToken := h.holds_made other token hRunning
    rcases h.reachable other token hRunning with hCancelled | ⟨hGet, hNot⟩
    · exact Or.inl (hKeeps.cancelled token hToken hCancelled)
    · by_cases hNow :
          ((purged registry s.table (.cancel id)).cancelEntry id).tokens.isCancelled token = true
      · exact Or.inl hNow
      · have hFound := hKeeps.found other token hGet hToken (by simpa using hNow)
        by_cases hOther : other = id
        · subst hOther
          obtain ⟨found, hCancelled, hIs⟩ :=
            get?_cancelEntry (purged registry s.table (.cancel other)) other
          rw [hFound, Option.some.injEq] at hCancelled
          rw [hCancelled] at hNow
          exact absurd hIs hNow
        · exact Or.inr ⟨hFound, by simp [hOther, hNot]⟩
  · intro other hOther
    obtain ⟨hAccepted, hNot⟩ := mem_pending.1 hOther
    by_cases hSame : other = id
    · rw [hSame]
      exact get?_cancelEntry _ id
    · have hPending : other ∈ s.pending := by
        rw [mem_pending]
        exact ⟨by simpa [hSame] using hAccepted, hNot⟩
      have hNo : ¬ Purges s.table registry (.cancel id) :=
        fun hPurges => hSame (hSpares hPurges other hPending).1
      show ∃ token, ((purged registry s.table (.cancel id)).cancelEntry id).get? other = _ ∧ _
      rw [purged, if_neg hNo]
      obtain ⟨token, hGet, hCancelled⟩ := h.waiting_entry id hPending
      exact ⟨token, hGet, CancellationTokens.isCancelled_cancel hCancelled⟩

theorem Recorded.cancel (h : Recorded s) (hSpares : SparesPending registry s (.cancel id)) :
    Recorded (s.cancel registry id) := by
  unfold OperationState.cancel
  rcases cancel_cases registry s.table id with ⟨hCancel, hFull⟩ | hCancel
  · rw [hCancel]
    apply h.purge (.cancel id)
    intro hPurges
    have hRoom := hFull hPurges
    rw [purged, if_pos hPurges] at hRoom
    rw [List.eq_nil_iff_forall_not_mem]
    intro other hOther
    have := (hSpares hPurges other hOther).2
    omega
  · rw [hCancel]
    exact h.acceptCancellation hSpares

theorem Recorded.apply (event : OperationEvent) (h : Recorded s)
    (hSpares : SparesPending registry s event) : Recorded (applyEvent registry s event) := by
  cases event with
  | start id => exact h.start hSpares
  | finish id => exact h.finish
  | cancel id => exact h.cancel hSpares

end Recorded

/-- As long as no purge takes a pending cancellation away, every operation
whose cancellation was accepted runs with a cancelled token. -/
theorem cancellations_kept (registry : OperationRegistry) (events : List OperationEvent)
    (h : Meets (applyEvent registry) (SparesPending registry) .initial events) :
    CancellationsKept (events.foldl (applyEvent registry) .initial) :=
  (run_invariant (fun _ event => Recorded.apply event) recorded_initial h).cancellationsKept

/-- Operation 1 is cancelled before it starts, operation 2 while it runs. -/
def earlyAndLate : List OperationEvent :=
  [.cancel 1, .start 2, .start 1, .cancel 2, .finish 2]

theorem cancellations_kept_earlyAndLate :
    CancellationsKept (earlyAndLate.foldl (applyEvent .similarity) .initial) := by
  apply cancellations_kept
  refine ⟨?_, ?_, ?_, ?_, trivial, trivial⟩ <;> unfold SparesPending <;> decide

end FrameScope.Ports.OperationTokensLaw
