import FrameScope.Ports.IndexProgress
import FrameScope.Ports.IndexingEvents

/-!
# The progress that Android reads

While an operation is in the table, its state is a function of the events it was
given: the sequence number is their count, and the coverage is the least and the
greatest timestamp since the last rebuild.  With events that reuse no more
frames than they count or expect, and a clock that does not run back, the answer
is one that Android accepts.
-/

namespace FrameScope.Ports.IndexProgressLaw

open FrameScope.Ports.Core
open FrameScope.Ports.SourceBinding
open FrameScope.Ports.FrameIndexStore
open FrameScope.Ports.FrameIndexState
open FrameScope.Ports.FrameIndexInvariant
open FrameScope.Ports.Indexing
open FrameScope.Ports.IndexingCall
open FrameScope.Ports.IndexingRuns
open FrameScope.Ports.IndexingEvents
open FrameScope.Ports.IndexProgress

/-! ## What the events say -/

/-- The events of an operation among the calls. -/
def eventsOf (operationId : OperationId) (calls : List TimedCall) : List IndexingProgress :=
  calls.filterMap fun timed =>
    match timed.call with
    | .update other progress => if other = operationId then some progress else none
    | _ => none

/-- The timestamps of the events from the last rebuild on. -/
def timestamps (events : List IndexingProgress) : List Int :=
  events.foldl (fun kept event =>
    (if event.stage = .rebuildingIndex then [] else kept) ++ event.currentTimestampUs.toList) []

theorem timestamps_concat (events : List IndexingProgress) (event : IndexingProgress) :
    timestamps (events ++ [event]) =
      (if event.stage = .rebuildingIndex then [] else timestamps events) ++
        event.currentTimestampUs.toList := by
  simp [timestamps]

theorem min?_concat (values : List Int) (value : Int) :
    (values ++ [value]).min? = some (values.min?.elim value (min · value)) := by
  cases values with
  | nil => rfl
  | cons head rest => simp [List.min?_cons', -List.min?_cons]

theorem max?_concat (values : List Int) (value : Int) :
    (values ++ [value]).max? = some (values.max?.elim value (max · value)) := by
  cases values with
  | nil => rfl
  | cons head rest => simp [List.max?_cons', -List.max?_cons]

theorem le_max?_of_mem {values : List Int} {value : Int} (h : value ∈ values) :
    ∃ largest, values.max? = some largest ∧ value ≤ largest := by
  cases hMax : values.max? with
  | none =>
      rw [List.max?_eq_none_iff] at hMax
      rw [hMax] at h
      cases h
  | some largest => exact ⟨largest, rfl, (List.max?_eq_some_iff.1 hMax).2 value h⟩

/-! ## The invariant -/

/-- What the state of an operation says of its events, at a clock reading. -/
structure Reports (startedAt clock : Nat) (events : List IndexingProgress) (state : ProgressState) :
    Prop where
  origin : state.startedAt = startedAt
  sequence : state.sequence = min events.length (2 ^ 64 - 1)
  first : state.firstTimestampUs = (timestamps events).min?
  largest : state.maxPresentationTimestampUs = (timestamps events).max?
  current : ∀ t, state.currentTimestampUs = some t → t ∈ timestamps events
  stage : ∃ stage : MicroscopeIndexingStage, MicroscopeIndexingStage.fromWireName state.stage = some stage
  reused : state.reusedFrames ≤ max state.indexedFrames state.expectedReuseFrames
  sampled : state.sampleElapsedMs ≤ elapsedMs startedAt clock
  worked : state.lastWorkAdvanceElapsedMs ≤ state.sampleElapsedMs

variable {startedAt clock clock' : Nat} {events : List IndexingProgress} {state : ProgressState}

theorem elapsedMs_mono (startedAt : Nat) (h : clock ≤ clock') :
    elapsedMs startedAt clock ≤ elapsedMs startedAt clock' := by
  have hQuotient : (clock - startedAt) / 1000000 ≤ (clock' - startedAt) / 1000000 :=
    Nat.div_le_div_right (by omega)
  unfold elapsedMs toU64
  omega

theorem reports_new (startedAt : Nat) : Reports startedAt startedAt [] (.new startedAt) where
  origin := rfl
  sequence := rfl
  first := rfl
  largest := rfl
  current := by
    intro t hCurrent
    cases hCurrent
  stage := by
    refine ⟨.probingMedia, ?_⟩
    show MicroscopeIndexingStage.fromWireName "probing_media" = some .probingMedia
    decide
  reused := Nat.zero_le _
  sampled := Nat.zero_le _
  worked := Nat.le_refl _

theorem Reports.later (h : Reports startedAt clock events state) (hLater : clock ≤ clock') :
    Reports startedAt clock' events state :=
  { h with sampled := h.sampled.trans (elapsedMs_mono startedAt hLater) }

/-! ## One event -/

theorem fromWireName_stageName (stage : IndexingProgressStage) :
    ∃ read : MicroscopeIndexingStage, MicroscopeIndexingStage.fromWireName (stageName stage) = some read := by
  cases stage with
  | checkingExistingIndex => exact ⟨.checkingExistingIndex, by decide⟩
  | reusingExistingIndex => exact ⟨.reusingExistingIndex, by decide⟩
  | validatingExistingIndex => exact ⟨.validatingExistingIndex, by decide⟩
  | rebuildingIndex => exact ⟨.rebuildingIndex, by decide⟩
  | indexing => exact ⟨.indexing, by decide⟩
  | finalizing => exact ⟨.finalizing, by decide⟩

/-- The coverage after an event. -/
theorem cover_sample (event : IndexingProgress)
    (hFirst : state.firstTimestampUs = (timestamps events).min?)
    (hLargest : state.maxPresentationTimestampUs = (timestamps events).max?) (sampledAt : Nat) :
    ((state.sample event sampledAt).cover).firstTimestampUs = (timestamps (events ++ [event])).min? ∧
      ((state.sample event sampledAt).cover).maxPresentationTimestampUs =
        (timestamps (events ++ [event])).max? := by
  have hKeptFirst : (state.forgetCoverage event).firstTimestampUs =
      (if event.stage = .rebuildingIndex then [] else timestamps events).min? := by
    unfold ProgressState.forgetCoverage
    split
    · rfl
    · exact hFirst
  have hKeptLargest : (state.forgetCoverage event).maxPresentationTimestampUs =
      (if event.stage = .rebuildingIndex then [] else timestamps events).max? := by
    unfold ProgressState.forgetCoverage
    split
    · rfl
    · exact hLargest
  rw [timestamps_concat]
  cases hCurrent : event.currentTimestampUs with
  | none => simpa [ProgressState.cover, ProgressState.sample, hCurrent] using ⟨hKeptFirst, hKeptLargest⟩
  | some t =>
      rw [Option.toList_some, min?_concat, max?_concat, ← hKeptFirst, ← hKeptLargest]
      simp [ProgressState.cover, ProgressState.sample, hCurrent]

theorem cover_current (event : IndexingProgress) (sampledAt : Nat) :
    ((state.sample event sampledAt).cover).currentTimestampUs = event.currentTimestampUs := by
  unfold ProgressState.cover
  split <;> rfl

/-- Apart from the coverage, an event replaces what was sampled. -/
theorem cover_same (state : ProgressState) :
    state.cover.startedAt = state.startedAt ∧ state.cover.sequence = state.sequence ∧
      state.cover.stage = state.stage ∧ state.cover.indexedFrames = state.indexedFrames ∧
      state.cover.reusedFrames = state.reusedFrames ∧
      state.cover.expectedReuseFrames = state.expectedReuseFrames ∧
      state.cover.sampleElapsedMs = state.sampleElapsedMs ∧
      state.cover.lastWorkAdvanceElapsedMs = state.lastWorkAdvanceElapsedMs := by
  unfold ProgressState.cover
  split <;> exact ⟨rfl, rfl, rfl, rfl, rfl, rfl, rfl, rfl⟩

theorem forgetCoverage_same (state : ProgressState) (event : IndexingProgress) :
    (state.forgetCoverage event).startedAt = state.startedAt ∧
      (state.forgetCoverage event).lastWorkAdvanceElapsedMs = state.lastWorkAdvanceElapsedMs := by
  unfold ProgressState.forgetCoverage
  split <;> exact ⟨rfl, rfl⟩

theorem sample_elapsed (event : IndexingProgress) (sampledAt : Nat) :
    (state.sample event sampledAt).sampleElapsedMs = elapsedMs state.startedAt sampledAt := by
  unfold ProgressState.sample
  dsimp only

theorem sample_sequence (event : IndexingProgress) (sampledAt : Nat) :
    (state.sample event sampledAt).sequence = saturatingAddU64 state.sequence 1 := by
  unfold ProgressState.sample
  dsimp only

theorem sample_worked (event : IndexingProgress) (sampledAt : Nat) :
    (state.sample event sampledAt).lastWorkAdvanceElapsedMs =
      (state.forgetCoverage event).lastWorkAdvanceElapsedMs := by
  unfold ProgressState.sample
  dsimp only

theorem saturatingAddU64_count (n : Nat) :
    saturatingAddU64 (min n (2 ^ 64 - 1)) 1 = min (n + 1) (2 ^ 64 - 1) := by
  unfold saturatingAddU64
  omega

/-- The state before the work of an event is noted. -/
theorem Reports.sample (h : Reports startedAt clock events state) {event : IndexingProgress}
    (hReuses : Reuses event) (hLater : clock ≤ clock') :
    Reports startedAt clock' (events ++ [event]) (state.sample event clock').cover := by
  obtain ⟨hOrigin, hSequence, hStage, hIndexed, hReused, hExpected, hElapsed, hWorked⟩ :=
    cover_same (state.sample event clock')
  obtain ⟨hKeptOrigin, hKeptWorked⟩ := forgetCoverage_same state event
  obtain ⟨hFirst, hLargest⟩ := cover_sample event h.first h.largest clock'
  have hSampled : (state.sample event clock').sampleElapsedMs = elapsedMs startedAt clock' := by
    rw [sample_elapsed, h.origin]
  constructor
  · rw [hOrigin]
    exact hKeptOrigin.trans h.origin
  · rw [hSequence, sample_sequence, h.sequence, List.length_append, List.length_singleton]
    exact saturatingAddU64_count events.length
  · exact hFirst
  · exact hLargest
  · intro t hCurrent
    rw [cover_current] at hCurrent
    rw [timestamps_concat, hCurrent]
    exact List.mem_append_right _ (List.mem_singleton_self t)
  · rw [hStage]
    exact fromWireName_stageName event.stage
  · rw [hReused, hIndexed, hExpected]
    exact hReuses
  · rw [hElapsed, hSampled]
  · rw [hWorked, hElapsed, hSampled, sample_worked, hKeptWorked]
    have hBefore := h.worked.trans h.sampled
    exact hBefore.trans (elapsedMs_mono startedAt hLater)

theorem Reports.update (h : Reports startedAt clock events state) {event : IndexingProgress}
    (hReuses : Reuses event) (hLater : clock ≤ clock') :
    Reports startedAt clock' (events ++ [event]) (state.update event clock') := by
  have hNext := h.sample hReuses hLater
  unfold ProgressState.update
  dsimp only
  split
  · have hElapsed : ((state.sample event clock').cover).sampleElapsedMs =
        elapsedMs state.startedAt clock' :=
      (cover_same (state.sample event clock')).2.2.2.2.2.2.1
    exact { hNext with worked := le_of_eq hElapsed.symm }
  · exact hNext

/-! ## Calls in any order -/

/-- The clock does not run back, from `start` over the calls to `now`. -/
def Clocked : Nat → List TimedCall → Nat → Prop
  | start, [], now => start ≤ now
  | start, timed :: calls, now => start ≤ timed.clock ∧ Clocked timed.clock calls now

/-- A call that neither begins nor drops the operation. -/
def LeavesOpen (operationId : OperationId) (timed : TimedCall) : Prop :=
  timed.call ≠ .begin operationId ∧ timed.call ≠ .drop operationId

variable {states : ProgressStates} {operationId : OperationId}

/-- The calls of other operations do not touch the state of this one. -/
theorem step_reports (h : Reports startedAt clock events state)
    (hState : states.lookup operationId = some state) {timed : TimedCall}
    (hOpen : LeavesOpen operationId timed) (hLater : clock ≤ timed.clock)
    (hReuses : ∀ event ∈ eventsOf operationId [timed], Reuses event) :
    ∃ state', (step states timed).lookup operationId = some state' ∧
      Reports startedAt timed.clock (events ++ eventsOf operationId [timed]) state' := by
  have hKept : Reports startedAt timed.clock events state := h.later hLater
  obtain ⟨at', call⟩ := timed
  cases call with
  | begin other =>
      have hOther : operationId ≠ other := by
        intro hSame
        exact hOpen.1 (by rw [hSame])
      refine ⟨state, ?_, by simpa [eventsOf] using hKept⟩
      show ((begin states other at').getD states).lookup operationId = some state
      unfold begin
      split
      · exact hState
      · split
        · exact hState
        · rw [Option.getD_some, AList.lookup_insert_ne hOther]
          exact hState
  | update other event =>
      show ∃ state', (IndexProgress.update states other event at').lookup operationId = _ ∧ _
      unfold IndexProgress.update
      by_cases hSame : other = operationId
      · subst hSame
        rw [hState]
        refine ⟨state.update event at', AList.lookup_insert _, ?_⟩
        have hEvent : Reuses event := hReuses event (by simp [eventsOf])
        simpa [eventsOf] using h.update hEvent hLater
      · refine ⟨state, ?_, by simpa [eventsOf, hSame] using hKept⟩
        split
        · exact hState
        · rw [AList.lookup_insert_ne (Ne.symm hSame)]
          exact hState
  | responseJson other => exact ⟨state, hState, by simpa [eventsOf] using hKept⟩
  | drop other =>
      have hOther : operationId ≠ other := by
        intro hSame
        exact hOpen.2 (by rw [hSame])
      refine ⟨state, ?_, by simpa [eventsOf] using hKept⟩
      show (drop states other).lookup operationId = some state
      unfold drop
      rw [AList.lookup_erase_ne hOther]
      exact hState

theorem eventsOf_cons (operationId : OperationId) (timed : TimedCall) (calls : List TimedCall) :
    eventsOf operationId (timed :: calls) =
      eventsOf operationId [timed] ++ eventsOf operationId calls := by
  rw [← List.singleton_append]
  exact List.filterMap_append

theorem run_reports {calls : List TimedCall} {now : Nat} (h : Reports startedAt clock events state)
    (hState : states.lookup operationId = some state)
    (hOpen : ∀ timed ∈ calls, LeavesOpen operationId timed) (hClock : Clocked clock calls now)
    (hReuses : ∀ event ∈ eventsOf operationId calls, Reuses event) :
    ∃ state', (calls.foldl step states).lookup operationId = some state' ∧
      Reports startedAt now (events ++ eventsOf operationId calls) state' := by
  induction calls generalizing clock events state states with
  | nil =>
      refine ⟨state, hState, ?_⟩
      rw [show eventsOf operationId [] = [] from rfl, List.append_nil]
      exact h.later hClock
  | cons timed calls ih =>
      obtain ⟨hLater, hRest⟩ := hClock
      rw [eventsOf_cons] at hReuses ⊢
      obtain ⟨next, hNext, hReports⟩ := step_reports h hState (hOpen timed (List.mem_cons_self ..))
        hLater fun event hEvent => hReuses event (List.mem_append_left _ hEvent)
      rw [← List.append_assoc]
      exact ih hReports hNext (fun other hOther => hOpen other (List.mem_cons_of_mem _ hOther)) hRest
        fun event hEvent => hReuses event (List.mem_append_right _ hEvent)

/-! ## What Android accepts -/

theorem getLong_nonneg (value : Nat) : 0 ≤ getLong value := Int.natCast_nonneg _

theorem getLong_mono {a b : Nat} (h : a ≤ b) : getLong a ≤ getLong b := by
  unfold getLong
  omega

theorem getLong_le_max {a b c : Nat} (h : a ≤ max b c) : getLong a ≤ max (getLong b) (getLong c) := by
  unfold getLong
  omega

theorem orderedIfBoth_of {earlier later : Option Int}
    (h : ∀ t, earlier = some t → ∃ largest, later = some largest ∧ t ≤ largest) :
    orderedIfBoth earlier later = true := by
  cases earlier with
  | none => rfl
  | some t =>
      obtain ⟨largest, hLater, hLe⟩ := h t rfl
      rw [hLater]
      exact decide_eq_true hLe

/-- A state that reports its events is read as sane. -/
theorem Reports.isSane (h : Reports startedAt clock events state) (hPositive : 0 < operationId)
    (stage : MicroscopeIndexingStage) :
    (readProgress (state.payload operationId clock) stage).isSane = true := by
  have hSampled : state.sampleElapsedMs ≤ elapsedMs state.startedAt clock := by
    rw [h.origin]
    exact h.sampled
  have hFirst : orderedIfBoth state.firstTimestampUs state.maxPresentationTimestampUs = true := by
    apply orderedIfBoth_of
    intro t hFirst
    rw [h.first] at hFirst
    rw [h.largest]
    exact le_max?_of_mem (List.min?_mem hFirst)
  have hCurrent : orderedIfBoth state.currentTimestampUs state.maxPresentationTimestampUs = true := by
    apply orderedIfBoth_of
    intro t hCurrent
    rw [h.largest]
    exact le_max?_of_mem (h.current t hCurrent)
  have hReused := getLong_le_max h.reused
  have hElapsed := getLong_mono hSampled
  have hWorked := getLong_mono (h.worked.trans hSampled)
  simp only [MicroscopeIndexingProgress.isSane, readProgress, ProgressState.payload, getLong_nonneg,
    hPositive, hReused, hElapsed, hWorked, hFirst, hCurrent, decide_true, Bool.and_true]

theorem begin_eq_some {opened : ProgressStates}
    (h : begin states operationId startedAt = some opened) :
    0 < operationId ∧ opened = states.insert operationId (.new startedAt) := by
  unfold begin at h
  split at h
  · cases h
  · rename_i hPositive
    split at h
    · cases h
    · cases h
      exact ⟨Int.not_le.1 hPositive, rfl⟩

/-- Reads leave the table alone. -/
theorem reads_same {reads : List TimedCall}
    (h : ∀ timed ∈ reads, ∃ other, timed.call = .responseJson other) :
    reads.foldl step states = states := by
  induction reads with
  | nil => rfl
  | cons timed reads ih =>
      obtain ⟨other, hCall⟩ := h timed (List.mem_cons_self ..)
      have hStep : step states timed = states := by
        unfold step
        rw [hCall]
      rw [List.foldl_cons, hStep]
      exact ih fun later hLater => h later (List.mem_cons_of_mem _ hLater)

section Runs

variable [ContentHash]

/-- The events of some calls of `build_or_resume_frame_index`, each on an index. -/
def runEvents (runs : List (IndexingRun × FrameIndex)) : List IndexingProgress :=
  runs.flatMap fun run => (run.1.result run.2).2.progress

theorem runEvents_reuses (runs : List (IndexingRun × FrameIndex)) :
    ∀ event ∈ runEvents runs, Reuses event := by
  intro event hEvent
  obtain ⟨run, -, hEmitted⟩ := List.mem_flatMap.1 hEvent
  exact (buildOrResumeFrameIndex_emits run.1.options run.1.opens run.2).reuses event hEmitted

theorem runEvents_length (runs : List (IndexingRun × FrameIndex)) :
    (runEvents runs).length ≤ runs.length * 2 ^ 61 := by
  induction runs with
  | nil => exact Nat.zero_le _
  | cons run runs ih =>
      have hRun := (buildOrResumeFrameIndex_emits run.1.options run.1.opens run.2).count
      have hCons : runEvents (run :: runs) = (run.1.result run.2).2.progress ++ runEvents runs := rfl
      rw [hCons, List.length_append, List.length_cons, Nat.succ_mul]
      have hHead : (run.1.result run.2).2.progress.length ≤ 2 ^ 61 := hRun
      omega

/-- **The progress that Android reads.**  An operation is begun and neither begun
again nor dropped; its updates are a beginning of the events of some indexing
runs, among any other calls; and the clock does not run back.  Then a read at
any moment gives a payload that Android accepts, with the least and the greatest
timestamp since the last rebuild and the number of the events, and reads change
nothing that a later read returns but the age of the operation. -/
theorem progress_accepted {states opened : ProgressStates} {operationId : OperationId}
    {startedAt now : Nat} {calls : List TimedCall} {runs : List (IndexingRun × FrameIndex)}
    (hBegin : begin states operationId startedAt = some opened)
    (hOpen : ∀ timed ∈ calls, LeavesOpen operationId timed) (hClock : Clocked startedAt calls now)
    (hEvents : eventsOf operationId calls <+: runEvents runs) :
    ∃ payload progress,
      responseJson (calls.foldl step opened) operationId now = some payload ∧
      parseResponse payload operationId = some progress ∧ progress.isSane = true ∧
      payload.firstTimestampUs = (timestamps (eventsOf operationId calls)).min? ∧
      payload.maxPresentationTimestampUs = (timestamps (eventsOf operationId calls)).max? ∧
      payload.sequence = min (eventsOf operationId calls).length (2 ^ 64 - 1) ∧
      (runs.length < 8 → payload.sequence = (eventsOf operationId calls).length) ∧
      ∀ reads later, (∀ timed ∈ reads, ∃ other, timed.call = .responseJson other) →
        responseJson ((calls ++ reads).foldl step opened) operationId later =
          some { payload with
            operationElapsedMs := elapsedMs startedAt later
            elapsedMs := elapsedMs startedAt later } := by
  obtain ⟨hPositive, hOpened⟩ := begin_eq_some hBegin
  have hStarted : opened.lookup operationId = some (.new startedAt) := by
    rw [hOpened, AList.lookup_insert]
  have hReuses : ∀ event ∈ eventsOf operationId calls, Reuses event :=
    fun event hEvent => runEvents_reuses runs event (hEvents.subset hEvent)
  obtain ⟨state, hState, hReports⟩ :=
    run_reports (reports_new startedAt) hStarted hOpen hClock hReuses
  rw [List.nil_append] at hReports
  obtain ⟨stage, hStage⟩ := hReports.stage
  have hSane := hReports.isSane hPositive stage
  have hAnswer : ∀ at', responseJson (calls.foldl step opened) operationId at' =
      some (state.payload operationId at') := by
    intro at'
    unfold responseJson
    rw [hState, Option.map_some]
  refine ⟨state.payload operationId now, readProgress (state.payload operationId now) stage,
    hAnswer now, ?_, hSane, hReports.first, hReports.largest, hReports.sequence, ?_, ?_⟩
  · unfold parseResponse
    rw [if_neg (by simp [ProgressState.payload])]
    have hNamed : MicroscopeIndexingStage.fromWireName (state.payload operationId now).stage =
        some stage := hStage
    rw [hNamed]
    exact if_pos hSane
  · intro hFew
    have hLength := hEvents.length_le.trans (runEvents_length runs)
    have hCount : state.sequence = min (eventsOf operationId calls).length (2 ^ 64 - 1) :=
      hReports.sequence
    show state.sequence = _
    omega
  · intro reads later hReads
    rw [List.foldl_append, reads_same hReads, hAnswer later]
    unfold ProgressState.payload
    rw [hReports.origin]

end Runs

/-! ## A run on a fixed input -/

section Samples

local instance : ContentHash := constantHash

/-- A build that resumes the index a cancelled one left. -/
def resumedRuns : List (IndexingRun × FrameIndex) :=
  [(completedRun, toIndex sampleSource sampleStream cancelledState)]

/-- Its first three events, with a read in between. -/
def resumedCalls : List TimedCall :=
  [⟨2000000, .update 5 ⟨.checkingExistingIndex, 1, 0, 1, some 0⟩⟩, ⟨3000000, .responseJson 5⟩,
    ⟨4000000, .update 5 ⟨.validatingExistingIndex, 1, 0, 1, none⟩⟩,
    ⟨7000000, .update 5 ⟨.validatingExistingIndex, 1, 1, 1, some 0⟩⟩]

theorem progress_accepted_resumed :
    ∃ payload progress,
      responseJson (resumedCalls.foldl step ((∅ : ProgressStates).insert 5 (.new 1000000))) 5 9000000 =
        some payload ∧
      parseResponse payload 5 = some progress ∧ payload.sequence = 3 := by
  have hBegin : begin ∅ 5 1000000 = some ((∅ : ProgressStates).insert 5 (.new 1000000)) := by rfl
  have hOpen : ∀ timed ∈ resumedCalls, LeavesOpen 5 timed := by
    simp [resumedCalls, LeavesOpen]
  have hEvents : eventsOf 5 resumedCalls <+: runEvents resumedRuns :=
    ⟨[⟨.indexing, 2, 1, 1, some 1000⟩, ⟨.finalizing, 2, 1, 1, some 1000⟩], rfl⟩
  have hClock : Clocked 1000000 resumedCalls 9000000 := by
    simp [resumedCalls, Clocked]
  obtain ⟨payload, progress, hAnswer, hParsed, -, -, -, -, hCounted, -⟩ :=
    progress_accepted hBegin hOpen hClock hEvents
  exact ⟨payload, progress, hAnswer, hParsed, hCounted (by decide)⟩

end Samples

end FrameScope.Ports.IndexProgressLaw
