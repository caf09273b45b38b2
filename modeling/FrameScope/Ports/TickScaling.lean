import FrameScope.Ports.ExtractionLaw
import FrameScope.Verified.Truncation

/-!
# Ticks and microseconds

`scale_ticks_to_microseconds` computes in `i128`, divides towards zero and
narrows to `i64`.  On the ticks an `i64` holds neither product overflows, so the
function is the truncated rational scaling wherever that fits an `i64`.

The store writes the microseconds of a frame beside its ticks.  Every row gets
there through `validate`, in the time base of the stream, and a database is
reused for that stream only: whatever is called on an index, and however often
it is reopened, the two columns order its frames alike.
-/

namespace FrameScope.Ports.TickScaling

open FrameScope.Verified.Truncation
open FrameScope.Verified.Runs
open FrameScope.Ports.Core
open FrameScope.Ports.FrameIndexModel
open FrameScope.Ports.SourceBinding
open FrameScope.Ports.FrameIndexStore
open FrameScope.Ports.FrameTimeline
open FrameScope.Ports.FrameIndexState
open FrameScope.Ports.FrameIndexInvariant
open FrameScope.Ports.ExtractionLaw

/-! ## The scaling -/

/-- Every intermediate value of the scaling is the exact one: both products fit
an `i128`, and the division neither divides by zero nor overflows. -/
structure StepsExact (ticks : Int) (tb : TimeBase) : Prop where
  first : checkedMulI128 ticks tb.numerator = some (ticks * tb.numerator)
  second : checkedMulI128 (ticks * tb.numerator) 1000000 = some (ticks * tb.numerator * 1000000)
  divisor : 0 < tb.denominator
  quotient : InI128 ((ticks * tb.numerator * 1000000).tdiv tb.denominator)

/-- The microseconds of a tick count as a rational number. -/
def exactMicroseconds (ticks : Int) (tb : TimeBase) : ℚ :=
  (ticks : ℚ) * tb.numerator * 1000000 / tb.denominator

/-- Ticks times numerator stay below 2^94 either way. -/
private theorem product_bounds {ticks : Int} (h : InI64 ticks) (tb : TimeBase) :
    -2 ^ 94 ≤ ticks * tb.numerator ∧ ticks * tb.numerator ≤ 2 ^ 94 := by
  have hPos := tb.numerator_pos
  have hLt := tb.numerator_lt
  obtain ⟨hLow, hHigh⟩ := h
  constructor
  · have hMul : -2 ^ 63 * tb.numerator ≤ ticks * tb.numerator :=
      Int.mul_le_mul_of_nonneg_right hLow (by omega)
    omega
  · have hMul : ticks * tb.numerator ≤ 2 ^ 63 * tb.numerator :=
      Int.mul_le_mul_of_nonneg_right (by omega) (by omega)
    omega

theorem stepsExact {ticks : Int} (h : InI64 ticks) (tb : TimeBase) : StepsExact ticks tb := by
  obtain ⟨hLow, hHigh⟩ := product_bounds h tb
  have hPos := tb.denominator_pos
  have hFirst : InI128 (ticks * tb.numerator) := ⟨by omega, by omega⟩
  have hSecond : InI128 (ticks * tb.numerator * 1000000) := ⟨by omega, by omega⟩
  refine ⟨if_pos hFirst, if_pos hSecond, hPos, ?_⟩
  -- a quotient is no larger than its dividend
  have hSize := Int.natAbs_tdiv_le_natAbs (ticks * tb.numerator * 1000000) tb.denominator
  generalize ticks * tb.numerator = product at *
  generalize (product * 1000000).tdiv tb.denominator = quotient at *
  constructor
  · omega
  · omega

/-- The machine's division truncates the rational. -/
theorem truncate_exact (ticks : Int) (tb : TimeBase) : truncate (exactMicroseconds ticks tb) =
    (ticks * tb.numerator * 1000000).tdiv tb.denominator := by
  rw [← truncate_div (K := ℚ) tb.denominator_pos]
  push_cast
  rfl

/-- The scaling is the truncated rational one where that fits an `i64`. -/
theorem scaleTicksToMicroseconds_of_i64 {ticks : Int} (h : InI64 ticks) (tb : TimeBase) :
    scaleTicksToMicroseconds ticks tb =
      if InI64 (truncate (exactMicroseconds ticks tb)) then
        some (truncate (exactMicroseconds ticks tb)) else none := by
  have hSteps := stepsExact h tb
  unfold scaleTicksToMicroseconds
  rw [hSteps.first, Option.bind_some, hSteps.second, Option.bind_some, truncate_exact]

theorem exactMicroseconds_mono {ticks ticks' : Int} (h : ticks ≤ ticks') (tb : TimeBase) :
    exactMicroseconds ticks tb ≤ exactMicroseconds ticks' tb := by
  have hNum : (0 : ℚ) ≤ tb.numerator := by exact_mod_cast tb.numerator_pos.le
  have hDen : (0 : ℚ) ≤ tb.denominator := by exact_mod_cast tb.denominator_pos.le
  unfold exactMicroseconds
  gcongr

/-- Whatever is returned is truncated, so the order of the ticks is kept. -/
theorem scaleTicksToMicroseconds_mono {tb : TimeBase} {ticks ticks' us us' : Int}
    (h : ticks ≤ ticks') (hUs : scaleTicksToMicroseconds ticks tb = some us)
    (hUs' : scaleTicksToMicroseconds ticks' tb = some us') : us ≤ us' := by
  rw [scaleTicksToMicroseconds_eq hUs, scaleTicksToMicroseconds_eq hUs', ← truncate_exact,
    ← truncate_exact]
  exact truncate_mono (exactMicroseconds_mono h tb)

/-! ## The two columns -/

/-- The microseconds of a row are those of its ticks, and there when the ticks
are. -/
structure RowScaled (tb : TimeBase) (row : FrameRow) : Prop where
  scaled : row.timestampUs = row.timestampTicks.bind (scaleTicksToMicroseconds · tb)
  present : row.timestampUs.isSome = row.timestampTicks.isSome

/-- A row that is bound for insertion carries the two columns of its entry. -/
theorem columns_of_encodeRow {e : FrameIndexEntry} {row : FrameRow}
    (h : encodeRow e = .ok row) :
    row.timestampTicks = e.presentationTimestamp.map (·.ticks) ∧
      row.timestampUs = e.timestampUs := by
  unfold encodeRow at h
  cases hAnchor : e.anchor with
  | streamStart =>
      rw [hAnchor] at h
      obtain ⟨anchor, -, h⟩ := bind_eq_ok.1 h
      obtain ⟨frameIndex, -, h⟩ := bind_eq_ok.1 h
      cases h
      exact ⟨rfl, rfl⟩
  | keyframe id t =>
      rw [hAnchor] at h
      obtain ⟨anchor, -, h⟩ := bind_eq_ok.1 h
      obtain ⟨frameIndex, -, h⟩ := bind_eq_ok.1 h
      cases h
      exact ⟨rfl, rfl⟩

theorem rowScaled_of_encodeRow {stream : FrameIndexStreamIdentity} {e : FrameIndexEntry}
    {row : FrameRow} (hValid : e.validate stream = .ok ()) (h : encodeRow e = .ok row) :
    RowScaled stream.timeBase row := by
  obtain ⟨hTicks, hUs⟩ := columns_of_encodeRow h
  have hTime := ((validate_iff stream e).1 hValid).timestamp
  unfold FrameIndexEntry.timestampUs at hUs
  cases hIs : e.presentationTimestamp with
  | none =>
      rw [hIs] at hTicks hUs
      constructor
      · rw [hTicks, hUs]
        rfl
      · rw [hTicks, hUs]
        rfl
  | some t =>
      obtain ⟨hBase, hSome⟩ := hTime t hIs
      rw [hIs] at hTicks hUs
      constructor
      · rw [hTicks, hUs, ← hBase]
        rfl
      · rw [hTicks, hUs]
        exact hSome

/-- An insert adds its own row only. -/
theorem mem_of_insertRow {row : FrameRow} {rows rows' : List FrameRow}
    (h : insertRow row rows = .ok rows') {r : FrameRow} (hr : r ∈ rows') :
    r = row ∨ r ∈ rows := by
  unfold insertRow at h
  by_cases hTaken : rows.any (·.frameIndex == row.frameIndex) = true
  · rw [if_pos hTaken] at h
    cases h
  · rw [if_neg hTaken] at h
    cases h
    rcases List.mem_append.1 hr with hBefore | hAfter
    · exact .inr ((List.takeWhile_prefix _).subset hBefore)
    · rcases List.mem_cons.1 hAfter with hSelf | hAfter
      · exact .inl hSelf
      · exact .inr ((List.dropWhile_suffix _).subset hAfter)

/-- The insert loop keeps the columns in step, over entries that validate. -/
theorem rowScaled_of_insertEntries {stream : FrameIndexStreamIdentity}
    {entries : List FrameIndexEntry} (hValid : ∀ e ∈ entries, e.validate stream = .ok ()) :
    ∀ {rows rows' : List FrameRow}, (∀ r ∈ rows, RowScaled stream.timeBase r) →
      insertEntries entries rows = .ok rows' → ∀ r ∈ rows', RowScaled stream.timeBase r := by
  induction entries with
  | nil =>
      intro rows rows' hRows h
      cases h
      exact hRows
  | cons e rest ih =>
      intro rows rows' hRows h
      obtain ⟨row, hRow, h⟩ := bind_eq_ok.1 h
      obtain ⟨grown, hGrown, h⟩ := bind_eq_ok.1 h
      have hHead := rowScaled_of_encodeRow (hValid e (List.mem_cons_self ..)) hRow
      apply ih (fun x hx => hValid x (List.mem_cons_of_mem _ hx)) _ h
      intro r hr
      rcases mem_of_insertRow hGrown hr with hSelf | hOld
      · rw [hSelf]
        exact hHead
      · exact hRows r hOld

/-! ## An index and its file -/

/-- The rows of the open index are scaled in the time base of its stream, which
is the stream that the metadata names. -/
structure TimesScaled (index : FrameIndex) : Prop where
  bound : ∃ columns, index.connection.indexMeta = some columns ∧
    columns.streamIdentity = index.streamIdentity
  rows : ∀ row ∈ index.connection.frameIndex, RowScaled index.streamIdentity.timeBase row

/-- An update of the metadata that does not rebind it keeps the rows that stay. -/
theorem TimesScaled.update {index : FrameIndex} (h : TimesScaled index) {rows : List FrameRow}
    (hRows : ∀ row ∈ rows, RowScaled index.streamIdentity.timeBase row)
    {f : MetaColumns → MetaColumns} (hBound : ∀ m, (f m).streamIdentity = m.streamIdentity) :
    TimesScaled ((index.setRows rows).updateMeta f) where
  bound := by
    obtain ⟨columns, hColumns, hStream⟩ := h.bound
    refine ⟨f columns, ?_, ?_⟩
    · simp [FrameIndex.updateMeta, FrameIndex.setRows, hColumns]
    · rw [hBound, hStream]
      rfl
  rows := hRows

theorem TimesScaled.updateLifecycle {index marked : FrameIndex} (h : TimesScaled index)
    {lifecycle : FrameIndexLifecycle} {count : Option Nat} {error : Option String}
    (hMark : index.updateLifecycle lifecycle count error = .ok marked) : TimesScaled marked := by
  cases count with
  | none =>
      cases hMark
      exact h.update h.rows fun _ => rfl
  | some value =>
      obtain ⟨column, -, hMark⟩ := bind_eq_ok.1 hMark
      cases hMark
      exact h.update h.rows fun _ => rfl

/-- A file with metadata has rows scaled for the stream it names, and a file
without has none. -/
structure FileScaled (db : Database) : Prop where
  unbound : db.indexMeta = none → db.frameIndex = []
  rows : ∀ columns, db.indexMeta = some columns →
    ∀ row ∈ db.frameIndex, RowScaled columns.streamIdentity.timeBase row

theorem FileScaled.blank (version : Int) : FileScaled ⟨version, none, []⟩ where
  unbound := fun _ => rfl
  rows := by
    intro columns hColumns
    cases hColumns

theorem TimesScaled.file {index : FrameIndex} (h : TimesScaled index) :
    FileScaled index.connection := by
  obtain ⟨columns, hColumns, hStream⟩ := h.bound
  constructor
  · intro hNone
    rw [hColumns] at hNone
    cases hNone
  · intro columns' hColumns'
    rw [hColumns] at hColumns'
    cases hColumns'
    rw [hStream]
    exact h.rows

theorem FileScaled.reused {db : Database} (h : FileScaled db) (source : SourceIdentity)
    {stream : FrameIndexStreamIdentity} {columns : MetaColumns}
    (hColumns : db.indexMeta = some columns) (hSame : columns.streamIdentity = stream) :
    TimesScaled ⟨db, source, stream⟩ where
  bound := ⟨columns, hColumns, hSame⟩
  rows := by
    rw [← hSame]
    exact h.rows columns hColumns

theorem FileScaled.migrate {db migrated : Database} (h : FileScaled db)
    (hMigrate : migrate db = .ok migrated) : FileScaled migrated := by
  unfold FrameIndexStore.migrate at hMigrate
  by_cases hCurrent : db.userVersion = frameIndexSchemaVersion
  · rw [if_pos hCurrent] at hMigrate
    cases hMigrate
    exact h
  · rw [if_neg hCurrent] at hMigrate
    by_cases hZero : db.userVersion = 0
    · rw [if_pos hZero] at hMigrate
      cases hMigrate
      exact FileScaled.blank _
    · rw [if_neg hZero] at hMigrate
      cases hMigrate

/-- The metadata that is loaded is there when the stored one is, and names its
stream. -/
theorem streamIdentity_of_loadMeta {index : FrameIndex} {found : Option MetaRow}
    (h : index.loadMeta = .ok found) :
    found.map (·.streamIdentity) = index.connection.indexMeta.map (·.streamIdentity) := by
  unfold FrameIndex.loadMeta at h
  cases hColumns : index.connection.indexMeta with
  | none =>
      rw [hColumns] at h
      cases h
      rfl
  | some columns =>
      rw [hColumns] at h
      obtain ⟨⟨generation, safety, stableKey⟩, -, h⟩ := bind_eq_ok.1 h
      obtain ⟨lifecycle, -, h⟩ := bind_eq_ok.1 h
      obtain ⟨indexedFrames, -, h⟩ := bind_eq_ok.1 h
      cases hCount : columns.frameCount with
      | none =>
          rw [hCount] at h
          obtain ⟨count, -, h⟩ := bind_eq_ok.1 h
          cases h
          rfl
      | some count =>
          rw [hCount] at h
          obtain ⟨count, -, h⟩ := bind_eq_ok.1 h
          cases h
          rfl

/-! ## Runs on one file -/

section Runs

variable [ContentHash]

theorem TimesScaled.appendBatch {index grown : FrameIndex} (h : TimesScaled index)
    {entries : List FrameIndexEntry} (hAppend : index.appendBatch entries = .ok grown) :
    TimesScaled grown := by
  unfold FrameIndex.appendBatch at hAppend
  by_cases hEmpty : entries.isEmpty = true
  · rw [if_pos hEmpty] at hAppend
    cases hAppend
    exact h
  · rw [if_neg hEmpty] at hAppend
    obtain ⟨row, -, hAppend⟩ := bind_eq_ok.1 hAppend
    obtain ⟨_, hCheck, hAppend⟩ := bind_eq_ok.1 hAppend
    obtain ⟨rows, hInsert, hAppend⟩ := bind_eq_ok.1 hAppend
    have hValid := ((checkBatch_iff _ _ _ _).1 hCheck).2.1
    cases hNext : checkedAddU64 row.indexedFrames entries.length with
    | none =>
        rw [hNext] at hAppend
        cases hAppend
    | some next =>
        rw [hNext] at hAppend
        obtain ⟨count, -, hAppend⟩ := bind_eq_ok.1 hAppend
        cases hAppend
        exact h.update (rowScaled_of_insertEntries hValid h.rows hInsert) fun _ => rfl

theorem TimesScaled.truncateFrom {index cut : FrameIndex} (h : TimesScaled index) {n : Nat}
    (hCut : index.truncateFrom n = .ok cut) : TimesScaled cut := by
  obtain ⟨count, -, hCut⟩ := bind_eq_ok.1 hCut
  cases hCut
  have hKept : ∀ row ∈ index.connection.frameIndex.filter fun row =>
      decide (row.frameIndex < count), RowScaled index.streamIdentity.timeBase row := by
    intro row hRow
    exact h.rows row (List.mem_filter.1 hRow).1
  exact h.update hKept fun _ => rfl

/-- A call keeps the columns in step. -/
theorem TimesScaled.apply {index next : FrameIndex} (h : TimesScaled index) {op : StoreOp}
    (hApply : op.apply index = .ok next) : TimesScaled next := by
  cases op with
  | appendBatch entries => exact h.appendBatch hApply
  | truncateFrom n => exact h.truncateFrom hApply
  | clearForRebuild =>
      cases hApply
      have hNone : ∀ row ∈ ([] : List FrameRow), RowScaled index.streamIdentity.timeBase row := by
        intro row hRow
        cases hRow
      exact h.update hNone fun _ => rfl
  | markBuilding =>
      have hMark : index.updateLifecycle .building none none = .ok next := hApply
      exact h.updateLifecycle hMark
  | markIncomplete reason =>
      have hMark : index.updateLifecycle .incomplete none reason = .ok next := hApply
      exact h.updateLifecycle hMark
  | markFailedRecoverable reason =>
      have hMark : index.updateLifecycle .failedRecoverable none (some reason) = .ok next := hApply
      exact h.updateLifecycle hMark
  | markComplete =>
      obtain ⟨status, -, hMark⟩ := bind_eq_ok.1 hApply
      exact h.updateLifecycle hMark

/-! ### Opening -/

/-- What happens to the file of an index: a call on the open index, or an open
for a source and a stream, the same as before or others. -/
inductive IndexEvent where
  | call (op : StoreOp)
  | reopen (source : SourceIdentity) (stream : FrameIndexStreamIdentity)

/-- An open that fails leaves the file alone. -/
def IndexEvent.step (index : FrameIndex) : IndexEvent → FrameIndex
  | .call op => op.step index
  | .reopen source stream =>
      match FrameIndex.openOrCreate (some index.connection) source stream with
      | .ok (opened, _) => opened
      | .error _ => index

/-- An index whose metadata was just written for its stream has no rows. -/
theorem TimesScaled.fresh (db : Database) (source : SourceIdentity)
    (stream : FrameIndexStreamIdentity) (hRows : db.frameIndex = []) :
    TimesScaled (FrameIndex.initializeMeta ⟨db, source, stream⟩) where
  bound := ⟨freshMeta source stream, rfl, rfl⟩
  rows := by
    intro row hRow
    have hMem : row ∈ db.frameIndex := hRow
    rw [hRows] at hMem
    cases hMem

/-- An index opens on rows of its own stream: others are dropped. -/
theorem FileScaled.tryOpen {db : Database} (h : FileScaled db) {source : SourceIdentity}
    {stream : FrameIndexStreamIdentity} {index : FrameIndex}
    {disposition : FrameIndexOpenDisposition}
    (hOpen : FrameIndex.tryOpen db source stream = .ok (index, disposition)) :
    TimesScaled index := by
  obtain ⟨migrated, hMigrate, hOpen⟩ := bind_eq_ok.1 hOpen
  obtain ⟨found, hLoad, hOpen⟩ := bind_eq_ok.1 hOpen
  have hFile := h.migrate hMigrate
  have hStream := streamIdentity_of_loadMeta hLoad
  cases found with
  | none =>
      cases hOpen
      have hUnbound : migrated.indexMeta = none := by
        cases hIs : migrated.indexMeta with
        | none => rfl
        | some columns => simp [hIs] at hStream
      exact TimesScaled.fresh migrated source stream (hFile.unbound hUnbound)
  | some row =>
      obtain ⟨columns, hColumns, hNames⟩ : ∃ columns, migrated.indexMeta = some columns ∧
          columns.streamIdentity = row.streamIdentity := by
        cases hIs : migrated.indexMeta with
        | none => simp [hIs] at hStream
        | some columns => exact ⟨columns, rfl, by simpa [hIs] using hStream.symm⟩
      have hReset : TimesScaled (FrameIndex.resetAndRebind ⟨migrated, source, stream⟩) :=
        TimesScaled.fresh _ source stream rfl
      dsimp only at hOpen
      by_cases hSafe : ¬source.isReuseSafe = true
      · rw [if_pos hSafe] at hOpen
        cases hOpen
        exact hReset
      rw [if_neg hSafe] at hOpen
      by_cases hStale : row.sourceIdentity ≠ source ∨ row.streamIdentity ≠ stream
      · rw [if_pos hStale] at hOpen
        cases hOpen
        exact hReset
      rw [if_neg hStale] at hOpen
      by_cases hGeneration : row.timelineContractGeneration ≠ frameTimelineContractGeneration
      · rw [if_pos hGeneration] at hOpen
        cases hOpen
        exact hReset
      rw [if_neg hGeneration] at hOpen
      by_cases hKey : row.sourceBindingStableKey ≠ ContentHash.stableKey source
      · rw [if_pos hKey] at hOpen
        cases hOpen
      rw [if_neg hKey] at hOpen
      obtain ⟨_, -, hOpen⟩ := map_eq_ok.1 hOpen
      cases hOpen
      have hSame : row.streamIdentity = stream := by
        by_contra hOther
        exact hStale (.inr hOther)
      exact hFile.reused source hColumns (hNames.trans hSame)

theorem FileScaled.openOrCreate {file : Option Database} (h : FileScaled (file.getD .empty))
    {source : SourceIdentity} {stream : FrameIndexStreamIdentity} {index : FrameIndex}
    {disposition : FrameIndexOpenDisposition}
    (hOpen : FrameIndex.openOrCreate file source stream = .ok (index, disposition)) :
    TimesScaled index := by
  unfold FrameIndex.openOrCreate at hOpen
  cases hTry : FrameIndex.tryOpen (file.getD .empty) source stream with
  | ok opened =>
      rw [hTry] at hOpen
      cases hOpen
      exact h.tryOpen hTry
  | error error =>
      simp only [hTry] at hOpen
      cases hAnswer : error.recreationDisposition with
      | none =>
          rw [hAnswer] at hOpen
          cases hOpen
      | some answer =>
          simp only [hAnswer] at hOpen
          obtain ⟨opened, hTry, hOpen⟩ := map_eq_ok.1 hOpen
          cases hOpen
          exact (FileScaled.blank 0).tryOpen hTry

/-! ### Whole runs -/

theorem TimesScaled.step (index : FrameIndex) (event : IndexEvent) (h : TimesScaled index) :
    TimesScaled (event.step index) := by
  cases event with
  | call op =>
      show TimesScaled (op.step index)
      unfold StoreOp.step
      cases hApply : op.apply index with
      | error error => exact h
      | ok next => exact h.apply hApply
  | reopen source stream =>
      show TimesScaled (match FrameIndex.openOrCreate (some index.connection) source stream with
        | .ok (opened, _) => opened
        | .error _ => index)
      cases hOpen : FrameIndex.openOrCreate (some index.connection) source stream with
      | error error => exact h
      | ok opened =>
          have hFile : FileScaled (Option.getD (some index.connection) .empty) := h.file
          exact hFile.openOrCreate hOpen

theorem timesScaled_run {source : SourceIdentity} {stream : FrameIndexStreamIdentity}
    {index : FrameIndex} {disposition : FrameIndexOpenDisposition}
    (hFresh : FrameIndex.openOrCreate none source stream = .ok (index, disposition))
    (events : List IndexEvent) : TimesScaled (events.foldl IndexEvent.step index) := by
  have hBlank : FileScaled (Option.getD none Database.empty) := FileScaled.blank 0
  exact run_invariant_of_step TimesScaled.step (hBlank.openOrCreate hFresh) events

end Runs

/-! ## Order -/

/-- The two time columns of stored rows agree: they are present together, and no
two rows are ordered one way by their ticks and the other by their microseconds. -/
structure TimesAgree (rows : List FrameRow) : Prop where
  together : ∀ a ∈ rows, a.timestampUs.isSome = a.timestampTicks.isSome
  ordered : ∀ a ∈ rows, ∀ b ∈ rows, ∀ x y us us', a.timestampTicks = some x →
    b.timestampTicks = some y → a.timestampUs = some us → b.timestampUs = some us' →
      (x ≤ y → us ≤ us') ∧ (us < us' → x < y)

theorem timesAgree_of_rowScaled {tb : TimeBase} {rows : List FrameRow}
    (h : ∀ row ∈ rows, RowScaled tb row) : TimesAgree rows where
  together := fun a ha => (h a ha).present
  ordered := by
    intro a ha b hb x y us us' hX hY hUs hUs'
    have hA := (h a ha).scaled
    have hB := (h b hb).scaled
    rw [hX, hUs, Option.bind_some] at hA
    rw [hY, hUs', Option.bind_some] at hB
    constructor
    · intro hLe
      exact scaleTicksToMicroseconds_mono hLe hA.symm hB.symm
    · intro hLt
      by_contra hNot
      have hBack := scaleTicksToMicroseconds_mono (Int.not_lt.1 hNot) hB.symm hA.symm
      omega

/-- **Tick scaling.**  In every valid time base the scaling of an `i64` tick
count is computed without intermediate overflow, is monotone, and is the
truncated rational whenever that fits an `i64` and nothing otherwise.  In a
database of the store, after any run of calls and reopenings, the microseconds
of two frames never contradict their ticks. -/
theorem tick_scaling [ContentHash] (tb : TimeBase) :
    (∀ ticks, InI64 ticks → StepsExact ticks tb) ∧
    (∀ ticks ticks', ticks ≤ ticks' → ∀ us us', scaleTicksToMicroseconds ticks tb = some us →
      scaleTicksToMicroseconds ticks' tb = some us' → us ≤ us') ∧
    (∀ ticks, InI64 ticks → scaleTicksToMicroseconds ticks tb =
      if InI64 (truncate (exactMicroseconds ticks tb)) then
        some (truncate (exactMicroseconds ticks tb)) else none) ∧
    (∀ source stream index disposition,
      FrameIndex.openOrCreate none source stream = .ok (index, disposition) →
      ∀ events : List IndexEvent,
        TimesAgree (events.foldl IndexEvent.step index).connection.frameIndex) := by
  refine ⟨fun ticks h => stepsExact h tb, ?_, ?_, ?_⟩
  · intro ticks ticks' hLe us us' hUs hUs'
    exact scaleTicksToMicroseconds_mono hLe hUs hUs'
  · intro ticks h
    exact scaleTicksToMicroseconds_of_i64 h tb
  · intro source stream index disposition hFresh events
    exact timesAgree_of_rowScaled (timesScaled_run hFresh events).rows

section Samples

local instance : ContentHash := constantHash

theorem thirds_numerator_lt : (1 : Int) < 2 ^ 31 := by decide

theorem thirds_denominator_pos : (0 : Int) < 3000000 := by decide

theorem thirds_denominator_lt : (3000000 : Int) < 2 ^ 31 := by decide

/-- A third of a microsecond, in which a tick before zero and one after it are
both truncated to zero. -/
def thirds : TimeBase where
  numerator := 1
  denominator := 3000000
  numerator_pos := Int.one_pos
  denominator_pos := thirds_denominator_pos
  numerator_lt := thirds_numerator_lt
  denominator_lt := thirds_denominator_lt

example : [-4, -3, -1, 1, 3].map (scaleTicksToMicroseconds · thirds) =
    [some (-1), some (-1), some 0, some 0, some 1] := by decide

theorem tick_scaling_thirds :
    StepsExact (-4) thirds ∧ (-1 : Int) ≤ 0 ∧
      (scaleTicksToMicroseconds (-4) thirds =
        if InI64 (truncate (exactMicroseconds (-4) thirds)) then
          some (truncate (exactMicroseconds (-4) thirds)) else none) ∧
      TimesAgree ([IndexEvent.call (.appendBatch [sampleEntry]),
        .reopen sampleSource sampleStream].foldl IndexEvent.step
          (toIndex sampleSource sampleStream IndexState.fresh)).connection.frameIndex := by
  obtain ⟨hSteps, hMono, hValue, hRuns⟩ := tick_scaling thirds
  refine ⟨hSteps (-4) (by decide), ?_, hValue (-4) (by decide), ?_⟩
  · exact hMono (-4) 1 (by decide) (-1) 0 (by decide) (by decide)
  · exact hRuns sampleSource sampleStream _ _ openOrCreate_none _

end Samples

end FrameScope.Ports.TickScaling
