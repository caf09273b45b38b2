import FrameScope.Verified.KeyedTable
import FrameScope.Verified.Tiling
import FrameScope.Ports.SimilarityStore

/-!
# What the similarity store hands out

Both directions of the store meet at `Partitions`.  Whatever a database holds,
the groups of a visit for a frame count that is answered with `Reused` tile the
frames, because `validate_rows` follows the rows one by one (`checkRows_tiles`).
And what a writer was given comes back unchanged: a row is decoded to the group
it was written from (`decodeGroup_storedGroup`), and the flushed batches add up
to one table whatever their sizes.

A writer looks at one group at a time.  Whether the groups follow each other is
only judged by a visit for a frame count.
-/

namespace FrameScope.Ports.SimilarityStoreLaw

open FrameScope.Verified.KeyedTable
open FrameScope.Verified.Tiling
open FrameScope.Ports.Core
open FrameScope.Ports.SourceBinding
open FrameScope.Ports.GroupNavigation (FrameGroup Partitions)
open FrameScope.Ports.SimilarityStore

/-! ## Valid groups -/

section ValidGroups

variable {g : FrameGroup} {d : Option MediaDuration}

theorem invalidDuration_eq_false :
    invalidDuration d = false ↔ ∀ x, d = some x → 0 < x.ticks := by
  cases d with
  | none => simp [invalidDuration]
  | some x => simp [invalidDuration]

/-- What `invalid_group` refuses, besides spans that do not fit the counter. -/
theorem invalidGroup_eq_false :
    invalidGroup g = false ↔ g.Valid ∧ g.lastFrame - g.firstFrame + 1 < 2 ^ 64 := by
  unfold invalidGroup
  simp only [Bool.or_eq_false_iff, decide_eq_false_iff_not, invalidDuration_eq_false, not_not]
  constructor
  · rintro ⟨⟨⟨⟨⟨⟨⟨hOrder, hZero⟩, hCount⟩, hFirst⟩, hLast⟩, hFloor⟩, hStart⟩, hEnd⟩
    rw [if_pos (by omega), checkedAddU64_eq_some] at hCount
    refine ⟨⟨by omega, by omega, hCount.2, ?_, hStart, hEnd⟩, hCount.1⟩
    unfold GroupNavigation.similarityScale
    unfold Similarity.similarityScale at hFloor
    omega
  · rintro ⟨hValid, hFits⟩
    have hFirst := hValid.first_le
    have hLast := hValid.le_last
    have hCount := hValid.count
    have hFloor := hValid.floor
    unfold GroupNavigation.similarityScale at hFloor
    refine ⟨⟨⟨⟨⟨⟨⟨by omega, by omega⟩, ?_⟩, by omega⟩, by omega⟩, ?_⟩, hValid.startDuration⟩,
      hValid.endDuration⟩
    · rw [if_pos (by omega), checkedAddU64_eq_some]
      exact ⟨hFits, hCount⟩
    · unfold Similarity.similarityScale
      omega

end ValidGroups

/-! ## Reading -/

section Reading

variable {rows : List StoredGroup} {previous last : Option Nat} {observed count start stop : Nat}
  {groups : List FrameGroup}

/-- Where the loop of `validate_rows` stands: before the first row, or after a
group that ended just before `start`. -/
def AtStart (previous : Option Nat) (observed start : Nat) : Prop :=
  (previous = none ∧ observed = 0 ∧ start = 0) ∨
    ∃ p, previous = some p ∧ 0 < observed ∧ start = p + 1

/-- The rows decode to the groups. -/
def Decodes (rows : List StoredGroup) (groups : List FrameGroup) : Prop :=
  List.Forall₂ (fun row group => decodeGroup row = .ok group) rows groups

theorem Decodes.unique {groups' : List FrameGroup} (h : Decodes rows groups)
    (h' : Decodes rows groups') : groups = groups' := by
  induction h generalizing groups' with
  | nil =>
      cases h'
      rfl
  | cons hRow _ ih =>
      cases h' with
      | cons hRow' hRest =>
          rw [hRow, Except.ok.injEq] at hRow'
          rw [hRow', ih hRest]

theorem visitRows_of_decodes (h : Decodes rows groups) : visitRows rows = (groups, none) := by
  induction h with
  | nil => rfl
  | cons hRow _ ih =>
      rw [visitRows, hRow]
      dsimp only
      rw [ih]

/-- One round of the loop, when it goes on. -/
theorem checkRows_cons {framed : Bool} {row : StoredGroup}
    (h : checkRows framed (row :: rows) previous observed = .ok (some (last, count))) :
    ∃ group, decodeGroup row = .ok group ∧ invalidGroup group = false ∧
      (framed = true → observed = 0 → group.firstFrame = 0) ∧
      (framed = true → ∀ p, previous = some p → checkedAddU64 p 1 = some group.firstFrame) ∧
      checkRows framed rows (some group.lastFrame) (saturatingAddU64 observed 1) =
        .ok (some (last, count)) := by
  rw [checkRows] at h
  obtain ⟨group, hGroup, h⟩ := bind_eq_ok.1 h
  rw [mapError_eq_ok] at hGroup
  split_ifs at h with hInvalid hFirst hNext
  · cases h
  · cases h
  · cases h
  · refine ⟨group, hGroup, by simpa using hInvalid, ?_, ?_, h⟩
    · intro hFramed hObserved
      by_contra hNe
      exact hFirst ⟨hFramed, hObserved, hNe⟩
    · intro hFramed p hPrevious
      by_contra hNe
      exact hNext ⟨hFramed, by rw [hPrevious, Option.any_some, decide_eq_true_eq]; exact hNe⟩

/-- Rows that the loop accepts decode to valid groups that tile the frames it
has passed. -/
theorem checkRows_tiles (h : checkRows true rows previous observed = .ok (some (last, count)))
    (hStart : AtStart previous observed start) :
    ∃ groups stop, Decodes rows groups ∧ (∀ g ∈ groups, g.Valid) ∧
      TilesFrom (·.firstFrame) (·.lastFrame) start stop groups ∧ AtStart last count stop := by
  induction rows generalizing previous observed start with
  | nil =>
      rw [checkRows] at h
      cases h
      exact ⟨[], start, List.Forall₂.nil, by simp, rfl, hStart⟩
  | cons row rows ih =>
      obtain ⟨group, hGroup, hValid, hFirst, hNext, hRest⟩ := checkRows_cons h
      have hValid' := (invalidGroup_eq_false.1 hValid).1
      have hBegins : group.firstFrame = start := by
        rcases hStart with ⟨-, hObserved, rfl⟩ | ⟨p, hPrevious, -, rfl⟩
        · exact hFirst rfl hObserved
        · exact (checkedAddU64_eq_some.1 (hNext rfl p hPrevious)).2
      have hStart' : AtStart (some group.lastFrame) (saturatingAddU64 observed 1)
          (group.lastFrame + 1) := by
        refine Or.inr ⟨group.lastFrame, rfl, ?_, rfl⟩
        unfold saturatingAddU64
        omega
      obtain ⟨groups, stop, hDecodes, hAll, hTiles, hStop⟩ := ih hRest hStart'
      refine ⟨group :: groups, stop, List.Forall₂.cons hGroup hDecodes, ?_, ?_, hStop⟩
      · intro g hg
        rcases List.mem_cons.1 hg with rfl | hMore
        · exact hValid'
        · exact hAll g hMore
      · have hLe := hValid'.first_le
        have hLast := hValid'.le_last
        refine ⟨hBegins, ?_, hTiles⟩
        show start ≤ group.lastFrame
        omega

theorem fromSqlU64_eq_ok {value : Int} {label : String} {n : Nat}
    (h : fromSqlU64 value label = .ok n) : value = n := by
  unfold fromSqlU64 at h
  split_ifs at h
  cases h
  omega

theorem toSqlU64_eq_ok {value : Nat} {label : String} {v : Int} :
    toSqlU64 value label = .ok v ↔ value < 2 ^ 63 ∧ v = value := by
  unfold toSqlU64
  split_ifs with hFits
  · rw [Except.ok.injEq, eq_comm, and_iff_right hFits]
  · exact iff_of_false (by simp) fun h => hFits h.1

/-- A table with as many rows as its smallest and largest key say. -/
theorem consecutive_of_bounds {table : GroupTable}
    (h : 0 < table.rows.length → (table.rows.map (·.ordinal)).min? = some 0 ∧
      (table.rows.map (·.ordinal)).max? = some ((table.rows.length - 1 : Nat) : Int)) :
    Consecutive (·.ordinal) 0 table.rows := by
  apply consecutive_of_ascending table.ascending
  · intro row hRow
    have hMin := (List.min?_eq_some_iff.1 (h (List.length_pos_of_mem hRow)).1).2
    exact hMin _ (List.mem_map_of_mem hRow)
  · intro row hRow
    have hMax := (List.max?_eq_some_iff.1 (h (List.length_pos_of_mem hRow)).2).2
    have hLe := hMax _ (List.mem_map_of_mem hRow)
    have hPos := List.length_pos_of_mem hRow
    push_cast at hLe ⊢
    omega

theorem ordinalsFill_ok {table : GroupTable}
    (h : ordinalsFill (table.rows.map (·.ordinal)) table.rows.length = .ok true) :
    Consecutive (·.ordinal) 0 table.rows := by
  apply consecutive_of_bounds
  intro hPos
  unfold ordinalsFill at h
  rw [if_neg (by omega)] at h
  by_cases hMin : (table.rows.map (·.ordinal)).min? = some 0
  · rw [if_neg (not_not.2 hMin), bind_eq_ok] at h
    obtain ⟨maximum, hMaximum, h⟩ := h
    rw [Except.ok.injEq, decide_eq_true_eq] at h
    rw [toSqlU64_eq_ok] at hMaximum
    exact ⟨hMin, by rw [h, hMaximum.2]⟩
  · rw [if_pos hMin] at h
    cases h

/-- What `validate_rows` found when it accepts. -/
theorem validateRows_ok {table : GroupTable} {frames : Option Nat}
    (h : validateRows table count frames = .ok true) :
    table.rows.length = count ∧ Consecutive (·.ordinal) 0 table.rows ∧
      ∃ seen, checkRows frames.isSome table.rows none 0 = .ok (some seen) ∧
        coversFrames count frames seen = true := by
  unfold validateRows at h
  obtain ⟨n, hn, h⟩ := bind_eq_ok.1 h
  have hLength := fromSqlU64_eq_ok hn
  by_cases hCount : n ≠ count
  · rw [if_pos hCount] at h
    cases h
  rw [if_neg hCount, bind_eq_ok] at h
  obtain ⟨filled, hFilled, h⟩ := h
  rw [not_not] at hCount
  have hRows : table.rows.length = count := by omega
  cases filled with
  | false => cases h
  | true =>
      obtain ⟨seen, hLoop, h⟩ := bind_eq_ok.1 h
      rw [Except.ok.injEq] at h
      rw [← hRows] at hFilled
      cases seen with
      | none => cases h
      | some seen => exact ⟨hRows, ordinalsFill_ok hFilled, seen, hLoop, h⟩

/-- What `validate_rows` accepts for a frame count. -/
theorem validateRows_partitions {table : GroupTable} {frameCount : Nat}
    (h : validateRows table count (some frameCount) = .ok true) :
    table.rows.length = count ∧ Consecutive (·.ordinal) 0 table.rows ∧
      ∃ groups, Decodes table.rows groups ∧ Partitions frameCount groups := by
  obtain ⟨hRows, hKeys, ⟨last, observed⟩, hLoop, hEnd⟩ := validateRows_ok h
  refine ⟨hRows, hKeys, ?_⟩
  obtain ⟨groups, stop, hDecodes, hValid, hTiles, hStop⟩ :=
    checkRows_tiles hLoop (show AtStart none 0 0 from Or.inl ⟨rfl, rfl, rfl⟩)
  refine ⟨groups, hDecodes, hValid, ?_⟩
  have hStopEq : stop = frameCount := by
    cases frameCount with
    | zero =>
        -- No rows: nothing was passed.
        have hNone := (of_decide_eq_true hEnd).1
        rw [hNone, List.length_eq_zero_iff] at hRows
        rw [hRows] at hDecodes
        cases hDecodes
        exact hTiles.symm
    | succ frame =>
        have hLast := (of_decide_eq_true hEnd).2.2
        rcases hStop with ⟨hNone, -, -⟩ | ⟨p, hSome, -, rfl⟩
        · rw [hNone] at hLast
          cases hLast
        · rw [hSome] at hLast
          cases hLast
          rfl
  rw [← hStopEq]
  exact hTiles

end Reading

/-! ## Visits -/

/-- The groups of a visit are those of the table, stored under the ordinals
from zero on, and partition the frames. -/
structure Reuses (content : Database) (frameCount : Nat) (visited : List FrameGroup) : Prop where
  table : ∃ table, content.similarityGroups = some table ∧
    Consecutive (·.ordinal) 0 table.rows ∧ Decodes table.rows visited
  partitions : Partitions frameCount visited

/-- A visit is answered with `Reused` and its groups, or hands out nothing. -/
def VisitLaw (file : StoreFile) (frameCount : Nat) (visit : Visit) : Prop :=
  (∃ content, file = .database content ∧
    visit.outcome = .ok (.reused visit.visited.length) ∧
    Reuses content frameCount visit.visited) ∨
  (visit.visited = [] ∧ ∀ count, visit.outcome ≠ .ok (.reused count))

section Visits

variable {content : Database} {frameCount count : Nat} {file : StoreFile}

theorem visitLaw_fail (error : SimilarityStoreError) :
    VisitLaw file frameCount (.fail error) :=
  Or.inr ⟨rfl, fun _ h => by cases h⟩

theorem visitLaw_purge {load : SimilarityStoreLoad} (h : ∀ count, load ≠ .reused count) :
    VisitLaw file frameCount (.purge load) :=
  Or.inr ⟨rfl, fun count hOk => h count (Except.ok.inj hOk)⟩

theorem visitTable_law :
    VisitLaw (.database content) frameCount (visitTable content count (some frameCount)) := by
  unfold visitTable
  by_cases hCheck : content.quickCheck ≠ "ok"
  · rw [if_pos hCheck]
    exact visitLaw_purge (by simp)
  rw [if_neg hCheck]
  cases hTable : content.similarityGroups with
  | none => exact visitLaw_fail _
  | some table =>
      dsimp only
      cases hValidate : validateRows table count (some frameCount) with
      | error error => exact visitLaw_fail _
      | ok accepted => cases accepted with
        | false => exact visitLaw_purge (by simp)
        | true =>
            obtain ⟨hRows, hKeys, groups, hDecodes, hPartitions⟩ :=
              validateRows_partitions hValidate
            simp only [visitRows_of_decodes hDecodes]
            have hLength : count = groups.length := by rw [← hRows, hDecodes.length_eq]
            exact Or.inl ⟨content, rfl, by rw [hLength], ⟨table, hTable, hKeys, hDecodes⟩,
              hPartitions⟩

theorem visit_database [KeyJson] (content : Database) (key : SimilarityStoreKey)
    (frames : Option Nat) :
    visitGroupsWithFrameCount (.database content) key frames =
      visitDatabase content key frames := by
  unfold visitGroupsWithFrameCount
  rw [if_neg (by simp), if_neg (by simp [StoreFile.hasSqliteHeader])]
  rfl

/-- A visit refuses the metadata, fails on it, or goes on to the rows. -/
theorem visitDatabase_cases [KeyJson] (content : Database) (key : SimilarityStoreKey)
    (frames : Option Nat) :
    (∃ load, visitDatabase content key frames = .purge load ∧ ∀ count, load ≠ .reused count) ∨
    (∃ error, visitDatabase content key frames = .fail error) ∨
    (∃ count, visitDatabase content key frames = visitTable content count frames) := by
  unfold visitDatabase
  split_ifs
  · exact Or.inl ⟨_, rfl, by simp⟩
  cases content.similarityMeta with
  | none => exact Or.inr (Or.inl ⟨_, rfl⟩)
  | some row => cases row with
    | none => exact Or.inl ⟨_, rfl, by simp⟩
    | some row =>
        dsimp only
        cases readMeta row with
        | error error => exact Or.inr (Or.inl ⟨_, rfl⟩)
        | ok columns =>
            dsimp only
            split_ifs
            · exact Or.inl ⟨_, rfl, by simp⟩
            cases KeyJson.parse columns.2.1 with
            | none => exact Or.inl ⟨_, rfl, by simp⟩
            | some persistedKey =>
                dsimp only
                split_ifs
                · exact Or.inl ⟨_, rfl, by simp⟩
                cases fromSqlU64 columns.2.2 "stored group count" with
                | error error => exact Or.inr (Or.inl ⟨_, rfl⟩)
                | ok count => exact Or.inr (Or.inr ⟨count, rfl⟩)

end Visits

/-- The rows of `groups`, keyed from `n` on. -/
def storedRows : Nat → List FrameGroup → List StoredGroup
  | _, [] => []
  | n, g :: rest => storedGroup n g :: storedRows (n + 1) rest

section Rows

variable {n : Nat} {g : FrameGroup} {groups more : List FrameGroup}

theorem storedRows_consecutive (n : Nat) (groups : List FrameGroup) :
    Consecutive (·.ordinal) n (storedRows n groups) := by
  induction groups generalizing n with
  | nil => trivial
  | cons g rest ih => exact ⟨rfl, ih (n + 1)⟩

@[simp] theorem length_storedRows (n : Nat) (groups : List FrameGroup) :
    (storedRows n groups).length = groups.length := by
  induction groups generalizing n with
  | nil => rfl
  | cons g rest ih => rw [storedRows, List.length_cons, ih, List.length_cons]

theorem storedRows_concat (n : Nat) (groups : List FrameGroup) (g : FrameGroup) :
    storedRows n (groups ++ [g]) =
      storedRows n groups ++ [storedGroup ((n + groups.length : Nat) : Int) g] := by
  induction groups generalizing n with
  | nil => rfl
  | cons x rest ih =>
      rw [List.cons_append, storedRows, storedRows, ih, List.cons_append, List.length_cons,
        show n + 1 + rest.length = n + (rest.length + 1) by omega]

theorem getI32_integer {v : Int} (column : Nat) (hLow : 0 < v) (hHigh : v < 2 ^ 31) :
    (SqlValue.integer v).getI32 column = .ok v :=
  bind_eq_ok.2 ⟨v, rfl, bind_eq_ok.2 ⟨(), ensure_eq_ok.2 ⟨by omega, hHigh⟩, rfl⟩⟩

theorem decodeTimeBase_self (tb : TimeBase) (column : Nat) :
    decodeTimeBase tb.numerator tb.denominator column = .ok tb :=
  okOr_eq_ok.2 (TimeBase.new_self tb)

theorem readTimeBase_of (tb : TimeBase) (column : Nat) :
    readTimeBase (.integer tb.numerator) (.integer tb.denominator) column = .ok tb := by
  refine bind_eq_ok.2 ⟨_, getI32_integer column tb.numerator_pos tb.numerator_lt, ?_⟩
  refine bind_eq_ok.2 ⟨_, getI32_integer _ tb.denominator_pos tb.denominator_lt, ?_⟩
  exact decodeTimeBase_self tb column

theorem readDuration_of {d : Option MediaDuration} (h : ∀ x, d = some x → 0 < x.ticks)
    (column : Nat) :
    readDuration (.ofOption (d.map (·.ticks))) (.ofOption (d.map (·.timeBase.numerator)))
      (.ofOption (d.map (·.timeBase.denominator))) column = .ok d := by
  cases d with
  | none => rfl
  | some d =>
      have hNumerator : (SqlValue.ofOption (some d.timeBase.numerator)).getOptional
          SqlValue.getI32 (column + 1) = .ok (some d.timeBase.numerator) := by
        show ((SqlValue.integer _).getI32 _).map some = _
        rw [getI32_integer _ d.timeBase.numerator_pos d.timeBase.numerator_lt]
        rfl
      have hDenominator : (SqlValue.ofOption (some d.timeBase.denominator)).getOptional
          SqlValue.getI32 (column + 2) = .ok (some d.timeBase.denominator) := by
        show ((SqlValue.integer _).getI32 _).map some = _
        rw [getI32_integer _ d.timeBase.denominator_pos d.timeBase.denominator_lt]
        rfl
      refine bind_eq_ok.2 ⟨some d.ticks, rfl, bind_eq_ok.2 ⟨_, hNumerator, ?_⟩⟩
      refine bind_eq_ok.2 ⟨_, hDenominator, ?_⟩
      show (if 0 < d.ticks then _ else _) = _
      rw [if_pos (h d rfl)]
      exact bind_eq_ok.2 ⟨d.timeBase, decodeTimeBase_self _ _, rfl⟩

theorem readU64_natCast (value column : Nat) : readU64 (.integer value) column = .ok value := by
  refine bind_eq_ok.2 ⟨(value : Int), rfl, ?_⟩
  unfold sqlI64ToU64
  rw [if_pos (Int.natCast_nonneg value), Int.toNat_natCast]

/-- A row is decoded to the group it was written from. -/
theorem decodeGroup_storedGroup (ordinal : Int) (h : g.Valid) :
    decodeGroup (storedGroup ordinal g) = .ok g := by
  have hFloor := h.floor
  unfold GroupNavigation.similarityScale at hFloor
  refine bind_eq_ok.2 ⟨_, readTimeBase_of g.startTimestamp.timeBase 5, ?_⟩
  refine bind_eq_ok.2 ⟨_, readTimeBase_of g.endTimestamp.timeBase 8, ?_⟩
  refine bind_eq_ok.2 ⟨_, readDuration_of h.startDuration 10, ?_⟩
  refine bind_eq_ok.2 ⟨_, readDuration_of h.endDuration 13, ?_⟩
  refine bind_eq_ok.2 ⟨(g.representativeSimilarityFloor : Int), rfl, ?_⟩
  refine bind_eq_ok.2 ⟨(), ensure_eq_ok.2 ⟨by omega, by omega⟩, ?_⟩
  refine bind_eq_ok.2 ⟨_, readU64_natCast g.representativeFrame 0, ?_⟩
  refine bind_eq_ok.2 ⟨_, readU64_natCast g.firstFrame 1, ?_⟩
  refine bind_eq_ok.2 ⟨_, readU64_natCast g.lastFrame 2, ?_⟩
  refine bind_eq_ok.2 ⟨_, readU64_natCast g.frameCount 3, ?_⟩
  refine bind_eq_ok.2 ⟨_, rfl, bind_eq_ok.2 ⟨_, rfl, ?_⟩⟩
  rw [Int.toNat_natCast]

theorem storedRows_decodes (n : Nat) (h : ∀ g ∈ groups, g.Valid) :
    Decodes (storedRows n groups) groups := by
  induction groups generalizing n with
  | nil => exact List.Forall₂.nil
  | cons g rest ih =>
      exact List.Forall₂.cons (decodeGroup_storedGroup n (h g (List.mem_cons_self ..)))
        (ih (n + 1) fun x hx => h x (List.mem_cons_of_mem _ hx))

end Rows

/-- `append` takes the group. -/
def Storable (group : FrameGroup) : Prop := validateGroup group = .ok ()

/-- The database of a result that is being built or complete. -/
def resultDatabase [KeyJson] (key : SimilarityStoreKey) (state : Int) (count : Nat)
    (table : GroupTable) : Database where
  userVersion := similarityStoreSchemaVersion
  similarityMeta := some (some
    ⟨.integer state, .text (KeyJson.toText key.persisted), .integer count⟩)
  similarityGroups := some table
  quickCheck := "ok"

/-- The writer has taken `written`: the flushed groups are in its table, the
others are pending. -/
structure Writes [KeyJson] (key : SimilarityStoreKey) (writer : SimilarityStoreWriter)
    (written : List FrameGroup) : Prop where
  flushed : ∃ done table, written = done ++ writer.pending ∧
    table.rows = storedRows 0 done ∧ writer.nextOrdinal = done.length ∧
    writer.database = resultDatabase key stateBuilding done.length table
  storable : ∀ g ∈ written, Storable g

section Writing

variable [KeyJson] {key : SimilarityStoreKey} {writer : SimilarityStoreWriter} {g : FrameGroup}
  {written done pending groups : List FrameGroup} {table : GroupTable}

omit [KeyJson] in
theorem ensureSqlRange_eq_ok {u : Unit} : ensureSqlRange g = .ok u ↔
    g.representativeFrame < 2 ^ 63 ∧ g.firstFrame < 2 ^ 63 ∧ g.lastFrame < 2 ^ 63 ∧
      g.frameCount < 2 ^ 63 := by
  simp only [ensureSqlRange, bind_eq_ok, toSqlU64_eq_ok]
  simp

omit [KeyJson] in
theorem storable_iff : Storable g ↔ invalidGroup g = false ∧ ensureSqlRange g = .ok () := by
  unfold Storable validateGroup
  simp only [bind_eq_ok, ensure_eq_ok]
  simp

omit [KeyJson] in
theorem Storable.valid (h : Storable g) : g.Valid :=
  (invalidGroup_eq_false.1 (storable_iff.1 h).1).1

omit [KeyJson] in
/-- The next ordinal goes to the end of the table. -/
theorem insert_next (h : table.rows = storedRows 0 done) (g : FrameGroup) :
    ∃ table', table.insert (storedGroup done.length g) = .ok table' ∧
      table'.rows = storedRows 0 (done ++ [g]) := by
  have hKeys : Consecutive (·.ordinal) 0 table.rows := by
    rw [h]
    exact storedRows_consecutive 0 done
  have hLength : table.rows.length = done.length := by rw [h, length_storedRows]
  have hBelow : ∀ r ∈ table.rows, r.ordinal < (done.length : Int) := by
    intro r hr
    have hKey := (hKeys.key_mem hr).2
    omega
  refine ⟨table.insertRow (storedGroup done.length g), ?_, ?_⟩
  · unfold GroupTable.insert
    rw [if_neg]
    rw [List.any_eq_true]
    rintro ⟨r, hr, hSame⟩
    have hLt := hBelow r hr
    rw [of_decide_eq_true hSame] at hLt
    exact lt_irrefl _ hLt
  · show table.rows.filter (·.ordinal < (done.length : Int)) ++
      storedGroup done.length g :: table.rows.filter ((done.length : Int) < ·.ordinal) = _
    rw [List.filter_eq_self.2 fun r hr => decide_eq_true (hBelow r hr),
      List.filter_eq_nil_iff.2 fun r hr => by simpa using le_of_lt (hBelow r hr),
      storedRows_concat, Nat.zero_add, h]

omit [KeyJson] in
/-- The loop of a flush, after the groups that are already in the table. -/
theorem insertPending_of (h : table.rows = storedRows 0 done)
    (hStorable : ∀ g ∈ pending, Storable g) (hFits : done.length + pending.length < 2 ^ 63) :
    ∃ table', insertPending pending done.length table = .ok ((done ++ pending).length, table') ∧
      table'.rows = storedRows 0 (done ++ pending) := by
  induction pending generalizing done table with
  | nil =>
      rw [List.append_nil]
      exact ⟨table, rfl, h⟩
  | cons g rest ih =>
      rw [List.length_cons] at hFits
      obtain ⟨table', hInsert, hRows⟩ := insert_next h g
      have hRange := (storable_iff.1 (hStorable g (List.mem_cons_self ..))).2
      have hNext : checkedAddU64 done.length 1 = some (done ++ [g]).length := by
        rw [checkedAddU64_eq_some, List.length_append]
        exact ⟨by omega, rfl⟩
      obtain ⟨table'', hLoop, hAll⟩ := ih hRows
        (fun x hx => hStorable x (List.mem_cons_of_mem _ hx))
        (by rw [List.length_append, List.length_singleton]; omega)
      rw [List.append_assoc, List.singleton_append] at hLoop hAll
      refine ⟨table'', ?_, hAll⟩
      refine bind_eq_ok.2 ⟨_, toSqlU64_eq_ok.2 ⟨by omega, rfl⟩, ?_⟩
      refine bind_eq_ok.2 ⟨(), hRange, bind_eq_ok.2 ⟨table', hInsert, ?_⟩⟩
      exact bind_eq_ok.2 ⟨_, okOr_eq_ok.2 hNext, hLoop⟩

/-- Flushing keeps what was taken and leaves nothing pending. -/
theorem Writes.flushBatch (h : Writes key writer written) (hFits : written.length < 2 ^ 63) :
    ∃ writer', writer.flushBatch = .ok writer' ∧ Writes key writer' written ∧
      writer'.pending = [] := by
  unfold SimilarityStoreWriter.flushBatch
  by_cases hNone : writer.pending = []
  · rw [if_pos hNone]
    exact ⟨writer, rfl, h, hNone⟩
  obtain ⟨done, table, hWritten, hRows, hNext, hDatabase⟩ := h.flushed
  have hPending : ∀ g ∈ writer.pending, Storable g := by
    intro g hg
    apply h.storable
    rw [hWritten]
    exact List.mem_append_right _ hg
  obtain ⟨table', hInsert, hRows'⟩ := insertPending_of hRows hPending (by
    rw [← List.length_append, ← hWritten]
    exact hFits)
  rw [← hWritten] at hInsert hRows'
  rw [if_neg hNone, hDatabase, hNext]
  refine ⟨⟨resultDatabase key stateBuilding written.length table', [], written.length⟩, ?_, ?_, rfl⟩
  · refine bind_eq_ok.2 ⟨table, rfl, bind_eq_ok.2 ⟨_, hInsert, ?_⟩⟩
    exact bind_eq_ok.2 ⟨_, toSqlU64_eq_ok.2 ⟨hFits, rfl⟩, rfl⟩
  · exact ⟨⟨written, table', (List.append_nil _).symm, hRows', rfl, rfl⟩, h.storable⟩

/-- A group joins the pending ones. -/
theorem Writes.push (h : Writes key writer written) (hg : Storable g) :
    Writes key { writer with pending := writer.pending ++ [g] } (written ++ [g]) := by
  obtain ⟨done, table, hWritten, hRest⟩ := h.flushed
  refine ⟨⟨done, table, ?_, hRest⟩, ?_⟩
  · rw [hWritten, List.append_assoc]
  · intro x hx
    rcases List.mem_append.1 hx with hOld | hNew
    · exact h.storable x hOld
    · rw [List.mem_singleton.1 hNew]
      exact hg

/-- A storable group is taken, whether or not the batch is full. -/
theorem Writes.append (h : Writes key writer written) (hg : Storable g)
    (hFits : written.length + 1 < 2 ^ 63) :
    ∃ writer', writer.append g = .ok writer' ∧ Writes key writer' (written ++ [g]) := by
  have hTaken := h.push hg
  unfold SimilarityStoreWriter.append
  rw [show validateGroup g = .ok () from hg]
  show ∃ writer', (if writeBatchGroups ≤ (writer.pending ++ [g]).length then _ else _) = _ ∧ _
  split_ifs
  · obtain ⟨writer', hFlush, hWrites, -⟩ := hTaken.flushBatch (by
      rw [List.length_append, List.length_singleton]
      exact hFits)
    exact ⟨writer', hFlush, hWrites⟩
  · exact ⟨_, rfl, hTaken⟩

theorem Writes.appendAll (h : Writes key writer written) (hGroups : ∀ g ∈ groups, Storable g)
    (hFits : written.length + groups.length < 2 ^ 63) :
    ∃ writer', writer.appendAll groups = .ok writer' ∧ Writes key writer' (written ++ groups) := by
  induction groups generalizing writer written with
  | nil =>
      rw [List.append_nil]
      exact ⟨writer, rfl, h⟩
  | cons g rest ih =>
      rw [List.length_cons] at hFits
      obtain ⟨writer', hAppend, hWrites⟩ := h.append (hGroups g (List.mem_cons_self ..)) (by omega)
      obtain ⟨writer'', hRest, hAll⟩ := ih hWrites
        (fun x hx => hGroups x (List.mem_cons_of_mem _ hx))
        (by rw [List.length_append, List.length_singleton]; omega)
      rw [List.append_assoc, List.singleton_append] at hAll
      refine ⟨writer'', ?_, hAll⟩
      show (g :: rest).foldlM SimilarityStoreWriter.append writer = _
      rw [List.foldlM_cons]
      exact bind_eq_ok.2 ⟨writer', hAppend, hRest⟩

/-- `finish` leaves a complete database of what was taken. -/
theorem Writes.complete (h : Writes key writer written) (hFits : written.length < 2 ^ 63) :
    ∃ table, writer.complete =
        .ok (written.length, resultDatabase key stateComplete written.length table) ∧
      table.rows = storedRows 0 written := by
  obtain ⟨writer', hFlush, hWrites, hNone⟩ := h.flushBatch hFits
  obtain ⟨done, table, hWritten, hRows, hNext, hDatabase⟩ := hWrites.flushed
  rw [hNone, List.append_nil] at hWritten
  subst hWritten
  refine ⟨table, ?_, hRows⟩
  refine bind_eq_ok.2 ⟨writer', hFlush, ?_⟩
  rw [hNext, hDatabase]
  exact bind_eq_ok.2 ⟨_, toSqlU64_eq_ok.2 ⟨hFits, rfl⟩, rfl⟩

theorem begin_writes (key : SimilarityStoreKey) :
    ∃ writer, begin key = .ok writer ∧ Writes key writer [] := by
  refine ⟨⟨resultDatabase key stateBuilding 0 GroupTable.empty, [], 0⟩, rfl, ?_, by simp⟩
  exact ⟨[], GroupTable.empty, rfl, rfl, rfl, rfl⟩

/-- A writer that has the result to itself publishes what it was given. -/
theorem publish_of (hGroups : ∀ g ∈ groups, Storable g) (hFits : groups.length < 2 ^ 63) :
    ∃ table, publish key groups = .ok (groups.length,
        .database (resultDatabase key stateComplete groups.length table)) ∧
      table.rows = storedRows 0 groups := by
  obtain ⟨writer, hBegin, hWrites⟩ := begin_writes key
  obtain ⟨writer', hAppend, hWrites'⟩ := hWrites.appendAll hGroups (by simpa using hFits)
  rw [List.nil_append] at hWrites'
  obtain ⟨table, hComplete, hRows⟩ := hWrites'.complete hFits
  refine ⟨table, ?_, hRows⟩
  refine bind_eq_ok.2 ⟨writer, hBegin, bind_eq_ok.2 ⟨writer', hAppend, ?_⟩⟩
  exact bind_eq_ok.2 ⟨_, hComplete, rfl⟩

end Writing

/-! ## The round trip -/

section RoundTrip

variable [KeyJson] {key : SimilarityStoreKey} {groups : List FrameGroup} {table : GroupTable}
  {previous : Option Nat} {n observed start stop : Nat} {framed : Bool}

omit [KeyJson] in
/-- The loop of `validate_rows` over stored rows never fails. -/
theorem checkRows_storedRows (framed : Bool) (n : Nat) (previous : Option Nat) (observed : Nat)
    (hGroups : ∀ g ∈ groups, g.Valid) : ∃ seen, checkRows framed (storedRows n groups) previous observed = .ok seen := by
  induction groups generalizing n previous observed with
  | nil => exact ⟨_, rfl⟩
  | cons g rest ih =>
      rw [storedRows, checkRows,
        decodeGroup_storedGroup n (hGroups g (List.mem_cons_self ..))]
      simp only [Except.mapError]
      show ∃ seen, (if invalidGroup g then _ else _) = _
      split_ifs
      · exact ⟨_, rfl⟩
      · exact ⟨_, rfl⟩
      · exact ⟨_, rfl⟩
      · exact ih _ _ _ fun x hx => hGroups x (List.mem_cons_of_mem _ hx)

omit [KeyJson] in
/-- The loop passes over groups that tile the frames, and over any groups when
no frame count is expected. -/
theorem checkRows_of_tiles (hGroups : ∀ g ∈ groups, Storable g)
    (hFits : observed + groups.length < 2 ^ 64)
    (hTiles : framed = true → AtStart previous observed start ∧
      TilesFrom (·.firstFrame) (·.lastFrame) start stop groups) :
    ∃ last, checkRows framed (storedRows n groups) previous observed =
        .ok (some (last, observed + groups.length)) ∧
      (framed = true → AtStart last (observed + groups.length) stop) := by
  induction groups generalizing n previous observed start with
  | nil =>
      refine ⟨previous, rfl, ?_⟩
      intro hFramed
      obtain ⟨hStart, hStop⟩ := hTiles hFramed
      rw [← show start = stop from hStop]
      exact hStart
  | cons g rest ih =>
      obtain ⟨hValid, hRange⟩ := storable_iff.1 (hGroups g (List.mem_cons_self ..))
      have hFirstFits := (ensureSqlRange_eq_ok.1 hRange).2.1
      rw [List.length_cons] at hFits
      have hAdd : saturatingAddU64 observed 1 = observed + 1 := by
        unfold saturatingAddU64
        omega
      have hNext : framed = true → AtStart (some g.lastFrame) (observed + 1) (g.lastFrame + 1) ∧
          TilesFrom (·.firstFrame) (·.lastFrame) (g.lastFrame + 1) stop rest := by
        intro hFramed
        exact ⟨Or.inr ⟨g.lastFrame, rfl, by omega, rfl⟩, (hTiles hFramed).2.2.2⟩
      obtain ⟨last, hLoop, hEnd⟩ := ih (n := n + 1)
        (fun x hx => hGroups x (List.mem_cons_of_mem _ hx)) (by omega) hNext
      rw [show observed + 1 + rest.length = observed + (g :: rest).length by
        rw [List.length_cons]; omega] at hLoop hEnd
      refine ⟨last, ?_, hEnd⟩
      rw [storedRows, checkRows, decodeGroup_storedGroup n (invalidGroup_eq_false.1 hValid).1]
      show (if invalidGroup g = true then _ else _) = _
      rw [if_neg (by simp [hValid]), if_neg, if_neg, hAdd]
      · exact hLoop
      · -- The group begins right after the one before it.
        rintro ⟨hFramed, hApart⟩
        obtain ⟨hStart, hFirst, -⟩ := hTiles hFramed
        rcases hStart with ⟨rfl, -, -⟩ | ⟨p, rfl, -, rfl⟩
        · cases hApart
        · rw [Option.any_some, decide_eq_true_eq, ne_eq, checkedAddU64_eq_some] at hApart
          rw [show g.firstFrame = p + 1 from hFirst] at hFirstFits
          exact hApart ⟨by omega, hFirst⟩
      · rintro ⟨hFramed, hNone, hLater⟩
        obtain ⟨hStart, hFirst, -⟩ := hTiles hFramed
        rcases hStart with ⟨-, -, rfl⟩ | ⟨p, -, hSome, -⟩
        · exact hLater hFirst
        · omega

omit [KeyJson] in
/-- The keys of stored rows pass the check of their bounds. -/
theorem ordinalsFill_storedRows (hRows : table.rows = storedRows 0 groups)
    (hFits : groups.length < 2 ^ 63) :
    ordinalsFill (table.rows.map (·.ordinal)) groups.length = .ok true := by
  unfold ordinalsFill
  by_cases hNone : groups.length = 0
  · rw [if_pos hNone]
  have hKeys := storedRows_consecutive 0 groups
  have hSome : storedRows 0 groups ≠ [] := by
    intro hNil
    apply hNone
    rw [← length_storedRows 0 groups, hNil]
    rfl
  rw [if_neg hNone, hRows, hKeys.min?_keys hSome, hKeys.max?_keys hSome, length_storedRows,
    if_neg (by simp)]
  exact bind_eq_ok.2 ⟨_, toSqlU64_eq_ok.2 ⟨by omega, rfl⟩, by simp⟩

omit [KeyJson] in
/-- What is left of `validate_rows` on a stored table is its loop. -/
theorem validateRows_storedRows (hRows : table.rows = storedRows 0 groups)
    (hFits : groups.length < 2 ^ 63) (frames : Option Nat) {seen : Option (Option Nat × Nat)}
    (hLoop : checkRows frames.isSome (storedRows 0 groups) none 0 = .ok seen) :
    validateRows table groups.length frames =
      .ok (seen.any (coversFrames groups.length frames)) := by
  unfold validateRows
  rw [ordinalsFill_storedRows hRows hFits, hRows, length_storedRows, hLoop]
  refine bind_eq_ok.2 ⟨groups.length, ?_, ?_⟩
  · unfold fromSqlU64
    rw [if_pos (Int.natCast_nonneg _), Int.toNat_natCast]
  · rw [if_neg (by simp)]
    rfl

omit [KeyJson] in
theorem fromSqlU64_natCast (value : Nat) (label : String) :
    fromSqlU64 (value : Int) label = .ok value := by
  unfold fromSqlU64
  rw [if_pos (Int.natCast_nonneg value), Int.toNat_natCast]

/-- A visit of a complete result of the key goes on to the rows. -/
theorem visit_resultDatabase (hKey : KeyRoundTrips key) (count : Nat) (table : GroupTable)
    (frames : Option Nat) :
    visitGroupsWithFrameCount (.database (resultDatabase key stateComplete count table)) key
      frames = visitTable (resultDatabase key stateComplete count table) count frames := by
  rw [visit_database]
  unfold KeyRoundTrips at hKey
  simp [visitDatabase, resultDatabase, readMeta, SqlValue.getI64, SqlValue.getText, bind,
    Except.bind, hKey, fromSqlU64_natCast]

/-- A visit of a stored result judges the rows and hands all of them out. -/
theorem visit_storedRows (hKey : KeyRoundTrips key) (hGroups : ∀ g ∈ groups, Storable g)
    (hFits : groups.length < 2 ^ 63) (hRows : table.rows = storedRows 0 groups)
    (frames : Option Nat) {seen : Option (Option Nat × Nat)}
    (hLoop : checkRows frames.isSome (storedRows 0 groups) none 0 = .ok seen) :
    visitGroupsWithFrameCount
        (.database (resultDatabase key stateComplete groups.length table)) key frames =
      if seen.any (coversFrames groups.length frames) then
        ⟨.ok (.reused groups.length), groups, false⟩
      else .purge .invalidatedCorrupt := by
  rw [visit_resultDatabase hKey]
  have hServed : visitRows table.rows = (groups, none) := by
    rw [hRows]
    exact visitRows_of_decodes (storedRows_decodes 0 fun g hg => (hGroups g hg).valid)
  have hValidate := validateRows_storedRows hRows hFits frames hLoop
  cases hSeen : seen.any (coversFrames groups.length frames) with
  | false =>
      rw [hSeen] at hValidate
      simp [visitTable, resultDatabase, hValidate]
  | true =>
      rw [hSeen] at hValidate
      simp [visitTable, resultDatabase, hValidate, hServed]

omit [KeyJson] in
/-- The last frame of a tiling is the one that is asked for. -/
theorem coversFrames_of_tiles {frameCount : Nat} {last : Option Nat}
    (hTiles : TilesFrom (·.firstFrame) (·.lastFrame) 0 frameCount groups)
    (hEnd : AtStart last groups.length frameCount) :
    coversFrames groups.length (some frameCount) (last, groups.length) = true := by
  have hShort := hTiles.length_le
  cases frameCount with
  | zero =>
      apply decide_eq_true
      exact ⟨by omega, show groups.length = 0 by omega⟩
  | succ frame =>
      apply decide_eq_true
      rcases hEnd with ⟨-, -, hZero⟩ | ⟨p, hLast, hSome, hFrame⟩
      · cases hZero
      · refine ⟨by omega, rfl, ?_⟩
        rw [show frame = p by omega]
        exact hLast

/-- A visit that handed out exactly these groups. -/
def served (groups : List FrameGroup) : Visit := ⟨.ok (.reused groups.length), groups, false⟩

/-- The store serves `groups`: a visit hands them out, and one for a frame count
does so exactly when they partition the frames. -/
structure Serves (file : StoreFile) (key : SimilarityStoreKey) (groups : List FrameGroup) :
    Prop where
  plain : visitGroups file key = served groups
  framed : ∀ frameCount, Partitions frameCount groups →
    visitGroupsForFrameCount file key frameCount = served groups
  refused : ∀ frameCount, ¬ Partitions frameCount groups →
    visitGroupsForFrameCount file key frameCount = .purge .invalidatedCorrupt

theorem resultDatabase_serves (hKey : KeyRoundTrips key) (hGroups : ∀ g ∈ groups, Storable g)
    (hFits : groups.length < 2 ^ 63) (hRows : table.rows = storedRows 0 groups) :
    Serves (.database (resultDatabase key stateComplete groups.length table)) key groups := by
  have hLength : 0 + groups.length < 2 ^ 64 := by omega
  constructor
  · have hTiles : false = true → AtStart none 0 0 ∧
        TilesFrom (·.firstFrame) (·.lastFrame) 0 0 groups := by simp
    obtain ⟨last, hLoop, -⟩ := checkRows_of_tiles (n := 0) hGroups hLength hTiles
    unfold visitGroups
    rw [visit_storedRows hKey hGroups hFits hRows none hLoop]
    rfl
  · intro frameCount hPartitions
    have hTiles : true = true → AtStart none 0 0 ∧
        TilesFrom (·.firstFrame) (·.lastFrame) 0 frameCount groups :=
      fun _ => ⟨Or.inl ⟨rfl, rfl, rfl⟩, hPartitions.tiles⟩
    obtain ⟨last, hLoop, hEnd⟩ := checkRows_of_tiles (n := 0) hGroups hLength hTiles
    rw [Nat.zero_add] at hLoop hEnd
    unfold visitGroupsForFrameCount
    rw [visit_storedRows hKey hGroups hFits hRows (some frameCount) hLoop, Option.any_some,
      if_pos (coversFrames_of_tiles hPartitions.tiles (hEnd rfl))]
    rfl
  · intro frameCount hNot
    obtain ⟨seen, hLoop⟩ := checkRows_storedRows true 0 none 0 fun g hg =>
      (hGroups g hg).valid
    unfold visitGroupsForFrameCount
    rw [visit_storedRows hKey hGroups hFits hRows (some frameCount) hLoop, if_neg]
    intro hCovers
    apply hNot
    have hValidate := validateRows_storedRows hRows hFits (some frameCount) hLoop
    rw [hCovers] at hValidate
    obtain ⟨-, -, groups', hDecodes, hPartitions⟩ := validateRows_partitions hValidate
    rw [hRows] at hDecodes
    rwa [hDecodes.unique (storedRows_decodes 0 fun g hg => (hGroups g hg).valid)] at hPartitions

/-- What a writer that has the result to itself was given comes back.  Groups
that are storable one by one are published, and a visit for a frame count
refuses them exactly when they do not partition the frames; a group that is not
storable is refused by `append`. -/
theorem publish_round_trip (key : SimilarityStoreKey) (groups : List FrameGroup)
    (hKey : KeyRoundTrips key) (hFits : groups.length < 2 ^ 63) :
    ((∀ g ∈ groups, Storable g) →
      ∃ file, publish key groups = .ok (groups.length, file) ∧ Serves file key groups) ∧
    ∀ (writer : SimilarityStoreWriter) (g : FrameGroup), ¬ Storable g →
      ∃ error, writer.append g = .error error := by
  constructor
  · intro hGroups
    obtain ⟨table, hPublish, hRows⟩ := publish_of hGroups hFits
    exact ⟨_, hPublish, resultDatabase_serves hKey hGroups hFits hRows⟩
  · intro writer g hg
    cases hValidate : validateGroup g with
    | ok u => exact absurd hValidate hg
    | error error =>
        refine ⟨error, ?_⟩
        unfold SimilarityStoreWriter.append
        rw [hValidate]
        rfl

end RoundTrip

/-! ## Files that serve groups -/

/-- The frame count of a visit, if any, is the one that the groups cover. -/
def Covers (frames : Option Nat) (groups : List FrameGroup) : Prop :=
  ∀ frameCount, frames = some frameCount → Partitions frameCount groups

section Serving

variable [KeyJson] {key : SimilarityStoreKey} {file : StoreFile} {groups groups' : List FrameGroup}
  {writer writer' : SimilarityStoreWriter} {written : List FrameGroup} {g : FrameGroup}

/-- A file serves one list of groups. -/
theorem Serves.unique (h : Serves file key groups) (h' : Serves file key groups') :
    groups = groups' := by
  have hSame := h.plain.symm.trans h'.plain
  exact (Visit.mk.inj hSame).2.1

theorem Serves.hasHeader (h : Serves file key groups) :
    file ≠ .missing ∧ file.hasSqliteHeader = true := by
  have hPlain := h.plain
  unfold visitGroups visitGroupsWithFrameCount at hPlain
  by_cases hMissing : file = .missing
  · rw [if_pos hMissing] at hPlain
    cases hPlain
  · refine ⟨hMissing, ?_⟩
    by_contra hHeader
    rw [if_neg hMissing, if_pos (by simpa using hHeader)] at hPlain
    cases hPlain

/-- A visit of a file that serves groups hands them out. -/
theorem Serves.visit (h : Serves file key groups) {frames : Option Nat}
    (hCovers : Covers frames groups) : visitConnection file key frames = served groups := by
  obtain ⟨hMissing, hHeader⟩ := h.hasHeader
  have hConnection : visitGroupsWithFrameCount file key frames =
      visitConnection file key frames := by
    unfold visitGroupsWithFrameCount
    rw [if_neg hMissing, if_neg (by simp [hHeader])]
  rw [← hConnection]
  cases frames with
  | none => exact h.plain
  | some frameCount => exact h.framed frameCount (hCovers frameCount rfl)

omit [KeyJson] in
/-- A flush counts what it inserts. -/
theorem insertPending_count {pending : List FrameGroup} {n : Nat} {table : GroupTable}
    {result : Nat × GroupTable} (h : insertPending pending n table = .ok result) :
    result.1 = n + pending.length := by
  induction pending generalizing n table with
  | nil =>
      cases h
      rfl
  | cons g rest ih =>
      obtain ⟨ordinal, _, h⟩ := bind_eq_ok.1 h
      obtain ⟨_, _, h⟩ := bind_eq_ok.1 h
      obtain ⟨table', _, h⟩ := bind_eq_ok.1 h
      obtain ⟨next, hNext, h⟩ := bind_eq_ok.1 h
      rw [okOr_eq_ok, checkedAddU64_eq_some] at hNext
      rw [ih h, hNext.2, List.length_cons]
      omega

theorem Writes.flushBatch_ok (h : Writes key writer written)
    (hOk : writer.flushBatch = .ok writer') :
    Writes key writer' written ∧ writer'.pending = [] := by
  by_cases hNone : writer.pending = []
  · unfold SimilarityStoreWriter.flushBatch at hOk
    rw [if_pos hNone] at hOk
    cases hOk
    exact ⟨h, hNone⟩
  · have hFits : written.length < 2 ^ 63 := by
      obtain ⟨done, table, hWritten, -, hNext, -⟩ := h.flushed
      unfold SimilarityStoreWriter.flushBatch at hOk
      rw [if_neg hNone] at hOk
      obtain ⟨_, _, hOk⟩ := bind_eq_ok.1 hOk
      obtain ⟨inserted, hInsert, hOk⟩ := bind_eq_ok.1 hOk
      obtain ⟨count, hCount, _⟩ := bind_eq_ok.1 hOk
      have hLt := (toSqlU64_eq_ok.1 hCount).1
      rw [insertPending_count hInsert, hNext, ← List.length_append, ← hWritten] at hLt
      exact hLt
    obtain ⟨flushed, hFlush, hWrites, hEmpty⟩ := h.flushBatch hFits
    rw [hFlush] at hOk
    cases hOk
    exact ⟨hWrites, hEmpty⟩

/-- What `append` returned for is written. -/
theorem Writes.append_ok (h : Writes key writer written) (hOk : writer.append g = .ok writer') :
    Writes key writer' (written ++ [g]) := by
  obtain ⟨⟨⟩, hStorable, hOk⟩ := bind_eq_ok.1 hOk
  have hTaken := h.push hStorable
  dsimp only at hOk
  split_ifs at hOk
  · exact (hTaken.flushBatch_ok hOk).1
  · cases hOk
    exact hTaken

/-- A file that `finish` has sealed serves what was appended. -/
theorem Writes.complete_ok (hKey : KeyRoundTrips key) (h : Writes key writer written)
    {count : Nat} {content : Database} (hOk : writer.complete = .ok (count, content)) :
    Serves (.database content) key written := by
  obtain ⟨flushed, hFlush, hOk'⟩ := bind_eq_ok.1 hOk
  obtain ⟨hWrites, hNone⟩ := h.flushBatch_ok hFlush
  obtain ⟨n, hCount, -⟩ := bind_eq_ok.1 hOk'
  have hLt := (toSqlU64_eq_ok.1 hCount).1
  obtain ⟨done, table, hWritten, -, hNext, -⟩ := hWrites.flushed
  rw [hNone, List.append_nil] at hWritten
  rw [hNext, ← hWritten] at hLt
  obtain ⟨table', hComplete, hRows⟩ := h.complete hLt
  rw [hComplete] at hOk
  cases hOk
  exact resultDatabase_serves hKey h.storable hLt hRows

end Serving

/-! ## A stored result -/

def sampleStoreKey : SimilarityStoreKey := ⟨sampleSource, sampleStream, .basic .exact⟩

/-- The JSON text of the key. -/
def sampleKeyText : String :=
  "\x7b\"source\":\x7b\"size_bytes\":4096,\"modified_time_ms\":0," ++
    "\"provider_document_id\":null,\"content_tag\":\"blake3:0\"\x7d," ++
    "\"stream\":\x7b\"stream_index\":0,\"codec_id\":27,\"codec_name\":\"h264\"," ++
    "\"time_base\":\x7b\"numerator\":1,\"denominator\":1000\x7d,\"width\":2,\"height\":2\x7d," ++
    "\"config\":\x7b\"kind\":\"exact\"\x7d\x7d"

@[reducible] def sampleKeyJson : KeyJson where
  toText := fun _ => sampleKeyText
  parse := fun text => if text = sampleKeyText then some sampleStoreKey.persisted else none

theorem sampleStoreKey_roundTrips : @KeyRoundTrips sampleKeyJson sampleStoreKey := by
  show (if sampleKeyText = sampleKeyText then some sampleStoreKey.persisted else none) = _
  rw [if_pos rfl]

/-- A group of the frames from `first` to `last`. -/
def sampleGroup (first last : Nat) : FrameGroup where
  representativeFrame := first
  firstFrame := first
  lastFrame := last
  frameCount := last - first + 1
  startTimestamp := ⟨40 * first, sampleTimeBase⟩
  endTimestamp := ⟨40 * last, sampleTimeBase⟩
  startDuration := some ⟨40, sampleTimeBase⟩
  endDuration := none
  representativeSimilarityFloor := 9700

theorem publish_round_trip_sampleGroups :
    ∃ file, @publish sampleKeyJson sampleStoreKey [sampleGroup 0 1, sampleGroup 2 2] =
        .ok (2, file) ∧
      @visitGroupsForFrameCount sampleKeyJson file sampleStoreKey 3 =
        ⟨.ok (.reused 2), [sampleGroup 0 1, sampleGroup 2 2], false⟩ := by
  have hGroups : ∀ g ∈ [sampleGroup 0 1, sampleGroup 2 2], Storable g := by
    unfold Storable
    decide
  obtain ⟨file, hPublish, hServes⟩ := (@publish_round_trip sampleKeyJson sampleStoreKey
    [sampleGroup 0 1, sampleGroup 2 2] sampleStoreKey_roundTrips (by decide)).1 hGroups
  have hPartitions : Partitions 3 [sampleGroup 0 1, sampleGroup 2 2] :=
    ⟨fun g hg => (hGroups g hg).valid, rfl, by decide, rfl, by decide, rfl⟩
  exact ⟨file, hPublish, @Serves.framed sampleKeyJson _ _ _ hServes 3 hPartitions⟩

/-- Two groups with a frame missing between them are appended, published and
handed out by a plain visit. -/
theorem gap_is_published :
    ∃ file, @publish sampleKeyJson sampleStoreKey [sampleGroup 0 0, sampleGroup 2 2] =
        .ok (2, file) ∧
      @visitGroups sampleKeyJson file sampleStoreKey =
        ⟨.ok (.reused 2), [sampleGroup 0 0, sampleGroup 2 2], false⟩ := by
  have hGroups : ∀ g ∈ [sampleGroup 0 0, sampleGroup 2 2], Storable g := by
    unfold Storable
    decide
  obtain ⟨table, hPublish, hRows⟩ := @publish_of sampleKeyJson sampleStoreKey _ hGroups (by decide)
  have hServes := @resultDatabase_serves sampleKeyJson _ _ _ sampleStoreKey_roundTrips hGroups
    (by decide) hRows
  exact ⟨_, hPublish, @Serves.plain sampleKeyJson _ _ _ hServes⟩

end FrameScope.Ports.SimilarityStoreLaw
