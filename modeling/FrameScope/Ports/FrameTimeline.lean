import FrameScope.Ports.FrameIndexStore
import FrameScope.Verified.KeyedTable

/-!
# Timelines and their rows

The `frame_index` table stands for a list of entries.  `Shaped` is what the
store guarantees of that list: consecutive identities from zero, each entry
valid for the stream, identities within SQLite's range.  `rowOf` is the row of
an entry; reading it back is exact, a batch is accepted exactly when it
continues the list, and the incremental seek-safety decision of an append is
the one a full recomputation would take.
-/

namespace FrameScope.Ports.FrameTimeline

open FrameScope.Verified.KeyedTable
open FrameScope.Ports.Core
open FrameScope.Ports.FrameIndexModel
open FrameScope.Ports.FrameIndexStore

/-! ## Valid entries -/

/-- What `validate` asks of a timestamp. -/
def ValidTimestamp (stream : FrameIndexStreamIdentity) (t : Option MediaTimestamp) : Prop :=
  ∀ x, t = some x → x.timeBase = stream.timeBase ∧ x.toMicroseconds.isSome = true

/-- What `validate` asks of an entry. -/
structure ValidFor (stream : FrameIndexStreamIdentity) (e : FrameIndexEntry) : Prop where
  timestamp : ValidTimestamp stream e.presentationTimestamp
  duration : ∀ d, e.duration = some d → 0 < d.ticks ∧ d.timeBase = stream.timeBase
  streamStart : e.anchor = .streamStart → e.isClean = false
  keyframe : ∀ id t, e.anchor = .keyframe id t →
    id ≤ e.frameId ∧ ValidTimestamp stream t ∧
      (e.isClean = true → id = e.frameId ∧ t = e.presentationTimestamp)

private theorem validateTimestamp_iff (stream : FrameIndexStreamIdentity) (overflow : String)
    (t : Option MediaTimestamp) :
    validateTimestamp stream overflow t = .ok () ↔ ValidTimestamp stream t := by
  cases t with
  | none => simp [validateTimestamp, ValidTimestamp]
  | some x =>
      unfold validateTimestamp ValidTimestamp
      by_cases hBase : x.timeBase = stream.timeBase
      · cases hUs : x.toMicroseconds <;> simp [hBase, hUs]
      · simp [hBase]

private theorem validateDuration_iff (stream : FrameIndexStreamIdentity)
    (d : Option MediaDuration) :
    validateDuration stream d = .ok () ↔
      ∀ x, d = some x → 0 < x.ticks ∧ x.timeBase = stream.timeBase := by
  cases d with
  | none => simp [validateDuration]
  | some x =>
      unfold validateDuration
      by_cases hTicks : x.ticks ≤ 0
      · simp [hTicks]
      · by_cases hBase : x.timeBase = stream.timeBase
        · simp [hTicks, hBase]
          omega
        · simp [hTicks, hBase]

private theorem validateAnchor_iff (stream : FrameIndexStreamIdentity) (e : FrameIndexEntry) :
    e.validateAnchor stream = .ok () ↔
      (e.anchor = .streamStart → e.isClean = false) ∧
        ∀ id t, e.anchor = .keyframe id t →
          id ≤ e.frameId ∧ ValidTimestamp stream t ∧
            (e.isClean = true → id = e.frameId ∧ t = e.presentationTimestamp) := by
  unfold FrameIndexEntry.validateAnchor
  cases hAnchor : e.anchor with
  | streamStart => cases e.isClean <;> simp
  | keyframe id t =>
      have hTime := validateTimestamp_iff stream
        "keyframe anchor timestamp overflows microseconds" t
      by_cases hAfter : id > e.frameId
      · simp [hAfter]
      · cases hCheck : validateTimestamp stream
            "keyframe anchor timestamp overflows microseconds" t with
        | error error =>
            rw [hCheck] at hTime
            have hNot : ¬ ValidTimestamp stream t := fun h => by cases hTime.2 h
            simp [hAfter, hCheck, hNot]
        | ok u =>
            have hValid : ValidTimestamp stream t := hTime.1 hCheck
            have hLe : id ≤ e.frameId := by omega
            by_cases hSelf : e.isClean = true ∧ (id ≠ e.frameId ∨ t ≠ e.presentationTimestamp)
            · simp only [hAfter, if_false, hCheck, if_pos hSelf]
              constructor
              · intro h; cases h
              · rintro ⟨-, h⟩
                obtain ⟨-, -, hClean⟩ := h id t rfl
                obtain ⟨hId, hT⟩ := hClean hSelf.1
                rcases hSelf.2 with h | h
                · exact absurd hId h
                · exact absurd hT h
            · simp only [hAfter, if_false, hCheck, if_neg hSelf, true_iff]
              refine ⟨nofun, ?_⟩
              rintro id' t' ⟨⟩
              refine ⟨hLe, hValid, fun hClean => ?_⟩
              by_contra hNe
              exact hSelf ⟨hClean, by tauto⟩

theorem validate_iff (stream : FrameIndexStreamIdentity) (e : FrameIndexEntry) :
    e.validate stream = .ok () ↔ ValidFor stream e := by
  have hTime := validateTimestamp_iff stream "frame timestamp overflows microseconds"
    e.presentationTimestamp
  have hDuration := validateDuration_iff stream e.duration
  have hAnchor := validateAnchor_iff stream e
  have hSplit : e.validate stream = .ok () ↔
      validateTimestamp stream "frame timestamp overflows microseconds"
          e.presentationTimestamp = .ok () ∧
        validateDuration stream e.duration = .ok () ∧ e.validateAnchor stream = .ok () := by
    unfold FrameIndexEntry.validate
    simp only [bind, Except.bind]
    cases validateTimestamp stream "frame timestamp overflows microseconds"
      e.presentationTimestamp with
    | error error => simp
    | ok u => cases validateDuration stream e.duration <;> simp
  rw [hSplit, hTime, hDuration, hAnchor]
  constructor
  · rintro ⟨hT, hD, hStart, hKey⟩
    exact ⟨hT, hD, hStart, hKey⟩
  · intro h
    exact ⟨h.timestamp, h.duration, h.streamStart, h.keyframe⟩

/-! ## Shaped timelines -/

/-- The identities of `entries` run `n, n + 1, …`. -/
def Numbered (n : Nat) (entries : List FrameIndexEntry) : Prop :=
  Consecutive (fun e => (e.frameId : Int)) n entries

/-- What the store guarantees of its rows. -/
structure Shaped (stream : FrameIndexStreamIdentity) (entries : List FrameIndexEntry) : Prop where
  numbered : Numbered 0 entries
  valid : ∀ e ∈ entries, e.validate stream = .ok ()
  bounded : entries.length < 2 ^ 63

/-- The entries of decoded frames are numbered from the first identity on. -/
theorem entriesFrom_numbered (id : Nat) (anchor : KeyframeAnchor) (frames : List DecodedFrame) :
    Numbered id (entriesFrom id anchor frames) := by
  induction frames generalizing id anchor with
  | nil => trivial
  | cons f rest ih => exact ⟨rfl, ih (id + 1) (nextAnchor id f anchor)⟩

theorem Shaped.take {stream : FrameIndexStreamIdentity} {entries : List FrameIndexEntry} (h : Shaped stream entries) (n : Nat) :
    Shaped stream (entries.take n) where
  numbered := Consecutive.take h.numbered n
  valid := fun e he => h.valid e (List.mem_of_mem_take he)
  bounded := by
    have hBound := h.bounded
    rw [List.length_take]
    omega

theorem Shaped.nil {stream : FrameIndexStreamIdentity} : Shaped stream [] where
  numbered := trivial
  valid := by simp
  bounded := by simp

theorem Shaped.append {stream : FrameIndexStreamIdentity} {entries batch : List FrameIndexEntry}
    (h : Shaped stream entries) (hNum : Numbered entries.length batch)
    (hValid : ∀ e ∈ batch, e.validate stream = .ok ())
    (hLen : entries.length + batch.length < 2 ^ 63) :
    Shaped stream (entries ++ batch) where
  numbered := Consecutive.append h.numbered (by rw [Nat.zero_add]; exact hNum)
  valid := by
    intro e he
    rcases List.mem_append.1 he with he | he
    · exact h.valid e he
    · exact hValid e he
  bounded := by rw [List.length_append]; exact hLen

/-! ## Rows of entries -/

/-- The row of an entry whose identities fit SQLite's range. -/
def rowOf (e : FrameIndexEntry) : FrameRow :=
  let anchorTimestamp := match e.anchor with
    | .streamStart => none
    | .keyframe _ presentationTimestamp => presentationTimestamp
  { frameIndex := e.frameId
    timestampTicks := e.presentationTimestamp.map (·.ticks)
    timeBaseNum := e.presentationTimestamp.map (·.timeBase.numerator)
    timeBaseDen := e.presentationTimestamp.map (·.timeBase.denominator)
    timestampUs := e.timestampUs
    durationTicks := e.duration.map (·.ticks)
    durationTimeBaseNum := e.duration.map (·.timeBase.numerator)
    durationTimeBaseDen := e.duration.map (·.timeBase.denominator)
    keyframe := boolColumn e.keyframe
    corrupt := boolColumn e.corrupt
    anchorKind := match e.anchor with
      | .streamStart => 0
      | .keyframe _ _ => 1
    anchorFrameIndex := match e.anchor with
      | .streamStart => none
      | .keyframe frameId _ => some frameId
    anchorTimestampTicks := anchorTimestamp.map (·.ticks)
    anchorTimeBaseNum := anchorTimestamp.map (·.timeBase.numerator)
    anchorTimeBaseDen := anchorTimestamp.map (·.timeBase.denominator)
    anchorTimestampUs := anchorTimestamp.bind MediaTimestamp.toMicroseconds }

@[simp] theorem rowOf_frameIndex (e : FrameIndexEntry) : (rowOf e).frameIndex = e.frameId := rfl

@[simp] theorem rowOf_timestampTicks (e : FrameIndexEntry) :
    (rowOf e).timestampTicks = e.presentationTimestamp.map (·.ticks) := rfl

@[simp] theorem rowOf_isClean (e : FrameIndexEntry) : (rowOf e).isClean = e.isClean := by
  unfold FrameRow.isClean FrameIndexEntry.isClean rowOf boolColumn
  cases e.keyframe <;> cases e.corrupt <;> rfl

private theorem getI32_numerator (column : Nat) (tb : TimeBase) :
    getI32 column (some tb.numerator) = .ok (some tb.numerator) := by
  have hPos := tb.numerator_pos
  have hLt := tb.numerator_lt
  simp only [getI32]
  rw [if_pos ⟨by omega, hLt⟩]

private theorem getI32_denominator (column : Nat) (tb : TimeBase) :
    getI32 column (some tb.denominator) = .ok (some tb.denominator) := by
  have hPos := tb.denominator_pos
  have hLt := tb.denominator_lt
  simp only [getI32]
  rw [if_pos ⟨by omega, hLt⟩]

private theorem decodeTimestamp_columns (t : Option MediaTimestamp) (column : Nat) :
    decodeTimestamp (t.map (·.ticks)) (t.map (·.timeBase.numerator))
      (t.map (·.timeBase.denominator)) column = .ok t := by
  cases t with
  | none => rfl
  | some t =>
      simp only [decodeTimestamp, decodeTicks, Option.map_some, getI32_numerator,
        getI32_denominator, bind, Except.bind, TimeBase.new_self, Except.map]

private theorem decodeDuration_columns (d : Option MediaDuration) :
    decodeDuration (d.map (·.ticks)) (d.map (·.timeBase.numerator))
      (d.map (·.timeBase.denominator)) = .ok d := by
  cases d with
  | none => rfl
  | some d =>
      simp only [decodeDuration, Option.map_some, getI32_numerator, getI32_denominator,
        bind, Except.bind, TimeBase.new_self]

private theorem sqlBool_boolColumn (b : Bool) (column : Nat) :
    sqlBool (boolColumn b) column = .ok b := by
  cases b <;> rfl

private theorem decodeAnchor_rowOf (e : FrameIndexEntry) :
    decodeAnchor (rowOf e) = .ok e.anchor := by
  unfold decodeAnchor rowOf
  cases e.anchor with
  | streamStart => rfl
  | keyframe id t =>
      simp [sqlI64ToU64, decodeTimestamp_columns, bind, Except.bind]

/-- A row is read back as the entry it was made from. -/
theorem decodeEntry_rowOf (e : FrameIndexEntry) : decodeEntry (rowOf e) = .ok e := by
  have hAnchor := decodeAnchor_rowOf e
  unfold decodeEntry
  rw [hAnchor]
  simp only [rowOf, sqlI64ToU64, decodeTimestamp_columns, decodeDuration_columns,
    sqlBool_boolColumn, bind, Except.bind, Int.natCast_nonneg, if_true, Int.toNat_natCast]

theorem encodeRow_eq (e : FrameIndexEntry) (stream : FrameIndexStreamIdentity)
    (hValid : e.validate stream = .ok ()) (hId : e.frameId < 2 ^ 63) :
    encodeRow e = .ok (rowOf e) := by
  unfold encodeRow rowOf
  cases hAnchor : e.anchor with
  | streamStart =>
      simp only [bind, Except.bind, toSqlU64, hId, if_true, Option.map_none, Option.bind_none]
  | keyframe id t =>
      have hLe := (((validate_iff stream e).1 hValid).keyframe id t hAnchor).1
      have hAnchorId : id < 2 ^ 63 := by omega
      simp only [bind, Except.bind, toSqlU64, hId, hAnchorId, if_true, Except.map]

theorem rows_consecutive {n : Nat} {entries : List FrameIndexEntry}
    (h : Numbered n entries) : Consecutive FrameRow.frameIndex n (entries.map rowOf) := by
  induction entries generalizing n with
  | nil => trivial
  | cons e rest ih => exact ⟨h.1, ih h.2⟩

theorem loadEntry_rowOf {index : FrameIndex} {e : FrameIndexEntry}
    (h : e.validate index.streamIdentity = .ok ()) :
    index.loadEntry (rowOf e) = .ok e := by
  simp [FrameIndex.loadEntry, decodeEntry_rowOf, h, Except.map]

/-- A row that is read back keeps its key and is valid. -/
theorem loadEntry_ok {index : FrameIndex} {row : FrameRow} {e : FrameIndexEntry}
    (h : index.loadEntry row = .ok e) :
    (e.frameId : Int) = row.frameIndex ∧ ValidFor index.streamIdentity e := by
  unfold FrameIndex.loadEntry at h
  cases hDecode : decodeEntry row with
  | error error =>
      rw [hDecode] at h
      cases h
  | ok entry =>
      rw [hDecode] at h
      cases hValid : entry.validate index.streamIdentity with
      | error error =>
          simp only [hValid, Except.map] at h
          cases h
      | ok u =>
          simp only [hValid, Except.map, Except.ok.injEq] at h
          subst h
          obtain ⟨frameId, hFrame, hRest⟩ := bind_eq_ok.1 hDecode
          obtain ⟨_, _, hRest⟩ := bind_eq_ok.1 hRest
          obtain ⟨_, _, hRest⟩ := bind_eq_ok.1 hRest
          obtain ⟨_, _, hRest⟩ := bind_eq_ok.1 hRest
          obtain ⟨_, _, hRest⟩ := bind_eq_ok.1 hRest
          obtain ⟨_, _, hEntry⟩ := bind_eq_ok.1 hRest
          unfold sqlI64ToU64 at hFrame
          split_ifs at hFrame with hSign
          refine ⟨?_, (validate_iff _ entry).1 hValid⟩
          rw [← Except.ok.inj hEntry, ← Except.ok.inj hFrame]
          exact Int.toNat_of_nonneg hSign

theorem mapM_loadEntry {index : FrameIndex} {entries : List FrameIndexEntry}
    (h : ∀ e ∈ entries, e.validate index.streamIdentity = .ok ()) :
    (entries.map rowOf).mapM index.loadEntry = .ok entries := by
  induction entries with
  | nil => rfl
  | cons e rest ih =>
      have hHead := h e (by simp)
      have hTail := ih fun x hx => h x (by simp [hx])
      simp only [List.map_cons, List.mapM_cons, loadEntry_rowOf hHead, hTail, bind,
        Except.bind, pure, Except.pure]

/-! ## Seek safety of a timeline -/

/-- Ticks of the clean keyframes, in order. -/
def cleanTicks (entries : List FrameIndexEntry) : List (Option Int) :=
  (entries.filter FrameIndexEntry.isClean).map fun e => e.presentationTimestamp.map (·.ticks)

/-- The decision a full recomputation over the rows takes. -/
def seekSafetyOf (entries : List FrameIndexEntry) : TimestampSeekSafety :=
  seekSafetyOfTicks none (cleanTicks entries)

@[simp] theorem cleanTicks_append (xs ys : List FrameIndexEntry) :
    cleanTicks (xs ++ ys) = cleanTicks xs ++ cleanTicks ys := by
  simp [cleanTicks]

private theorem filter_isClean_rows (entries : List FrameIndexEntry) :
    (entries.map rowOf).filter FrameRow.isClean =
      (entries.filter FrameIndexEntry.isClean).map rowOf := by
  rw [List.filter_map]
  congr 1
  apply List.filter_congr
  intro e _
  exact rowOf_isClean e

theorem compute_rows (entries : List FrameIndexEntry) :
    computeTimestampSeekSafety (entries.map rowOf) = seekSafetyOf entries := by
  unfold computeTimestampSeekSafety seekSafetyOf cleanTicks
  rw [filter_isClean_rows, List.map_map]
  rfl

/-- The recomputation splits at any point: the second part starts from the last
tick of the first. -/
theorem seekSafetyOfTicks_append (previous : Option Int) (xs ys : List (Option Int)) :
    seekSafetyOfTicks previous (xs ++ ys) =
      if seekSafetyOfTicks previous xs = .unambiguous then
        seekSafetyOfTicks (xs.getLast?.getD previous) ys
      else .ambiguous := by
  induction xs generalizing previous with
  | nil => simp [seekSafetyOfTicks]
  | cons x xs ih =>
      cases x with
      | none => simp [seekSafetyOfTicks]
      | some ticks =>
          by_cases hAdvance : advances previous ticks = true
          · simp only [List.cons_append, seekSafetyOfTicks, hAdvance, if_true, ih]
            cases xs with
            | nil => simp [seekSafetyOfTicks]
            | cons y ys => simp [List.getLast?_cons]
          · simp [seekSafetyOfTicks, hAdvance]

/-- **Incremental seek safety**: an exact decision stays exact under the
shortcut that looks at the last stored clean keyframe and the batch only. -/
theorem appendSeekSafety_exact (entries batch : List FrameIndexEntry) :
    appendSeekSafety (seekSafetyOf entries) (entries.map rowOf) batch =
      seekSafetyOf (entries ++ batch) := by
  unfold appendSeekSafety
  have hLast : ((entries.map rowOf).filter FrameRow.isClean).getLast?.bind (·.timestampTicks) =
      ((cleanTicks entries).getLast?).getD none := by
    rw [filter_isClean_rows, List.getLast?_map, cleanTicks, List.getLast?_map]
    cases (entries.filter FrameIndexEntry.isClean).getLast? <;> rfl
  rw [hLast]
  conv_rhs => rw [seekSafetyOf, cleanTicks_append, seekSafetyOfTicks_append]
  have hUnfold : seekSafetyOf entries = seekSafetyOfTicks none (cleanTicks entries) := rfl
  rw [← hUnfold]
  cases seekSafetyOf entries with
  | unambiguous => rfl
  | ambiguous => rfl

/-- In a timeline safe to seek, clean keyframes carry strictly increasing
ticks. -/
theorem seekSafetyOfTicks_pairwise (previous : Option Int) (ticks : List (Option Int))
    (h : seekSafetyOfTicks previous ticks = .unambiguous) :
    (∀ t ∈ ticks, ∃ x, t = some x ∧ ∀ y, previous = some y → y < x) ∧
      ticks.Pairwise (fun s t => ∃ x y, s = some x ∧ t = some y ∧ x < y) := by
  induction ticks generalizing previous with
  | nil => simp
  | cons t rest ih =>
      cases t with
      | none => simp [seekSafetyOfTicks] at h
      | some x =>
          simp only [seekSafetyOfTicks] at h
          split at h
          next hAdvance =>
            obtain ⟨hAbove, hPairwise⟩ := ih (some x) h
            have hHead : ∀ y, previous = some y → y < x := by
              intro y hy
              simpa [advances, hy] using hAdvance
            constructor
            · intro s hs
              rcases List.mem_cons.1 hs with rfl | hs
              · exact ⟨x, rfl, hHead⟩
              · obtain ⟨z, hz, hLt⟩ := hAbove s hs
                exact ⟨z, hz, fun y hy => lt_trans (hHead y hy) (hLt x rfl)⟩
            · refine List.pairwise_cons.2 ⟨?_, hPairwise⟩
              intro s hs
              obtain ⟨z, hz, hLt⟩ := hAbove s hs
              exact ⟨x, z, rfl, hz, hLt x rfl⟩
          next => cases h

/-- Two clean keyframes of a timeline safe to seek that carry the same
timestamp are the same entry of the timeline. -/
theorem clean_position_unique {entries : List FrameIndexEntry}
    (hSafe : seekSafetyOf entries = .unambiguous) {i j : Nat} {a b : FrameIndexEntry}
    (ha : entries[i]? = some a) (hb : entries[j]? = some b)
    (hCleanA : a.isClean = true) (hCleanB : b.isClean = true)
    (hTime : a.presentationTimestamp = b.presentationTimestamp) : i = j := by
  have hPairwise := (seekSafetyOfTicks_pairwise none _ hSafe).2
  rw [cleanTicks, List.pairwise_map, List.pairwise_filter] at hPairwise
  rw [List.pairwise_iff_getElem] at hPairwise
  obtain ⟨hi, rfl⟩ := List.getElem?_eq_some_iff.1 ha
  obtain ⟨hj, rfl⟩ := List.getElem?_eq_some_iff.1 hb
  rcases Nat.lt_trichotomy i j with hLt | hEq | hGt
  · obtain ⟨x, y, hx, hy, hxy⟩ := hPairwise i j hi hj hLt hCleanA hCleanB
    rw [hTime, hy] at hx
    cases hx
    exact absurd hxy (lt_irrefl _)
  · exact hEq
  · obtain ⟨x, y, hx, hy, hxy⟩ := hPairwise j i hj hi hGt hCleanB hCleanA
    rw [← hTime, hy] at hx
    cases hx
    exact absurd hxy (lt_irrefl _)

/-! ## Batches -/

/-- A batch passes the checks exactly when it continues the numbering with
valid entries. -/
theorem checkBatch_iff (stream : FrameIndexStreamIdentity) (current offset : Nat)
    (batch : List FrameIndexEntry) :
    checkBatch stream current offset batch = .ok () ↔
      Numbered (current + offset) batch ∧ (∀ e ∈ batch, e.validate stream = .ok ()) ∧
        (batch ≠ [] → current + offset + batch.length ≤ 2 ^ 64) := by
  induction batch generalizing offset with
  | nil => simp [checkBatch, Numbered, Consecutive]
  | cons e rest ih =>
      unfold checkBatch checkedAddU64
      by_cases hFits : current + offset < 2 ^ 64
      · rw [if_pos hFits]
        dsimp only
        by_cases hId : e.frameId = current + offset
        · rw [if_neg (by simpa using hId)]
          cases hValid : e.validate stream with
          | error error => simp [hValid]
          | ok u =>
              dsimp only
              rw [ih (offset + 1)]
              have hHead : (e.frameId : Int) = ((current + offset : Nat) : Int) := by omega
              simp only [Numbered, Consecutive, List.mem_cons, forall_eq_or_imp, hValid,
                hHead, true_and, List.length_cons, ← Nat.add_assoc]
              constructor
              · rintro ⟨hNum, hAll, hLen⟩
                refine ⟨hNum, hAll, fun _ => ?_⟩
                cases rest with
                | nil => simp only [List.length_nil]; omega
                | cons x xs =>
                    have := hLen (by simp)
                    omega
              · rintro ⟨hNum, hAll, hLen⟩
                refine ⟨hNum, hAll, fun _ => ?_⟩
                have := hLen (by simp)
                omega
        · rw [if_pos (by simpa using hId)]
          constructor
          · intro h; cases h
          · rintro ⟨hNum, -, -⟩
            have hHead : (e.frameId : Int) = ((current + offset : Nat) : Int) := hNum.1
            omega
      · rw [if_neg hFits]
        constructor
        · intro h; cases h
        · rintro ⟨-, -, hLen⟩
          have := hLen (by simp)
          simp only [List.length_cons] at this
          omega

private theorem insertRow_next {entries : List FrameIndexEntry} {e : FrameIndexEntry}
    (hNum : Numbered 0 entries) (he : e.frameId = entries.length) :
    insertRow (rowOf e) (entries.map rowOf) = .ok ((entries ++ [e]).map rowOf) := by
  have hRows := rows_consecutive hNum
  have hFree := hRows.any_next
  have hBelow := hRows.below_next
  rw [List.length_map] at hFree hBelow
  unfold insertRow
  rw [rowOf_frameIndex, he, hFree, if_neg Bool.false_ne_true, List.takeWhile_eq_self_iff.2 hBelow,
    List.dropWhile_eq_nil_iff.2 hBelow, List.map_append]
  rfl

theorem insertEntries_next {stream : FrameIndexStreamIdentity}
    (batch : List FrameIndexEntry) :
    ∀ {entries : List FrameIndexEntry}, Numbered 0 entries →
      Numbered entries.length batch →
      (∀ e ∈ batch, e.validate stream = .ok ()) →
      entries.length + batch.length < 2 ^ 63 →
      insertEntries batch (entries.map rowOf) = .ok ((entries ++ batch).map rowOf) := by
  induction batch with
  | nil =>
      intro entries _ _ _ _
      simp [insertEntries]
  | cons e rest ih =>
      intro entries hNum hBatch hValid hLen
      have hId : e.frameId = entries.length := by
        have hHead : (e.frameId : Int) = (entries.length : Int) := hBatch.1
        omega
      simp only [List.length_cons] at hLen
      have hEncode := encodeRow_eq e stream (hValid e (by simp)) (by omega)
      have hGrown : Numbered 0 (entries ++ [e]) := by
        refine Consecutive.append hNum ⟨?_, trivial⟩
        simp [hId]
      have hTail : Numbered (entries ++ [e]).length rest := by
        rw [List.length_append]
        exact hBatch.2
      have hRest := ih hGrown hTail (fun x hx => hValid x (by simp [hx]))
        (by simp only [List.length_append, List.length_cons, List.length_nil]; omega)
      simp only [insertEntries, hEncode, insertRow_next hNum hId, bind, Except.bind]
      rw [hRest, List.append_assoc]
      rfl

end FrameScope.Ports.FrameTimeline
