import FrameScope.Verified.KeyedTable
import FrameScope.Ports.GlobalStore

/-!
# A global similarity query is a scan

`naiveQuery` goes through all stored descriptors: it considers those that share
a band of a hash with the target or have a near colour, keeps those whose
confirmation reaches the minimum, and ranks them.  The store finds the same
frames through its index: the lookups find exactly the descriptors that are to
be considered (`bands_find_iff`, `buckets_find_iff`), the set of candidates
forgets how often a frame was found, and listing it in order is filtering the
descriptors in order.
-/

namespace FrameScope.Ports.GlobalStoreLaw

open FrameScope.Verified.KeyedTable
open FrameScope.Ports.Core
open FrameScope.Ports.SourceBinding
open FrameScope.Ports.GlobalDescriptors
open FrameScope.Ports.GlobalStore

/-! ## The naive query -/

/-- Some band of one of the two hashes is the same. -/
def SharesBand (target d : GlobalDescriptor) : Prop :=
  ∃ band < hashBandsPerKind,
    bandValue target.averageHash band = bandValue d.averageHash band ∨
      bandValue target.differenceHash band = bandValue d.differenceHash band

/-- The mean colours are within the radius in every component. -/
def NearColour (target d : GlobalDescriptor) : Prop :=
  ∀ channel < 3, ((quantizedMean target.normalizedRgb channel : Int) -
    quantizedMean d.normalizedRgb channel).natAbs ≤ colorBucketRadius.toNat

/-- Another frame that a query has to look at. -/
def Considered (target d : GlobalDescriptor) : Prop :=
  d.frameId ≠ target.frameId ∧ (SharesBand target d ∨ NearColour target d)

instance (target d : GlobalDescriptor) : Decidable (SharesBand target d) := by
  unfold SharesBand
  infer_instance

instance (target d : GlobalDescriptor) : Decidable (NearColour target d) := by
  unfold NearColour
  infer_instance

instance (target d : GlobalDescriptor) : Decidable (Considered target d) := by
  unfold Considered
  infer_instance

/-- The match of a descriptor whose confirmation reaches the minimum. -/
def confirmed (target : GlobalDescriptor) (minimumSimilarity : Nat) (d : GlobalDescriptor) :
    Option GlobalSimilarityMatch :=
  match confirmationSimilarity target.normalizedRgb d.normalizedRgb with
  | .error _ => none
  | .ok similarity => if minimumSimilarity ≤ similarity then some ⟨d.frameId, similarity⟩ else none

/-- The naive query: a scan over all descriptors. -/
def naiveQuery (descriptors : List GlobalDescriptor) (targetFrame : Nat)
    (policy : GlobalSimilarityPolicy) : Except GlobalSimilarityError GlobalSimilarityQuery := do
  let policy ← policy.validate
  -- What the integers of the store cannot hold is refused.
  ensure (descriptors.length * indexKeysPerDescriptor < 2 ^ 64) (.numericRange "hash band count")
  ensure (targetFrame < 2 ^ 63) (.numericRange "frame id")
  let target ← okOr (descriptors.find? (·.frameId = targetFrame)) (.missingTarget targetFrame)
  let candidates := descriptors.filter (Considered target ·)
  let ranked := (candidates.filterMap (confirmed target policy.minimumSimilarity)).insertionSort
    rankedBefore
  .ok
    { targetFrame
      descriptorCount := descriptors.length
      candidateCount := candidates.length
      matchedCount := ranked.length
      truncated := decide (policy.maxResults < ranked.length)
      matchesFound := ranked.take policy.maxResults }

/-! ## Colour buckets -/

section Buckets

variable {red green blue : Nat}

theorem packBucket_eq (hRed : red < 32) (hGreen : green < 32) :
    packBucket red green blue = red + 32 * green + 1024 * blue := by
  have hLow := Nat.two_pow_add_eq_or_of_lt (i := 5) hRed green
  have hHigh := Nat.two_pow_add_eq_or_of_lt (i := 10) (b := 2 ^ 5 * green + red) (by omega) blue
  unfold packBucket
  rw [Nat.shiftLeft_eq, Nat.shiftLeft_eq, Nat.mul_comm green, Nat.mul_comm blue,
    Nat.lor_comm red, ← hLow, Nat.lor_comm, ← hHigh]
  omega

theorem packBucket_inj {r g b : Nat} (hRed : red < 32) (hGreen : green < 32) (hr : r < 32)
    (hg : g < 32) :
    packBucket red green blue = packBucket r g b ↔ red = r ∧ green = g ∧ blue = b := by
  rw [packBucket_eq hRed hGreen, packBucket_eq hr hg]
  omega

/-- The components of a packed bucket. -/
theorem colorBucketComponents_packBucket (hRed : red < 32) (hGreen : green < 32)
    (hBlue : blue < 32) :
    colorBucketComponents (packBucket red green blue) =
      ((red : Int), (green : Int), (blue : Int)) := by
  have hMask : ∀ n : Nat, n &&& 0x1f = n % 32 := fun n => Nat.and_two_pow_sub_one_eq_mod n 5
  unfold colorBucketComponents
  rw [packBucket_eq hRed hGreen, hMask, hMask, hMask, Nat.shiftRight_eq_div_pow,
    Nat.shiftRight_eq_div_pow]
  congr 1
  · omega
  · congr 1
    · omega
    · omega

theorem mem_nearbyComponents {c r : Nat} (hc : c ≤ 31) :
    r ∈ nearbyComponents (c : Int) ↔
      r ≤ 31 ∧ ((c : Int) - r).natAbs ≤ colorBucketRadius.toNat := by
  unfold nearbyComponents colorBucketRadius colorBucketComponentMax
  rw [List.mem_map]
  simp only [List.mem_range]
  constructor
  · rintro ⟨i, hi, rfl⟩
    omega
  · rintro ⟨hMax, hNear⟩
    exact ⟨(r - max (c - 2 : Int) 0).toNat, by omega, by omega⟩

theorem quantizedMean_le (bytes : List UInt8) (channel : Nat) : quantizedMean bytes channel ≤ 31 :=
  Nat.min_le_right _ _

/-- The bucket of a picture of the right size. -/
def bucketOf (bytes : List UInt8) : Nat :=
  packBucket (quantizedMean bytes 0) (quantizedMean bytes 1) (quantizedMean bytes 2)

/-- A bucket is among the nearby ones exactly when the colours are near. -/
theorem mem_nearbyColorBuckets {target d : GlobalDescriptor} :
    bucketOf d.normalizedRgb ∈ nearbyColorBuckets (bucketOf target.normalizedRgb) ↔
      NearColour target d := by
  have hLe := quantizedMean_le
  unfold nearbyColorBuckets bucketOf
  rw [colorBucketComponents_packBucket (Nat.lt_succ_of_le (hLe _ 0)) (Nat.lt_succ_of_le (hLe _ 1))
    (Nat.lt_succ_of_le (hLe _ 2))]
  simp only [List.mem_flatMap, List.mem_map]
  constructor
  · rintro ⟨r, hr, g, hg, b, hb, hPack⟩
    rw [mem_nearbyComponents (hLe _ _)] at hr hg hb
    obtain ⟨rfl, rfl, rfl⟩ := (packBucket_inj (Nat.lt_succ_of_le hr.1) (Nat.lt_succ_of_le hg.1)
      (Nat.lt_succ_of_le (hLe _ 0)) (Nat.lt_succ_of_le (hLe _ 1))).1 hPack
    intro channel hChannel
    interval_cases channel
    · exact hr.2
    · exact hg.2
    · exact hb.2
  · intro hNear
    refine ⟨_, (mem_nearbyComponents (hLe _ _)).2 ⟨hLe _ 0, hNear 0 (by decide)⟩, _,
      (mem_nearbyComponents (hLe _ _)).2 ⟨hLe _ 1, hNear 1 (by decide)⟩, _,
      (mem_nearbyComponents (hLe _ _)).2 ⟨hLe _ 2, hNear 2 (by decide)⟩, rfl⟩

end Buckets

/-! ## Stored descriptors -/

/-- The keys that a descriptor is indexed under. -/
def indexKeys (d : GlobalDescriptor) : List (Int × Int × Int) :=
  bandKeys d ++ [bucketKey (bucketOf d.normalizedRgb)]

def indexRows (d : GlobalDescriptor) : List BandRow := bandRows (indexKeys d) d.frameId

/-- The database of a list of descriptors. -/
def storedDatabase (key : GlobalSimilarityStoreKey) (state : Int) (count : Nat)
    (descriptors : List GlobalDescriptor) : GlobalDatabase where
  userVersion := globalSimilarityStoreSchemaVersion
  globalMeta := some ⟨state, some key.persisted, count⟩
  descriptors := descriptors.map fun d => descriptorRow d d.frameId
  bands := descriptors.flatMap indexRows
  quickCheck := "ok"

/-- Descriptors that `append` takes: numbered from zero, with whole pictures. -/
structure Stored (descriptors : List GlobalDescriptor) : Prop where
  ids : Consecutive (fun d : GlobalDescriptor => (d.frameId : Int)) 0 descriptors
  pictures : ∀ d ∈ descriptors, d.normalizedRgb.length = normalizedRgbBytes

structure Writes (key : GlobalSimilarityStoreKey) (writer : GlobalSimilarityStoreWriter)
    (written : List GlobalDescriptor) : Prop where
  flushed : ∃ done, written = done ++ writer.pending ∧
    writer.database = storedDatabase key stateBuilding 0 done
  next : writer.nextFrameId = written.length
  stored : Stored written

section Writing

variable {key : GlobalSimilarityStoreKey} {writer writer' : GlobalSimilarityStoreWriter}
  {written pending descriptors : List GlobalDescriptor} {d : GlobalDescriptor}
  {database database' : GlobalDatabase} {state : Int} {count : Nat}

theorem toSqlU64_eq_ok {value : Nat} {label : String} {v : Int} :
    toSqlU64 value label = .ok v ↔ value < 2 ^ 63 ∧ v = value := by
  unfold toSqlU64
  split_ifs with hFits
  · rw [Except.ok.injEq, eq_comm, and_iff_right hFits]
  · exact iff_of_false (by simp) fun h => hFits h.1

theorem fromSqlU64_natCast (value : Nat) (label : String) :
    fromSqlU64 (value : Int) label = .ok value := by
  unfold fromSqlU64
  rw [if_pos (Int.natCast_nonneg value), Int.toNat_natCast]

theorem insertBands_ok {rows : List BandRow} (h : rows.foldlM insertBand database = .ok database') :
    database' = { database with bands := database.bands ++ rows } := by
  induction rows generalizing database with
  | nil =>
      cases h
      rw [List.append_nil]
  | cons row rest ih =>
      rw [List.foldlM_cons, bind_eq_ok] at h
      obtain ⟨inserted, hRow, h⟩ := h
      unfold insertBand at hRow
      split_ifs at hRow
      cases hRow
      rw [ih h, List.append_assoc, List.singleton_append]

theorem colorBucket_eq_ok {bytes : List UInt8} {bucket : Nat} (h : colorBucket bytes = .ok bucket) :
    bucket = bucketOf bytes := by
  obtain ⟨_, _, h⟩ := bind_eq_ok.1 h
  cases h
  rfl

/-- A descriptor that is flushed adds its row and its nine index rows. -/
theorem flushDescriptor_ok (h : flushDescriptor database d = .ok database') :
    database' = { database with
      descriptors := database.descriptors ++ [descriptorRow d d.frameId]
      bands := database.bands ++ indexRows d } := by
  obtain ⟨id, hId, hRows⟩ := bind_eq_ok.1 h
  obtain ⟨-, rfl⟩ := toSqlU64_eq_ok.1 hId
  obtain ⟨inserted, hInserted, hIndex⟩ := bind_eq_ok.1 hRows
  obtain ⟨banded, hBanded, hColour⟩ := bind_eq_ok.1 hIndex
  obtain ⟨bucket, hBucket, hLast⟩ := bind_eq_ok.1 hColour
  unfold insertDescriptor at hInserted
  split_ifs at hInserted
  rw [insertBands_ok hLast, insertBands_ok hBanded, colorBucket_eq_ok hBucket,
    ← Except.ok.inj hInserted]
  simp [indexRows, indexKeys, bandRows]

theorem storedDatabase_concat (key : GlobalSimilarityStoreKey) (state : Int) (count : Nat)
    (written : List GlobalDescriptor) (d : GlobalDescriptor) :
    storedDatabase key state count (written ++ [d]) =
      { storedDatabase key state count written with
        descriptors := (storedDatabase key state count written).descriptors ++
          [descriptorRow d d.frameId]
        bands := (storedDatabase key state count written).bands ++ indexRows d } := by
  simp [storedDatabase]

theorem flushPending_ok (h : pending.foldlM flushDescriptor
    (storedDatabase key state count written) = .ok database') :
    database' = storedDatabase key state count (written ++ pending) := by
  induction pending generalizing written with
  | nil =>
      cases h
      rw [List.append_nil]
  | cons d rest ih =>
      rw [List.foldlM_cons, bind_eq_ok] at h
      obtain ⟨flushed, hFlushed, h⟩ := h
      have hNext : flushed = storedDatabase key state count (written ++ [d]) := by
        rw [flushDescriptor_ok hFlushed, storedDatabase_concat]
      rw [hNext] at h
      rw [ih h, List.append_assoc, List.singleton_append]

theorem Writes.flushBatch (h : Writes key writer written)
    (hOk : writer.flushBatch = .ok writer') :
    Writes key writer' written ∧ writer'.pending = [] := by
  obtain ⟨done, hWritten, hDatabase⟩ := h.flushed
  obtain ⟨database, hFlush, hOk⟩ := bind_eq_ok.1 hOk
  cases hOk
  rw [hDatabase] at hFlush
  have hAll := flushPending_ok hFlush
  rw [← hWritten] at hAll
  exact ⟨⟨⟨written, (List.append_nil _).symm, hAll⟩, h.next, h.stored⟩, rfl⟩

theorem Stored.concat (h : Stored written) (hId : d.frameId = written.length)
    (hPicture : d.normalizedRgb.length = normalizedRgbBytes) : Stored (written ++ [d]) where
  ids := by
    apply h.ids.append
    rw [Nat.zero_add]
    exact ⟨congrArg Int.ofNat hId, trivial⟩
  pictures := by
    intro x hx
    rcases List.mem_append.1 hx with hOld | hNew
    · exact h.pictures x hOld
    · rw [List.mem_singleton.1 hNew]
      exact hPicture

theorem Writes.push (h : Writes key writer written) (hOk : pushDescriptor writer d = .ok writer') :
    Writes key writer' (written ++ [d]) := by
  obtain ⟨_, hId, hOk⟩ := bind_eq_ok.1 hOk
  obtain ⟨_, hPicture, hOk⟩ := bind_eq_ok.1 hOk
  obtain ⟨next, hNext, hOk⟩ := bind_eq_ok.1 hOk
  rw [ensure_eq_ok, h.next] at hId
  unfold validateDescriptorBytes at hPicture
  rw [ensure_eq_ok] at hPicture
  rw [okOr_eq_ok, checkedAddU64_eq_some, h.next] at hNext
  cases hOk
  obtain ⟨done, hWritten, hDatabase⟩ := h.flushed
  refine ⟨⟨done, ?_, hDatabase⟩, ?_, h.stored.concat hId hPicture⟩
  · rw [hWritten, List.append_assoc]
  · rw [List.length_append]
    exact hNext.2

theorem Writes.append (h : Writes key writer written) (hOk : writer.append d = .ok writer') :
    Writes key writer' (written ++ [d]) := by
  rw [append_eq_push, bind_eq_ok] at hOk
  obtain ⟨pushed, hPush, hOk⟩ := hOk
  have hPushed := h.push hPush
  split_ifs at hOk
  · exact (hPushed.flushBatch hOk).1
  · cases hOk
    exact hPushed

theorem Writes.appendAll (h : Writes key writer written)
    (hOk : descriptors.foldlM GlobalSimilarityStoreWriter.append writer = .ok writer') :
    Writes key writer' (written ++ descriptors) := by
  induction descriptors generalizing writer written with
  | nil =>
      cases hOk
      rw [List.append_nil]
      exact h
  | cons d rest ih =>
      rw [List.foldlM_cons, bind_eq_ok] at hOk
      obtain ⟨appended, hAppend, hOk⟩ := hOk
      have hAll := ih (h.append hAppend) hOk
      rwa [List.append_assoc, List.singleton_append] at hAll

theorem writes_nothing (key : GlobalSimilarityStoreKey) :
    Writes key ⟨buildingDatabase key, 0, []⟩ [] :=
  ⟨⟨[], rfl, rfl⟩, rfl, ⟨trivial, by simp⟩⟩

/-- What a writer puts in place. -/
theorem Writes.finish_ok (h : Writes key writer written)
    (hOk : writer.finish = .ok (count, database)) :
    Stored written ∧ written.length < 2 ^ 63 ∧ count = written.length ∧
      database = storedDatabase key stateComplete written.length written := by
  obtain ⟨flushed, hFlush, hMarked⟩ := bind_eq_ok.1 hOk
  obtain ⟨n, hCount, hAnswer⟩ := bind_eq_ok.1 hMarked
  obtain ⟨hWrites, hNone⟩ := h.flushBatch hFlush
  obtain ⟨done, hWritten, hDatabase⟩ := hWrites.flushed
  rw [hNone, List.append_nil] at hWritten
  rw [hWrites.next, toSqlU64_eq_ok] at hCount
  rw [Except.ok.injEq, Prod.mk.injEq, hDatabase, hWrites.next, hCount.2, ← hWritten] at hAnswer
  exact ⟨hWrites.stored, hCount.1, hAnswer.1.symm, hAnswer.2.symm⟩

/-- What a writer has stored. -/
theorem store_ok (h : store key descriptors = .ok (count, database)) :
    Stored descriptors ∧ descriptors.length < 2 ^ 63 ∧ count = descriptors.length ∧
      database = storedDatabase key stateComplete descriptors.length descriptors := by
  obtain ⟨begun, hBegin, hFilled⟩ := bind_eq_ok.1 h
  obtain ⟨writer, hAppend, hFinish⟩ := bind_eq_ok.1 hFilled
  obtain ⟨_, _, hEmpty⟩ := bind_eq_ok.1 hBegin
  rw [← Except.ok.inj hEmpty] at hAppend
  have hAll := (writes_nothing key).appendAll hAppend
  rw [List.nil_append] at hAll
  exact hAll.finish_ok hFinish

/-! Conversely, numbered descriptors with whole pictures can be written. -/

theorem insertBands_fresh {rows : List BandRow} (hFresh : ∀ row ∈ rows, row ∉ database.bands)
    (hDistinct : rows.Nodup) :
    rows.foldlM insertBand database = .ok { database with bands := database.bands ++ rows } := by
  induction rows generalizing database with
  | nil =>
      rw [List.append_nil]
      rfl
  | cons row rest ih =>
      rw [List.nodup_cons] at hDistinct
      have hRow : insertBand database row =
          .ok { database with bands := database.bands ++ [row] } :=
        if_neg (hFresh row (List.mem_cons_self ..))
      have hRest := @ih { database with bands := database.bands ++ [row] } (by
        intro x hx hMem
        rcases List.mem_append.1 hMem with hOld | hNew
        · exact hFresh x (List.mem_cons_of_mem _ hx) hOld
        · rw [List.mem_singleton.1 hNew] at hx
          exact hDistinct.1 hx) hDistinct.2
      rw [List.foldlM_cons, hRow, ok_bind, hRest, List.append_assoc, List.singleton_append]

theorem indexRows_nodup (d : GlobalDescriptor) : (indexRows d).Nodup := by
  simp [indexRows, indexKeys, bandKeys, bucketKey, bandRows, hashBandsPerKind, List.range_succ]

theorem indexRows_append (d : GlobalDescriptor) :
    indexRows d = bandRows (bandKeys d) d.frameId ++
      bandRows [bucketKey (bucketOf d.normalizedRgb)] d.frameId := List.map_append

/-- A frame that is not there yet can be flushed. -/
theorem flushDescriptor_fresh (hId : d.frameId < 2 ^ 63)
    (hPicture : d.normalizedRgb.length = normalizedRgbBytes)
    (hDescriptor : ∀ row ∈ database.descriptors, row.frameId ≠ d.frameId)
    (hBands : ∀ row ∈ database.bands, row.frameId ≠ d.frameId) :
    flushDescriptor database d = .ok { database with
      descriptors := database.descriptors ++ [descriptorRow d d.frameId]
      bands := database.bands ++ indexRows d } := by
  have hNodup := indexRows_nodup d
  rw [indexRows_append, List.nodup_append] at hNodup
  have hInsert : insertDescriptor (descriptorRow d d.frameId) database =
      .ok { database with
        descriptors := database.descriptors ++ [descriptorRow d d.frameId] } := by
    apply if_neg
    rw [Bool.not_eq_true, List.any_eq_false]
    intro row hRow
    have hOther : row.frameId ≠ (descriptorRow d d.frameId).frameId := hDescriptor row hRow
    simpa using hOther
  have hRowId : ∀ keys, ∀ row ∈ bandRows keys (d.frameId : Int), row ∉ database.bands := by
    intro keys row hRow hMem
    obtain ⟨k, -, rfl⟩ := List.mem_map.1 hRow
    exact hBands _ hMem rfl
  have hBucket : colorBucket d.normalizedRgb = .ok (bucketOf d.normalizedRgb) :=
    bind_eq_ok.2 ⟨(), ensure_eq_ok.2 hPicture, rfl⟩
  unfold flushDescriptor
  rw [toSqlU64_eq_ok.2 ⟨hId, rfl⟩, ok_bind, hInsert, ok_bind,
    insertBands_fresh ?_ hNodup.1, ok_bind, hBucket, ok_bind, insertBands_fresh ?_ hNodup.2.1,
    indexRows_append, List.append_assoc]
  · intro row hRow hMem
    rcases List.mem_append.1 hMem with hOld | hNew
    · exact hRowId _ row hRow hOld
    · exact hNodup.2.2 row hNew row hRow rfl
  · exact hRowId _

theorem Stored.next {rest : List GlobalDescriptor} (h : Stored (written ++ d :: rest)) :
    d.frameId = written.length ∧ d.normalizedRgb.length = normalizedRgbBytes := by
  have hFirst : (d.frameId : Int) = (0 + written.length : Nat) := h.ids.append_right.1
  exact ⟨by omega, h.pictures d (by simp)⟩

theorem flushPending_stored (hStored : Stored (written ++ pending))
    (hFits : (written ++ pending).length ≤ 2 ^ 63) :
    ∃ database, pending.foldlM flushDescriptor (storedDatabase key state count written) =
      .ok database := by
  induction pending generalizing written with
  | nil => exact ⟨_, rfl⟩
  | cons d rest ih =>
      obtain ⟨hId, hPicture⟩ := hStored.next
      have hOld : ∀ x ∈ written, x.frameId < written.length := by
        intro x hx
        have hKey := (hStored.ids.take written.length).key_mem (by rwa [List.take_left])
        rw [List.take_left] at hKey
        omega
      have hSplit : written ++ d :: rest = written ++ [d] ++ rest := by simp
      rw [hSplit] at hStored hFits
      obtain ⟨database, hRest⟩ := ih hStored hFits
      rw [List.length_append, List.length_append, List.length_singleton] at hFits
      refine ⟨database, ?_⟩
      rw [List.foldlM_cons, flushDescriptor_fresh (by omega) hPicture, ok_bind,
        ← storedDatabase_concat, hRest]
      · intro row hRow
        obtain ⟨x, hx, rfl⟩ := List.mem_map.1 hRow
        have hLt := hOld x hx
        show (x.frameId : Int) ≠ d.frameId
        omega
      · intro row hRow
        obtain ⟨x, hx, hIndexed⟩ := List.mem_flatMap.1 hRow
        obtain ⟨k, -, rfl⟩ := List.mem_map.1 hIndexed
        have hLt := hOld x hx
        show (x.frameId : Int) ≠ d.frameId
        omega

theorem Writes.flushBatch_isOk (h : Writes key writer written)
    (hFits : written.length ≤ 2 ^ 63) : ∃ writer', writer.flushBatch = .ok writer' := by
  obtain ⟨done, hWritten, hDatabase⟩ := h.flushed
  have hStored := h.stored
  rw [hWritten] at hStored hFits
  obtain ⟨database, hFlush⟩ := flushPending_stored hStored hFits
  rw [← hDatabase] at hFlush
  exact ⟨_, bind_eq_ok.2 ⟨database, hFlush, rfl⟩⟩

theorem Writes.append_isOk (h : Writes key writer written) (hStored : Stored (written ++ [d]))
    (hFits : written.length < 2 ^ 63) : ∃ writer', writer.append d = .ok writer' := by
  obtain ⟨hId, hPicture⟩ := hStored.next
  obtain ⟨done, hWritten, hDatabase⟩ := h.flushed
  have hTaken : Writes key { writer with
      pending := writer.pending ++ [d]
      nextFrameId := writer.nextFrameId + 1 } (written ++ [d]) := by
    refine ⟨⟨done, ?_, hDatabase⟩, ?_, hStored⟩
    · rw [hWritten, List.append_assoc]
    · rw [List.length_append, List.length_singleton, h.next]
  have hNext : checkedAddU64 writer.nextFrameId 1 = some (writer.nextFrameId + 1) := by
    rw [checkedAddU64_eq_some, h.next]
    exact ⟨by omega, rfl⟩
  unfold GlobalSimilarityStoreWriter.append validateDescriptorBytes
  rw [ensure_true (hId.trans h.next.symm), ok_bind, ensure_true hPicture, ok_bind, hNext]
  show ∃ writer', (if writeBatchDescriptors ≤ (writer.pending ++ [d]).length then _ else _) = _
  split_ifs
  · exact hTaken.flushBatch_isOk (by simpa using hFits)
  · exact ⟨_, rfl⟩

theorem Writes.appendAll_isOk (h : Writes key writer written)
    (hStored : Stored (written ++ descriptors))
    (hFits : (written ++ descriptors).length ≤ 2 ^ 63) :
    ∃ writer', descriptors.foldlM GlobalSimilarityStoreWriter.append writer = .ok writer' := by
  induction descriptors generalizing writer written with
  | nil => exact ⟨writer, rfl⟩
  | cons d rest ih =>
      have hSplit : written ++ d :: rest = written ++ [d] ++ rest := by simp
      have hFirst : Stored (written ++ [d]) :=
        h.stored.concat hStored.next.1 hStored.next.2
      rw [hSplit] at hStored hFits
      have hRoom : written.length < 2 ^ 63 := by
        rw [List.length_append, List.length_append, List.length_singleton] at hFits
        omega
      obtain ⟨appended, hAppend⟩ := h.append_isOk hFirst hRoom
      obtain ⟨writer', hRest⟩ := ih (h.append hAppend) hStored hFits
      exact ⟨writer', by rw [List.foldlM_cons, hAppend, ok_bind, hRest]⟩

theorem Writes.finish_isOk (h : Writes key writer written) (hFits : written.length < 2 ^ 63) :
    ∃ answer, writer.finish = .ok answer := by
  obtain ⟨flushed, hFlush⟩ := h.flushBatch_isOk hFits.le
  have hNext : flushed.nextFrameId < 2 ^ 63 := by
    rw [(h.flushBatch hFlush).1.next]
    exact hFits
  unfold GlobalSimilarityStoreWriter.finish
  rw [hFlush, ok_bind, toSqlU64_eq_ok.2 ⟨hNext, rfl⟩, ok_bind]
  exact ⟨_, rfl⟩

/-- Numbered descriptors with whole pictures can be stored. -/
theorem store_stored (key : GlobalSimilarityStoreKey)
    (hSafe : key.source.isReuseSafe = true) (hStored : Stored descriptors)
    (hFits : descriptors.length < 2 ^ 63) :
    store key descriptors = .ok (descriptors.length,
      storedDatabase key stateComplete descriptors.length descriptors) := by
  have hNothing := writes_nothing key
  obtain ⟨writer, hAppend⟩ := hNothing.appendAll_isOk hStored hFits.le
  have hAll := hNothing.appendAll hAppend
  rw [List.nil_append] at hAll
  have hOk : ∃ answer, store key descriptors = .ok answer := by
    unfold store begin
    rw [ensure_true hSafe, ok_bind, ok_bind, hAppend, ok_bind]
    exact hAll.finish_isOk hFits
  obtain ⟨⟨count, database⟩, hStore⟩ := hOk
  obtain ⟨-, -, hCount, hDatabase⟩ := store_ok hStore
  rw [hStore, hCount, hDatabase]

end Writing

/-! ## What is stored is accepted -/

section Loading

variable {key : GlobalSimilarityStoreKey} {descriptors : List GlobalDescriptor} {state : Int}
  {count n : Nat}

theorem indexRows_frameIds (d : GlobalDescriptor) :
    (indexRows d).map (·.frameId) = List.replicate indexKeysPerDescriptor (d.frameId : Int) := rfl

/-- Every stored frame has nine rows in the index. -/
theorem count_indexRows (h : Consecutive (fun d : GlobalDescriptor => (d.frameId : Int)) n
    descriptors) (id : Int) :
    ((descriptors.flatMap indexRows).map (·.frameId)).count id =
      if n ≤ id ∧ id < n + descriptors.length then indexKeysPerDescriptor else 0 := by
  induction descriptors generalizing n with
  | nil =>
      rw [if_neg (by simp)]
      rfl
  | cons d rest ih =>
      have hFirst : (d.frameId : Int) = n := h.1
      rw [List.flatMap_cons, List.map_append, List.count_append, ih h.2, indexRows_frameIds,
        List.count_replicate, hFirst, List.length_cons]
      by_cases hEq : (n : Int) = id
      · rw [if_pos (by simpa using hEq), if_neg (by omega), if_pos (by omega), Nat.add_zero]
      · rw [if_neg (by simpa using hEq), Nat.zero_add]
        congr 1
        rw [eq_iff_iff]
        omega

theorem wrongBandCounts_stored (h : Stored descriptors) :
    wrongBandCounts (descriptors.flatMap indexRows) = [] := by
  show List.filter _ _ = []
  rw [List.filter_eq_nil_iff]
  intro id hId
  rw [List.mem_dedup] at hId
  have hCount := count_indexRows h.ids id
  have hPos := List.count_pos_iff.2 hId
  simp only [ne_eq, decide_not, Bool.not_eq_eq_eq_not, Bool.not_true, decide_eq_false_iff_not,
    not_not]
  rw [hCount] at hPos ⊢
  split_ifs at hPos ⊢
  · rfl
  · exact absurd hPos (Nat.lt_irrefl 0)

theorem length_indexRows (descriptors : List GlobalDescriptor) :
    (descriptors.flatMap indexRows).length = descriptors.length * indexKeysPerDescriptor := by
  induction descriptors with
  | nil => rfl
  | cons d rest ih =>
      rw [List.flatMap_cons, List.length_append, ih, List.length_cons, Nat.succ_mul,
        Nat.add_comm]
      rfl

theorem frameIdsFill_stored (h : Stored descriptors) (hFits : descriptors.length < 2 ^ 63) :
    frameIdsFill ((storedDatabase key state count descriptors).descriptors.map (·.frameId))
      descriptors.length = .ok true := by
  have hIds : (storedDatabase key state count descriptors).descriptors.map (·.frameId) =
      descriptors.map fun d => (d.frameId : Int) := by
    show List.map _ (List.map _ _) = _
    rw [List.map_map]
    rfl
  unfold frameIdsFill
  rw [hIds]
  by_cases hNone : descriptors = []
  · rw [hNone]
    rfl
  rw [if_neg (by rwa [List.length_eq_zero_iff]), h.ids.min?_keys hNone, h.ids.max?_keys hNone,
    if_neg (by simp)]
  exact bind_eq_ok.2 ⟨_, toSqlU64_eq_ok.2 ⟨by omega, rfl⟩, by simp⟩

/-- The rows of a stored list are accepted, if the index rows can be counted. -/
theorem validateRows_stored (key : GlobalSimilarityStoreKey) (state : Int) (count : Nat)
    (h : Stored descriptors) (hFits : descriptors.length < 2 ^ 63) :
    validateRows (storedDatabase key state count descriptors) descriptors.length = (do
      ensure (descriptors.length * indexKeysPerDescriptor < 2 ^ 64) (.numericRange "hash band count")
      .ok true) := by
  have hPictures : (storedDatabase key state count descriptors).descriptors.any
      (fun row => row.normalizedRgb.length ≠ normalizedRgbBytes) = false := by
    rw [List.any_eq_false]
    intro row hRow
    obtain ⟨d, hd, rfl⟩ := List.mem_map.1 hRow
    have hPicture : (descriptorRow d d.frameId).normalizedRgb.length = normalizedRgbBytes :=
      h.pictures d hd
    simpa using hPicture
  have hLength : (storedDatabase key state count descriptors).descriptors.length =
      descriptors.length := List.length_map _
  unfold validateRows
  rw [hLength, fromSqlU64_natCast, ok_bind, if_neg (by simp), frameIdsFill_stored h hFits, ok_bind,
    if_neg (by simp), hPictures, if_neg (by simp)]
  by_cases hBands : descriptors.length * indexKeysPerDescriptor < 2 ^ 64
  · have hChecked : checkedMulU64 descriptors.length indexKeysPerDescriptor =
        some (descriptors.length * indexKeysPerDescriptor) :=
      checkedMulU64_eq_some.2 ⟨hBands, rfl⟩
    rw [hChecked, ensure_true hBands]
    show (do
      let bandCount ← fromSqlU64 ((descriptors.flatMap indexRows).length : Int) "hash band count"
      if bandCount ≠ descriptors.length * indexKeysPerDescriptor then .ok false
      else .ok (decide (wrongBandCounts (descriptors.flatMap indexRows) = []))) = .ok true
    rw [fromSqlU64_natCast, ok_bind, if_neg (by rw [length_indexRows]; simp),
      wrongBandCounts_stored h]
    rfl
  · have hChecked : checkedMulU64 descriptors.length indexKeysPerDescriptor = none := if_neg hBands
    rw [hChecked, ensure_false hBands]
    rfl

/-- A stored list is accepted, if the index rows can be counted. -/
theorem load_stored (h : Stored descriptors) (hFits : descriptors.length < 2 ^ 63) :
    load (some (storedDatabase key stateComplete descriptors.length descriptors)) key
      descriptors.length = (do
        ensure (descriptors.length * indexKeysPerDescriptor < 2 ^ 64)
          (.numericRange "hash band count")
        .ok (.reused descriptors.length)) := by
  unfold load
  simp only [storedDatabase, ne_eq, not_true_eq_false, if_false]
  rw [fromSqlU64_natCast, ok_bind, if_neg (by simp)]
  have hRows := validateRows_stored key stateComplete descriptors.length h hFits
  unfold storedDatabase at hRows
  rw [hRows]
  by_cases hBands : descriptors.length * indexKeysPerDescriptor < 2 ^ 64
  · rw [ensure_true hBands]
    rfl
  · rw [ensure_false hBands]
    rfl

end Loading

/-! ## Reading the rows -/

section Reading

variable {key : GlobalSimilarityStoreKey} {descriptors : List GlobalDescriptor} {state : Int}
  {count : Nat} {target d : GlobalDescriptor}

/-- Looking a frame up is indexing. -/
theorem readDescriptor_stored (h : Stored descriptors) (frameId : Nat) :
    readDescriptor (storedDatabase key state count descriptors) frameId = (do
      ensure (frameId < 2 ^ 63) (.numericRange "frame id")
      .ok descriptors[frameId]?) := by
  by_cases hFits : frameId < 2 ^ 63
  · have hFind : (storedDatabase key state count descriptors).descriptors.find?
        (fun row => row.frameId == (frameId : Int)) =
        (descriptors[frameId]?).map fun d => descriptorRow d d.frameId := by
      show List.find? _ (List.map _ _) = _
      rw [List.find?_map, ← h.ids.find?]
      rfl
    unfold readDescriptor
    rw [toSqlU64_eq_ok.2 ⟨hFits, rfl⟩, ok_bind, hFind, ensure_true hFits, ok_bind]
    cases hRow : descriptors[frameId]? with
    | none => rfl
    | some d =>
        have hId : d.frameId = frameId := by
          have hKey := h.ids.key_eq hRow
          omega
        have hPicture := h.pictures d (List.mem_of_getElem? hRow)
        show (do
          validateDescriptorBytes d.normalizedRgb
          .ok (some (⟨frameId, BitVec.ofInt 64 d.averageHash.toInt,
            BitVec.ofInt 64 d.differenceHash.toInt, d.normalizedRgb⟩ : GlobalDescriptor))) = _
        unfold validateDescriptorBytes
        rw [ensure_true hPicture, ok_bind, BitVec.ofInt_toInt, BitVec.ofInt_toInt, ← hId]
  · unfold readDescriptor toSqlU64
    rw [if_neg hFits, ensure_false hFits]
    rfl

theorem find?_stored (h : Stored descriptors) (frameId : Nat) :
    descriptors.find? (fun d => d.frameId = frameId) = descriptors[frameId]? := by
  rw [← h.ids.find?]
  congr 1
  funext d
  rw [Bool.eq_iff_iff]
  simp

theorem Stored.getElem?_frameId (h : Stored descriptors) (hd : d ∈ descriptors) :
    descriptors[d.frameId]? = some d := by
  obtain ⟨i, hi⟩ := List.mem_iff_getElem?.1 hd
  have hKey := h.ids.key_eq hi
  have hId : d.frameId = i := by omega
  rw [hId, hi]

theorem Stored.frameId_lt (h : Stored descriptors) (hd : d ∈ descriptors) :
    d.frameId < descriptors.length := by
  have hKey := h.ids.key_mem hd
  omega

theorem Stored.ascending (h : Stored descriptors) :
    (descriptors.map (·.frameId)).Pairwise (· < ·) := by
  rw [List.pairwise_map, List.pairwise_iff_getElem]
  intro i j hi hj hLt
  have hFirst := h.ids.key_eq (List.getElem?_eq_getElem hi)
  have hSecond := h.ids.key_eq (List.getElem?_eq_getElem hj)
  omega

end Reading

/-! ## Candidates -/

section Candidates

variable {key : GlobalSimilarityStoreKey} {descriptors : List GlobalDescriptor} {state : Int}
  {count expectedFrameCount : Nat} {target d : GlobalDescriptor}

/-- A key finds the frames that are stored under it. -/
theorem mem_lookupBand {k : Int × Int × Int} {raw : Int} :
    raw ∈ lookupBand (storedDatabase key state count descriptors) k.1 k.2.1 k.2.2 ↔
      ∃ d ∈ descriptors, k ∈ indexKeys d ∧ (d.frameId : Int) = raw := by
  unfold lookupBand
  rw [List.mem_map]
  constructor
  · intro ⟨row, hRow, hRaw⟩
    rw [List.mem_filter, decide_eq_true_iff] at hRow
    obtain ⟨d, hd, hIndexed⟩ := List.mem_flatMap.1 hRow.1
    obtain ⟨stored, hStored, rfl⟩ := List.mem_map.1 hIndexed
    have hKey : stored = k := Prod.ext hRow.2.1 (Prod.ext hRow.2.2.1 hRow.2.2.2)
    exact ⟨d, hd, hKey ▸ hStored, hRaw⟩
  · intro ⟨d, hd, hKey, hRaw⟩
    refine ⟨⟨k.1, k.2.1, k.2.2, d.frameId⟩, ?_, hRaw⟩
    rw [List.mem_filter, decide_eq_true_iff]
    exact ⟨List.mem_flatMap.2 ⟨d, hd, List.mem_map.2 ⟨k, hKey, rfl⟩⟩, rfl, rfl, rfl⟩

/-- The loop over the rows that were found keeps every other frame, once. -/
theorem collectRows_ok (targetFrame : Nat) (candidateIds : Finset Nat) {ids : List Int}
    (hIds : ∀ raw ∈ ids, 0 ≤ raw ∧ raw < expectedFrameCount) :
    ∃ collected, ids.foldlM (collectCandidate targetFrame expectedFrameCount) candidateIds =
        .ok collected ∧
      ∀ i, i ∈ collected ↔ i ∈ candidateIds ∨ i ≠ targetFrame ∧ (i : Int) ∈ ids := by
  induction ids generalizing candidateIds with
  | nil => exact ⟨candidateIds, rfl, by simp⟩
  | cons raw rest ih =>
      obtain ⟨hLow, hHigh⟩ := hIds raw (List.mem_cons_self ..)
      have hStep : collectCandidate targetFrame expectedFrameCount candidateIds raw =
          .ok (if raw.toNat ≠ targetFrame then insert raw.toNat candidateIds else candidateIds) := by
        unfold collectCandidate
        rw [ensure_true hLow, ok_bind]
        dsimp only
        rw [ensure_true (by omega), ok_bind]
      obtain ⟨collected, hRest, hMem⟩ := ih
        (if raw.toNat ≠ targetFrame then insert raw.toNat candidateIds else candidateIds)
        fun x hx => hIds x (List.mem_cons_of_mem _ hx)
      refine ⟨collected, ?_, ?_⟩
      · rw [List.foldlM_cons, hStep, ok_bind, hRest]
      · intro i
        rw [hMem, List.mem_cons]
        have hEq : i = raw.toNat ↔ (i : Int) = raw := by omega
        by_cases hTarget : raw.toNat = targetFrame
        · rw [if_neg (by simpa using hTarget)]
          grind
        · rw [if_pos hTarget, Finset.mem_insert]
          grind

theorem collectCandidates_stored (key : GlobalSimilarityStoreKey) (state : Int)
    (count targetFrame : Nat) (keys : List (Int × Int × Int)) (candidateIds : Finset Nat)
    (h : Stored descriptors) :
    ∃ collected, collectCandidates (storedDatabase key state count descriptors) targetFrame
        descriptors.length keys candidateIds = .ok collected ∧
      ∀ i, i ∈ collected ↔ i ∈ candidateIds ∨
        i ≠ targetFrame ∧ ∃ d ∈ descriptors, (∃ k ∈ keys, k ∈ indexKeys d) ∧ d.frameId = i := by
  have hFound : ∀ raw, raw ∈ (keys.flatMap fun k => lookupBand
      (storedDatabase key state count descriptors) k.1 k.2.1 k.2.2) ↔
      ∃ d ∈ descriptors, (∃ k ∈ keys, k ∈ indexKeys d) ∧ (d.frameId : Int) = raw := by
    intro raw
    simp only [List.mem_flatMap, mem_lookupBand]
    grind
  have hRange : ∀ raw ∈ (keys.flatMap fun k => lookupBand
      (storedDatabase key state count descriptors) k.1 k.2.1 k.2.2),
      0 ≤ raw ∧ raw < descriptors.length := by
    intro raw hRaw
    obtain ⟨d, hd, -, rfl⟩ := (hFound raw).1 hRaw
    have hLt := h.frameId_lt hd
    omega
  obtain ⟨collected, hOk, hMem⟩ := collectRows_ok targetFrame candidateIds hRange
  refine ⟨collected, hOk, ?_⟩
  intro i
  rw [hMem, hFound]
  simp only [Nat.cast_inj]

theorem mem_bandKeys {k : Int × Int × Int} :
    k ∈ bandKeys d ↔ ∃ band < hashBandsPerKind,
      k = (0, (band : Int), (bandValue d.averageHash band : Int)) ∨
        k = (1, (band : Int), (bandValue d.differenceHash band : Int)) := by
  unfold bandKeys
  simp only [List.flatMap_cons, List.flatMap_nil, List.append_nil, List.mem_append, List.mem_map,
    List.mem_range]
  constructor
  · rintro (⟨band, hBand, rfl⟩ | ⟨band, hBand, rfl⟩)
    · exact ⟨band, hBand, .inl rfl⟩
    · exact ⟨band, hBand, .inr rfl⟩
  · rintro ⟨band, hBand, rfl | rfl⟩
    · exact .inl ⟨band, hBand, rfl⟩
    · exact .inr ⟨band, hBand, rfl⟩

/-- The kind of a key keeps bands and buckets apart. -/
theorem bandKey_mem_indexKeys {k : Int × Int × Int} (hk : k ∈ bandKeys target) :
    k ∈ indexKeys d ↔ k ∈ bandKeys d := by
  unfold indexKeys
  rw [List.mem_append, List.mem_singleton, or_iff_left]
  intro hBucket
  obtain ⟨band, -, hEq | hEq⟩ := mem_bandKeys.1 hk
  · exact absurd (congrArg Prod.fst (hEq.symm.trans hBucket)) (by decide : (0 : Int) ≠ 2)
  · exact absurd (congrArg Prod.fst (hEq.symm.trans hBucket)) (by decide : (1 : Int) ≠ 2)

theorem bucketKey_mem_indexKeys {bucket : Nat} :
    bucketKey bucket ∈ indexKeys d ↔ bucket = bucketOf d.normalizedRgb := by
  unfold indexKeys
  rw [List.mem_append, List.mem_singleton, or_iff_right]
  · simp only [bucketKey, Prod.mk.injEq, true_and, Nat.cast_inj]
  · intro hBand
    obtain ⟨band, -, hEq | hEq⟩ := mem_bandKeys.1 hBand
    · exact absurd (congrArg Prod.fst hEq) (by decide : (2 : Int) ≠ 0)
    · exact absurd (congrArg Prod.fst hEq) (by decide : (2 : Int) ≠ 1)

/-- Looking the target's bands up finds the descriptors that share one. -/
theorem bands_find_iff :
    (∃ k ∈ bandKeys target, k ∈ indexKeys d) ↔ SharesBand target d := by
  constructor
  · intro ⟨k, hTarget, hKey⟩
    rw [bandKey_mem_indexKeys hTarget] at hKey
    obtain ⟨band, hBand, hEq⟩ := mem_bandKeys.1 hTarget
    obtain ⟨band', -, hEq'⟩ := mem_bandKeys.1 hKey
    refine ⟨band, hBand, ?_⟩
    grind
  · intro ⟨band, hBand, hShared⟩
    rcases hShared with hAverage | hDifference
    · have hTarget := (mem_bandKeys (d := target)).2 ⟨band, hBand, .inl rfl⟩
      exact ⟨_, hTarget, (bandKey_mem_indexKeys hTarget).2
        (mem_bandKeys.2 ⟨band, hBand, .inl (by rw [hAverage])⟩)⟩
    · have hTarget := (mem_bandKeys (d := target)).2 ⟨band, hBand, .inr rfl⟩
      exact ⟨_, hTarget, (bandKey_mem_indexKeys hTarget).2
        (mem_bandKeys.2 ⟨band, hBand, .inr (by rw [hDifference])⟩)⟩

/-- Looking the nearby buckets up finds the descriptors with a near colour. -/
theorem buckets_find_iff :
    (∃ k ∈ (nearbyColorBuckets (bucketOf target.normalizedRgb)).map bucketKey, k ∈ indexKeys d) ↔
      NearColour target d := by
  rw [← mem_nearbyColorBuckets]
  constructor
  · intro ⟨k, hNear, hKey⟩
    obtain ⟨bucket, hBucket, rfl⟩ := List.mem_map.1 hNear
    rwa [bucketKey_mem_indexKeys.1 hKey] at hBucket
  · intro hBucket
    exact ⟨_, List.mem_map_of_mem hBucket, bucketKey_mem_indexKeys.2 rfl⟩

end Candidates

/-! ## Ranking -/

section Ranking

variable {descriptors considered : List GlobalDescriptor} {minimumSimilarity : Nat}
  {target : GlobalDescriptor}

theorem confirmationSimilarity_ok {left right : List UInt8}
    (hLeft : left.length = normalizedRgbBytes) (hRight : right.length = normalizedRgbBytes) :
    ∃ similarity, confirmationSimilarity left right = .ok similarity := by
  unfold confirmationSimilarity validateDescriptorBytes
  rw [ensure_true hLeft, ensure_true hRight]
  exact ⟨_, rfl⟩

/-- The loop over the candidates is a filter of their descriptors. -/
theorem confirmCandidates_stored (key : GlobalSimilarityStoreKey) (state : Int)
    (count minimumSimilarity : Nat) (h : Stored descriptors) (hFits : descriptors.length < 2 ^ 63)
    (hTarget : target.normalizedRgb.length = normalizedRgbBytes)
    (hConsidered : ∀ d ∈ considered, d ∈ descriptors) :
    confirmCandidates (storedDatabase key state count descriptors) target minimumSimilarity
        (considered.map (·.frameId)) =
      .ok (considered.filterMap (confirmed target minimumSimilarity)) := by
  induction considered with
  | nil => rfl
  | cons d rest ih =>
      have hd := hConsidered d (List.mem_cons_self ..)
      have hLt := h.frameId_lt hd
      obtain ⟨similarity, hSimilarity⟩ := confirmationSimilarity_ok hTarget (h.pictures d hd)
      have hRest := ih fun x hx => hConsidered x (List.mem_cons_of_mem _ hx)
      have hConfirmed : confirmed target minimumSimilarity d =
          if minimumSimilarity ≤ similarity then some ⟨d.frameId, similarity⟩ else none := by
        unfold confirmed
        rw [hSimilarity]
      rw [List.map_cons, List.filterMap_cons, hConfirmed]
      rw [confirmCandidates, readDescriptor_stored h, ensure_true (by omega), ok_bind,
        h.getElem?_frameId hd, ok_bind, okOr, ok_bind, hSimilarity, ok_bind, hRest, ok_bind]
      by_cases hReaches : minimumSimilarity ≤ similarity
      · rw [if_pos hReaches, if_pos hReaches]
      · rw [if_neg hReaches, if_neg hReaches]

instance : Std.Total rankedBefore where
  total a b := by
    unfold rankedBefore
    omega

instance : IsTrans GlobalSimilarityMatch rankedBefore where
  trans a b c := by
    unfold rankedBefore
    omega

instance : Std.Antisymm rankedBefore where
  antisymm a b := by
    intro hab hba
    have hBoth : a.frameId = b.frameId ∧ a.similarity = b.similarity := by
      unfold rankedBefore at hab hba
      omega
    cases a
    cases b
    rw [GlobalSimilarityMatch.mk.injEq]
    exact hBoth

/-- Any two ways to sort the matches agree. -/
theorem mergeSort_rankedBefore (found : List GlobalSimilarityMatch) :
    (found.mergeSort fun left right => decide (rankedBefore left right)) =
      found.insertionSort rankedBefore :=
  List.mergeSort_eq_insertionSort rankedBefore found

/-- A match is for the descriptor it was made of. -/
theorem confirmed_frameId {d : GlobalDescriptor} {found : GlobalSimilarityMatch}
    (h : confirmed target minimumSimilarity d = some found) : found.frameId = d.frameId := by
  unfold confirmed at h
  split at h
  · cases h
  · split_ifs at h
    cases h
    rfl

theorem confirmed_nodup (h : (considered.map (·.frameId)).Nodup) :
    ((considered.filterMap (confirmed target minimumSimilarity)).map (·.frameId)).Nodup := by
  apply List.Nodup.sublist ?_ h
  induction considered with
  | nil => exact List.Sublist.slnil
  | cons d rest ih =>
      have hRest := ih (List.nodup_cons.1 h).2
      cases hFound : confirmed target minimumSimilarity d with
      | none =>
          rw [List.filterMap_cons_none hFound, List.map_cons]
          exact hRest.cons _
      | some found =>
          rw [List.filterMap_cons_some hFound, List.map_cons, List.map_cons,
            confirmed_frameId hFound]
          exact hRest.cons_cons _

end Ranking

/-! ## The query -/

section Query

variable {key : GlobalSimilarityStoreKey} {descriptors : List GlobalDescriptor} {state : Int}
  {count targetFrame : Nat} {target : GlobalDescriptor} {database : GlobalDatabase}

/-- The candidates that the lookups collect, listed in order, are the descriptors
that a scan considers. -/
theorem sort_candidates (h : Stored descriptors) {collected : Finset Nat}
    (hMem : ∀ i, i ∈ collected ↔ ∃ d ∈ descriptors, Considered target d ∧ d.frameId = i) :
    collected.sort = (descriptors.filter (Considered target ·)).map (·.frameId) := by
  have hAscending : ((descriptors.filter (Considered target ·)).map (·.frameId)).Pairwise
      (· < ·) := h.ascending.sublist (List.filter_sublist.map _)
  have hCollected : collected =
      ((descriptors.filter (Considered target ·)).map (·.frameId)).toFinset := by
    ext i
    rw [hMem, List.mem_toFinset, List.mem_map]
    simp only [List.mem_filter, decide_eq_true_eq, and_assoc]
  rw [hCollected, List.toFinset_sort _ (hAscending.imp Nat.ne_of_lt)]
  exact hAscending.imp Nat.le_of_lt

/-- A target that is stored. -/
theorem queryDatabase_stored (h : Stored descriptors) (hFits : descriptors.length < 2 ^ 63)
    (hTarget : descriptors[targetFrame]? = some target) (policy : GlobalSimilarityPolicy) :
    let candidates := descriptors.filter (Considered target ·)
    let ranked := (candidates.filterMap (confirmed target policy.minimumSimilarity)).insertionSort
      rankedBefore
    queryDatabase (storedDatabase key state count descriptors) descriptors.length targetFrame
      policy = .ok
        { targetFrame
          descriptorCount := descriptors.length
          candidateCount := candidates.length
          matchedCount := ranked.length
          truncated := decide (policy.maxResults < ranked.length)
          matchesFound := ranked.take policy.maxResults } := by
  have hMemTarget := List.mem_of_getElem? hTarget
  have hLt := (List.getElem?_eq_some_iff.1 hTarget).1
  have hId : target.frameId = targetFrame := by
    have hKey := h.ids.key_eq hTarget
    omega
  have hPicture := h.pictures target hMemTarget
  have hBucket : colorBucket target.normalizedRgb = .ok (bucketOf target.normalizedRgb) :=
    bind_eq_ok.2 ⟨(), ensure_eq_ok.2 hPicture, rfl⟩
  obtain ⟨banded, hBanded, hMemBanded⟩ := collectCandidates_stored key state count targetFrame
    (bandKeys target) ∅ h
  obtain ⟨collected, hCollected, hMem⟩ := collectCandidates_stored key state count targetFrame
    ((nearbyColorBuckets (bucketOf target.normalizedRgb)).map bucketKey) banded h
  have hConsidered : ∀ i, i ∈ collected ↔
      ∃ d ∈ descriptors, Considered target d ∧ d.frameId = i := by
    intro i
    rw [hMem, hMemBanded]
    simp only [bands_find_iff, buckets_find_iff, Considered, hId]
    grind
  have hSort := sort_candidates h hConsidered
  have hCard : collected.card = (descriptors.filter (Considered target ·)).length := by
    rw [← Finset.length_sort (· ≤ ·), hSort, List.length_map]
  have hConfirm := confirmCandidates_stored key state count policy.minimumSimilarity h hFits
    hPicture fun d (hd : d ∈ descriptors.filter (Considered target ·)) => (List.mem_filter.1 hd).1
  intro candidates ranked
  unfold queryDatabase
  rw [readDescriptor_stored h, ensure_true (by omega), ok_bind, hTarget, ok_bind, okOr, ok_bind,
    hBanded, ok_bind, hBucket, ok_bind, hCollected, ok_bind, hSort, hConfirm, ok_bind]
  simp only [mergeSort_rankedBefore, hCard]
  rfl

/-- Every target: the refusals of a query come in the order of the scan's. -/
theorem queryDatabase_naive (h : Stored descriptors) (hFits : descriptors.length < 2 ^ 63)
    (targetFrame : Nat) (policy : GlobalSimilarityPolicy) :
    queryDatabase (storedDatabase key state count descriptors) descriptors.length targetFrame
      policy = (do
        ensure (targetFrame < 2 ^ 63) (.numericRange "frame id")
        let target ← okOr descriptors[targetFrame]? (.missingTarget targetFrame)
        let candidates := descriptors.filter (Considered target ·)
        let ranked := (candidates.filterMap
          (confirmed target policy.minimumSimilarity)).insertionSort rankedBefore
        .ok
          { targetFrame
            descriptorCount := descriptors.length
            candidateCount := candidates.length
            matchedCount := ranked.length
            truncated := decide (policy.maxResults < ranked.length)
            matchesFound := ranked.take policy.maxResults }) := by
  by_cases hRange : targetFrame < 2 ^ 63
  · rw [ensure_true hRange, ok_bind]
    cases hTarget : descriptors[targetFrame]? with
    | none =>
        unfold queryDatabase
        rw [readDescriptor_stored h, ensure_true hRange, ok_bind, hTarget]
        rfl
    | some target => exact queryDatabase_stored h hFits hTarget policy
  · unfold queryDatabase
    rw [readDescriptor_stored h, ensure_false hRange]
    rfl

theorem naiveQuery_nodup (h : Stored descriptors) {policy : GlobalSimilarityPolicy}
    {answer : GlobalSimilarityQuery} (hAnswer : naiveQuery descriptors targetFrame policy =
      .ok answer) : (answer.matchesFound.map (·.frameId)).Nodup := by
  obtain ⟨valid, _, hRest⟩ := bind_eq_ok.1 hAnswer
  obtain ⟨_, _, hRest⟩ := bind_eq_ok.1 hRest
  obtain ⟨_, _, hRest⟩ := bind_eq_ok.1 hRest
  obtain ⟨target, _, hRest⟩ := bind_eq_ok.1 hRest
  have hConsidered : ((descriptors.filter (Considered target ·)).map (·.frameId)).Nodup :=
    (h.ascending.sublist (List.filter_sublist.map _)).imp Nat.ne_of_lt
  rw [← Except.ok.inj hRest]
  show (List.map _ (List.take _ _)).Nodup
  rw [List.map_take]
  refine List.Nodup.sublist (List.take_sublist _ _) ?_
  refine (List.Perm.nodup_iff ((List.perm_insertionSort rankedBefore _).map _)).2 ?_
  exact confirmed_nodup hConsidered

/-- A query of a stored list answers what a scan answers, and no frame twice. -/
theorem query_eq_naiveQuery (hStore : store key descriptors = .ok (count, database))
    (targetFrame : Nat) (policy : GlobalSimilarityPolicy) :
    query (some database) key descriptors.length targetFrame policy =
        naiveQuery descriptors targetFrame policy ∧
      ∀ answer, query (some database) key descriptors.length targetFrame policy = .ok answer →
        (answer.matchesFound.map (·.frameId)).Nodup := by
  obtain ⟨hStored, hFits, -, rfl⟩ := store_ok hStore
  have hEq : query (some (storedDatabase key stateComplete descriptors.length descriptors)) key
      descriptors.length targetFrame policy = naiveQuery descriptors targetFrame policy := by
    unfold query naiveQuery
    rw [load_stored hStored hFits, find?_stored hStored]
    cases policy.validate with
    | error error => rfl
    | ok valid =>
        by_cases hBands : descriptors.length * indexKeysPerDescriptor < 2 ^ 64
        · rw [ok_bind, ok_bind, ensure_true hBands, ok_bind, ok_bind, ok_bind,
            ← queryDatabase_naive hStored hFits targetFrame valid]
          rfl
        · rw [ensure_false hBands]
          rfl
  refine ⟨hEq, ?_⟩
  intro answer hAnswer
  rw [hEq] at hAnswer
  exact naiveQuery_nodup hStored hAnswer

def sampleGlobalKey : GlobalSimilarityStoreKey := ⟨sampleSource, sampleStream⟩

/-- A descriptor with a picture of one shade. -/
def shade (frameId : Nat) (hash : BitVec 64) (value : UInt8) : GlobalDescriptor :=
  ⟨frameId, hash, hash, List.replicate normalizedRgbBytes value⟩

def shades : List GlobalDescriptor :=
  [shade 0 0 10, shade 1 (BitVec.allOnes 64) 12, shade 2 (BitVec.allOnes 64) 200]

theorem shades_stored : Stored shades where
  ids := ⟨rfl, rfl, rfl, trivial⟩
  pictures := by
    intro d hd
    simp only [shades, List.mem_cons, List.not_mem_nil, or_false] at hd
    rcases hd with rfl | rfl | rfl
    · exact List.length_replicate
    · exact List.length_replicate
    · exact List.length_replicate

theorem query_eq_naiveQuery_shades :
    ∃ database, store sampleGlobalKey shades = .ok (3, database) ∧
      query (some database) sampleGlobalKey 3 0 ⟨9000, 5⟩ = naiveQuery shades 0 ⟨9000, 5⟩ := by
  have hStore := store_stored sampleGlobalKey (by decide) shades_stored (by decide)
  exact ⟨_, hStore, (query_eq_naiveQuery hStore 0 ⟨9000, 5⟩).1⟩

end Query

end FrameScope.Ports.GlobalStoreLaw
