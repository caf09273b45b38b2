import FrameScope.Verified.Runs
import FrameScope.Ports.MediaLibrary

/-!
# What the media library keeps

The calls deduplicate by three keys: the id, the content URI and the index that a
record is bound to.  `Distinct` is that no two records share one of them; every call
keeps it, and with it the sort and the capacity (`Kept`).

The list is cut after it is sorted by the time of opening, so a record that is put
in survives its own call only when fewer than a hundred of the others were opened
at or after the clock reading.  `library_law_iff` is that nothing else is lost.
-/

namespace FrameScope.Ports.MediaLibrary

open FrameScope.Verified.Newest
open FrameScope.Verified.Runs
open FrameScope.Ports.Core

/-! ## Records that share no key -/

structure Distinct (records : List RecentVideoRecord) : Prop where
  uris : ∀ record ∈ records, record.contentUri.isSome = true
  ids : (records.map (·.id)).Nodup
  contentUris : (records.map (·.contentUri)).Nodup
  bindings : (records.filterMap (·.binding)).Nodup

/-- The stored list between two calls. -/
structure Kept (records : List RecentVideoRecord) : Prop extends Distinct records where
  capacity : records.length ≤ maxRecentItems
  sorted : LatestFirst (·.lastOpenedEpochMs) records

variable {records : List RecentVideoRecord}

theorem kept_nil : Kept [] where
  uris := fun _ h => absurd h List.not_mem_nil
  ids := List.nodup_nil
  contentUris := List.nodup_nil
  bindings := List.nodup_nil
  capacity := Nat.zero_le _
  sorted := List.Pairwise.nil

namespace Distinct

theorem filter (h : Distinct records) (keep : RecentVideoRecord → Bool) :
    Distinct (records.filter keep) where
  uris := fun record hMem => h.uris record (List.mem_of_mem_filter hMem)
  ids := h.ids.sublist (List.filter_sublist.map _)
  contentUris := h.contentUris.sublist (List.filter_sublist.map _)
  bindings := h.bindings.sublist (List.filter_sublist.filterMap _)

/-- A record goes in beside those that share no key with it. -/
theorem concat (h : Distinct records) {record : RecentVideoRecord}
    (hUri : record.contentUri.isSome = true)
    (hApart : ∀ other ∈ records, other.id ≠ record.id ∧ other.contentUri ≠ record.contentUri ∧
      ∀ key, record.binding = some key → other.binding ≠ some key) :
    Distinct (records ++ [record]) where
  uris := by
    intro other hMem
    rcases List.mem_append.1 hMem with hOld | hNew
    · exact h.uris other hOld
    · rw [List.mem_singleton.1 hNew]
      exact hUri
  ids := by
    rw [List.map_append, List.map_singleton, ← List.concat_eq_append]
    apply h.ids.concat
    intro hMem
    obtain ⟨other, hOther, hSame⟩ := List.mem_map.1 hMem
    exact (hApart other hOther).1 hSame
  contentUris := by
    rw [List.map_append, List.map_singleton, ← List.concat_eq_append]
    apply h.contentUris.concat
    intro hMem
    obtain ⟨other, hOther, hSame⟩ := List.mem_map.1 hMem
    exact (hApart other hOther).2.1 hSame
  bindings := by
    rw [List.filterMap_append]
    cases hBinding : record.binding with
    | none =>
        rw [List.filterMap_cons_none hBinding, List.filterMap_nil, List.append_nil]
        exact h.bindings
    | some key =>
        rw [List.filterMap_cons_some hBinding, List.filterMap_nil, ← List.concat_eq_append]
        apply h.bindings.concat
        intro hMem
        obtain ⟨other, hOther, hSame⟩ := List.mem_filterMap.1 hMem
        exact (hApart other hOther).2.2 key hBinding hSame

/-- A change of the other fields keeps the keys apart. -/
theorem map (h : Distinct records) {change : RecentVideoRecord → RecentVideoRecord}
    (hId : ∀ record, (change record).id = record.id)
    (hUri : ∀ record, (change record).contentUri = record.contentUri)
    (hBinding : ∀ record, (change record).binding = record.binding) :
    Distinct (records.map change) where
  uris := by
    intro record hMem
    obtain ⟨old, hOld, rfl⟩ := List.mem_map.1 hMem
    rw [hUri]
    exact h.uris old hOld
  ids := by
    rw [List.map_map]
    simp only [Function.comp_def, hId]
    exact h.ids
  contentUris := by
    rw [List.map_map]
    simp only [Function.comp_def, hUri]
    exact h.contentUris
  bindings := by
    rw [List.filterMap_map]
    simp only [Function.comp_def, hBinding]
    exact h.bindings

theorem eq_of_id (h : Distinct records) {a b : RecentVideoRecord} (ha : a ∈ records)
    (hb : b ∈ records) (hSame : a.id = b.id) : a = b :=
  List.inj_on_of_nodup_map h.ids ha hb hSame

theorem eq_of_uri (h : Distinct records) {a b : RecentVideoRecord} (ha : a ∈ records)
    (hb : b ∈ records) (hSame : a.contentUri = b.contentUri) : a = b :=
  List.inj_on_of_nodup_map h.contentUris ha hb hSame

theorem nodup (h : Distinct records) : records.Nodup := h.ids.of_map

/-- The two first passes of `normalizedStored` change nothing. -/
theorem normalizedStored_eq (h : Distinct records) :
    normalizedStored records = keepNewest (·.lastOpenedEpochMs) maxRecentItems records := by
  unfold normalizedStored
  rw [List.filter_eq_self.2 h.uris, distinctBy_eq_self h.ids]

theorem normalized (h : Distinct records) : Kept (normalizedStored records) := by
  rw [h.normalizedStored_eq]
  exact {
    uris := fun record hMem => h.uris record (mem_of_mem_keepNewest hMem)
    ids := keepNewest_nodup_map h.ids
    contentUris := keepNewest_nodup_map h.contentUris
    bindings := keepNewest_nodup_filterMap h.bindings
    capacity := keepNewest_length_le records
    sorted := keepNewest_sorted records }

end Distinct

theorem Kept.normalized_eq (h : Kept records) : normalizedStored records = records := by
  rw [h.normalizedStored_eq]
  exact keepNewest_eq_self h.sorted h.capacity

theorem Kept.map (h : Kept records) {change : RecentVideoRecord → RecentVideoRecord}
    (hId : ∀ record, (change record).id = record.id)
    (hUri : ∀ record, (change record).contentUri = record.contentUri)
    (hBinding : ∀ record, (change record).binding = record.binding)
    (hTime : ∀ record, (change record).lastOpenedEpochMs = record.lastOpenedEpochMs) :
    Kept (records.map change) where
  toDistinct := h.toDistinct.map hId hUri hBinding
  capacity := by
    rw [List.length_map]
    exact h.capacity
  sorted := by
    apply List.pairwise_map.2
    simp only [hTime]
    exact h.sorted

/-! ## Calls that put a record in -/

/-- The call puts a record opened at `now` in beside `others`, and returns it. -/
def Upserts (others : List RecentVideoRecord) (now : Int)
    (result : Except MediaLibraryError (RecentVideoRecord × List RecentVideoRecord)) : Prop :=
  ∃ record, record.lastOpenedEpochMs = now ∧ Distinct (others ++ [record]) ∧
    result = .ok (record, normalizedStored (others ++ [record]))

/-- The record that is put in is stored exactly when there is room for it. -/
theorem mem_normalizedStored_concat {others : List RecentVideoRecord} {record : RecentVideoRecord}
    (h : Distinct (others ++ [record])) :
    record ∈ normalizedStored (others ++ [record]) ↔
      others.countP (fun other => record.lastOpenedEpochMs ≤ other.lastOpenedEpochMs) <
        maxRecentItems := by
  rw [h.normalizedStored_eq]
  apply mem_keepNewest_concat
  intro hMem
  exact (List.nodup_append.1 h.nodup).2.2 record hMem record (List.mem_singleton_self _) rfl

theorem binding_recentVideoRecord (id contentUri : String) (video : InspectedVideo)
    (permissionStatus : VideoUriPermissionStatus) (now : Int)
    (previous : Option RecentVideoRecord) :
    (recentVideoRecord id contentUri video permissionStatus now previous).binding = none := rfl

theorem recordOpened_upserts (h : Distinct records) {contentUri : String}
    (hUri : isContentUri contentUri = true) (video : InspectedVideo)
    (permissionStatus : VideoUriPermissionStatus) (now : Int) {freshId : String}
    (hFresh : freshId ∉ records.map (·.id)) :
    Upserts (records.filter fun other => other.contentUri ≠ some contentUri) now
      (recordOpened records contentUri video permissionStatus now freshId) := by
  -- the id is that of the record with the URI, so the two filters are one
  have hId : ∀ other ∈ records, other.contentUri ≠ some contentUri → other.id ≠
      ((records.find? fun record => record.contentUri = some contentUri).map (·.id)).getD
        freshId := by
    intro other hOther hOtherUri
    cases hFound : records.find? fun record => record.contentUri = some contentUri with
    | none =>
        intro hSame
        exact hFresh (List.mem_map.2 ⟨other, hOther, hSame⟩)
    | some existing =>
        intro hSame
        have hExisting : existing.contentUri = some contentUri := by
          simpa using List.find?_some hFound
        have hIs := h.eq_of_id hOther (List.mem_of_find?_eq_some hFound) hSame
        rw [hIs] at hOtherUri
        exact hOtherUri hExisting
  let existing := records.find? fun record => record.contentUri = some contentUri
  let record := recentVideoRecord ((existing.map (·.id)).getD freshId) contentUri video
    permissionStatus now existing
  have hFilter : records.filter (fun other =>
      !(other.id = record.id || other.contentUri = record.contentUri)) =
      records.filter fun other => other.contentUri ≠ some contentUri := by
    apply List.filter_congr
    intro other hOther
    by_cases hOtherUri : other.contentUri = some contentUri
    · have hIs : record.contentUri = some contentUri := rfl
      simp [hIs, hOtherUri]
    · have hNotId : other.id ≠ record.id := hId other hOther hOtherUri
      have hNotUri : other.contentUri ≠ record.contentUri := hOtherUri
      simp [hNotId, hNotUri, hOtherUri]
  refine ⟨record, rfl, ?_, ?_⟩
  · apply (h.filter _).concat rfl
    intro other hMem
    obtain ⟨hOther, hOtherUri⟩ := List.mem_filter.1 hMem
    have hNotUri : other.contentUri ≠ some contentUri := by simpa using hOtherUri
    refine ⟨hId other hOther hNotUri, hNotUri, ?_⟩
    intro key hKey
    rw [binding_recentVideoRecord] at hKey
    cases hKey
  · simp only [recordOpened, ensure_true hUri, ok_bind, saveUpsert]
    rw [← hFilter]

theorem recordReselected_upserts (h : Distinct records) {recordId contentUri : String}
    (hId : isNotBlank recordId = true) (hUri : isContentUri contentUri = true)
    (video : InspectedVideo) (permissionStatus : VideoUriPermissionStatus) (now : Int)
    {freshId : String} (hFresh : freshId ∉ records.map (·.id)) {catalog : Catalog}
    (hPrevious : (previousRecord records catalog recordId).isSome = true) :
    Upserts (records.filter fun other =>
        !(other.id = recordId || other.contentUri = some contentUri)) now
      (recordReselected records recordId contentUri video permissionStatus now freshId
        catalog) := by
  obtain ⟨previous, hIs⟩ := Option.isSome_iff_exists.1 hPrevious
  refine ⟨recentVideoRecord (if previous.contentUri.isNone then freshId else previous.id)
    contentUri video permissionStatus now (some previous), rfl, ?_, ?_⟩
  · apply (h.filter _).concat rfl
    intro other hMem
    obtain ⟨hOther, hApart⟩ := List.mem_filter.1 hMem
    simp only [Bool.not_eq_true', Bool.or_eq_false_iff, decide_eq_false_iff_not] at hApart
    refine ⟨?_, hApart.2, ?_⟩
    · show other.id ≠ if previous.contentUri.isNone then freshId else previous.id
      by_cases hNone : previous.contentUri.isNone = true
      · rw [if_pos hNone]
        intro hSame
        exact hFresh (List.mem_map.2 ⟨other, hOther, hSame⟩)
      · rw [if_neg hNone]
        -- a row with a URI is a stored record, found by the id
        have hFound : records.find? (fun record => record.id = recordId) = some previous := by
          unfold previousRecord at hIs
          rcases Option.or_eq_some_iff.1 hIs with hFound | ⟨-, hRow⟩
          · exact hFound
          · obtain ⟨descriptors, -, hRow⟩ := Option.bind_eq_some_iff.1 hRow
            obtain ⟨descriptor, -, rfl⟩ := Option.map_eq_some_iff.1 hRow
            exact absurd rfl hNone
        have hSame : previous.id = recordId := by simpa using List.find?_some hFound
        rw [hSame]
        exact hApart.1
    · intro key hKey
      rw [binding_recentVideoRecord] at hKey
      cases hKey
  · simp only [recordReselected, ensure_true hId, ensure_true hUri, hIs, okOr, ok_bind]

/-! ## The other calls -/

theorem Kept.updatePosition (h : Kept records) (contentUri : String)
    (frameId timestampUs : Option Int) :
    Kept (updatePosition records contentUri frameId timestampUs) := by
  unfold MediaLibrary.updatePosition
  split_ifs
  · exact h
  · apply Distinct.normalized
    apply h.toDistinct.map
    all_goals
      intro record
      split_ifs <;> rfl
  · exact h

theorem Kept.updateIndexBinding (h : Kept records) {contentUri : String}
    {binding : SessionIndexBinding} {stored : List RecentVideoRecord}
    (hOk : updateIndexBinding records contentUri binding = .ok stored) : Kept stored := by
  obtain ⟨_, -, hOk⟩ := bind_eq_ok.1 hOk
  cases hFound : records.find? fun record => record.contentUri = some contentUri with
  | none =>
      rw [hFound] at hOk
      cases hOk
      exact h
  | some target =>
      rw [hFound] at hOk
      cases hOk
      have hTarget : target ∈ records := List.mem_of_find?_eq_some hFound
      have hUri : (boundRecord target binding).contentUri.isSome = true := h.uris target hTarget
      apply Distinct.normalized
      apply (h.toDistinct.filter _).concat hUri
      intro other hMem
      obtain ⟨hOther, hApart⟩ := List.mem_filter.1 hMem
      simp only [Bool.not_eq_true', Bool.or_eq_false_iff, decide_eq_false_iff_not] at hApart
      refine ⟨hApart.1, ?_, ?_⟩
      · intro hSame
        exact hApart.1 (congrArg _ (h.eq_of_uri hOther hTarget hSame))
      · -- another record with the binding has been filtered out
        intro key hKey hOtherKey
        have hIs : key = (binding.sourceKey, binding.streamIndex) := (Option.some.inj hKey).symm
        subst hIs
        unfold RecentVideoRecord.binding at hOtherKey
        split at hOtherKey
        · rename_i hSource hStream
          cases hOtherKey
          simp [hSource, hStream] at hApart
        · cases hOtherKey

theorem Kept.remove (h : Kept records) (recordId : String) : Kept (remove records recordId) := by
  unfold MediaLibrary.remove
  dsimp only
  split_ifs
  · exact (h.toDistinct.filter _).normalized
  · exact h

/-! ## The listing -/

theorem Kept.refresh (h : Kept records) (checker : RecentVideoAccessChecker) :
    Kept (records.map (refreshRecord checker)) := by
  apply h.map
  all_goals
    intro record
    unfold refreshRecord
    split <;> rfl

theorem Kept.reconcile (h : Kept records) (descriptors : List PersistentFrameIndexDescriptor) :
    Kept (records.map (reconcileRecord descriptors)) := by
  apply h.map
  all_goals
    intro record
    unfold reconcileRecord
    split
    · rfl
    · split <;> rfl

/-- The rows are the list that is stored afterwards and the descriptors that none of
its records is bound to. -/
theorem Kept.libraryEntries_eq (h : Kept records) (refreshAccess : Bool)
    (checker : RecentVideoAccessChecker) (catalog : Catalog) :
    ∃ after, Kept after ∧ libraryEntries records refreshAccess checker catalog =
      (sortLibrary (after ++ indexOnlyRows (catalog.getD []) after), after) := by
  have hRefreshed : Kept (if refreshAccess then records.map (refreshRecord checker)
      else records) := by
    split_ifs
    · exact h.refresh checker
    · exact h
  unfold libraryEntries
  simp only [h.normalized_eq]
  generalize (if refreshAccess then records.map (refreshRecord checker) else records) = refreshed
    at hRefreshed ⊢
  have hSaved : (if refreshed ≠ records then refreshed else records) = refreshed := by
    split_ifs with hChanged
    · rfl
    · exact (not_not.1 hChanged).symm
  cases catalog with
  | none =>
      refine ⟨refreshed, hRefreshed, ?_⟩
      show (sortLibrary refreshed, _) = (sortLibrary (refreshed ++ []), _)
      rw [hSaved, List.append_nil]
  | some descriptors =>
      have hAfter := hRefreshed.reconcile descriptors
      refine ⟨refreshed.map (reconcileRecord descriptors), hAfter, ?_⟩
      show (_, _) = (_, _)
      rw [hSaved, hAfter.normalized_eq, Prod.mk.injEq]
      refine ⟨rfl, ?_⟩
      split_ifs with hChanged
      · rfl
      · exact (not_not.1 hChanged).symm

/-- The rows show the stored list and the catalog. -/
structure Listing (stored : List RecentVideoRecord)
    (descriptors : List PersistentFrameIndexDescriptor) (rows : List RecentVideoRecord) : Prop where
  /-- Every stored record is one row. -/
  records : ∀ record ∈ stored, rows.count record = 1
  /-- Every descriptor is one row: the stored record that is bound to it or a row of
  its own. -/
  catalog : ∀ descriptor ∈ descriptors, ∃ row,
    rows.filter (fun row => row.binding = some descriptor.key) = [row] ∧
      (row ∈ stored ∨ row = indexOnlyRecord descriptor)
  /-- There are no other rows. -/
  only : ∀ row ∈ rows, row ∈ stored ∨ ∃ descriptor ∈ descriptors, row = indexOnlyRecord descriptor

theorem binding_indexOnlyRecord (descriptor : PersistentFrameIndexDescriptor) :
    (indexOnlyRecord descriptor).binding = some descriptor.key := rfl

theorem mem_indexOnlyRows {descriptors : List PersistentFrameIndexDescriptor}
    {row : RecentVideoRecord} : row ∈ indexOnlyRows descriptors records ↔
      ∃ descriptor ∈ descriptors,
        (∀ record ∈ records, record.binding ≠ some descriptor.key) ∧
          row = indexOnlyRecord descriptor := by
  unfold indexOnlyRows
  dsimp only
  constructor
  · intro hMem
    obtain ⟨descriptor, hKept, rfl⟩ := List.mem_map.1 hMem
    obtain ⟨hDescriptor, hNew⟩ := List.mem_filter.1 hKept
    refine ⟨descriptor, hDescriptor, ?_, rfl⟩
    intro record hRecord hBound
    have hSeen : descriptor.key ∈ records.filterMap (·.binding) :=
      List.mem_filterMap.2 ⟨record, hRecord, hBound⟩
    rw [List.contains_iff_mem.2 hSeen] at hNew
    cases hNew
  · rintro ⟨descriptor, hDescriptor, hFree, rfl⟩
    apply List.mem_map_of_mem
    apply List.mem_filter.2 ⟨hDescriptor, ?_⟩
    rw [Bool.not_eq_true', Bool.eq_false_iff]
    intro hSeen
    obtain ⟨record, hRecord, hBound⟩ :=
      List.mem_filterMap.1 (List.contains_iff_mem.1 hSeen)
    exact hFree record hRecord hBound

theorem Kept.listing (h : Kept records) {descriptors : List PersistentFrameIndexDescriptor}
    (hKeys : (descriptors.map (·.key)).Nodup) :
    Listing records descriptors (sortLibrary (records ++ indexOnlyRows descriptors records)) := by
  have hPerm : (sortLibrary (records ++ indexOnlyRows descriptors records)).Perm
      (records ++ indexOnlyRows descriptors records) := List.perm_insertionSort _ _
  -- no two rows are bound to one index
  have hBindings : ((sortLibrary (records ++ indexOnlyRows descriptors records)).filterMap
      (·.binding)).Nodup := by
    rw [(hPerm.filterMap _).nodup_iff, List.filterMap_append, List.nodup_append]
    refine ⟨h.bindings, ?_, ?_⟩
    · unfold indexOnlyRows
      dsimp only
      rw [List.filterMap_map]
      have hKey : (fun record : RecentVideoRecord => record.binding) ∘ indexOnlyRecord =
          some ∘ fun descriptor => descriptor.key := rfl
      rw [hKey, List.filterMap_eq_map]
      exact hKeys.sublist (List.filter_sublist.map _)
    · intro key hStored key' hRow hSame
      obtain ⟨record, hRecord, hBound⟩ := List.mem_filterMap.1 hStored
      obtain ⟨row, hMem, hRowKey⟩ := List.mem_filterMap.1 hRow
      obtain ⟨descriptor, -, hFree, rfl⟩ := mem_indexOnlyRows.1 hMem
      rw [binding_indexOnlyRecord] at hRowKey
      rw [← hSame] at hRowKey
      exact hFree record hRecord (hBound.trans hRowKey.symm)
  constructor
  · intro record hRecord
    rw [hPerm.count_eq, List.count_append, List.count_eq_one_of_mem h.toDistinct.nodup hRecord,
      List.count_eq_zero.2]
    intro hMem
    obtain ⟨descriptor, -, -, rfl⟩ := mem_indexOnlyRows.1 hMem
    cases h.uris _ hRecord
  · intro descriptor hDescriptor
    by_cases hBound : ∃ record ∈ records, record.binding = some descriptor.key
    · obtain ⟨record, hRecord, hKey⟩ := hBound
      have hMem := hPerm.mem_iff.2 (List.mem_append_left _ hRecord)
      exact ⟨record, filter_key_eq_singleton hBindings hMem hKey, .inl hRecord⟩
    · have hRow : indexOnlyRecord descriptor ∈ indexOnlyRows descriptors records := by
        apply mem_indexOnlyRows.2
        refine ⟨descriptor, hDescriptor, ?_, rfl⟩
        intro record hRecord hKey
        exact hBound ⟨record, hRecord, hKey⟩
      have hMem := hPerm.mem_iff.2 (List.mem_append_right _ hRow)
      exact ⟨_, filter_key_eq_singleton hBindings hMem (binding_indexOnlyRecord _), .inr rfl⟩
  · intro row hRow
    rcases List.mem_append.1 (hPerm.mem_iff.1 hRow) with hStored | hIndexOnly
    · exact .inl hStored
    · obtain ⟨descriptor, hDescriptor, -, hIs⟩ := mem_indexOnlyRows.1 hIndexOnly
      exact .inr ⟨descriptor, hDescriptor, hIs⟩

/-! ## The law -/

structure LibraryLaw (s : LibraryState) : Prop where
  ids : (s.stored.map (·.id)).Nodup
  contentUris : (s.stored.map (·.contentUri)).Nodup
  bindings : (s.stored.filterMap (·.binding)).Nodup
  capacity : s.stored.length ≤ 100
  /-- The record that a call has returned is stored. -/
  returned : ∀ record, s.returned = some record → record ∈ s.stored
  /-- The rows that a call has listed show the stored list and the catalog. -/
  listed : ∀ descriptors rows, s.listed = some (descriptors, rows) →
    Listing s.stored descriptors rows

/-- A factory id that no stored record has, and a catalog with one descriptor for
each index. -/
def Supplied (s : LibraryState) : LibraryOp → Prop
  | .recordOpened _ _ _ _ freshId => freshId ∉ s.stored.map (·.id)
  | .recordReselected _ _ _ _ _ freshId _ => freshId ∉ s.stored.map (·.id)
  | .entries _ _ catalog => ((catalog.getD []).map (·.key)).Nodup
  | _ => True

/-- The records that a call keeps beside the one that it puts in, and the clock
reading; nothing when it puts none in. -/
def LibraryOp.putsBeside (stored : List RecentVideoRecord) :
    LibraryOp → Option (List RecentVideoRecord × Int)
  | .recordOpened contentUri _ _ now _ =>
      if isContentUri contentUri then
        some (stored.filter fun other => other.contentUri ≠ some contentUri, now)
      else none
  | .recordReselected recordId contentUri _ _ now _ catalog =>
      if isNotBlank recordId && isContentUri contentUri &&
          (previousRecord stored catalog recordId).isSome then
        some (stored.filter fun other =>
          !(other.id = recordId || other.contentUri = some contentUri), now)
      else none
  | _ => none

/-- Fewer than a hundred of the records that stay were opened at or after the clock
reading. -/
def HasRoom (s : LibraryState) (op : LibraryOp) : Prop :=
  ∀ others now, op.putsBeside s.stored = some (others, now) →
    others.countP (fun other => now ≤ other.lastOpenedEpochMs) < 100

theorem lawful_save (h : Kept records) : LibraryLaw (.save records) where
  ids := h.ids
  contentUris := h.contentUris
  bindings := h.bindings
  capacity := h.capacity
  returned := by rintro record (hNone : none = _); cases hNone
  listed := by rintro descriptors rows (hNone : none = _); cases hNone

/-- A call that puts a record in keeps the records apart, and the law exactly when it
has room. -/
theorem Upserts.lawful_iff {others : List RecentVideoRecord} {now : Int}
    {result : Except MediaLibraryError (RecentVideoRecord × List RecentVideoRecord)}
    (h : Upserts others now result) (s : LibraryState) :
    Kept (s.record result).stored ∧ (LibraryLaw (s.record result) ↔
      others.countP (fun other => now ≤ other.lastOpenedEpochMs) < 100) := by
  obtain ⟨record, hTime, hDistinct, rfl⟩ := h
  have hKept : Kept (normalizedStored (others ++ [record])) := hDistinct.normalized
  have hMem := mem_normalizedStored_concat hDistinct
  rw [hTime] at hMem
  refine ⟨hKept, ?_⟩
  constructor
  · intro hLaw
    exact hMem.1 (hLaw.returned record rfl)
  · intro hRoom
    exact {
      ids := hKept.ids
      contentUris := hKept.contentUris
      bindings := hKept.bindings
      capacity := hKept.capacity
      returned := by
        rintro other (hSome : some record = some other)
        cases hSome
        exact hMem.2 hRoom
      listed := by rintro descriptors rows (hNone : none = _); cases hNone }

/-- What one call does to a stored list whose records share no key. -/
theorem step_law {s : LibraryState} {op : LibraryOp} (h : Kept s.stored) (hSupplied : Supplied s op) :
    Kept (applyOp s op).stored ∧ (LibraryLaw (applyOp s op) ↔ HasRoom s op) := by
  -- a call that puts no record in saves a list that is kept
  have hSaves : ∀ {stored}, Kept stored → op.putsBeside s.stored = none →
      applyOp s op = .save stored →
      Kept (applyOp s op).stored ∧ (LibraryLaw (applyOp s op) ↔ HasRoom s op) := by
    intro stored hStored hNone hIs
    rw [hIs]
    refine ⟨hStored, iff_of_true (lawful_save hStored) ?_⟩
    intro others now hSome
    rw [hNone] at hSome
    cases hSome
  have hPuts : ∀ {others now result}, Upserts others now result →
      op.putsBeside s.stored = some (others, now) → applyOp s op = s.record result →
      Kept (applyOp s op).stored ∧ (LibraryLaw (applyOp s op) ↔ HasRoom s op) := by
    intro others now result hUpserts hSome hIs
    obtain ⟨hKept, hIff⟩ := hUpserts.lawful_iff s
    rw [hIs]
    refine ⟨hKept, hIff.trans ?_⟩
    constructor
    · intro hRoom others' now' hSome'
      rw [hSome] at hSome'
      cases hSome'
      exact hRoom
    · intro hRoom
      exact hRoom others now hSome
  cases op with
  | recordOpened contentUri video permissionStatus now freshId =>
      by_cases hUri : isContentUri contentUri = true
      · exact hPuts (recordOpened_upserts h.toDistinct hUri video permissionStatus now hSupplied)
          (if_pos hUri) rfl
      · apply hSaves h (if_neg hUri)
        simp only [applyOp, recordOpened, ensure_false hUri]
        rfl
  | recordReselected recordId contentUri video permissionStatus now freshId catalog =>
      by_cases hId : isNotBlank recordId = true
      · by_cases hUri : isContentUri contentUri = true
        · by_cases hPrevious : (previousRecord s.stored catalog recordId).isSome = true
          · apply hPuts (recordReselected_upserts h.toDistinct hId hUri video permissionStatus now
              hSupplied hPrevious) ?_ rfl
            simp only [LibraryOp.putsBeside, hId, hUri, hPrevious]
            rfl
          · have hNone : previousRecord s.stored catalog recordId = none := by simpa using hPrevious
            apply hSaves h
            · simp only [LibraryOp.putsBeside, hNone]
              simp
            · simp only [applyOp, recordReselected, ensure_true hId, ensure_true hUri, hNone, okOr,
                ok_bind]
              rfl
        · apply hSaves h
          · simp only [LibraryOp.putsBeside, hUri]
            simp
          · simp only [applyOp, recordReselected, ensure_true hId, ensure_false hUri, ok_bind]
            rfl
      · apply hSaves h
        · simp only [LibraryOp.putsBeside, hId]
          simp
        · simp only [applyOp, recordReselected, ensure_false hId]
          rfl
  | updatePosition contentUri frameId timestampUs => exact hSaves (h.updatePosition ..) rfl rfl
  | updateIndexBinding contentUri binding =>
      cases hOk : updateIndexBinding s.stored contentUri binding with
      | error error =>
          apply hSaves h rfl
          simp only [applyOp, hOk]
      | ok stored =>
          apply hSaves (h.updateIndexBinding hOk) rfl
          simp only [applyOp, hOk]
  | remove recordId => exact hSaves (h.remove recordId) rfl rfl
  | clear => exact hSaves kept_nil rfl rfl
  | entries refreshAccess checker catalog =>
      obtain ⟨after, hAfter, hIs⟩ := h.libraryEntries_eq refreshAccess checker catalog
      have hApply : applyOp s (.entries refreshAccess checker catalog) = ⟨after, none,
          some (catalog.getD [], sortLibrary (after ++ indexOnlyRows (catalog.getD []) after))⟩ := by
        simp only [applyOp, hIs]
      rw [hApply]
      refine ⟨hAfter, iff_of_true ?_ ?_⟩
      · exact {
          ids := hAfter.ids
          contentUris := hAfter.contentUris
          bindings := hAfter.bindings
          capacity := hAfter.capacity
          returned := by rintro record (hNone : none = _); cases hNone
          listed := by
            rintro descriptors rows (hSome : some _ = some _)
            cases hSome
            exact hAfter.listing hSupplied }
      · rintro others now (hSome : none = _)
        cases hSome

/-- **The media library's law, exactly when.**  In every run from an empty store, with
fresh ids and catalogs of distinct indexes, the law holds after every call if and only
if every record that is put in has room: of those that stay beside it fewer than a
hundred were opened at or after its clock reading. -/
theorem library_law_iff {ops : List LibraryOp} (h : Meets applyOp Supplied .empty ops) :
    (∀ k, LibraryLaw ((ops.take k).foldl applyOp .empty)) ↔ Meets applyOp HasRoom .empty ops := by
  have hKeep : ∀ s op, Kept s.stored ∧ LibraryLaw s → Supplied s op → HasRoom s op →
      Kept (applyOp s op).stored ∧ LibraryLaw (applyOp s op) := by
    intro s op hInv hSupplied hRoom
    obtain ⟨hKept, hIff⟩ := step_law hInv.1 hSupplied
    exact ⟨hKept, hIff.2 hRoom⟩
  have hExact : ∀ s op, Kept s.stored ∧ LibraryLaw s → Supplied s op →
      LibraryLaw (applyOp s op) → HasRoom s op :=
    fun s op hInv hSupplied hLaw => (step_law hInv.1 hSupplied).2.1 hLaw
  apply always_iff_meets_of hKeep (fun s hInv => hInv.2) hExact ?_ h
  exact ⟨kept_nil, lawful_save kept_nil⟩

/-! ## A clock that is set back -/

def sampleVideo : InspectedVideo :=
  ⟨"clip.mp4", some 2000000, 1280, 720, some "h264", some "mp4"⟩

/-- `content://` and `n + 1` letters. -/
def sampleUri (n : Nat) : String :=
  String.ofList ("content://".toList ++ List.replicate (n + 1) 'v')

def openAt (now : Int) (n : Nat) : LibraryOp :=
  .recordOpened (sampleUri n) sampleVideo .persisted now (sampleUri n)

/-- The record of a first opening. -/
def openedAt (now : Int) (n : Nat) : RecentVideoRecord :=
  recentVideoRecord (sampleUri n) (sampleUri n) sampleVideo .persisted now none

/-- One video is opened and the library is listed. -/
theorem library_law_iff_sample :
    Meets applyOp Supplied .empty [openAt 5 0, .entries true ⟨fun _ => .available, fun _ => true⟩
        (some [⟨"source", 0, "source/0", .indexed, 48, some 48, none⟩])] ∧
      ((∀ k, LibraryLaw (([openAt 5 0, .entries true ⟨fun _ => .available, fun _ => true⟩
          (some [⟨"source", 0, "source/0", .indexed, 48, some 48, none⟩])].take k).foldl
          applyOp .empty)) ↔
        Meets applyOp HasRoom .empty [openAt 5 0, .entries true
          ⟨fun _ => .available, fun _ => true⟩
          (some [⟨"source", 0, "source/0", .indexed, 48, some 48, none⟩])]) := by
  have hSupplied : Meets applyOp Supplied .empty [openAt 5 0, .entries true
      ⟨fun _ => .available, fun _ => true⟩
      (some [⟨"source", 0, "source/0", .indexed, 48, some 48, none⟩])] :=
    ⟨List.not_mem_nil, List.nodup_singleton _, trivial⟩
  exact ⟨hSupplied, library_law_iff hSupplied⟩

theorem sampleUri_injective : Function.Injective sampleUri := by
  intro n m hSame
  have hLists := String.ofList_injective hSame
  have hLength := congrArg List.length hLists
  simpa using hLength

theorem isContentUri_sampleUri (n : Nat) : isContentUri (sampleUri n) = true := by
  have hList : (sampleUri n).toList = "content://".toList ++ List.replicate (n + 1) 'v' :=
    String.toList_ofList
  unfold isContentUri
  rw [hList, Bool.and_eq_true, decide_eq_true_eq, List.isPrefixOf_iff_prefix]
  refine ⟨List.prefix_append _ _, ?_⟩
  rw [List.length_append, List.length_replicate]
  omega

theorem kept_openedAt (now : Int) {k : Nat} (h : k ≤ maxRecentItems) :
    Kept ((List.range k).map (openedAt now)) where
  uris := by
    intro record hMem
    obtain ⟨n, -, rfl⟩ := List.mem_map.1 hMem
    rfl
  ids := by
    rw [List.map_map]
    exact List.nodup_range.map sampleUri_injective
  contentUris := by
    rw [List.map_map]
    exact List.nodup_range.map fun n m hSame => sampleUri_injective (Option.some.inj hSame)
  bindings := by
    rw [List.filterMap_eq_nil_iff.2]
    · exact List.nodup_nil
    · intro record hMem
      obtain ⟨n, -, rfl⟩ := List.mem_map.1 hMem
      rfl
  capacity := by
    rw [List.length_map, List.length_range]
    exact h
  sorted := by
    apply List.pairwise_map.2
    exact List.pairwise_of_forall fun _ _ => Int.le_refl _

theorem applyOp_openAt (s : LibraryState) (now : Int) {n : Nat}
    (hNew : ∀ record ∈ s.stored, record.contentUri ≠ some (sampleUri n) ∧
      record.id ≠ sampleUri n) :
    applyOp s (openAt now n) =
      ⟨normalizedStored (s.stored ++ [openedAt now n]), some (openedAt now n), none⟩ := by
  have hNone : s.stored.find? (fun record => record.contentUri = some (sampleUri n)) = none := by
    apply List.find?_eq_none.2
    intro record hMem
    simpa using (hNew record hMem).1
  have hFilter : s.stored.filter (fun other =>
      !(other.id = (openedAt now n).id || other.contentUri = (openedAt now n).contentUri)) =
      s.stored := by
    apply List.filter_eq_self.2
    intro record hMem
    obtain ⟨hUri, hId⟩ := hNew record hMem
    have hUri' : record.contentUri ≠ (openedAt now n).contentUri := hUri
    have hId' : record.id ≠ (openedAt now n).id := hId
    simp [hUri', hId']
  have hSaved : saveUpsert s.stored (openedAt now n) =
      normalizedStored (s.stored ++ [openedAt now n]) := by
    unfold saveUpsert
    rw [hFilter]
  have hOk : recordOpened s.stored (sampleUri n) sampleVideo .persisted now (sampleUri n) =
      .ok (openedAt now n, saveUpsert s.stored (openedAt now n)) := by
    simp only [recordOpened, ensure_true (isContentUri_sampleUri n), ok_bind, hNone]
    rfl
  show s.record (recordOpened s.stored (sampleUri n) sampleVideo .persisted now (sampleUri n)) = _
  rw [hOk, hSaved]
  rfl

theorem sampleUri_new (now : Int) (k : Nat) :
    ∀ record ∈ (List.range k).map (openedAt now),
      record.contentUri ≠ some (sampleUri k) ∧ record.id ≠ sampleUri k := by
  intro record hMem
  obtain ⟨n, hn, rfl⟩ := List.mem_map.1 hMem
  have hLess : n < k := List.mem_range.1 hn
  have hApart : sampleUri n ≠ sampleUri k := by
    intro hSame
    have hIs := sampleUri_injective hSame
    omega
  exact ⟨fun hSame => hApart (Option.some.inj hSame), hApart⟩

/-- Up to a hundred videos opened in one millisecond are stored in their order. -/
theorem run_openAt (now : Int) {k : Nat} (h : k ≤ maxRecentItems) :
    (((List.range k).map (openAt now)).foldl applyOp .empty).stored =
      (List.range k).map (openedAt now) := by
  induction k with
  | zero => rfl
  | succ k ih =>
      have hStored := ih (Nat.le_of_succ_le h)
      have hKept := kept_openedAt now h
      rw [List.range_succ, List.map_append] at hKept ⊢
      rw [List.map_append, List.foldl_append]
      show (applyOp _ (openAt now k)).stored = _
      rw [applyOp_openAt]
      · rw [hStored]
        exact hKept.normalized_eq
      · rw [hStored]
        exact sampleUri_new now k

/-- A video opened at an earlier clock reading than a full store is returned and not
stored. -/
theorem run_openAt_lost {now earlier : Int} (hEarlier : earlier ≤ now) {k : Nat}
    (h : k = maxRecentItems) {s : LibraryState}
    (hRun : ((List.range k).map (openAt now) ++ [openAt earlier k]).foldl applyOp .empty = s) :
    s.returned = some (openedAt earlier k) ∧ openedAt earlier k ∉ s.stored := by
  have hStored := run_openAt now (Nat.le_of_eq h)
  have hNew := sampleUri_new now k
  rw [List.foldl_append] at hRun
  change applyOp _ (openAt earlier k) = s at hRun
  rw [applyOp_openAt _ _ (by rwa [hStored]), hStored] at hRun
  subst hRun
  have hDistinct : Distinct ((List.range k).map (openedAt now) ++ [openedAt earlier k]) := by
    apply (kept_openedAt now (Nat.le_of_eq h)).toDistinct.concat rfl
    intro other hOther
    obtain ⟨hUri, hId⟩ := hNew other hOther
    refine ⟨hId, hUri, ?_⟩
    intro key hKey
    cases hKey
  refine ⟨rfl, ?_⟩
  rw [mem_normalizedStored_concat hDistinct, List.countP_eq_length.2, List.length_map,
    List.length_range]
  · omega
  · intro record hMem
    obtain ⟨n, -, rfl⟩ := List.mem_map.1 hMem
    exact decide_eq_true hEarlier

/-- A hundred videos are opened, the clock is set back, and one more is opened. -/
def clockSetBack : List LibraryOp := (List.range 100).map (openAt 5) ++ [openAt 4 100]

/-- The record that the last call returns is not stored. -/
theorem clockSetBack_lost :
    (clockSetBack.foldl applyOp .empty).returned = some (openedAt 4 100) ∧
      openedAt 4 100 ∉ (clockSetBack.foldl applyOp .empty).stored ∧
      ¬∀ k, LibraryLaw ((clockSetBack.take k).foldl applyOp .empty) := by
  obtain ⟨hReturned, hLost⟩ := run_openAt_lost (by decide : (4 : Int) ≤ 5) rfl
    (rfl : clockSetBack.foldl applyOp .empty = clockSetBack.foldl applyOp .empty)
  refine ⟨hReturned, hLost, ?_⟩
  intro hAlways
  have hLaw := hAlways clockSetBack.length
  rw [List.take_length] at hLaw
  exact hLost (hLaw.returned _ hReturned)

end FrameScope.Ports.MediaLibrary
