import FrameScope.Ports.StorageClearing

/-!
# Clearing is exact and stays inside

What a scope owns is a region of the tree: the entries of the root that belong to
it, with all that is below them.  The count and the removal recurse over the same
paths; below an anchored root each path stands where it says, because every
directory that the recursion enters is a real one.  So the count is the total of
the region, and the removal is the tree without the region.

Totals beyond `u64` are refused by the checked sums.  A clearing that meets one
stops there, and what it has removed by then is all inside the region.
-/

namespace FrameScope.Ports.StorageClearingLaw

open FrameScope.Verified.Fallible
open FrameScope.Verified.FileSystem
open FrameScope.Ports.Core
open FrameScope.Ports.StorageClearing

/-- One for a file or a link. -/
def fileCount : Object → Nat
  | .dir => 0
  | _ => 1

abbrev bytesIn (t : FileTree) (A : Region) : Nat := t.total Object.len A

abbrev filesIn (t : FileTree) (A : Region) : Nat := t.total fileCount A

/-- The objects of a region, directories among them. -/
abbrev objectsIn (t : FileTree) (A : Region) : Nat := t.total (fun _ => 1) A

/-! ## Checked sums -/

/-- The statistics of totals that fit. -/
def statsOf (bytes files : Nat) : Except Stop StorageCategoryStats :=
  if bytes < 2 ^ 64 ∧ files < 2 ^ 64 then .ok ⟨bytes, files, files⟩
  else .error (.failed .numericOverflow)

section Sums

variable {b f b' f' : Nat} {stats : StorageCategoryStats}

theorem checkedAdd_of (h : b + b' < 2 ^ 64) : checkedAdd b b' = .ok (b + b') := by
  unfold checkedAdd
  rw [checkedAddU64_eq_some.2 ⟨h, rfl⟩]
  rfl

theorem checkedAdd_overflow (h : ¬ b + b' < 2 ^ 64) :
    checkedAdd b b' = .error (.failed .numericOverflow) := by
  unfold checkedAdd checkedAddU64
  rw [if_neg h]
  rfl

theorem checkedAdd_eq_ok {c : Nat} : checkedAdd b b' = .ok c ↔ b + b' < 2 ^ 64 ∧ c = b + b' := by
  unfold checkedAdd
  rw [okOr_eq_ok, checkedAddU64_eq_some]

theorem statsOf_overflow (h : ¬ (b < 2 ^ 64 ∧ f < 2 ^ 64)) :
    statsOf b f = .error (.failed .numericOverflow) := if_neg h

/-- Adding statistics adds their totals. -/
theorem checkedAdd_stats (b f b' f' : Nat) :
    StorageCategoryStats.checkedAdd ⟨b, f, f⟩ ⟨b', f', f'⟩ = statsOf (b + b') (f + f') := by
  unfold StorageCategoryStats.checkedAdd
  dsimp only
  by_cases hb : b + b' < 2 ^ 64
  · rw [checkedAdd_of hb, ok_bind]
    by_cases hf : f + f' < 2 ^ 64
    · rw [checkedAdd_of hf, ok_bind, ok_bind]
      exact (if_pos ⟨hb, hf⟩).symm
    · rw [checkedAdd_overflow hf, statsOf_overflow (by omega)]
      rfl
  · rw [checkedAdd_overflow hb, statsOf_overflow (by omega)]
    rfl

end Sums

/-! ## The count -/

section Count

variable [LinkResolution] {t : FileTree} {root R q : Path} {name : String} {fuel : Nat}
  {o : Object}

theorem symlinkMetadataOptional_below (h : Anchored root R t) (hDir : t.at (q ++ R) = some .dir) :
    symlinkMetadataOptional t (name :: (q ++ root)) = .ok (t.at (name :: (q ++ R))) := by
  unfold symlinkMetadataOptional
  rw [h.symlinkMetadata hDir]
  cases t.at (name :: (q ++ R)) with
  | none => rfl
  | some o => rfl

theorem readDir_below (h : Anchored root R t) (hDir : t.at (q ++ R) = some .dir) :
    readDir t (q ++ root) = .ok (t.children (q ++ R)) := by
  unfold readDir
  rw [h.readDir hDir]
  rfl

omit [LinkResolution] in
/-- A file or a link counts as one, with its own length. -/
theorem statsOf_leaf {p : Path} (hAt : t.at p = some o) (hLeaf : o ≠ .dir) :
    statsOf (bytesIn t (.under p)) (filesIn t (.under p)) = .ok ⟨o.len, 1, 1⟩ := by
  unfold bytesIn filesIn
  rw [total_under_leaf hAt hLeaf, total_under_leaf hAt hLeaf]
  have hLen := o.len_lt
  have hCount : fileCount o = 1 := by
    cases o with
    | dir => exact absurd rfl hLeaf
    | file content => rfl
    | link target => rfl
  rw [hCount]
  exact if_pos ⟨by omega, by decide⟩

omit [LinkResolution] in
/-- The loop over the entries of a directory, when each of them counts right. -/
theorem foldlM_statsOf {d : Path} {stats : String → Except Stop StorageCategoryStats}
    {names : List String} (hNodup : names.Nodup)
    (hStats : ∀ n ∈ names,
      stats n = statsOf (bytesIn t (.under (n :: d))) (filesIn t (.under (n :: d))))
    {b f : Nat} (hb : b < 2 ^ 64) (hf : f < 2 ^ 64) :
    names.foldlM (fun total n => do
        total.checkedAdd (← stats n)) (⟨b, f, f⟩ : StorageCategoryStats) =
      statsOf (b + bytesIn t (.underAny (names.map (· :: d))))
        (f + filesIn t (.underAny (names.map (· :: d)))) := by
  induction names generalizing b f with
  | nil =>
      have hNone : ∀ w, t.total w (.underAny []) = 0 := fun w => total_eq_zero fun _ _ _ => rfl
      show Except.ok _ = statsOf (b + t.total _ (.underAny [])) (f + t.total _ (.underAny []))
      rw [hNone, hNone]
      exact (if_pos ⟨hb, hf⟩).symm
  | cons n names ih =>
      rw [List.nodup_cons] at hNodup
      have hTail := fun m hm => hStats m (List.mem_cons_of_mem _ hm)
      rw [List.foldlM_cons, hStats n (List.mem_cons_self ..)]
      unfold bytesIn filesIn at ih ⊢
      rw [total_underAny_cons hNodup.1, total_underAny_cons hNodup.1, ← Nat.add_assoc,
        ← Nat.add_assoc]
      by_cases hn : t.total Object.len (.under (n :: d)) < 2 ^ 64 ∧
          t.total fileCount (.under (n :: d)) < 2 ^ 64
      · rw [statsOf, if_pos hn, ok_bind, checkedAdd_stats]
        by_cases hSum : b + t.total Object.len (.under (n :: d)) < 2 ^ 64 ∧
            f + t.total fileCount (.under (n :: d)) < 2 ^ 64
        · rw [statsOf, if_pos hSum, ok_bind]
          exact ih hNodup.2 hTail hSum.1 hSum.2
        · rw [statsOf_overflow hSum, statsOf_overflow (by omega)]
          rfl
      · rw [statsOf_overflow hn, statsOf_overflow (by omega)]
        rfl

/-- The count is the totals of all that stands at the path or below. -/
theorem statsForPath_eq (h : Anchored root R t) (hDir : t.at (q ++ R) = some .dir)
    (hFuel : t.height < (q ++ R).length + fuel) :
    statsForPath fuel t (name :: (q ++ root)) =
      statsOf (bytesIn t (.under (name :: (q ++ R)))) (filesIn t (.under (name :: (q ++ R)))) := by
  induction fuel generalizing q name with
  | zero =>
      have := length_le_height hDir
      omega
  | succ fuel ih =>
      unfold statsForPath
      rw [symlinkMetadataOptional_below h hDir, ok_bind]
      cases hAt : t.at (name :: (q ++ R)) with
      | none =>
          have hNone : ∀ w, t.total w (.under (name :: (q ++ R))) = 0 := fun w =>
            total_eq_zero fun _ _ hp => not_mem_under_of_none hAt hp
          unfold bytesIn filesIn
          rw [hNone, hNone]
          rfl
      | some o =>
          cases o with
          | dir =>
              have hEntries : ∀ n ∈ t.children (name :: (q ++ R)),
                  statsForPath fuel t (n :: (name :: (q ++ root))) =
                    statsOf (bytesIn t (.under (n :: (name :: (q ++ R)))))
                      (filesIn t (.under (n :: (name :: (q ++ R))))) := by
                intro n _
                have hDeeper : t.height < ((name :: q) ++ R).length + fuel := by
                  rw [List.cons_append, List.length_cons]
                  omega
                exact ih (q := name :: q) hAt hDeeper
              have hList := readDir_below (q := name :: q) h hAt
              rw [List.cons_append, List.cons_append] at hList
              show (readDir t (name :: (q ++ root)) >>= _) = _
              rw [hList, ok_bind]
              have hFold := foldlM_statsOf (nodup_children t _) hEntries
                (b := 0) (f := 0) (by omega) (by omega)
              rw [Nat.zero_add, Nat.zero_add] at hFold
              unfold bytesIn filesIn at hFold ⊢
              rw [total_under_dir hAt rfl, total_under_dir hAt rfl]
              exact hFold
          | file content => exact (statsOf_leaf hAt Object.noConfusion).symm
          | link target => exact (statsOf_leaf hAt Object.noConfusion).symm

end Count

/-! ## The removal -/

section Steps

variable {t : FileTree}

theorem reading_eq {α : Type} {f : FileTree → Except Stop α} {a : α} (h : f t = .ok a) :
    reading f t = .ok a t := by
  show ofExcept id (f t) t = _
  rw [h]
  rfl

theorem reading_error {α : Type} {f : FileTree → Except Stop α} {e : Stop}
    (h : f t = .error e) : reading f t = .error e t := by
  show ofExcept id (f t) t = _
  rw [h]
  rfl

theorem removing_eq {path : Path} {f : FileTree → Except OsError FileTree} {t' : FileTree}
    (h : f t = .ok t') : removing path f t = .ok () t' := by
  show removed path (f t) t = _
  rw [h]
  rfl

end Steps

section Removal

variable [LinkResolution] {t : FileTree} {root R q : Path} {name : String} {fuel : Nat}
  {o : Object}

omit [LinkResolution] in
/-- A directory is no part of what is below its entries. -/
theorem dir_without_entry (hDir : t.at (q ++ R) = some .dir) (name : String) :
    (t.without (.under (name :: (q ++ R)))).at (q ++ R) = some .dir := by
  rw [at_without, if_neg]
  · exact hDir
  · rw [mem_under]
    exact not_suffix_of_entry _ _

theorem anchored_without_entry (h : Anchored root R t) (q : Path) (name : String) :
    Anchored root R (t.without (.under (name :: (q ++ R)))) := by
  apply h.without
  intro p hp
  rw [mem_under] at hp ⊢
  exact ((List.suffix_append q R).trans (List.suffix_cons name (q ++ R))).trans hp

/-- The loop over the entries of a directory, when each of them is removed. -/
theorem forM_remove {remove : String → EStateM Stop FileTree Unit}
    (hRemove : ∀ t n, Anchored root R t → t.at (q ++ R) = some .dir →
      t.height < (q ++ R).length + fuel →
        remove n t = .ok () (t.without (.under (n :: (q ++ R)))))
    (names : List String) (h : Anchored root R t) (hDir : t.at (q ++ R) = some .dir)
    (hFuel : t.height < (q ++ R).length + fuel) :
    names.forM remove t = .ok () (t.without (.underAny (names.map (· :: (q ++ R))))) := by
  induction names generalizing t with
  | nil =>
      show EStateM.Result.ok () t = .ok () (t.without .empty)
      rw [without_empty]
  | cons n names ih =>
      show (remove n >>= fun _ => names.forM remove) t = _
      rw [bind_of_ok (hRemove t n h hDir hFuel),
        ih (anchored_without_entry h q n) (dir_without_entry hDir n)
          ((height_without_le t _).trans_lt hFuel), without_without]
      rfl

omit [LinkResolution] in
/-- Once its entries are gone, a directory is empty. -/
theorem children_without_entries (t : FileTree) (d : Path) :
    (t.without (.underAny ((t.children d).map (· :: d)))).children d = [] := by
  rw [List.eq_nil_iff_forall_not_mem]
  intro name hName
  obtain ⟨o, hAt⟩ := mem_children.1 hName
  have hHeld := mem_children.2 ⟨o, at_without_eq_some hAt⟩
  rw [at_without, if_pos] at hAt
  · cases hAt
  · rw [mem_underAny]
    exact ⟨name :: d, List.mem_map.2 ⟨name, hHeld, rfl⟩, List.suffix_refl _⟩

omit [LinkResolution] in
/-- The entries of a directory are below it. -/
theorem entries_within (t : FileTree) (d : Path) :
    (Region.underAny ((t.children d).map (· :: d))).Within (.under d) := by
  intro p hp
  obtain ⟨_, hLoc, hSuffix⟩ := mem_underAny.1 hp
  obtain ⟨n, -, rfl⟩ := List.mem_map.1 hLoc
  exact mem_under.2 ((List.suffix_cons n d).trans hSuffix)

omit [LinkResolution] in
/-- A directory and those it stands in are not among its entries. -/
theorem at_without_entries {d p : Path} (hp : p <:+ d) :
    (t.without (.underAny ((t.children d).map (· :: d)))).at p = t.at p := by
  apply at_without_of_not_mem
  rw [Bool.eq_false_iff]
  intro hMem
  obtain ⟨_, hLoc, hSuffix⟩ := mem_underAny.1 hMem
  obtain ⟨n, -, rfl⟩ := List.mem_map.1 hLoc
  exact not_suffix_of_entry d n (hSuffix.trans hp)

/-- A directory whose entries are gone goes too, and with it all that stood there. -/
theorem removeDir_emptied (h : Anchored root R t) (hDir : t.at (q ++ R) = some .dir)
    (hAt : t.at (name :: (q ++ R)) = some .dir) :
    removing (name :: (q ++ root)) (·.removeDir (name :: (q ++ root)))
        (t.without (.underAny ((t.children (name :: (q ++ R))).map (· :: (name :: (q ++ R)))))) =
      .ok () (t.without (.under (name :: (q ++ R)))) := by
  have hInside := entries_within t (name :: (q ++ R))
  have hRoot : (Region.under (name :: (q ++ R))).Within (.under R) := by
    intro p hp
    rw [mem_under] at hp ⊢
    exact ((List.suffix_append q R).trans (List.suffix_cons name _)).trans hp
  have hAnchored := h.without (fun p hp => hRoot p (hInside p hp))
  have hRemoved := hAnchored.removeDir
    ((at_without_entries (List.suffix_cons name (q ++ R))).trans hDir)
    ((at_without_entries (List.suffix_refl _)).trans hAt)
    (children_without_entries t (name :: (q ++ R)))
  rw [without_without] at hRemoved
  have hAll : t.without ((Region.underAny ((t.children (name :: (q ++ R))).map
      (· :: (name :: (q ++ R))))).union (.under (name :: (q ++ R)))) =
      t.without (.under (name :: (q ++ R))) := by
    apply without_congr
    intro p o _
    rw [mem_union, Bool.or_eq_right_iff_imp]
    exact hInside p
  rw [hAll] at hRemoved
  exact removing_eq hRemoved

/-- The removal takes what stands at the path or below, and nothing else. -/
theorem removeTree_eq (h : Anchored root R t) (hDir : t.at (q ++ R) = some .dir)
    (hFuel : t.height < (q ++ R).length + fuel) :
    removeTree fuel (name :: (q ++ root)) t = .ok () (t.without (.under (name :: (q ++ R)))) := by
  induction fuel generalizing t q name with
  | zero =>
      have := length_le_height hDir
      omega
  | succ fuel ih =>
      unfold removeTree
      rw [bind_of_ok (reading_eq (symlinkMetadataOptional_below h hDir))]
      cases hAt : t.at (name :: (q ++ R)) with
      | none =>
          have hSame : t.without (.under (name :: (q ++ R))) = t :=
            without_eq_self fun _ _ hp => not_mem_under_of_none hAt hp
          rw [hSame]
          rfl
      | some o =>
          cases o with
          | dir =>
              have hDeeper : t.height < ((name :: q) ++ R).length + fuel := by
                rw [List.cons_append, List.length_cons]
                omega
              have hList := readDir_below (q := name :: q) h hAt
              have hRemove : ∀ t' n, Anchored root R t' → t'.at ((name :: q) ++ R) = some .dir →
                  t'.height < ((name :: q) ++ R).length + fuel →
                    removeTree fuel (n :: ((name :: q) ++ root)) t' =
                      .ok () (t'.without (.under (n :: ((name :: q) ++ R)))) :=
                fun _ _ hAnchored hHere hBound => ih hAnchored hHere hBound
              have hLoop := forM_remove hRemove (t.children (name :: (q ++ R))) h hAt hDeeper
              refine (bind_of_ok (reading_eq hList) _).trans ?_
              refine (bind_of_ok hLoop _).trans ?_
              exact removeDir_emptied h hDir hAt
          | file content =>
              exact removing_eq (h.removeFile hDir hAt Object.noConfusion)
          | link target =>
              exact removing_eq (h.removeFile hDir hAt Object.noConfusion)

end Removal

/-! ## What a clearing comes to -/

/-- The report grew by the totals of the region, in items by its objects at most. -/
structure Adds (report : StorageClearReport) (t : FileTree) (A : Region)
    (report' : StorageClearReport) : Prop where
  bytes : report'.clearedBytes = report.clearedBytes + bytesIn t A
  files : report'.clearedFiles = report.clearedFiles + filesIn t A
  items : report'.clearedItems ≤ report.clearedItems + objectsIn t A

/-- The totals of the region do not fit the report. -/
def Overflows (report : StorageClearReport) (t : FileTree) (A : Region) : Prop :=
  2 ^ 64 ≤ report.clearedBytes + bytesIn t A ∨ 2 ^ 64 ≤ report.clearedFiles + filesIn t A ∨
    2 ^ 64 ≤ report.clearedItems + objectsIn t A

/-- The region is gone and reported, or its totals do not fit and a part of it is gone. -/
def Clears (report : StorageClearReport) (t : FileTree) (A : Region) :
    EStateM.Result Stop FileTree StorageClearReport → Prop
  | .ok report' t' => t' = t.without A ∧ Adds report t A report'
  | .error e t' => e = .failed .numericOverflow ∧ Overflows report t A ∧
      ∃ B : Region, (∀ p o, t.at p = some o → B.mem p = true → A.mem p = true) ∧ t' = t.without B

section Outcome

variable {report report' : StorageClearReport} {t : FileTree} {A B : Region}

/-- Only the objects that stand in a region matter. -/
theorem Clears.congr {result : EStateM.Result Stop FileTree StorageClearReport}
    (h : Clears report t A result)
    (hSame : ∀ p o, t.at p = some o → A.mem p = B.mem p) : Clears report t B result := by
  have hTotal : ∀ w, t.total w A = t.total w B := fun w =>
    total_congr fun p o hAt => by rw [hSame p o hAt]
  cases result with
  | ok report' t' =>
      obtain ⟨hTree, hAdds⟩ := h
      refine ⟨hTree.trans (without_congr hSame), ?_, ?_, ?_⟩
      · exact hAdds.bytes.trans (congrArg _ (hTotal Object.len))
      · exact hAdds.files.trans (congrArg _ (hTotal fileCount))
      · exact hAdds.items.trans (le_of_eq (congrArg _ (hTotal fun _ => 1)))
  | error e t' =>
      obtain ⟨hError, hOver, C, hInside, hTree⟩ := h
      refine ⟨hError, ?_, C, ?_, hTree⟩
      · unfold Overflows bytesIn filesIn objectsIn at hOver ⊢
        rw [← hTotal, ← hTotal, ← hTotal]
        exact hOver
      · intro p o hAt hMem
        rw [← hSame p o hAt]
        exact hInside p o hAt hMem

/-- The totals of the second region are those that the first one leaves. -/
theorem Adds.trans {report'' : StorageClearReport} (h : Adds report t A report')
    (h' : Adds report' (t.without A) B report'') : Adds report t (A.union B) report'' := by
  constructor
  · unfold bytesIn
    rw [h'.bytes, h.bytes, total_union, Nat.add_assoc]
  · unfold filesIn
    rw [h'.files, h.files, total_union, Nat.add_assoc]
  · have hFirst := h.items
    have hSecond := h'.items
    unfold objectsIn at *
    rw [total_union]
    omega

theorem Overflows.left (h : Overflows report t A) : Overflows report t (A.union B) := by
  unfold Overflows bytesIn filesIn objectsIn at *
  rw [total_union, total_union, total_union]
  omega

theorem Overflows.right (h : Adds report t A report') (h' : Overflows report' (t.without A) B) :
    Overflows report t (A.union B) := by
  have hBytes := h.bytes
  have hFiles := h.files
  have hItems := h.items
  unfold Overflows bytesIn filesIn objectsIn at *
  rw [total_union, total_union, total_union]
  omega

/-- One clearing after another clears both regions. -/
theorem Clears.bind {x : EStateM Stop FileTree StorageClearReport}
    {f : StorageClearReport → EStateM Stop FileTree StorageClearReport}
    (hx : Clears report t A (x t))
    (hf : ∀ r, Clears r (t.without A) B (f r (t.without A))) :
    Clears report t (A.union B) ((x >>= f) t) := by
  cases hRun : x t with
  | ok report' t' =>
      rw [hRun] at hx
      obtain ⟨rfl, hAdds⟩ := hx
      rw [bind_of_ok hRun]
      have hNext := hf report'
      cases hLast : f report' (t.without A) with
      | ok report'' t'' =>
          rw [hLast] at hNext
          exact ⟨hNext.1.trans without_without, hAdds.trans hNext.2⟩
      | error e t'' =>
          rw [hLast] at hNext
          obtain ⟨hError, hOver, C, hInside, hTree⟩ := hNext
          refine ⟨hError, Overflows.right hAdds hOver, A.union C, ?_, ?_⟩
          · intro p o hAt hMem
            rw [mem_union, Bool.or_eq_true] at hMem ⊢
            by_cases hA : A.mem p = true
            · exact .inl hA
            · have hLeft : (t.without A).at p = some o := by
                rw [at_without, if_neg hA]
                exact hAt
              exact .inr (hInside p o hLeft (hMem.resolve_left hA))
          · rw [hTree, without_without]
  | error e t' =>
      rw [hRun] at hx
      rw [bind_of_error hRun]
      obtain ⟨hError, hOver, C, hInside, hTree⟩ := hx
      refine ⟨hError, hOver.left, C, ?_, hTree⟩
      intro p o hAt hMem
      rw [mem_union, hInside p o hAt hMem]
      rfl

/-- Clearing nothing. -/
theorem clears_pure (hEmpty : ∀ p o, t.at p = some o → A.mem p = false) :
    Clears report t A (.ok report t) := by
  have hZero : ∀ w, t.total w A = 0 := fun w => total_eq_zero hEmpty
  refine ⟨(without_eq_self hEmpty).symm, ?_, ?_, ?_⟩
  · exact (congrArg (report.clearedBytes + ·) (hZero Object.len)).symm
  · exact (congrArg (report.clearedFiles + ·) (hZero fileCount)).symm
  · exact Nat.le_add_right _ _

/-- Adding what was cleared to the report. -/
theorem clears_add {cleared : StorageClearReport} (h : Adds .none t A cleared) :
    Clears report t A (ofExcept id (checkedReportAdd report cleared) (t.without A)) := by
  have hBytes := h.bytes
  have hFiles := h.files
  have hItems := h.items
  change cleared.clearedBytes = 0 + _ at hBytes
  change cleared.clearedFiles = 0 + _ at hFiles
  change cleared.clearedItems ≤ 0 + _ at hItems
  have hSame : ∀ p o, t.at p = some o → A.mem p = true → A.mem p = true := fun _ _ _ hMem => hMem
  unfold checkedReportAdd
  by_cases hb : report.clearedBytes + cleared.clearedBytes < 2 ^ 64
  · rw [checkedAdd_of hb, ok_bind]
    by_cases hf : report.clearedFiles + cleared.clearedFiles < 2 ^ 64
    · rw [checkedAdd_of hf, ok_bind]
      by_cases hi : report.clearedItems + cleared.clearedItems < 2 ^ 64
      · rw [checkedAdd_of hi, ok_bind]
        refine ⟨rfl, ?_, ?_, ?_⟩
        · show report.clearedBytes + cleared.clearedBytes = _
          omega
        · show report.clearedFiles + cleared.clearedFiles = _
          omega
        · show report.clearedItems + cleared.clearedItems ≤ _
          omega
      · rw [checkedAdd_overflow hi]
        exact ⟨rfl, .inr (.inr (by omega)), A, hSame, rfl⟩
    · rw [checkedAdd_overflow hf]
      exact ⟨rfl, .inr (.inl (by omega)), A, hSame, rfl⟩
  · rw [checkedAdd_overflow hb]
    exact ⟨rfl, .inl (by omega), A, hSame, rfl⟩

end Outcome

/-- Files are objects. -/
theorem filesIn_le (t : FileTree) (A : Region) : filesIn t A ≤ objectsIn t A := by
  apply total_le
  intro p o _
  split
  · cases o with
    | dir => exact Nat.zero_le _
    | file content => exact le_refl _
    | link target => exact le_refl _
  · exact le_refl _

/-! ## The loops -/

section Clearing

variable [LinkResolution] {t : FileTree} {root R q : Path} {name : String} {fuel : Nat}
  {report : StorageClearReport}

/-- `clear_owned_path` below the root. -/
theorem clearOwnedPath_clears (h : Anchored root R t) (hDir : t.at (q ++ R) = some .dir)
    (hFuel : t.height < (q ++ R).length + fuel) :
    Clears .none t (.under (name :: (q ++ R))) (clearOwnedPath fuel (name :: (q ++ root)) t) := by
  have hStats : statsForPath fuel t (name :: (q ++ root)) =
      statsOf (bytesIn t (.under (name :: (q ++ R)))) (filesIn t (.under (name :: (q ++ R)))) :=
    statsForPath_eq h hDir hFuel
  unfold clearOwnedPath
  by_cases hFits : bytesIn t (.under (name :: (q ++ R))) < 2 ^ 64 ∧
      filesIn t (.under (name :: (q ++ R))) < 2 ^ 64
  · rw [statsOf, if_pos hFits] at hStats
    rw [bind_of_ok (reading_eq hStats),
      bind_of_ok (reading_eq (symlinkMetadataOptional_below h hDir))]
    cases hAt : t.at (name :: (q ++ R)) with
    | none => exact clears_pure fun _ _ hp => not_mem_under_of_none hAt hp
    | some o =>
        have hHere : (Region.under (name :: (q ++ R))).mem (name :: (q ++ R)) = true :=
          mem_under.2 (List.suffix_refl _)
        have hOne : 1 ≤ objectsIn t (.under (name :: (q ++ R))) :=
          le_total (w := fun _ => 1) hAt hHere
        have hFiles := filesIn_le t (.under (name :: (q ++ R)))
        refine (congrArg (Clears .none t _) (bind_of_ok (removeTree_eq h hDir hFuel) _)).mpr ?_
        refine ⟨rfl, ?_, ?_, ?_⟩
        · exact (Nat.zero_add _).symm
        · exact (Nat.zero_add _).symm
        · show max (filesIn t (.under (name :: (q ++ R)))) 1 ≤ 0 + _
          omega
  · rw [statsOf_overflow hFits] at hStats
    rw [bind_of_error (reading_error hStats)]
    refine ⟨rfl, ?_, .empty, ?_, without_empty.symm⟩
    · unfold Overflows
      show 2 ^ 64 ≤ 0 + _ ∨ 2 ^ 64 ≤ 0 + _ ∨ _
      omega
    · intro p o _ hMem
      cases hMem

/-- One more path, added to the report. -/
theorem clearAnother_clears (h : Anchored root R t) (hDir : t.at (q ++ R) = some .dir)
    (hFuel : t.height < (q ++ R).length + fuel) :
    Clears report t (.under (name :: (q ++ R)))
      (clearAnother fuel report (name :: (q ++ root)) t) := by
  have hOwned : Clears .none t (.under (name :: (q ++ R)))
      (clearOwnedPath fuel (name :: (q ++ root)) t) := clearOwnedPath_clears h hDir hFuel
  unfold clearAnother
  cases hRun : clearOwnedPath fuel (name :: (q ++ root)) t with
  | ok cleared t' =>
      rw [hRun] at hOwned
      obtain ⟨rfl, hAdds⟩ := hOwned
      rw [bind_of_ok hRun]
      exact clears_add hAdds
  | error e t' =>
      rw [hRun] at hOwned
      rw [bind_of_error hRun]
      obtain ⟨hError, hOver, hRest⟩ := hOwned
      refine ⟨hError, ?_, hRest⟩
      unfold Overflows at hOver ⊢
      change 2 ^ 64 ≤ 0 + _ ∨ 2 ^ 64 ≤ 0 + _ ∨ 2 ^ 64 ≤ 0 + _ at hOver
      omega

/-- The loop over entries of one directory. -/
theorem clearEntries_clears (names : List String) (h : Anchored root R t)
    (hDir : t.at (q ++ R) = some .dir) (hFuel : t.height < (q ++ R).length + fuel) :
    Clears report t (.underAny (names.map (· :: (q ++ R))))
      (names.foldlM (fun report name => clearAnother fuel report (name :: (q ++ root)))
        report t) := by
  induction names generalizing t report with
  | nil => exact clears_pure fun _ _ _ => rfl
  | cons n names ih =>
      rw [List.foldlM_cons]
      apply Clears.bind (clearAnother_clears h hDir hFuel)
      intro r
      exact ih (anchored_without_entry h q n) (dir_without_entry hDir n)
        ((height_without_le t _).trans_lt hFuel)

end Clearing

/-! ## The scopes and the sources -/

/-- The entries of the root that belong to a scope. -/
def owns : StorageClearScope → String → Bool
  | .previewProxy => fun name => decide (name = previewProxyNamespace)
  | .persistentIndexes => fun name => decide (name = frameIndexNamespace)
  | .disposable => isDisposable
  | .all => fun _ => true

/-- The entries `sourceKey` of the versions of the index at `d`. -/
def sourceEntries (d : Path) (sourceKey : String) : Region where
  mem := fun p => (entryBelow d p).any fun version => decide (sourceKey :: version :: d <:+ p)
  below := fun name p h => by
    rw [Option.any_eq_true] at h ⊢
    obtain ⟨version, hEntry, hBelow⟩ := h
    refine ⟨version, ?_, ?_⟩
    · rw [entryBelow_eq_some] at hEntry ⊢
      exact hEntry.trans (List.suffix_cons name p)
    · rw [decide_eq_true_eq] at hBelow ⊢
      exact hBelow.trans (List.suffix_cons name p)

/-- What the callers can ask for. -/
inductive ClearRequest where
  | scope (scope : StorageClearScope)
  | source (sourceKey : String)

/-- What the request owns below the root at `R`. -/
def ClearRequest.owned (R : Path) : ClearRequest → Region
  | .scope which => .entries R (owns which)
  | .source sourceKey => sourceEntries (frameIndexNamespace :: R) sourceKey

/-- A key that could name something outside the index is refused. -/
def ClearRequest.Valid : ClearRequest → Prop
  | .scope _ => True
  | .source sourceKey => isSafeSourceKey sourceKey = true

section Requests

variable [LinkResolution] {t : FileTree} {R : Path} {admin : StorageAdmin} {fuel : Nat}
  {report : StorageClearReport} {sourceKey version : String}

/-- The answer to a request. -/
def answer (admin : StorageAdmin) (fuel : Nat) :
    ClearRequest → EStateM Stop FileTree StorageClearReport
  | .scope which => admin.clear fuel which
  | .source sourceKey => admin.clearSourceIndexes fuel sourceKey

omit [LinkResolution] in
theorem mem_sourceEntries {d p : Path} : (sourceEntries d sourceKey).mem p = true ↔
    ∃ version, sourceKey :: version :: d <:+ p := by
  show (entryBelow d p).any _ = true ↔ _
  rw [Option.any_eq_true]
  constructor
  · rintro ⟨version, -, hBelow⟩
    exact ⟨version, of_decide_eq_true hBelow⟩
  · rintro ⟨version, hBelow⟩
    exact ⟨version, entryBelow_eq_some.2 ((List.suffix_cons ..).trans hBelow),
      decide_eq_true hBelow⟩

theorem ensureRootSafe_dir (h : Anchored admin.root R t) (hDir : t.at R = some .dir) :
    admin.ensureRootSafe t = .ok () := by
  have hMetadata : t.symlinkMetadata admin.root = .ok .dir := by
    unfold FileTree.symlinkMetadata
    rw [h.locate]
    show (t.at R).elim _ _ = _
    rw [hDir]
    rfl
  unfold StorageAdmin.ensureRootSafe symlinkMetadataOptional
  rw [hMetadata]
  rfl

/-- A root that is a link is refused, and nothing changes. -/
theorem clear_linked_root (h : Anchored admin.root R t) {target : Payload}
    (hLink : t.at R = some (.link target)) (scope : StorageClearScope) :
    admin.clear fuel scope t = .error (.failed (.rootIsSymlink admin.root)) t := by
  have hMetadata : t.symlinkMetadata admin.root = .ok (.link target) := by
    unfold FileTree.symlinkMetadata
    rw [h.locate]
    show (t.at R).elim _ _ = _
    rw [hLink]
    rfl
  have hUnsafe : admin.ensureRootSafe t = .error (.failed (.rootIsSymlink admin.root)) := by
    unfold StorageAdmin.ensureRootSafe symlinkMetadataOptional
    rw [hMetadata]
    rfl
  unfold StorageAdmin.clear
  exact bind_of_error (reading_error hUnsafe) _

theorem readDirOptional_root (h : Anchored admin.root R t) (hDir : t.at R = some .dir) :
    readDirOptional t admin.root = .ok (t.children R) := by
  have hList : t.readDir admin.root = .ok (t.children R) := h.readDir (q := []) hDir
  unfold readDirOptional
  rw [hList]

omit [LinkResolution] in
/-- The entries that a loop over a directory picks are those that a region picks. -/
theorem mem_underAny_filter {d p : Path} {keep : String → Bool} {o : Object}
    (hAt : t.at p = some o) :
    (Region.underAny (((t.children d).filter keep).map (· :: d))).mem p =
      (Region.entries d keep).mem p := by
  rw [Bool.eq_iff_iff, mem_underAny, mem_entries]
  constructor
  · rintro ⟨_, hLoc, hBelow⟩
    obtain ⟨name, hName, rfl⟩ := List.mem_map.1 hLoc
    exact ⟨name, (List.mem_filter.1 hName).2, hBelow⟩
  · rintro ⟨name, hKeep, hBelow⟩
    refine ⟨name :: d, List.mem_map.2 ⟨name, List.mem_filter.2 ⟨?_, hKeep⟩, rfl⟩, hBelow⟩
    by_cases hSame : name :: d = p
    · rw [hSame.symm] at hAt
      exact mem_children.2 ⟨o, hAt⟩
    · exact mem_children.2 ⟨.dir, dir_of_suffix hAt hBelow hSame⟩

omit [LinkResolution] in
theorem mem_entries_eq {d p : Path} (name : String) :
    (Region.under (name :: d)).mem p = (Region.entries d fun n => decide (n = name)).mem p := by
  rw [Bool.eq_iff_iff, mem_under, mem_entries]
  constructor
  · intro hBelow
    exact ⟨name, decide_eq_true rfl, hBelow⟩
  · rintro ⟨n, hName, hBelow⟩
    rwa [of_decide_eq_true hName] at hBelow

/-- The loop over the entries of a directory that `keep` picks. -/
theorem clearPicked_clears {root q : Path} (keep : String → Bool) (h : Anchored root R t)
    (hDir : t.at (q ++ R) = some .dir) (hFuel : t.height < (q ++ R).length + fuel) :
    Clears report t (.entries (q ++ R) keep)
      ((t.children (q ++ R)).foldlM (fun report name =>
        if keep name = true then clearAnother fuel report (name :: (q ++ root))
        else pure report) report t) := by
  rw [← List.foldlM_filter]
  exact (clearEntries_clears ((t.children (q ++ R)).filter keep) h hDir hFuel).congr
    fun p o hAt => mem_underAny_filter hAt

/-- A scope clears what it owns. -/
theorem clear_clears (h : Anchored admin.root R t) (hDir : t.at R = some .dir)
    (hFuel : t.height < fuel) (scope : StorageClearScope) :
    Clears .none t (.entries R (owns scope)) (admin.clear fuel scope t) := by
  have hHeight : t.height < ([] ++ R).length + fuel := by omega
  unfold StorageAdmin.clear
  rw [bind_of_ok (reading_eq (ensureRootSafe_dir h hDir))]
  cases scope with
  | previewProxy =>
      exact (clearOwnedPath_clears (q := []) h hDir hHeight).congr
        fun p _ _ => mem_entries_eq previewProxyNamespace
  | persistentIndexes =>
      exact (clearOwnedPath_clears (q := []) h hDir hHeight).congr
        fun p _ _ => mem_entries_eq frameIndexNamespace
  | disposable =>
      refine (congrArg (Clears .none t _)
        (bind_of_ok (reading_eq (readDirOptional_root h hDir)) _)).mpr ?_
      exact clearPicked_clears (q := []) isDisposable h hDir hHeight
  | all =>
      refine (congrArg (Clears .none t _)
        (bind_of_ok (reading_eq (readDirOptional_root h hDir)) _)).mpr ?_
      exact clearPicked_clears (q := []) (fun _ => true) h hDir hHeight

omit [LinkResolution] in
/-- What is below an entry of a version is not above it. -/
theorem version_without_source {d : Path} (h : t.at (version :: d) = some o) (n : String) :
    (t.without (.under (sourceKey :: n :: d))).at (version :: d) = some o := by
  rw [at_without, if_neg]
  · exact h
  · rw [mem_under]
    intro hBelow
    have := hBelow.length_le
    simp only [List.length_cons] at this
    omega

/-- One version of the index loses the entry of the source. -/
theorem clearSourceVersion_clears {root q : Path} {o : Object} (h : Anchored root R t)
    (hDir : t.at (q ++ R) = some .dir) (hFuel : t.height < (q ++ R).length + fuel)
    (hAt : t.at (version :: (q ++ R)) = some o) :
    Clears report t (.under (sourceKey :: version :: (q ++ R)))
      (clearSourceVersion fuel sourceKey report (version :: (q ++ root)) t) := by
  have hMetadata : t.symlinkMetadata (version :: (q ++ root)) = .ok o := by
    rw [h.symlinkMetadata hDir, hAt]
    rfl
  unfold clearSourceVersion
  by_cases hKind : o = .dir
  · subst hKind
    have hType : isDirEntry t (version :: (q ++ root)) = .ok true := by
      unfold isDirEntry
      rw [hMetadata]
    have hList := readDir_below (q := version :: q) h hAt
    have hDeeper : t.height < ((version :: q) ++ R).length + fuel := by
      rw [List.cons_append, List.length_cons]
      omega
    have hLoop : Clears report t (.entries (version :: (q ++ R)) fun n => decide (n = sourceKey))
        ((t.children (version :: (q ++ R))).foldlM (fun report name =>
          if decide (name = sourceKey) = true then
            clearAnother fuel report (name :: (version :: (q ++ root)))
          else pure report) report t) :=
      clearPicked_clears (q := version :: q) (fun name => decide (name = sourceKey)) h hAt hDeeper
    simp only [decide_eq_true_eq] at hLoop
    rw [bind_of_ok (reading_eq hType)]
    refine (congrArg (Clears report t _) (bind_of_ok (reading_eq hList) _)).mpr ?_
    exact hLoop.congr fun p _ _ => (mem_entries_eq sourceKey).symm
  · have hType : isDirEntry t (version :: (q ++ root)) = .ok false := by
      unfold isDirEntry
      rw [hMetadata]
      cases o with
      | dir => exact absurd rfl hKind
      | file content => rfl
      | link target => rfl
    rw [bind_of_ok (reading_eq hType)]
    apply clears_pure
    intro p x hp
    rw [Bool.eq_false_iff]
    intro hBelow
    -- Something below the version would make it a directory.
    have hSuffix := (List.suffix_cons sourceKey _).trans (mem_under.1 hBelow)
    have hNe : version :: (q ++ R) ≠ p := by
      intro hEq
      rw [← hEq] at hBelow
      exact not_suffix_of_entry _ _ (mem_under.1 hBelow)
    have hVersion := dir_of_suffix hp hSuffix hNe
    rw [hAt] at hVersion
    exact hKind (Option.some.inj hVersion)

/-- The loop over the versions. -/
theorem clearVersions_clears {root q : Path} (versions : List String) (h : Anchored root R t)
    (hDir : t.at (q ++ R) = some .dir) (hFuel : t.height < (q ++ R).length + fuel)
    (hHere : ∀ v ∈ versions, ∃ o, t.at (v :: (q ++ R)) = some o) :
    Clears report t (.underAny (versions.map fun v => sourceKey :: v :: (q ++ R)))
      (versions.foldlM (fun report name =>
        clearSourceVersion fuel sourceKey report (name :: (q ++ root))) report t) := by
  induction versions generalizing t report with
  | nil => exact clears_pure fun _ _ _ => rfl
  | cons v versions ih =>
      obtain ⟨o, hAt⟩ := hHere v (List.mem_cons_self ..)
      rw [List.foldlM_cons]
      apply Clears.bind (clearSourceVersion_clears h hDir hFuel hAt)
      intro r
      apply ih
      · exact anchored_without_entry h (v :: q) sourceKey
      · rw [at_without, if_neg]
        · exact hDir
        · rw [mem_under]
          intro hBelow
          have := hBelow.length_le
          simp only [List.length_cons] at this
          omega
      · exact (height_without_le t _).trans_lt hFuel
      · intro m hm
        obtain ⟨o', hAt'⟩ := hHere m (List.mem_cons_of_mem _ hm)
        exact ⟨o', version_without_source hAt' v⟩

/-- A safe key clears the entries of its source. -/
theorem clearSourceIndexes_clears (h : Anchored admin.root R t) (hDir : t.at R = some .dir)
    (hFuel : t.height < fuel) (hKey : isSafeSourceKey sourceKey = true) :
    Clears .none t (sourceEntries (frameIndexNamespace :: R) sourceKey)
      (admin.clearSourceIndexes fuel sourceKey t) := by
  unfold StorageAdmin.clearSourceIndexes
  rw [if_pos hKey, bind_of_ok (reading_eq (ensureRootSafe_dir h hDir))]
  have hMetadata : symlinkMetadataOptional t (frameIndexNamespace :: admin.root) =
      .ok (t.at (frameIndexNamespace :: R)) := symlinkMetadataOptional_below (q := []) h hDir
  by_cases hIndex : t.at (frameIndexNamespace :: R) = some .dir
  · rw [hIndex] at hMetadata
    have hList : readDir t (frameIndexNamespace :: admin.root) =
        .ok (t.children (frameIndexNamespace :: R)) :=
      readDir_below (q := [frameIndexNamespace]) h hIndex
    have hDeeper : t.height < ([frameIndexNamespace] ++ R).length + fuel := by omega
    have hLoop : Clears .none t
        (.underAny ((t.children (frameIndexNamespace :: R)).map fun v =>
          sourceKey :: v :: (frameIndexNamespace :: R)))
        ((t.children (frameIndexNamespace :: R)).foldlM (fun report name =>
          clearSourceVersion fuel sourceKey report (name :: (frameIndexNamespace :: admin.root)))
          .none t) :=
      clearVersions_clears (q := [frameIndexNamespace]) _ h hIndex hDeeper
        fun v hv => mem_children.1 hv
    refine (congrArg (Clears .none t _) (bind_of_ok (reading_eq hMetadata) _)).mpr ?_
    refine (congrArg (Clears .none t _) (bind_of_ok (reading_eq hList) _)).mpr ?_
    apply hLoop.congr
    intro p o hAt
    rw [Bool.eq_iff_iff, mem_underAny, mem_sourceEntries]
    constructor
    · rintro ⟨_, hLoc, hBelow⟩
      obtain ⟨v, -, rfl⟩ := List.mem_map.1 hLoc
      exact ⟨v, hBelow⟩
    · rintro ⟨v, hBelow⟩
      refine ⟨_, List.mem_map.2 ⟨v, mem_children.2 ⟨.dir, ?_⟩, rfl⟩, hBelow⟩
      apply dir_of_suffix hAt ((List.suffix_cons ..).trans hBelow)
      intro hEq
      rw [← hEq] at hBelow
      exact not_suffix_of_entry _ _ hBelow
  · have hEmpty : ∀ p o, t.at p = some o →
        (sourceEntries (frameIndexNamespace :: R) sourceKey).mem p = false := by
      intro p o hAt
      rw [Bool.eq_false_iff]
      intro hMem
      obtain ⟨v, hBelow⟩ := mem_sourceEntries.1 hMem
      apply hIndex
      apply dir_of_suffix hAt (((List.suffix_cons ..).trans (List.suffix_cons ..)).trans hBelow)
      intro hEq
      rw [← hEq] at hBelow
      have := hBelow.length_le
      simp only [List.length_cons] at this
      omega
    refine (congrArg (Clears .none t _) (bind_of_ok (reading_eq hMetadata) _)).mpr ?_
    cases hAt : t.at (frameIndexNamespace :: R) with
    | none => exact clears_pure hEmpty
    | some o =>
        cases o with
        | dir => exact absurd hAt hIndex
        | file content => exact clears_pure hEmpty
        | link target => exact clears_pure hEmpty

/-- Every valid request clears what it owns. -/
theorem answer_clears (h : Anchored admin.root R t) (hDir : t.at R = some .dir)
    (hFuel : t.height < fuel) {request : ClearRequest} (hValid : request.Valid) :
    Clears .none t (request.owned R) (answer admin fuel request t) := by
  cases request with
  | scope which => exact clear_clears h hDir hFuel which
  | source sourceKey => exact clearSourceIndexes_clears h hDir hFuel hValid

/-- A key that is not safe is refused, and nothing changes. -/
theorem clearSourceIndexes_unsafe (hKey : isSafeSourceKey sourceKey ≠ true) :
    admin.clearSourceIndexes fuel sourceKey t = .error (.failed .invalidSourceKey) t := by
  unfold StorageAdmin.clearSourceIndexes
  rw [if_neg hKey]
  rfl

end Requests

/-! ## The statistics -/

/-- The bytes that the statistics report of a scope. -/
def reportedBytes (stats : FrameScopeStorageStats) : StorageClearScope → Nat
  | .previewProxy => stats.previewProxy.bytes
  | .persistentIndexes => stats.persistentIndexes.bytes
  | .disposable => stats.disposable.bytes
  | .all => stats.totalBytes

/-- The files that the statistics report of a scope. -/
def reportedFiles (stats : FrameScopeStorageStats) : StorageClearScope → Nat
  | .previewProxy => stats.previewProxy.files
  | .persistentIndexes => stats.persistentIndexes.files
  | .disposable => stats.disposable.files
  | .all => stats.persistentIndexes.files + stats.previewProxy.files + stats.disposable.files

section Statistics

variable [LinkResolution] {t : FileTree} {R : Path} {admin : StorageAdmin} {fuel : Nat}

omit [LinkResolution] in
theorem statsOf_eq_ok {b f : Nat} {stats : StorageCategoryStats} (h : statsOf b f = .ok stats) :
    stats.bytes = b ∧ stats.files = f := by
  unfold statsOf at h
  split at h
  · cases h
    exact ⟨rfl, rfl⟩
  · cases h

omit [LinkResolution] in
theorem checkedAdd_stats_ok {a b c : StorageCategoryStats} (h : a.checkedAdd b = .ok c) :
    c.bytes = a.bytes + b.bytes ∧ c.files = a.files + b.files := by
  unfold StorageCategoryStats.checkedAdd at h
  obtain ⟨bytes, hBytes, h⟩ := bind_eq_ok.1 h
  obtain ⟨files, hFiles, h⟩ := bind_eq_ok.1 h
  obtain ⟨items, -, h⟩ := bind_eq_ok.1 h
  cases h
  exact ⟨(checkedAdd_eq_ok.1 hBytes).2, (checkedAdd_eq_ok.1 hFiles).2⟩

/-- The count of an entry of the root. -/
theorem statsForPath_root (h : Anchored admin.root R t) (hDir : t.at R = some .dir)
    (hFuel : t.height < fuel) (name : String) :
    statsForPath fuel t (name :: admin.root) =
      statsOf (bytesIn t (.under (name :: R))) (filesIn t (.under (name :: R))) := by
  have hHeight : t.height < ([] ++ R).length + fuel := by omega
  exact statsForPath_eq (q := []) h hDir hHeight

/-- The totals of the entries that the statistics walk over. -/
theorem foldlM_stats_ok {names : List String} (hNodup : names.Nodup)
    (h : Anchored admin.root R t) (hDir : t.at R = some .dir) (hFuel : t.height < fuel)
    {total result : StorageCategoryStats}
    (hRun : names.foldlM (fun total name => do
      let stats ← statsForPath fuel t (name :: admin.root)
      total.checkedAdd { stats with items := 1 }) total = .ok result) :
    result.bytes = total.bytes + bytesIn t (.underAny (names.map (· :: R))) ∧
      result.files = total.files + filesIn t (.underAny (names.map (· :: R))) := by
  induction names generalizing total with
  | nil =>
      have hNone : ∀ w, t.total w (.underAny []) = 0 := fun w => total_eq_zero fun _ _ _ => rfl
      have hSame : total = result := Except.ok.inj hRun
      rw [← hSame]
      exact ⟨(congrArg (total.bytes + ·) (hNone Object.len)).symm,
        (congrArg (total.files + ·) (hNone fileCount)).symm⟩
  | cons n names ih =>
      rw [List.nodup_cons] at hNodup
      rw [List.foldlM_cons] at hRun
      obtain ⟨next, hStep, hRest⟩ := bind_eq_ok.1 hRun
      obtain ⟨stats, hStats, hSum⟩ := bind_eq_ok.1 hStep
      rw [statsForPath_root h hDir hFuel] at hStats
      obtain ⟨hBytes, hFiles⟩ := statsOf_eq_ok hStats
      obtain ⟨hSumBytes, hSumFiles⟩ := checkedAdd_stats_ok hSum
      obtain ⟨hRestBytes, hRestFiles⟩ := ih hNodup.2 hRest
      unfold bytesIn filesIn at *
      rw [total_underAny_cons hNodup.1, total_underAny_cons hNodup.1]
      constructor
      · rw [hRestBytes, hSumBytes, hBytes, Nat.add_assoc]
      · rw [hRestFiles, hSumFiles, hFiles, Nat.add_assoc]

omit [LinkResolution] in
/-- The scopes divide the root. -/
theorem total_all (t : FileTree) (R : Path) (w : Object → Nat) :
    t.total w (.entries R (owns .all)) = t.total w (.entries R (owns .persistentIndexes)) +
      t.total w (.entries R (owns .previewProxy)) + t.total w (.entries R (owns .disposable)) := by
  have hAll : owns .all = fun name => (owns .persistentIndexes name || owns .previewProxy name) ||
      owns .disposable name := by
    funext name
    by_cases hIndex : name = frameIndexNamespace
    · simp [owns, hIndex]
    · by_cases hProxy : name = previewProxyNamespace
      · simp [owns, hProxy]
      · simp [owns, isDisposable, hIndex, hProxy]
  rw [hAll, total_entries_or, total_entries_or]
  · intro name hName
    rw [of_decide_eq_true hName]
    rfl
  · intro name hName
    rw [Bool.or_eq_true] at hName
    rcases hName with hIndex | hProxy
    · rw [of_decide_eq_true hIndex]
      rfl
    · rw [of_decide_eq_true hProxy]
      rfl

/-- What the statistics report of a scope is what the scope owns. -/
theorem stats_totals (h : Anchored admin.root R t) (hDir : t.at R = some .dir)
    (hFuel : t.height < fuel) {stats : FrameScopeStorageStats}
    (hStats : admin.statsUnlocked fuel t = .ok stats) (scope : StorageClearScope) :
    reportedBytes stats scope = bytesIn t (.entries R (owns scope)) ∧
      reportedFiles stats scope = filesIn t (.entries R (owns scope)) := by
  have hUnder : ∀ (name : String) (w : Object → Nat),
      t.total w (.under (name :: R)) = t.total w (.entries R fun n => decide (n = name)) := by
    intro name w
    apply total_congr
    intro p _ _
    rw [mem_entries_eq name]
  have hExists : t.pathExists admin.root = true := by
    unfold FileTree.pathExists
    rw [h.locate]
    dsimp only
    rw [hDir]
  unfold StorageAdmin.statsUnlocked at hStats
  rw [ensureRootSafe_dir h hDir, ok_bind, if_pos hExists] at hStats
  obtain ⟨indexes, hIndexes, hStats⟩ := bind_eq_ok.1 hStats
  obtain ⟨proxy, hProxy, hStats⟩ := bind_eq_ok.1 hStats
  obtain ⟨disposable, hDisposable, hStats⟩ := bind_eq_ok.1 hStats
  obtain ⟨named, hNamed, hStats⟩ := bind_eq_ok.1 hStats
  obtain ⟨totalBytes, hTotal, hStats⟩ := bind_eq_ok.1 hStats
  obtain ⟨sources, -, hStats⟩ := bind_eq_ok.1 hStats
  cases hStats
  rw [statsForPath_root h hDir hFuel] at hIndexes hProxy
  obtain ⟨hIndexBytes, hIndexFiles⟩ := statsOf_eq_ok hIndexes
  obtain ⟨hProxyBytes, hProxyFiles⟩ := statsOf_eq_ok hProxy
  have hRest : disposable.bytes = bytesIn t (.entries R (owns .disposable)) ∧
      disposable.files = filesIn t (.entries R (owns .disposable)) := by
    unfold StorageAdmin.disposableStatsUnlocked at hDisposable
    rw [readDirOptional_root h hDir, ok_bind] at hDisposable
    have hFilter : ((t.children R).filter isDisposable).foldlM
        (fun (total : StorageCategoryStats) name => do
          let stats ← statsForPath fuel t (name :: admin.root)
          total.checkedAdd { stats with items := 1 }) StorageCategoryStats.none =
        .ok disposable :=
      List.foldlM_filter.trans hDisposable
    have hWalk := foldlM_stats_ok ((nodup_children t R).filter _) h hDir hFuel hFilter
    have hSame : ∀ w, t.total w (.underAny (((t.children R).filter isDisposable).map (· :: R))) =
        t.total w (.entries R (owns .disposable)) := by
      intro w
      apply total_congr
      intro p o hAt
      rw [mem_underAny_filter hAt]
      rfl
    unfold bytesIn filesIn at *
    rw [hSame, hSame] at hWalk
    exact ⟨hWalk.1.trans (Nat.zero_add _), hWalk.2.trans (Nat.zero_add _)⟩
  have hNamedSum := (checkedAdd_eq_ok.1 hNamed).2
  have hTotalSum := (checkedAdd_eq_ok.1 hTotal).2
  unfold bytesIn filesIn at *
  cases scope with
  | previewProxy => exact ⟨hProxyBytes.trans (hUnder _ _), hProxyFiles.trans (hUnder _ _)⟩
  | persistentIndexes => exact ⟨hIndexBytes.trans (hUnder _ _), hIndexFiles.trans (hUnder _ _)⟩
  | disposable => exact hRest
  | all =>
      constructor
      · rw [total_all]
        show totalBytes = _
        rw [hTotalSum, hNamedSum, hIndexBytes, hProxyBytes, hRest.1]
        exact congrArg (· + _) (congrArg₂ (· + ·) (hUnder _ _) (hUnder _ _))
      · rw [total_all]
        show indexes.files + proxy.files + disposable.files = _
        rw [hIndexFiles, hProxyFiles, hRest.2]
        exact congrArg (· + _) (congrArg₂ (· + ·) (hUnder _ _) (hUnder _ _))

end Statistics

/-! ## Exact and contained -/

/-- The totals of a region fit the counters. -/
def Fits (t : FileTree) (A : Region) : Prop :=
  bytesIn t A < 2 ^ 64 ∧ objectsIn t A < 2 ^ 64

section Exact

variable {t : FileTree} {A : Region}
  {result : EStateM.Result Stop FileTree StorageClearReport}

/-- Nothing outside the region changes, however the run ends. -/
theorem Clears.contained (h : Clears .none t A result) {p : Path} (hp : A.mem p = false) :
    (finalState result).at p = t.at p := by
  cases result with
  | ok report t' =>
      show t'.at p = _
      rw [h.1]
      exact at_without_of_not_mem hp
  | error e t' =>
      obtain ⟨-, -, B, hInside, rfl⟩ := h
      show (t.without B).at p = _
      rw [at_without]
      by_cases hB : B.mem p = true
      · cases hAt : t.at p with
        | none => rw [if_pos hB]
        | some o =>
            rw [hInside p o hAt hB] at hp
            cases hp
      · rw [if_neg hB]

/-- Totals that fit are cleared. -/
theorem Clears.returns (h : Clears .none t A result) (hFits : Fits t A) :
    ∃ report, result = .ok report (t.without A) ∧ Adds .none t A report := by
  cases result with
  | ok report t' => exact ⟨report, by rw [h.1], h.2⟩
  | error e t' =>
      have hFiles := filesIn_le t A
      have hOver : Overflows .none t A := h.2.1
      unfold Overflows at hOver
      unfold Fits at hFits
      change 2 ^ 64 ≤ 0 + _ ∨ 2 ^ 64 ≤ 0 + _ ∨ 2 ^ 64 ≤ 0 + _ at hOver
      omega

/-- Where nothing is left, nothing is reported. -/
theorem Adds.none_of_without {report : StorageClearReport}
    (h : Adds .none (t.without A) A report) : report = .none := by
  have hBytes := h.bytes
  have hFiles := h.files
  have hItems := h.items
  unfold bytesIn at hBytes
  unfold filesIn at hFiles
  unfold objectsIn at hItems
  rw [total_without_self] at hBytes hFiles hItems
  cases report with
  | mk bytes files items =>
      change bytes = 0 at hBytes
      change files = 0 at hFiles
      change items ≤ 0 at hItems
      rw [hBytes, hFiles, Nat.le_zero.1 hItems]
      rfl

end Exact

section Trees

/-- Every link leads back to the root, but for one that leads out of it. -/
local instance sampleLinks : LinkResolution where
  follow := fun _ loc => .ok (if loc.head? = some "out" then ["user"] else ["cache"])

def zeros (n : Nat) (h : n < 2 ^ 63) : Payload where
  bytes := List.replicate n 0
  length_lt := by
    rw [List.length_replicate]
    exact h

theorem largest_lt : 2 ^ 63 - 1 < 2 ^ 63 := by decide

theorem four_lt : 4 < 2 ^ 63 := by decide

/-- As long as a file gets. -/
def largest : Object := .file (zeros (2 ^ 63 - 1) largest_lt)

def four : Object := .file (zeros 4 four_lt)

def linked : Object := .link (zeros 4 four_lt)

theorem zeros_length (n : Nat) (h : n < 2 ^ 63) : (zeros n h).bytes.length = n :=
  List.length_replicate

theorem largest_len : largest.len = 2 ^ 63 - 1 := zeros_length _ largest_lt

/-- Three files whose lengths add up beyond `u64`. -/
def hugeObjects : List (Path × Object) :=
  [(["cache"], .dir), ([], .dir), (["microscope-frame-cache", "cache"], .dir),
    (["a", "microscope-frame-cache", "cache"], largest),
    (["b", "microscope-frame-cache", "cache"], largest),
    (["c", "microscope-frame-cache", "cache"], largest)]

theorem huge_unique : (hugeObjects.map (·.1)).Nodup := by
  simp [hugeObjects]

theorem huge_parents : parentsListed hugeObjects = true := by
  simp [parentsListed, hugeObjects, Object.isDir]

def hugeTree : FileTree where
  objects := hugeObjects
  unique := huge_unique
  parents := parents_of_listed huge_parents

def cacheAdmin : StorageAdmin where
  root := ["cache"]
  previewProxyEnabled := false

theorem anchored_cache {t : FileTree} (h : t.at [] = some .dir) :
    Anchored cacheAdmin.root ["cache"] t := by
  apply anchored_self
  intro q hq hNe
  rcases List.suffix_cons_iff.1 hq with hSame | hNil
  · exact absurd hSame hNe
  · rw [List.suffix_nil.1 hNil]
    exact h

theorem huge_bytes :
    bytesIn hugeTree (.under ["microscope-frame-cache", "cache"]) = 3 * (2 ^ 63 - 1) := by
  simp [bytesIn, FileTree.total, hugeTree, hugeObjects, Region.under, largest_len, show Object.dir.len = 0 from rfl]

/-- Clearing three of the longest files removes nothing: their lengths overflow the
sum that the report starts from. -/
theorem clear_huge (fuel : Nat) (h : hugeTree.height < fuel) :
    answer cacheAdmin fuel (.scope .previewProxy) hugeTree =
      .error (.failed .numericOverflow) hugeTree := by
  have hRoot : Anchored cacheAdmin.root ["cache"] hugeTree := anchored_cache rfl
  have hStats := statsForPath_root hRoot rfl h previewProxyNamespace
  rw [statsOf_overflow] at hStats
  · show cacheAdmin.clear fuel .previewProxy hugeTree = _
    unfold StorageAdmin.clear
    rw [bind_of_ok (reading_eq (ensureRootSafe_dir hRoot rfl))]
    exact bind_of_error (reading_error hStats) _
  · intro hFits
    have hBytes : bytesIn hugeTree (.under [previewProxyNamespace, "cache"]) =
        3 * (2 ^ 63 - 1) := huge_bytes
    rw [hBytes] at hFits
    omega

/-- An index with a link back to the root, scratch files with a link out of it, and
what the user keeps. -/
def sampleObjects : List (Path × Object) :=
  [(["cache"], .dir), ([], .dir), (["user"], .dir), (["photo", "user"], four),
    (["frame-index", "cache"], .dir), (["v3", "frame-index", "cache"], .dir),
    (["key", "v3", "frame-index", "cache"], .dir),
    (["stream-0", "key", "v3", "frame-index", "cache"], four),
    (["loop", "key", "v3", "frame-index", "cache"], linked),
    (["scratch", "cache"], .dir), (["out", "scratch", "cache"], linked),
    (["x.tmp", "cache"], four)]

theorem sample_unique : (sampleObjects.map (·.1)).Nodup := by
  simp [sampleObjects]

theorem sample_parents : parentsListed sampleObjects = true := by
  simp [parentsListed, sampleObjects, Object.isDir]

def sampleTree : FileTree where
  objects := sampleObjects
  unique := sample_unique
  parents := parents_of_listed sample_parents

theorem four_len : four.len = 4 := zeros_length _ four_lt

theorem linked_len : linked.len = 4 := zeros_length _ four_lt

theorem sample_fits : Fits sampleTree (.entries ["cache"] (owns .disposable)) := by
  constructor
  · simp [bytesIn, FileTree.total, sampleTree, sampleObjects, Region.entries, entryBelow, owns,
      isDisposable, frameIndexNamespace, previewProxyNamespace, four_len, linked_len,
      show Object.dir.len = 0 from rfl]
  · simp [objectsIn, FileTree.total, sampleTree, sampleObjects, Region.entries, entryBelow, owns,
      isDisposable, frameIndexNamespace, previewProxyNamespace]

end Trees

end FrameScope.Ports.StorageClearingLaw
