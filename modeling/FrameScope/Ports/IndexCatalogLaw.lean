import FrameScope.Ports.IndexCatalog

/-!
# The catalog and the order of directory listings

The three nested loops of `entries` settle on one file for each source and
stream (`entries_eq`).  A directory may be listed in any order, at every level
(`Relisted`).  The list of descriptors is the same for all of them exactly when
no two files of one source and stream rival each other: two files of the
current version, or two of older versions where the current one has none.  The
names `stream-0.sqlite3` and `stream-00.sqlite3` make such a pair.

Whatever the order, a source and stream has one descriptor, and a descriptor
that says `indexed` stands for a database that passes the checks of
`try_open` on metadata, row range and source binding.
-/

namespace FrameScope.Ports.IndexCatalogLaw

open FrameScope.Ports.Core
open FrameScope.Ports.FrameIndexModel
open FrameScope.Ports.SourceBinding
open FrameScope.Ports.FrameIndexStore
open FrameScope.Ports.IndexCatalog
open FrameScope.Verified
open FrameScope.Verified.Preference

/-! ## The files that the walk visits -/

/-- A database file that the walk reads, with the names that lead to it. -/
structure StoredFile where
  version : String
  source : String
  file : DatabaseEntry
  streamIndex : Nat
  deriving DecidableEq, Repr

def StoredFile.key (stored : StoredFile) : String × Nat :=
  (stored.source, stored.streamIndex)

def StoredFile.isCurrent (stored : StoredFile) : Bool :=
  stored.version == currentVersion

def StoredFile.relativePath (stored : StoredFile) : String :=
  pathToWire [frameIndexNamespace, stored.version, stored.source, stored.file.fileName]

def StoredFile.descriptor (stored : StoredFile) : PersistentFrameIndexDescriptor :=
  readDescriptor stored.relativePath stored.file stored.source stored.streamIndex
    stored.isCurrent

def StoredFile.candidate (stored : StoredFile) : CatalogCandidate :=
  ⟨stored.descriptor, stored.isCurrent⟩

/-- The files of one source directory. -/
def filesOf (version : VersionEntry) (source : SourceEntry) : List StoredFile :=
  source.databases.filterMap fun file =>
    if file.fileType ≠ .file then none
    else (streamIndexFromName file.fileName).map fun streamIndex =>
      ⟨version.fileName, source.fileName, file, streamIndex⟩

/-- The files of one version directory. -/
def filesIn (version : VersionEntry) : List StoredFile :=
  version.sources.flatMap fun source =>
    if source.fileType ≠ .dir then []
    else if !isSafeSourceKey source.fileName then []
    else filesOf version source

/-- All files, in the order of the walk. -/
def storedFiles (versions : List VersionEntry) : List StoredFile :=
  versions.flatMap fun version =>
    if version.fileType ≠ .dir then [] else filesIn version

section Walk

variable {version : VersionEntry} {source : SourceEntry} {candidates : List CatalogCandidate}

/-- What the loops do with one file. -/
def keep (candidates : List CatalogCandidate) (stored : StoredFile) : List CatalogCandidate :=
  insertCandidate candidates stored.candidate

theorem foldl_visitDatabase (version : VersionEntry) (source : SourceEntry)
    (candidates : List CatalogCandidate) :
    source.databases.foldl (visitDatabase version source) candidates =
      (filesOf version source).foldl keep candidates := by
  unfold filesOf
  rw [List.foldl_filterMap]
  congr 1
  funext candidates file
  unfold visitDatabase
  split_ifs with hFile
  · rfl
  · cases hIndex : streamIndexFromName file.fileName with
    | none => rfl
    | some streamIndex => rfl

theorem foldl_visitSource (version : VersionEntry) (candidates : List CatalogCandidate) :
    version.sources.foldl (visitSource version) candidates =
      (filesIn version).foldl keep candidates := by
  unfold filesIn
  rw [List.foldl_flatMap]
  congr 1
  funext candidates source
  unfold visitSource
  split_ifs with hDir hSafe
  · rfl
  · rfl
  · exact foldl_visitDatabase version source candidates

theorem foldl_visitVersion (versions : List VersionEntry) (candidates : List CatalogCandidate) :
    versions.foldl visitVersion candidates = (storedFiles versions).foldl keep candidates := by
  unfold storedFiles
  rw [List.foldl_flatMap]
  congr 1
  funext candidates version
  unfold visitVersion
  split_ifs with hDir
  · rfl
  · exact foldl_visitSource version candidates

end Walk

section Descriptors

variable {stored : StoredFile}

theorem readDescriptor_identity (relativePath : String) (file : DatabaseEntry)
    (sourceKey : String) (streamIndex : Nat) (versionIsCurrent : Bool) :
    let descriptor := readDescriptor relativePath file sourceKey streamIndex versionIsCurrent
    descriptor.sourceKey = sourceKey ∧ descriptor.streamIndex = streamIndex ∧
      descriptor.relativePath = relativePath := by
  simp only [readDescriptor]
  split_ifs with hOld
  · simp
  · cases readProgress file.database sourceKey <;> simp

@[simp] theorem StoredFile.candidate_key : stored.candidate.key = stored.key := by
  have h := readDescriptor_identity stored.relativePath stored.file stored.source
    stored.streamIndex stored.isCurrent
  exact Prod.ext h.1 h.2.1

@[simp] theorem StoredFile.descriptor_relativePath :
    stored.descriptor.relativePath = stored.relativePath :=
  (readDescriptor_identity ..).2.2

/-- The files that the catalog describes. -/
def keptFiles (versions : List VersionEntry) : List StoredFile :=
  settleAll StoredFile.key StoredFile.isCurrent (storedFiles versions)

theorem foldl_keep (versions : List VersionEntry) :
    versions.foldl visitVersion [] = (keptFiles versions).map StoredFile.candidate := by
  rw [foldl_visitVersion]
  show (storedFiles versions).foldl
    (fun candidates stored => insertCandidate candidates stored.candidate) [] = _
  rw [← List.foldl_map]
  show settleAll CatalogCandidate.key CatalogCandidate.versionIsCurrent
    ((storedFiles versions).map StoredFile.candidate) = _
  rw [settleAll_map]
  simp only [StoredFile.candidate_key]
  rfl

/-- The catalog lists the descriptors of the kept files. -/
theorem entries_eq (root : CacheRoot) (hRoot : root.rootType ≠ some .symlink)
    (hIndex : root.indexType = some .dir) :
    entries root =
      .ok (((keptFiles root.versions).map StoredFile.descriptor).mergeSort sortsBefore) := by
  unfold entries
  rw [if_neg hRoot, if_neg (not_not.2 hIndex), foldl_keep]
  show Except.ok ((((keptFiles root.versions).map StoredFile.candidate).map
    (·.descriptor)).mergeSort sortsBefore) = _
  rw [List.map_map]
  rfl

end Descriptors

/-! ## Sorting -/

theorem sortsBefore_trans (a b c : PersistentFrameIndexDescriptor) :
    sortsBefore a b = true → sortsBefore b c = true → sortsBefore a c = true := by
  unfold sortsBefore
  simp only [decide_eq_true_eq]
  exact le_trans

theorem sortsBefore_total (a b : PersistentFrameIndexDescriptor) :
    (sortsBefore a b || sortsBefore b a) = true := by
  unfold sortsBefore
  simpa using le_total a.sortKey b.sortKey

/-- The source and stream of a descriptor. -/
def streamOf (descriptor : PersistentFrameIndexDescriptor) : String × Nat :=
  (descriptor.sourceKey, descriptor.streamIndex)

/-- Descriptors of different streams are sorted the same way in whatever order
the map hands them out. -/
theorem mergeSort_perm_eq {xs ys : List PersistentFrameIndexDescriptor}
    (hKeys : (xs.map streamOf).Nodup) (h : xs.Perm ys) :
    xs.mergeSort sortsBefore = ys.mergeSort sortsBefore := by
  have hSortedX := List.pairwise_mergeSort sortsBefore_trans sortsBefore_total xs
  have hSortedY := List.pairwise_mergeSort sortsBefore_trans sortsBefore_total ys
  have hPerm : (xs.mergeSort sortsBefore).Perm (ys.mergeSort sortsBefore) :=
    (List.mergeSort_perm xs _).trans (h.trans (List.mergeSort_perm ys _).symm)
  refine List.Perm.eq_of_pairwise ?_ hSortedX hSortedY hPerm
  intro a b ha hb hLeft hRight
  unfold sortsBefore at hLeft hRight
  rw [decide_eq_true_eq] at hLeft hRight
  have hSame : a.sortKey = b.sortKey := le_antisymm hLeft hRight
  have hStream : streamOf a = streamOf b := by
    unfold PersistentFrameIndexDescriptor.sortKey at hSame
    have hPair := toLex.injective hSame
    have hRest := toLex.injective (Prod.ext_iff.1 hPair).2
    exact Prod.ext (Prod.ext_iff.1 hPair).1 (Prod.ext_iff.1 hRest).1
  apply List.inj_on_of_nodup_map hKeys _ _ hStream
  · exact (List.mergeSort_perm xs _).mem_iff.1 ha
  · exact h.mem_iff.2 ((List.mergeSort_perm ys _).mem_iff.1 hb)

/-! ## Other orders of the same content -/

/-- The same source directory, listed in another order. -/
def SourceRelisted (source source' : SourceEntry) : Prop :=
  source'.fileName = source.fileName ∧ source'.fileType = source.fileType ∧
    source.databases.Perm source'.databases

/-- The same version directory, listed in another order at both levels. -/
def VersionRelisted (version version' : VersionEntry) : Prop :=
  version'.fileName = version.fileName ∧ version'.fileType = version.fileType ∧
    ∃ between, version.sources.Perm between ∧
      List.Forall₂ SourceRelisted between version'.sources

/-- The same index root, listed in another order at every level. -/
def Relisted (versions versions' : List VersionEntry) : Prop :=
  ∃ between, versions.Perm between ∧ List.Forall₂ VersionRelisted between versions'

theorem SourceRelisted.refl (source : SourceEntry) : SourceRelisted source source :=
  ⟨rfl, rfl, List.Perm.refl _⟩

theorem VersionRelisted.refl (version : VersionEntry) : VersionRelisted version version := by
  refine ⟨rfl, rfl, version.sources, List.Perm.refl _, ?_⟩
  exact List.forall₂_same.2 fun source _ => SourceRelisted.refl source

/-- Parts that are permuted one by one, then as a whole. -/
theorem flatMap_perm {α β : Type} {related : α → α → Prop} {f : α → List β}
    {xs between ys : List α} (hPerm : xs.Perm between) (hParts : List.Forall₂ related between ys)
    (h : ∀ x y, related x y → (f x).Perm (f y)) : (xs.flatMap f).Perm (ys.flatMap f) := by
  refine (hPerm.flatMap_right f).trans ?_
  clear hPerm
  induction hParts with
  | nil => exact List.Perm.refl _
  | cons hHead _ ih =>
      rw [List.flatMap_cons, List.flatMap_cons]
      exact (h _ _ hHead).append ih

theorem SourceRelisted.filesOf {version version' : VersionEntry} {source source' : SourceEntry}
    (hName : version'.fileName = version.fileName) (h : SourceRelisted source source') :
    (filesOf version source).Perm (filesOf version' source') := by
  unfold IndexCatalogLaw.filesOf
  rw [hName, h.1]
  exact h.2.2.filterMap _

theorem VersionRelisted.filesIn {version version' : VersionEntry}
    (h : VersionRelisted version version') : (filesIn version).Perm (filesIn version') := by
  obtain ⟨hName, -, between, hPerm, hParts⟩ := h
  unfold IndexCatalogLaw.filesIn
  -- The names of the version only occur in the files, so the two maps are compared pointwise.
  have hMaps : (version.sources.flatMap fun source =>
        if source.fileType ≠ .dir then []
        else if !isSafeSourceKey source.fileName then [] else filesOf version source) =
      version.sources.flatMap fun source =>
        if source.fileType ≠ .dir then []
        else if !isSafeSourceKey source.fileName then [] else filesOf version' source := by
    unfold IndexCatalogLaw.filesOf
    rw [hName]
  rw [hMaps]
  apply flatMap_perm hPerm hParts
  intro source source' hSource
  rw [hSource.1, hSource.2.1]
  split_ifs
  · exact List.Perm.refl _
  · exact List.Perm.refl _
  · exact hSource.filesOf rfl

theorem Relisted.storedFiles {versions versions' : List VersionEntry}
    (h : Relisted versions versions') : (storedFiles versions).Perm (storedFiles versions') := by
  obtain ⟨between, hPerm, hParts⟩ := h
  apply flatMap_perm hPerm hParts
  intro version version' hVersion
  rw [hVersion.2.1]
  split_ifs
  · exact List.Perm.refl _
  · exact hVersion.filesIn

theorem mem_storedFiles {versions : List VersionEntry} {stored : StoredFile} :
    stored ∈ storedFiles versions ↔
      ∃ version ∈ versions, version.fileType = .dir ∧ ∃ source ∈ version.sources,
        source.fileType = .dir ∧ isSafeSourceKey source.fileName = true ∧
          ∃ file ∈ source.databases, file.fileType = .file ∧
            streamIndexFromName file.fileName = some stored.streamIndex ∧
              stored = ⟨version.fileName, source.fileName, file, stored.streamIndex⟩ := by
  unfold storedFiles filesIn filesOf
  simp only [List.mem_flatMap]
  constructor
  · rintro ⟨version, hVersion, hMem⟩
    split_ifs at hMem with hDir
    · cases hMem
    · obtain ⟨source, hSource, hMem⟩ := List.mem_flatMap.1 hMem
      split_ifs at hMem with hSourceDir hSafe
      · cases hMem
      · cases hMem
      · obtain ⟨file, hFile, hFound⟩ := List.mem_filterMap.1 hMem
        split_ifs at hFound with hRegular
        obtain ⟨streamIndex, hIndex, rfl⟩ := Option.map_eq_some_iff.1 hFound
        exact ⟨version, hVersion, not_not.1 hDir, source, hSource, not_not.1 hSourceDir,
          by simpa using hSafe, file, hFile, not_not.1 hRegular, hIndex, rfl⟩
  · rintro ⟨version, hVersion, hDir, source, hSource, hSourceDir, hSafe, file, hFile, hRegular,
      hIndex, hStored⟩
    refine ⟨version, hVersion, ?_⟩
    rw [if_neg (not_not.2 hDir)]
    refine List.mem_flatMap.2 ⟨source, hSource, ?_⟩
    rw [if_neg (not_not.2 hSourceDir), if_neg (by simp [hSafe])]
    refine List.mem_filterMap.2 ⟨file, hFile, ?_⟩
    rw [if_neg (not_not.2 hRegular), hIndex, hStored]
    rfl

/-- An element can be listed first. -/
theorem exists_perm_cons {α : Type} {xs : List α} {x : α} (h : x ∈ xs) :
    ∃ rest, xs.Perm (x :: rest) := by
  obtain ⟨before, after, rfl⟩ := List.append_of_mem h
  exact ⟨before ++ after, List.perm_middle⟩

/-- Any file can be the first that the walk visits. -/
theorem exists_relisted_first {versions : List VersionEntry} {stored : StoredFile}
    (h : stored ∈ storedFiles versions) :
    ∃ versions', Relisted versions versions' ∧
      ∃ rest, storedFiles versions' = stored :: rest := by
  obtain ⟨version, hVersion, hDir, source, hSource, hSourceDir, hSafe, file, hFile, hRegular,
    hIndex, hStored⟩ := mem_storedFiles.1 h
  obtain ⟨otherVersions, hVersions⟩ := exists_perm_cons hVersion
  obtain ⟨otherSources, hSources⟩ := exists_perm_cons hSource
  obtain ⟨otherFiles, hFiles⟩ := exists_perm_cons hFile
  let source' : SourceEntry := { source with databases := file :: otherFiles }
  let version' : VersionEntry := { version with sources := source' :: otherSources }
  have hFirst : StoredFile.mk version'.fileName source'.fileName file stored.streamIndex =
      stored := hStored.symm
  refine ⟨version' :: otherVersions, ⟨version :: otherVersions, hVersions, ?_⟩, ?_⟩
  · refine List.Forall₂.cons ⟨rfl, rfl, source :: otherSources, hSources, ?_⟩
      (List.forall₂_same.2 fun other _ => VersionRelisted.refl other)
    exact List.Forall₂.cons ⟨rfl, rfl, hFiles⟩
      (List.forall₂_same.2 fun other _ => SourceRelisted.refl other)
  · unfold storedFiles
    rw [List.flatMap_cons, if_neg (not_not.2 hDir)]
    unfold filesIn
    rw [List.flatMap_cons, if_neg (not_not.2 hSourceDir), if_neg (by simp [source', hSafe])]
    unfold filesOf
    rw [List.filterMap_cons, if_neg (not_not.2 hRegular), hIndex, Option.map_some, hFirst]
    exact ⟨_, rfl⟩

/-! ## Paths -/

theorem append_separator_inj {c : Char} {xs ys xs' ys' : List Char} (hX : c ∉ xs) (hX' : c ∉ xs')
    (h : xs ++ c :: ys = xs' ++ c :: ys') : xs = xs' ∧ ys = ys' := by
  induction xs generalizing xs' with
  | nil =>
      cases xs' with
      | nil => simpa using h
      | cons x' xs' =>
          rw [List.nil_append, List.cons_append, List.cons.injEq] at h
          exact absurd (List.mem_cons_self ..) (h.1 ▸ hX')
  | cons x xs ih =>
      cases xs' with
      | nil =>
          rw [List.nil_append, List.cons_append, List.cons.injEq] at h
          exact absurd (List.mem_cons_self ..) (h.1 ▸ hX)
      | cons x' xs' =>
          rw [List.cons_append, List.cons_append, List.cons.injEq] at h
          have hRest := ih (List.not_mem_of_not_mem_cons hX) (List.not_mem_of_not_mem_cons hX') h.2
          rw [h.1, hRest.1]
          exact ⟨rfl, hRest.2⟩

theorem StoredFile.relativePath_toList (stored : StoredFile) :
    stored.relativePath.toList =
      frameIndexNamespace.toList ++ '/' :: (stored.version.toList ++ '/' ::
        (stored.source.toList ++ '/' :: stored.file.fileName.toList)) := by
  simp [StoredFile.relativePath, pathToWire, List.intercalate, List.intersperse]

/-- The names of the entries of one directory. -/
structure Named (names : List String) : Prop where
  nodup : names.Nodup
  noSeparator : ∀ name ∈ names, '/' ∉ name.toList

/-- What a storage directory holds, in one of the orders it can be listed in. -/
structure StorageContent where
  root : CacheRoot
  versions_named : Named (root.versions.map (·.fileName))
  sources_named : ∀ version ∈ root.versions, Named (version.sources.map (·.fileName))
  files_named : ∀ version ∈ root.versions, ∀ source ∈ version.sources,
    Named (source.databases.map (·.fileName))

/-- A listing of the content. -/
def StorageContent.ListedAs (content : StorageContent) (root : CacheRoot) : Prop :=
  root.rootType = content.root.rootType ∧ root.indexType = content.root.indexType ∧
    Relisted content.root.versions root.versions

/-- Different files have different paths. -/
theorem StorageContent.eq_of_relativePath (content : StorageContent) {left right : StoredFile}
    (hLeft : left ∈ storedFiles content.root.versions)
    (hRight : right ∈ storedFiles content.root.versions)
    (h : left.relativePath = right.relativePath) : left = right := by
  obtain ⟨v, hV, -, s, hS, -, -, f, hF, -, hIndex, hEq⟩ := mem_storedFiles.1 hLeft
  obtain ⟨v', hV', -, s', hS', -, -, f', hF', -, hIndex', hEq'⟩ := mem_storedFiles.1 hRight
  have hNames := content.versions_named
  have hText := congrArg String.toList h
  rw [StoredFile.relativePath_toList, StoredFile.relativePath_toList,
    List.append_cancel_left_eq, List.cons.injEq, hEq, hEq'] at hText
  have hVersion := append_separator_inj
    (hNames.noSeparator _ (List.mem_map_of_mem hV))
    (hNames.noSeparator _ (List.mem_map_of_mem hV')) hText.2
  obtain rfl : v = v' :=
    List.inj_on_of_nodup_map hNames.nodup hV hV' (String.toList_inj.1 hVersion.1)
  have hNames := content.sources_named v hV
  have hSource := append_separator_inj
    (hNames.noSeparator _ (List.mem_map_of_mem hS))
    (hNames.noSeparator _ (List.mem_map_of_mem hS')) hVersion.2
  obtain rfl : s = s' :=
    List.inj_on_of_nodup_map hNames.nodup hS hS' (String.toList_inj.1 hSource.1)
  have hNames := content.files_named v hV s hS
  obtain rfl : f = f' :=
    List.inj_on_of_nodup_map hNames.nodup hF hF' (String.toList_inj.1 hSource.2)
  have hStream : left.streamIndex = right.streamIndex := by
    rw [hIndex] at hIndex'
    exact Option.some.inj hIndex'
  rw [hEq, hEq', hStream]

/-! ## What the opener checks -/

section Opener

variable {database : Database} {value key : String}

theorem fromI64_of_matches {seekSafety : Option Int}
    (h : (seekSafety == some 0 || seekSafety == some 1) = true) :
    ∃ value safety, seekSafety = some value ∧ TimestampSeekSafety.fromI64 value = .ok safety := by
  rw [Bool.or_eq_true, beq_iff_eq, beq_iff_eq] at h
  cases h with
  | inl h => exact ⟨0, _, h, rfl⟩
  | inr h => exact ⟨1, _, h, rfl⟩

/-- A binding that the catalog accepts decodes to the current contract and the
same key. -/
theorem decode_of_matches (h : sourceBindingMatchesCurrent value key = true)
    (hKey : key.toList ≠ []) :
    ∃ safety, decodeSourceBindingKey value =
      .ok (frameTimelineContractGeneration, safety, key) := by
  unfold sourceBindingMatchesCurrent at h
  unfold decodeSourceBindingKey
  generalize value.toList = text at h
  cases text with
  | nil => simp [splitFirst, stripChar] at h
  | cons c rest =>
      by_cases hT : c = 't'
      · subst hT
        simp only [Bool.and_eq_true, beq_iff_eq] at h ⊢
        obtain ⟨⟨hGeneration, hSafety⟩, hStable⟩ := h
        obtain ⟨seekSafety, safety, hSome, hFrom⟩ := fromI64_of_matches hSafety
        refine ⟨safety, ?_⟩
        have hFilled : (some key.toList).filter (fun part => !part.isEmpty) = some key.toList := by
          simp [Option.filter, hKey]
        simp only [hGeneration]
        cases hRest : (splitFirst ':' ('t' :: rest)).2 with
        | none =>
            simp only [hRest] at hStable
            cases hStable
        | some more =>
            simp only [hRest] at hSome hStable ⊢
            simp only [hSome, hStable, hFilled, hFrom, String.ofList_toList]
            rfl
      · have hNone : stripChar 't' (splitFirst ':' (c :: rest)).1 = none := by
          by_cases hColon : c = ':'
          · simp [splitFirst, hColon, stripChar]
          · simp [splitFirst, hColon, stripChar, hT]
        simp [hNone] at h

theorem u64TryFrom_eq_some {value : Int} {n : Nat} :
    u64TryFrom value = some n ↔ value = n := by
  unfold u64TryFrom
  split_ifs with h
  · rw [Option.some.injEq]
    omega
  · apply iff_of_false (by simp)
    omega

theorem getI64_eq_some {column : Option Int} {value : Int}
    (h : getI64 column = some (some value)) : column = some value ∧ InI64 value := by
  cases column with
  | none => simp [getI64] at h
  | some x =>
      by_cases hFits : InI64 x
      · simp only [getI64, if_pos hFits, Option.some.injEq] at h
        exact ⟨congrArg some h, h ▸ hFits⟩
      · simp [getI64, hFits] at h

/-- The catalog's range check is the opener's. -/
theorem checkContiguous_of_isContiguous {rows : List FrameRow} {indexedFrames : Nat}
    {minFrame maxFrame : Option Int}
    (hMin : getI64 (rows.map (·.frameIndex)).min? = some minFrame)
    (hMax : getI64 (rows.map (·.frameIndex)).max? = some maxFrame)
    (h : isContiguous indexedFrames rows.length minFrame maxFrame = true) :
    checkContiguous indexedFrames rows = .ok () := by
  unfold isContiguous at h
  rw [Bool.and_eq_true, beq_iff_eq] at h
  obtain ⟨hCount, hRange⟩ := h
  unfold checkContiguous
  rw [if_neg (not_not.2 hCount)]
  by_cases hZero : rows.length = 0
  · rw [if_pos hZero]
  · rw [if_neg (hCount ▸ hZero), Bool.and_eq_true, beq_iff_eq, beq_iff_eq] at hRange
    rw [if_neg hZero]
    obtain ⟨hFirst, hLast⟩ := hRange
    obtain ⟨last, hSome, hLast⟩ := Option.bind_eq_some_iff.1 hLast
    rw [u64TryFrom_eq_some] at hLast
    have hMinEq := (getI64_eq_some (hMin.trans (congrArg some hFirst))).1
    obtain ⟨hMaxEq, hFits⟩ := getI64_eq_some (hMax.trans (congrArg some hSome))
    have hSql : toSqlU64 (rows.length - 1) "maximum frame id" = .ok last := by
      rw [toSqlU64_eq_ok, hCount]
      have := hFits.2
      omega
    rw [hSql, ok_bind, hMinEq, hMaxEq]
    simp

theorem statusOf_eq_indexed {lifecycle : Int} {indexedFrames : Nat} {frameCount : Option Nat}
    (h : statusOf lifecycle indexedFrames frameCount = .indexed) :
    lifecycle = 3 ∧ frameCount = some indexedFrames := by
  unfold statusOf at h
  split_ifs at h with hPartial hComplete
  exact hComplete

theorem guard_eq_some {p : Prop} [Decidable p] {u : Unit} :
    (guard p : Option Unit) = some u ↔ p := by
  by_cases h : p <;> simp [guard, h]

variable [ContentHash]

/-- `try_open` takes the metadata, the row range and the source binding of the
database for those of a complete index with the counts of the descriptor. -/
def AcceptedByOpener (database : Database) (descriptor : PersistentFrameIndexDescriptor) :
    Prop :=
  ∀ source stream, ContentHash.stableKey source = descriptor.sourceKey →
    ∃ row, FrameIndex.loadMeta ⟨database, source, stream⟩ = .ok (some row) ∧
      row.timelineContractGeneration = frameTimelineContractGeneration ∧
      row.sourceBindingStableKey = ContentHash.stableKey source ∧
      row.lifecycle = .complete ∧ row.frameCount = some row.indexedFrames ∧
      row.indexedFrames = descriptor.indexedFrames ∧
      descriptor.frameCount = row.frameCount ∧
      checkContiguous row.indexedFrames database.frameIndex = .ok ()

/-- What is read from a database whose progress says `indexed`. -/
theorem accepted_of_readProgress {progress : StoredProgress}
    (h : readProgress (some database) key = some progress)
    (hIndexed : progress.status = .indexed) (hKey : key.toList ≠ []) (relativePath : String)
    (streamIndex : Nat) (modified : Option Nat) :
    AcceptedByOpener database
      ⟨key, streamIndex, relativePath, progress.status, progress.indexedFrames,
        progress.frameCount, modified⟩ := by
  unfold readProgress at h
  simp only [Option.bind_eq_bind, Option.bind_some, Option.bind_eq_some_iff,
    guard_eq_some] at h
  obtain ⟨columns, hColumns, -, hBinding, indexedFrames, hFrames, frameCount, hCount, minFrame,
    hMin, maxFrame, hMax, -, hContiguous, hProgress⟩ := h
  obtain rfl := Option.some.inj hProgress
  obtain ⟨hLifecycle, hComplete⟩ := statusOf_eq_indexed hIndexed
  obtain ⟨safety, hDecode⟩ := decode_of_matches hBinding hKey
  rw [u64TryFrom_eq_some] at hFrames
  intro source stream hSource
  have hFrameCount : columns.frameCount = some (indexedFrames : Int) := by
    rw [hComplete] at hCount
    cases hColumn : columns.frameCount with
    | none => simp [hColumn, frameCountTryFrom] at hCount
    | some value =>
        rw [hColumn] at hCount
        obtain ⟨n, hN, hSome⟩ := Option.map_eq_some_iff.1 hCount
        rw [u64TryFrom_eq_some.1 hN, Option.some.inj hSome]
  have hFromSql : ∀ label, fromSqlU64 (indexedFrames : Int) label = .ok indexedFrames := by
    intro label
    simp [fromSqlU64]
  refine ⟨⟨.complete, columns.sourceIdentity, key, frameTimelineContractGeneration, safety,
    columns.streamIdentity, indexedFrames, some indexedFrames, columns.lastError⟩,
    ?_, rfl, hSource.symm, rfl, rfl, rfl, hComplete, ?_⟩
  · unfold FrameIndex.loadMeta
    simp only [hColumns, hDecode, hLifecycle, hFrames, hFrameCount, hFromSql, ok_bind]
    rfl
  · rw [List.length_map] at hContiguous
    exact checkContiguous_of_isContiguous hMin hMax hContiguous

end Opener

/-! ## The catalog -/

section Catalog

variable {content : StorageContent} {root : CacheRoot}

/-- No two files of one source and stream could both be described. -/
def StorageContent.OneFilePerStream (content : StorageContent) : Prop :=
  Unrivalled StoredFile.key StoredFile.isCurrent (storedFiles content.root.versions)

/-- The walk takes place. -/
def StorageContent.Walked (content : StorageContent) : Prop :=
  content.root.rootType ≠ some .symlink ∧ content.root.indexType = some .dir

/-- Any two listings have the same descriptors. -/
def StorageContent.OrderIndependent (content : StorageContent) : Prop :=
  ∀ first second, content.ListedAs first → content.ListedAs second →
    entries first = entries second

/-- A listing has at most one descriptor for a source and stream. -/
def StorageContent.OneDescriptorPerStream (content : StorageContent) : Prop :=
  ∀ root list, content.ListedAs root → entries root = .ok list → (list.map streamOf).Nodup

theorem StorageContent.Walked.entries_eq (h : content.Walked) (hListed : content.ListedAs root) :
    entries root =
      .ok (((keptFiles root.versions).map StoredFile.descriptor).mergeSort sortsBefore) :=
  IndexCatalogLaw.entries_eq root (hListed.1 ▸ h.1) (hListed.2.1 ▸ h.2)

theorem streamOf_descriptor (stored : StoredFile) : streamOf stored.descriptor = stored.key :=
  StoredFile.candidate_key

theorem descriptors_nodup (versions : List VersionEntry) :
    (((keptFiles versions).map StoredFile.descriptor).map streamOf).Nodup := by
  rw [List.map_map]
  have hKeys : streamOf ∘ StoredFile.descriptor = StoredFile.key := by
    funext stored
    exact streamOf_descriptor stored
  rw [hKeys]
  exact settleAll_nodup StoredFile.key StoredFile.isCurrent (storedFiles versions)

/-- The kept files of a listing are stored files of the content. -/
theorem mem_of_mem_keptFiles (hListed : content.ListedAs root) {stored : StoredFile}
    (h : stored ∈ keptFiles root.versions) : stored ∈ storedFiles content.root.versions :=
  hListed.2.2.storedFiles.mem_iff.2 (winner_mem (mem_settleAll.1 h)).1

/-- Without rivals the order of the listing does not matter. -/
theorem StorageContent.orderIndependent_of (h : content.Walked → content.OneFilePerStream) :
    content.OrderIndependent := by
  intro first second hFirst hSecond
  by_cases hWalked : content.Walked
  · rw [hWalked.entries_eq hFirst, hWalked.entries_eq hSecond]
    have hPerm : (keptFiles first.versions).Perm (keptFiles second.versions) :=
      (settleAll_perm (h hWalked) hFirst.2.2.storedFiles).symm.trans
        (settleAll_perm (h hWalked) hSecond.2.2.storedFiles)
    exact congrArg Except.ok (mergeSort_perm_eq (descriptors_nodup _) (hPerm.map _))
  · -- The walk is skipped for every listing.
    unfold entries
    rw [hFirst.1, hFirst.2.1, hSecond.1, hSecond.2.1]
    split_ifs with hLink hDir
    · rfl
    · rfl
    · exact absurd ⟨hLink, not_not.1 hDir⟩ hWalked

/-- A file that could be described is described by some listing. -/
theorem StorageContent.Walked.exists_described (h : content.Walked) {stored : StoredFile}
    (hMem : stored ∈ storedFiles content.root.versions)
    (hContends : Contends StoredFile.key StoredFile.isCurrent
      (storedFiles content.root.versions) stored) :
    ∃ root list, content.ListedAs root ∧ entries root = .ok list ∧
      stored.descriptor ∈ list := by
  obtain ⟨versions, hRelisted, rest, hFirst⟩ := exists_relisted_first hMem
  let root : CacheRoot := { content.root with versions := versions }
  have hListed : content.ListedAs root := ⟨rfl, rfl, hRelisted⟩
  refine ⟨root, _, hListed, h.entries_eq hListed, ?_⟩
  rw [(List.mergeSort_perm _ _).mem_iff]
  apply List.mem_map_of_mem
  apply mem_settleAll.2
  have hContends' := (contends_perm hRelisted.storedFiles).1 hContends
  show winner _ _ (storedFiles versions) _ = _
  rw [hFirst] at hContends' ⊢
  exact winner_of_first hContends'

/-- Order independence leaves no rivals. -/
theorem StorageContent.OrderIndependent.oneFilePerStream (h : content.OrderIndependent)
    (hWalked : content.Walked) : content.OneFilePerStream := by
  intro left hLeft right hRight hKey hLeftContends hRightContends
  obtain ⟨first, list, hFirst, hList, hLeftMem⟩ := hWalked.exists_described hLeft hLeftContends
  obtain ⟨second, list', hSecond, hList', hRightMem⟩ :=
    hWalked.exists_described hRight hRightContends
  have hLists := h first second hFirst hSecond
  rw [hList, hList', Except.ok.injEq] at hLists
  have hNodup : (list.map streamOf).Nodup := by
    rw [hWalked.entries_eq hFirst, Except.ok.injEq] at hList
    rw [← hList, ((List.mergeSort_perm _ _).map _).nodup_iff]
    exact descriptors_nodup _
  have hSame : left.descriptor = right.descriptor := by
    apply List.inj_on_of_nodup_map hNodup hLeftMem (hLists ▸ hRightMem)
    rw [streamOf_descriptor, streamOf_descriptor, hKey]
  apply content.eq_of_relativePath hLeft hRight
  rw [← left.descriptor_relativePath, ← right.descriptor_relativePath, hSame]

/-- Without a walk there is nothing to describe. -/
theorem list_of_not_walked (h : ¬ content.Walked) (hListed : content.ListedAs root)
    {list : List PersistentFrameIndexDescriptor} (hList : entries root = .ok list) :
    list = [] := by
  unfold entries at hList
  rw [hListed.1, hListed.2.1] at hList
  split_ifs at hList with hLink hDir
  · exact (Except.ok.inj hList).symm
  · exact absurd ⟨hLink, not_not.1 hDir⟩ h

theorem StorageContent.oneDescriptorPerStream (content : StorageContent) :
    content.OneDescriptorPerStream := by
  intro root list hListed hList
  by_cases hWalked : content.Walked
  · rw [hWalked.entries_eq hListed, Except.ok.injEq] at hList
    rw [← hList, ((List.mergeSort_perm _ _).map _).nodup_iff]
    exact descriptors_nodup _
  · rw [list_of_not_walked hWalked hListed hList]
    exact List.nodup_nil

/-- A file whose descriptor says `indexed` has been read. -/
theorem StoredFile.readProgress_of_indexed {stored : StoredFile}
    (h : stored.descriptor.status = .indexed) :
    ∃ progress, readProgress stored.file.database stored.source = some progress ∧
      progress.status = .indexed ∧
      stored.descriptor = ⟨stored.source, stored.streamIndex, stored.relativePath,
        progress.status, progress.indexedFrames, progress.frameCount,
        stored.file.modified.filter (· < 2 ^ 64)⟩ := by
  unfold StoredFile.descriptor readDescriptor at h ⊢
  cases hCurrent : stored.isCurrent with
  | false => simp [hCurrent] at h
  | true =>
      cases hRead : readProgress stored.file.database stored.source with
      | none => simp [hCurrent, hRead] at h
      | some progress =>
          simp only [hCurrent, hRead, Bool.not_true, Bool.false_eq_true, if_false] at h ⊢
          exact ⟨progress, rfl, h, rfl⟩

variable [ContentHash]

/-- A descriptor that says `indexed` describes a stored database that the opener
accepts. -/
def StorageContent.IndexedAccepted (content : StorageContent) : Prop :=
  ∀ root list, content.ListedAs root → entries root = .ok list →
    ∀ descriptor ∈ list, descriptor.status = .indexed →
      ∃ stored ∈ storedFiles content.root.versions, ∃ database,
        stored.file.database = some database ∧
          stored.relativePath = descriptor.relativePath ∧
            AcceptedByOpener database descriptor

theorem StorageContent.indexedAccepted (content : StorageContent) : content.IndexedAccepted := by
  intro root list hListed hList descriptor hMem hIndexed
  by_cases hWalked : content.Walked
  · rw [hWalked.entries_eq hListed, Except.ok.injEq] at hList
    rw [← hList, (List.mergeSort_perm _ _).mem_iff] at hMem
    obtain ⟨stored, hKept, rfl⟩ := List.mem_map.1 hMem
    have hStored := mem_of_mem_keptFiles hListed hKept
    obtain ⟨progress, hRead, hStatus, hDescriptor⟩ := stored.readProgress_of_indexed hIndexed
    obtain ⟨version, -, -, source, -, -, hSafe, file, -, -, -, hNames⟩ := mem_storedFiles.1 hStored
    have hKey : stored.source.toList ≠ [] := by
      rw [hNames]
      simp only [isSafeSourceKey, Bool.and_eq_true, decide_eq_true_eq] at hSafe
      exact hSafe.1.1.1
    cases hDatabase : stored.file.database with
    | none =>
        rw [hDatabase] at hRead
        cases hRead
    | some database =>
        rw [hDatabase] at hRead
        refine ⟨stored, hStored, database, hDatabase, stored.descriptor_relativePath.symm, ?_⟩
        rw [hDescriptor]
        exact accepted_of_readProgress hRead hStatus hKey _ _ _
  · rw [list_of_not_walked hWalked hListed hList] at hMem
    cases hMem

end Catalog

/-! ## Two names of one stream -/

/-- A database file that SQLite cannot open. -/
def unreadable (fileName : String) : DatabaseEntry := ⟨fileName, .file, none, none⟩

/-- The current version of one source, with the files in the given order. -/
def oneSource (files : List DatabaseEntry) : CacheRoot :=
  ⟨some .dir, some .dir, [⟨"v1", .dir, [⟨"source", .dir, files⟩]⟩]⟩

def zeroFile : DatabaseEntry := unreadable "stream-0.sqlite3"

def paddedFile : DatabaseEntry := unreadable "stream-00.sqlite3"

theorem named_version : Named ["v1"] := ⟨by decide, by decide⟩

theorem named_source : Named ["source"] := ⟨by decide, by decide⟩

theorem named_files : Named ["stream-0.sqlite3", "stream-00.sqlite3"] :=
  ⟨by decide, by decide⟩

/-- Two files of stream 0. -/
def twoNames : StorageContent where
  root := oneSource [zeroFile, paddedFile]
  versions_named := named_version
  sources_named := by
    intro version hVersion
    rw [List.mem_singleton.1 hVersion]
    exact named_source
  files_named := by
    intro version hVersion source hSource
    rw [List.mem_singleton.1 hVersion] at hSource
    rw [List.mem_singleton.1 hSource]
    exact named_files

/-- The one descriptor of a listing is that of the file that comes first. -/
def soleDescriptor (fileName : String) : PersistentFrameIndexDescriptor :=
  ⟨"source", 0, "frame-index/v1/source/" ++ fileName, .stale, 0, none, none⟩

theorem entries_zeroFirst :
    entries (oneSource [zeroFile, paddedFile]) = .ok [soleDescriptor "stream-0.sqlite3"] := by
  have hKept : (keptFiles (oneSource [zeroFile, paddedFile]).versions).map
      StoredFile.descriptor = [soleDescriptor "stream-0.sqlite3"] := by
    decide
  rw [entries_eq _ (by decide) rfl, hKept, List.mergeSort_singleton]

theorem entries_paddedFirst :
    entries (oneSource [paddedFile, zeroFile]) = .ok [soleDescriptor "stream-00.sqlite3"] := by
  have hKept : (keptFiles (oneSource [paddedFile, zeroFile]).versions).map
      StoredFile.descriptor = [soleDescriptor "stream-00.sqlite3"] := by
    decide
  rw [entries_eq _ (by decide) rfl, hKept, List.mergeSort_singleton]

end FrameScope.Ports.IndexCatalogLaw
