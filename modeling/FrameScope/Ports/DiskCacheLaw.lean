import FrameScope.Verified.KeyedTable
import FrameScope.Verified.Runs
import FrameScope.Ports.DiskCache

/-!
# What the disk cache counts

Eviction, invalidation and clearing count the files again.  Only `get` keeps the
counters by hand, when it throws a bad entry away, and it takes an entry of zero
bytes for one that was not there: the file is gone and still counted.  Every
other run keeps the counters exact (`Accounts`).

What a hit returns does not depend on the counters: it is the content of the
file at the path of the key, and paths of different keys or formats differ.
-/

namespace FrameScope.Ports.DiskCacheLaw

open FrameScope.Verified.KeyedTable
open FrameScope.Verified.Runs
open FrameScope.Ports.Core
open FrameScope.Ports.SourceBinding
open FrameScope.Ports.FrameCache
open FrameScope.Ports.DiskCache

/-! ## Entry paths -/

theorem entryName_toList (id : Nat) (format : ProxyFormat) :
    (toString id ++ "." ++ format.extension).toList =
      (toString id).toList ++ '.' :: format.extension.toList := by
  rw [String.toList_append, String.toList_append, List.append_assoc]
  rfl

theorem fileExtension_entryPath (key : FrameCacheKey) (format : ProxyFormat) :
    fileExtension (entryPath key format) = some format.extension.toList := by
  show extensionOf (toString key.frameId ++ "." ++ format.extension).toList = _
  rw [entryName_toList]
  apply extensionOf_append
  · show (Nat.repr key.frameId).toList ≠ []
    rw [Nat.toList_repr]
    exact Nat.toDigits_ne_nil
  · cases format with
    | jpeg => decide
    | webP => decide

/-- Entries are proxy files. -/
theorem isProxy_of_path {f : StoredFile} {key : FrameCacheKey} {format : ProxyFormat}
    (h : f.path = entryPath key format) : f.isProxy = true := by
  unfold StoredFile.isProxy
  rw [h, fileExtension_entryPath]
  cases format with
  | jpeg => rfl
  | webP => rfl

/-- Different keys or formats have different paths. -/
theorem entryPath_inj {key key' : FrameCacheKey} {format format' : ProxyFormat}
    (h : entryPath key format = entryPath key' format') : key = key' ∧ format = format' := by
  have hFormat : format = format' := by
    have hExtension := fileExtension_entryPath key format
    rw [h, fileExtension_entryPath, Option.some.injEq] at hExtension
    cases format with
    | jpeg => cases format' with
      | jpeg => rfl
      | webP => exact absurd hExtension (by decide)
    | webP => cases format' with
      | jpeg => exact absurd hExtension (by decide)
      | webP => rfl
  subst hFormat
  unfold entryPath at h
  simp only [List.cons.injEq, and_true] at h
  obtain ⟨hSource, hStream, hName⟩ := h
  have hFrame : toString key.frameId = toString key'.frameId := by
    rw [String.append_assoc, String.append_assoc] at hName
    exact (String.append_left_inj _).1 hName
  refine ⟨?_, rfl⟩
  cases key with
  | mk source stream frame => cases key' with
    | mk source' stream' frame' =>
        have hStream' : stream = stream' := Nat.repr_inj.1 hStream
        have hFrame' : frame = frame' := Nat.repr_inj.1 hFrame
        simp only at hSource
        rw [hSource, hStream', hFrame']

/-! ## Counting -/

/-- The counters are the directory's, and the directory fits the budget. -/
structure Accounts (cache : DiskProxyCache) : Prop where
  bytes : cache.stats.residentBytes = proxyBytes cache.files
  count : cache.stats.residentFiles = (proxyFiles cache.files).length
  within : proxyBytes cache.files ≤ cache.budgetBytes

section Counting

variable {files : List StoredFile} {f : StoredFile} {cache cache' : DiskProxyCache}
  {budgetBytes resident resident' : Nat}

/-- A proxy file and the other proxy files. -/
theorem proxyFiles_perm (h : (files.map (·.path)).Nodup) (hf : f ∈ files)
    (hProxy : f.isProxy = true) :
    (proxyFiles files).Perm (f :: proxyFiles (removeFile f.path files)) := by
  have hPerm := (perm_cons_filter_ne h hf).filter (·.isProxy)
  rwa [List.filter_cons_of_pos hProxy] at hPerm

theorem proxyBytes_remove (h : (files.map (·.path)).Nodup) (hf : f ∈ files)
    (hProxy : f.isProxy = true) :
    proxyBytes files = f.len + proxyBytes (removeFile f.path files) := by
  unfold proxyBytes
  rw [((proxyFiles_perm h hf hProxy).map _).sum_eq, List.map_cons, List.sum_cons]

theorem proxyCount_remove (h : (files.map (·.path)).Nodup) (hf : f ∈ files)
    (hProxy : f.isProxy = true) :
    (proxyFiles files).length = (proxyFiles (removeFile f.path files)).length + 1 := by
  rw [(proxyFiles_perm h hf hProxy).length_eq, List.length_cons]

theorem nodup_of_sublist {files' : List StoredFile} (h : (files.map (·.path)).Nodup)
    (hSub : files'.Sublist files) : (files'.map (·.path)).Nodup :=
  (hSub.map _).nodup h

theorem removeFile_sublist (path : List String) (files : List StoredFile) :
    (removeFile path files).Sublist files := List.filter_sublist

/-- The eviction loop counts what it leaves, and leaves what fits. -/
theorem evictFiles_spec {entries : List StoredFile}
    (hNodup : (cache.files.map (·.path)).Nodup) (hPerm : (proxyFiles cache.files).Perm entries)
    (hBytes : resident = proxyBytes cache.files)
    (hCount : cache.stats.residentFiles = (proxyFiles cache.files).length)
    (hLoop : evictFiles budgetBytes entries resident cache = (resident', cache')) :
    resident' = proxyBytes cache'.files ∧ resident' ≤ budgetBytes ∧
      cache'.stats.residentFiles = (proxyFiles cache'.files).length ∧
      cache'.files.Sublist cache.files ∧ cache'.budgetBytes = cache.budgetBytes := by
  induction entries generalizing resident cache with
  | nil =>
      obtain ⟨rfl, rfl⟩ := Prod.mk.inj hLoop
      have hEmpty : proxyFiles cache.files = [] := List.perm_nil.1 hPerm
      refine ⟨hBytes, ?_, hCount, List.Sublist.refl _, rfl⟩
      rw [hBytes]
      unfold proxyBytes
      rw [hEmpty]
      exact Nat.zero_le _
  | cons entry rest ih =>
      rw [evictFiles] at hLoop
      by_cases hFits : resident ≤ budgetBytes
      · rw [if_pos hFits] at hLoop
        obtain ⟨rfl, rfl⟩ := Prod.mk.inj hLoop
        exact ⟨hBytes, hFits, hCount, List.Sublist.refl _, rfl⟩
      · rw [if_neg hFits] at hLoop
        have hIn := List.mem_filter.1 (hPerm.mem_iff.2 (List.mem_cons_self ..))
        have hRest : (proxyFiles (removeFile entry.path cache.files)).Perm rest :=
          ((proxyFiles_perm hNodup hIn.1 hIn.2).symm.trans hPerm).cons_inv
        have hRemoved := proxyBytes_remove hNodup hIn.1 hIn.2
        have hFewer := proxyCount_remove hNodup hIn.1 hIn.2
        obtain ⟨hBytes', hLe, hCount', hSub, hBudget⟩ := ih
          (nodup_of_sublist hNodup (removeFile_sublist _ _)) hRest (by
            show resident - entry.len = proxyBytes (removeFile entry.path cache.files)
            omega) (by
            show cache.stats.residentFiles - 1 =
              (proxyFiles (removeFile entry.path cache.files)).length
            omega) hLoop
        exact ⟨hBytes', hLe, hCount', hSub.trans (removeFile_sublist _ _), hBudget⟩

theorem checkedTotal_ok {total : Nat} (h : checkedTotal files = .ok total) :
    total = proxyBytes files := by
  unfold checkedTotal at h
  split_ifs at h
  cases h
  rfl

/-- Eviction counts again and only removes files. -/
theorem evictToBudget_spec {moment : Moment} (hNodup : (cache.files.map (·.path)).Nodup)
    (h : cache.evictToBudget moment = .ok cache') :
    Accounts cache' ∧ cache'.files.Sublist cache.files ∧
      cache'.budgetBytes = cache.budgetBytes := by
  have hListing := (moment.listing_perm cache.files).filter (·.isProxy)
  have hBytesListing : proxyBytes (moment.listing cache.files) = proxyBytes cache.files :=
    (hListing.map _).sum_eq
  have hCountListing : (proxyFiles (moment.listing cache.files)).length =
      (proxyFiles cache.files).length := hListing.length_eq
  unfold DiskProxyCache.evictToBudget at h
  obtain ⟨total, hTotal, h⟩ := bind_eq_ok.1 h
  have hTotal' := checkedTotal_ok hTotal
  rw [hBytesListing] at hTotal'
  by_cases hFits : total ≤ cache.budgetBytes
  · rw [if_pos hFits] at h
    cases h
    exact ⟨⟨hTotal', hCountListing, hTotal' ▸ hFits⟩, List.Sublist.refl _, rfl⟩
  · rw [if_neg hFits] at h
    cases h
    have hSorted := hListing.symm.trans (List.mergeSort_perm (proxyFiles
      (moment.listing cache.files)) fun a b => notLater a.modified b.modified).symm
    obtain ⟨hBytes, hLe, hCount, hSub, hBudget⟩ := evictFiles_spec
      (show ((cache.setResident total _).files.map (·.path)).Nodup from hNodup) hSorted hTotal'
      (show (cache.setResident total _).stats.residentFiles = _ from hCountListing)
      (Prod.mk.eta (p := evictFiles cache.budgetBytes _ _ _)).symm
    refine ⟨⟨hBytes, hCount, ?_⟩, hSub, hBudget⟩
    show proxyBytes (evictFiles _ _ _ _).2.files ≤ (evictFiles _ _ _ _).2.budgetBytes
    rw [← hBytes, hBudget]
    exact hLe

end Counting

/-! ## Lookups -/

/-- The file stored for a key in a format. -/
def entryAt (cache : DiskProxyCache) (key : FrameCacheKey) (format : ProxyFormat) :
    Option StoredFile :=
  cache.files.find? fun f => f.path = entryPath key format

/-- The lookup gets to a stored entry of zero bytes: the WebP entry, or the JPEG
entry when no usable WebP entry is served before it. -/
def ReachesEmpty (cache : DiskProxyCache) (key : FrameCacheKey) : Prop :=
  (∃ f, entryAt cache key .webP = some f ∧ f.bytes = []) ∨
    (∃ f, entryAt cache key .jpeg = some f ∧ f.bytes = []) ∧
      ∀ f, entryAt cache key .webP = some f → cache.usable .webP f = false

section Lookups

variable {cache cache' : DiskProxyCache} {key : FrameCacheKey} {format : ProxyFormat}
  {f : StoredFile} {answer : Option ProxyFrame} {formats : List ProxyFormat}

theorem openEntry_ok {file : Option StoredFile}
    (h : openEntry cache.files (entryPath key format) = .ok file) :
    file = entryAt cache key format := by
  unfold openEntry at h
  split_ifs at h
  cases h
  rfl

theorem entryAt_eq_some (h : (cache.files.map (·.path)).Nodup) :
    entryAt cache key format = some f ↔ f ∈ cache.files ∧ f.path = entryPath key format :=
  find?_key_eq_some h

/-- One round of the lookup: nothing stored, a hit, or a bad entry thrown away. -/
theorem getFormats_cons (h : DiskProxyCache.getFormats key (format :: formats) cache =
    .ok (answer, cache')) :
    (entryAt cache key format = none ∧
      DiskProxyCache.getFormats key formats cache = .ok (answer, cache')) ∨
    (∃ f, entryAt cache key format = some f ∧ cache.usable format f = true ∧
      answer = some ⟨key, format, f.bytes⟩ ∧ cache' = { cache with
        stats := { cache.stats with hits := saturatingAddU64 cache.stats.hits 1 } }) ∨
    (∃ f, entryAt cache key format = some f ∧ cache.usable format f = false ∧
      DiskProxyCache.getFormats key formats (cache.removeCorruptEntry f) =
        .ok (answer, cache')) := by
  rw [DiskProxyCache.getFormats] at h
  obtain ⟨file, hOpen, h⟩ := bind_eq_ok.1 h
  have hFile := openEntry_ok hOpen
  rw [← hFile]
  cases file with
  | none => exact Or.inl ⟨rfl, h⟩
  | some f =>
      apply Or.inr
      cases hUsable : cache.usable format f with
      | true =>
          simp only [hUsable, if_true, Except.ok.injEq, Prod.mk.injEq] at h
          exact Or.inl ⟨f, rfl, hUsable, h.1.symm, h.2.symm⟩
      | false =>
          simp only [hUsable, Bool.false_eq_true, if_false] at h
          exact Or.inr ⟨f, rfl, hUsable, h⟩

/-- What the counters are off by after a lookup: one for each empty entry. -/
def emptied (key : FrameCacheKey) : List ProxyFormat → DiskProxyCache → Nat
  | [], _ => 0
  | format :: rest, cache =>
      match entryAt cache key format with
      | none => emptied key rest cache
      | some f =>
          if cache.usable format f then 0
          else (if f.bytes = [] then 1 else 0) + emptied key rest (cache.removeCorruptEntry f)

/-- The counters of a cache whose file count is off by `drift`. -/
structure Drifted (cache : DiskProxyCache) (drift : Nat) : Prop where
  nodup : (cache.files.map (·.path)).Nodup
  bytes : cache.stats.residentBytes = proxyBytes cache.files
  count : cache.stats.residentFiles = (proxyFiles cache.files).length + drift
  within : proxyBytes cache.files ≤ cache.budgetBytes

/-- A bad entry of zero bytes leaves the file count one too high. -/
theorem Drifted.removeCorruptEntry {drift : Nat} (h : Drifted cache drift)
    (hEntry : entryAt cache key format = some f) :
    Drifted (cache.removeCorruptEntry f) (drift + if f.bytes = [] then 1 else 0) := by
  obtain ⟨hMem, hPath⟩ := (entryAt_eq_some h.nodup).1 hEntry
  have hProxy := isProxy_of_path hPath
  have hRemoved := proxyBytes_remove h.nodup hMem hProxy
  have hFewer := proxyCount_remove h.nodup hMem hProxy
  have hBytes := h.bytes
  have hCount := h.count
  have hWithin := h.within
  constructor
  · exact nodup_of_sublist h.nodup (removeFile_sublist _ _)
  · show cache.stats.residentBytes - f.len = proxyBytes (removeFile f.path cache.files)
    omega
  · show (if 0 < f.len then cache.stats.residentFiles - 1 else cache.stats.residentFiles) =
      (proxyFiles (removeFile f.path cache.files)).length + (drift + _)
    by_cases hEmpty : f.bytes = []
    · rw [if_neg (by simp [StoredFile.len, hEmpty]), if_pos hEmpty]
      omega
    · rw [if_pos (show 0 < f.len from List.length_pos_iff.2 hEmpty), if_neg hEmpty]
      omega
  · show proxyBytes (removeFile f.path cache.files) ≤ cache.budgetBytes
    omega

/-- A lookup: the counters drift by the empty entries, files only go. -/
theorem Drifted.getFormats {drift : Nat} (h : Drifted cache drift)
    (hGet : DiskProxyCache.getFormats key formats cache = .ok (answer, cache')) :
    Drifted cache' (drift + emptied key formats cache) ∧
      cache'.files.Sublist cache.files ∧ cache'.budgetBytes = cache.budgetBytes := by
  induction formats generalizing cache drift with
  | nil =>
      cases hGet
      exact ⟨⟨h.nodup, h.bytes, h.count, h.within⟩, List.Sublist.refl _, rfl⟩
  | cons format rest ih =>
      rw [emptied]
      rcases getFormats_cons hGet with ⟨hNone, hRest⟩ | ⟨f, hSome, hUsable, -, rfl⟩ |
        ⟨f, hSome, hUsable, hRest⟩
      · rw [hNone]
        exact ih h hRest
      · rw [hSome]
        simp only [hUsable, if_true, and_true]
        exact ⟨⟨h.nodup, h.bytes, h.count, h.within⟩, List.Sublist.refl _⟩
      · rw [hSome]
        simp only [hUsable, Bool.false_eq_true, if_false]
        obtain ⟨hNext, hSub, hBudget⟩ := ih (h.removeCorruptEntry hSome) hRest
        rw [Nat.add_assoc] at hNext
        exact ⟨hNext, hSub.trans (removeFile_sublist _ _), hBudget⟩

/-- A hit is the whole content of the file stored for the key. -/
theorem getFormats_hit {frame : ProxyFrame}
    (hGet : DiskProxyCache.getFormats key formats cache = .ok (some frame, cache')) :
    frame.key = key ∧
      ∃ f ∈ cache.files, f.path = entryPath key frame.format ∧ f.bytes = frame.bytes := by
  induction formats generalizing cache with
  | nil => cases hGet
  | cons format rest ih =>
      rcases getFormats_cons hGet with ⟨-, hRest⟩ | ⟨f, hSome, -, hAnswer, -⟩ | ⟨f, -, -, hRest⟩
      · exact ih hRest
      · cases hAnswer
        exact ⟨rfl, f, List.mem_of_find?_eq_some hSome, by simpa using List.find?_some hSome, rfl⟩
      · obtain ⟨hKey, g, hg, hPath, hBytes⟩ := ih hRest
        exact ⟨hKey, g, (removeFile_sublist _ _).subset hg, hPath, hBytes⟩

/-- Throwing the WebP entry away does not touch the JPEG entry. -/
theorem entryAt_removeCorruptEntry (h : (cache.files.map (·.path)).Nodup)
    (hEntry : entryAt cache key .webP = some f) :
    entryAt (cache.removeCorruptEntry f) key .jpeg = entryAt cache key .jpeg := by
  obtain ⟨-, hPath⟩ := (entryAt_eq_some h).1 hEntry
  have hOther : entryPath key .jpeg ≠ f.path := by
    rw [hPath]
    intro hSame
    exact absurd (entryPath_inj hSame).2 (by decide)
  show (removeFile f.path cache.files).find? _ = cache.files.find? _
  unfold removeFile
  rw [List.find?_filter]
  congr 1
  funext g
  by_cases hg : g.path = entryPath key .jpeg
  · simp [hg, hOther]
  · simp [hg]

/-- The lookup empties no entry exactly when it reaches none. -/
theorem emptied_eq_zero_iff (h : (cache.files.map (·.path)).Nodup) :
    emptied key [.webP, .jpeg] cache = 0 ↔ ¬ ReachesEmpty cache key := by
  have hJpeg : ∀ c : DiskProxyCache, emptied key [.jpeg] c = 0 ↔
      ¬ ∃ f, entryAt c key .jpeg = some f ∧ f.bytes = [] := by
    intro c
    rw [emptied]
    cases hEntry : entryAt c key .jpeg with
    | none => simp [emptied]
    | some f =>
        by_cases hEmpty : f.bytes = []
        · have hBad : c.usable .jpeg f = false := by
            simp [DiskProxyCache.usable, hEmpty, ProxyFormat.validate]
          simp [hBad, hEmpty]
        · simp [hEmpty, emptied]
  rw [emptied]
  unfold ReachesEmpty
  cases hEntry : entryAt cache key .webP with
  | none =>
      rw [hJpeg]
      simp
  | some f =>
      by_cases hEmpty : f.bytes = []
      · have hBad : cache.usable .webP f = false := by
          simp [DiskProxyCache.usable, hEmpty, ProxyFormat.validate]
        simp [hBad, hEmpty]
      · cases hUsable : cache.usable .webP f with
        | true => simp [hEmpty, hUsable]
        | false =>
            simp only [hUsable, hEmpty, Bool.false_eq_true, if_false, Nat.zero_add]
            rw [hJpeg, entryAt_removeCorruptEntry h hEntry]
            simp [hEmpty, hUsable]

end Lookups

/-! ## Runs -/

inductive DiskOp where
  | get (key : FrameCacheKey)
  | insert (key : FrameCacheKey) (format : ProxyFormat) (bytes : List UInt8) (moment : Moment)
  | invalidateSource (source : SourceIdentity)
  | clear

/-- A cache in use, with the insertions that returned `Inserted`, newest first. -/
structure DiskRun where
  cache : DiskProxyCache
  inserted : List ProxyFrame

/-- The bytes given to the insertion that last returned `Inserted`. -/
def DiskRun.lastInserted (run : DiskRun) (key : FrameCacheKey) (format : ProxyFormat) :
    Option (List UInt8) :=
  (run.inserted.find? fun p => p.key = key ∧ p.format = format).map (·.bytes)

variable [ContentHash]

def applyDisk (run : DiskRun) : DiskOp → Except DiskCacheError DiskRun
  | .get key => do
      let served ← run.cache.get key
      .ok { run with cache := served.2 }
  | .insert key format bytes moment => do
      let stored ← run.cache.insert key format bytes moment
      match stored.1 with
      | .inserted => .ok ⟨stored.2, ⟨key, format, bytes⟩ :: run.inserted⟩
      | _ => .ok { run with cache := stored.2 }
  | .invalidateSource source => do
      let cache ← run.cache.invalidateSource source
      .ok { run with cache }
  | .clear => .ok { run with cache := run.cache.clear }

/-- The operation returns `Ok`. -/
def Succeeds (run : DiskRun) (op : DiskOp) : Prop := (applyDisk run op).isOk = true

/-- The runs that are looked at have no failing operation. -/
def stepDisk (run : DiskRun) (op : DiskOp) : DiskRun :=
  match applyDisk run op with
  | .ok run' => run'
  | .error _ => run

/-- A lookup reaches no stored entry of zero bytes. -/
def ReachesNoEmpty (run : DiskRun) : DiskOp → Prop
  | .get key => ¬ ReachesEmpty run.cache key
  | _ => True

/-- What the cache promises in a state, opened over the directory `initial`. -/
structure DiskLaw (initial : List StoredFile) (run : DiskRun) : Prop where
  accounts : Accounts run.cache
  hit : ∀ key frame cache', run.cache.get key = .ok (some frame, cache') → frame.key = key ∧
    ∃ f ∈ run.cache.files, f.path = entryPath key frame.format ∧ f.bytes = frame.bytes
  fresh : initial = [] → ∀ key frame cache', run.cache.get key = .ok (some frame, cache') →
    run.lastInserted key frame.format = some frame.bytes

/-- The invariant of a run: exact counters, and over an initially empty
directory only files that the last insertion for their path wrote. -/
structure Sound (initial : List StoredFile) (run : DiskRun) : Prop where
  drifted : Drifted run.cache 0
  fresh : initial = [] → ∀ f ∈ run.cache.files, ∃ key format,
    f.path = entryPath key format ∧ run.lastInserted key format = some f.bytes

section Runs

variable {initial : List StoredFile} {run run' : DiskRun} {cache cache' : DiskProxyCache}
  {key : FrameCacheKey} {format : ProxyFormat} {bytes : List UInt8} {moment : Moment}

omit [ContentHash] in
theorem Accounts.drifted (h : Accounts cache) (hNodup : (cache.files.map (·.path)).Nodup) :
    Drifted cache 0 := ⟨hNodup, h.bytes, h.count, h.within⟩

omit [ContentHash] in
theorem Drifted.accounts (h : Drifted cache 0) : Accounts cache := ⟨h.bytes, h.count, h.within⟩

omit [ContentHash] in
theorem Sound.law (h : Sound initial run) : DiskLaw initial run where
  accounts := h.drifted.accounts
  hit := fun _ _ _ hGet => getFormats_hit hGet
  fresh := by
    intro hInitial key frame cache' hGet
    obtain ⟨-, f, hf, hPath, hBytes⟩ := getFormats_hit hGet
    obtain ⟨key', format', hPath', hLast⟩ := h.fresh hInitial f hf
    obtain ⟨rfl, rfl⟩ := entryPath_inj (hPath.symm.trans hPath')
    rw [hLast, hBytes]

omit [ContentHash] in
/-- Files that only go away keep what was said of the others. -/
theorem Sound.shrink (h : Sound initial run) (hDrifted : Drifted cache' 0)
    (hSub : cache'.files.Sublist run.cache.files) : Sound initial { run with cache := cache' } where
  drifted := hDrifted
  fresh := fun hInitial f hf => h.fresh hInitial f (hSub.subset hf)

omit [ContentHash] in
/-- What an insertion can do: nothing, or add the entry and trim the directory. -/
theorem insert_cases {result : DiskInsertResult}
    (h : cache.insert key format bytes moment = .ok (result, cache')) :
    (result ≠ .inserted ∧ cache' = cache) ∨
    (result = .inserted ∧ (∀ f ∈ cache.files, f.path ≠ entryPath key format) ∧
      (cache.addFile ⟨entryPath key format, bytes, moment.modified⟩).evictToBudget moment =
        .ok cache') := by
  unfold DiskProxyCache.insert at h
  dsimp only at h
  split_ifs at h with hValid hLarge hPresent hThrough hDirectory
  · cases h
    exact Or.inl ⟨by decide, rfl⟩
  · cases h
    exact Or.inl ⟨by decide, rfl⟩
  · obtain ⟨trimmed, hTrimmed, h⟩ := bind_eq_ok.1 h
    cases h
    refine Or.inr ⟨rfl, ?_, hTrimmed⟩
    intro f hf hPath
    apply hPresent
    rw [List.find?_isSome]
    exact ⟨f, hf, decide_eq_true hPath⟩

omit [ContentHash] in
theorem lastInserted_cons_self (cache : DiskProxyCache) (p : ProxyFrame) (ps : List ProxyFrame) :
    (DiskRun.mk cache (p :: ps)).lastInserted p.key p.format = some p.bytes := by
  simp [DiskRun.lastInserted]

omit [ContentHash] in
theorem lastInserted_cons_of_ne (cache : DiskProxyCache) {p : ProxyFrame} {ps : List ProxyFrame}
    (h : entryPath p.key p.format ≠ entryPath key format) :
    (DiskRun.mk cache (p :: ps)).lastInserted key format =
      (DiskRun.mk cache ps).lastInserted key format := by
  unfold DiskRun.lastInserted
  rw [List.find?_cons_of_neg]
  intro hSame
  rw [decide_eq_true_eq] at hSame
  exact h (by rw [hSame.1, hSame.2])

omit [ContentHash] in
/-- A stored entry is the last one inserted for its path. -/
theorem Sound.insert (h : Sound initial run)
    (hNew : ∀ f ∈ run.cache.files, f.path ≠ entryPath key format)
    (hTrim : (run.cache.addFile ⟨entryPath key format, bytes, moment.modified⟩).evictToBudget
      moment = .ok cache') :
    Sound initial ⟨cache', ⟨key, format, bytes⟩ :: run.inserted⟩ := by
  have hNodup : ((run.cache.addFile ⟨entryPath key format, bytes, moment.modified⟩).files.map
      (·.path)).Nodup := by
    show ((run.cache.files ++ [_]).map StoredFile.path).Nodup
    rw [List.map_append, List.nodup_append]
    refine ⟨h.drifted.nodup, List.nodup_singleton _, ?_⟩
    intro path hPath other hOther hSame
    obtain ⟨f, hf, rfl⟩ := List.mem_map.1 hPath
    rw [List.map_singleton, List.mem_singleton] at hOther
    exact hNew f hf (hSame.trans hOther)
  obtain ⟨hAccounts, hSub, -⟩ := evictToBudget_spec hNodup hTrim
  constructor
  · exact hAccounts.drifted (nodup_of_sublist hNodup hSub)
  · intro hInitial f hf
    rcases List.mem_append.1 (hSub.subset hf) with hOld | hAdded
    · obtain ⟨key', format', hPath, hLast⟩ := h.fresh hInitial f hOld
      refine ⟨key', format', hPath, ?_⟩
      rw [lastInserted_cons_of_ne]
      · exact hLast
      · intro hSame
        exact hNew f hOld (hPath.trans hSame.symm)
    · rw [List.mem_singleton] at hAdded
      subst hAdded
      exact ⟨key, format, rfl, lastInserted_cons_self _ ⟨key, format, bytes⟩ _⟩

/-- Counting again makes the counters exact. -/
theorem Sound.invalidateSource (h : Sound initial run) {source : SourceIdentity}
    (hOk : run.cache.invalidateSource source = .ok cache') :
    Sound initial { run with cache := cache' } := by
  unfold DiskProxyCache.invalidateSource at hOk
  obtain ⟨-, -, hOk⟩ := bind_eq_ok.1 hOk
  obtain ⟨total, hTotal, hOk⟩ := bind_eq_ok.1 hOk
  have hExact := checkedTotal_ok hTotal
  cases hOk
  apply h.shrink
  · constructor
    · exact nodup_of_sublist h.drifted.nodup List.filter_sublist
    · exact hExact
    · rfl
    · apply le_trans _ h.drifted.within
      exact ((List.filter_sublist.filter _).map _).sum_le_sum (by simp)
  · exact List.filter_sublist

omit [ContentHash] in
theorem Sound.clear (h : Sound initial run) :
    Sound initial { run with cache := run.cache.clear } := by
  apply h.shrink
  · exact ⟨List.nodup_nil, rfl, rfl, Nat.zero_le _⟩
  · exact List.nil_sublist _

/-- A step that succeeds and reaches no empty entry. -/
theorem Sound.step (h : Sound initial run) (op : DiskOp) (hOk : applyDisk run op = .ok run')
    (hEmpty : ReachesNoEmpty run op) : Sound initial run' := by
  cases op with
  | get key =>
      obtain ⟨served, hGet, hOk⟩ := bind_eq_ok.1 hOk
      cases hOk
      obtain ⟨hDrifted, hSub, -⟩ := h.drifted.getFormats hGet
      rw [(emptied_eq_zero_iff h.drifted.nodup).2 hEmpty] at hDrifted
      exact h.shrink hDrifted hSub
  | insert key format bytes moment =>
      obtain ⟨⟨result, cache'⟩, hInsert, hOk⟩ := bind_eq_ok.1 hOk
      rcases insert_cases hInsert with ⟨hResult, rfl⟩ | ⟨rfl, hNew, hTrim⟩
      · have hSame : run' = run := by
          cases result with
          | inserted => exact absurd rfl hResult
          | alreadyPresent => exact (Except.ok.inj hOk).symm
          | tooLarge => exact (Except.ok.inj hOk).symm
        rw [hSame]
        exact h
      · cases hOk
        exact h.insert hNew hTrim
  | invalidateSource source =>
      obtain ⟨cache', hInvalidate, hOk⟩ := bind_eq_ok.1 hOk
      cases hOk
      exact h.invalidateSource hInvalidate
  | clear =>
      cases hOk
      exact h.clear

/-- A lookup that reaches an empty entry leaves the file count wrong. -/
theorem reachesNoEmpty_of_law (h : Sound initial run) (op : DiskOp)
    (hOk : applyDisk run op = .ok run') (hLaw : DiskLaw initial run') : ReachesNoEmpty run op := by
  cases op with
  | get key =>
      obtain ⟨served, hGet, hOk⟩ := bind_eq_ok.1 hOk
      cases hOk
      obtain ⟨hDrifted, -, -⟩ := h.drifted.getFormats hGet
      have hCount := hDrifted.count
      have hExact : served.2.stats.residentFiles = (proxyFiles served.2.files).length :=
        hLaw.accounts.count
      apply (emptied_eq_zero_iff h.drifted.nodup).1
      omega
  | insert key format bytes moment => trivial
  | invalidateSource source => trivial
  | clear => trivial

theorem exists_of_succeeds {op : DiskOp} (h : Succeeds run op) :
    ∃ run', applyDisk run op = .ok run' ∧ stepDisk run op = run' := by
  unfold Succeeds at h
  unfold stepDisk
  cases hApply : applyDisk run op with
  | ok run' => exact ⟨run', rfl, rfl⟩
  | error e =>
      rw [hApply] at h
      cases h

theorem stepDisk_of_fails {op : DiskOp} (h : ¬ Succeeds run op) : stepDisk run op = run := by
  unfold Succeeds at h
  unfold stepDisk
  cases hApply : applyDisk run op with
  | ok run' =>
      rw [hApply] at h
      exact absurd rfl h
  | error e => rfl

end Runs

/-- Opened over any directory and used by any successful operations, the cache
keeps its law in every state exactly when no lookup reaches a stored entry of
zero bytes. -/
theorem diskProxyCache_law (initial : List StoredFile) (budgetBytes : Nat) (moment : Moment)
    (opened : DiskProxyCache) (ops : List DiskOp)
    (hDirectory : (initial.map (·.path)).Nodup)
    (hOpen : DiskProxyCache.open initial budgetBytes moment = .ok opened)
    (hOk : Meets stepDisk Succeeds ⟨opened, []⟩ ops) :
    (∀ k, DiskLaw initial ((ops.take k).foldl stepDisk ⟨opened, []⟩)) ↔
      Meets stepDisk ReachesNoEmpty ⟨opened, []⟩ ops := by
  have hInit : Sound initial ⟨opened, []⟩ := by
    obtain ⟨total, -, hOpen⟩ := bind_eq_ok.1 hOpen
    have hNodup := nodup_of_sublist hDirectory
      (List.filter_sublist (p := fun f : StoredFile => !f.isTemporary))
    obtain ⟨hAccounts, hSub, -⟩ := evictToBudget_spec hNodup hOpen
    constructor
    · exact hAccounts.drifted (nodup_of_sublist hNodup hSub)
    · intro hEmpty f hf
      have hIn := (hSub.trans List.filter_sublist).subset hf
      rw [hEmpty] at hIn
      cases hIn
  have hKeep : ∀ run op, Sound initial run → (Succeeds run op → ReachesNoEmpty run op) →
      Sound initial (stepDisk run op) := by
    intro run op h hMeets
    by_cases hSucceeds : Succeeds run op
    · obtain ⟨run', hApply, hStep⟩ := exists_of_succeeds hSucceeds
      rw [hStep]
      exact h.step op hApply (hMeets hSucceeds)
    · rw [stepDisk_of_fails hSucceeds]
      exact h
  have hExact : ∀ run op, Sound initial run → DiskLaw initial (stepDisk run op) →
      Succeeds run op → ReachesNoEmpty run op := by
    intro run op h hLaw hSucceeds
    obtain ⟨run', hApply, hStep⟩ := exists_of_succeeds hSucceeds
    rw [hStep] at hLaw
    exact reachesNoEmpty_of_law h op hApply hLaw
  rw [← meets_imp_iff hOk]
  exact always_iff_meets hKeep (fun _ h => h.law) hExact hInit ops

/-! ## A run -/

def sampleKey : FrameCacheKey := ⟨"0", 0, 7⟩

/-- Files are listed in the order in which they were written. -/
def sampleMoment : Moment := ⟨some 1, id, fun _ => List.Perm.refl _⟩

/-- A JPEG start marker. -/
def sampleProxy : List UInt8 := [0xff, 0xd8, 0xff, 0]

/-- A directory that holds an empty WebP entry. -/
def emptyEntry : List StoredFile := [⟨["0", "0", "7.webp"], [], some 0⟩]

def openedOverEmptyEntry : DiskProxyCache := ⟨16, ⟨0, 0, 0, 0, 0, 0, 1⟩, emptyEntry⟩

omit [ContentHash] in
/-- The lookup removes the empty entry and goes on counting it. -/
theorem emptyEntry_still_counted :
    DiskProxyCache.open emptyEntry 16 sampleMoment = .ok openedOverEmptyEntry ∧
      @Meets _ _ (@stepDisk constantHash) (@Succeeds constantHash) ⟨openedOverEmptyEntry, []⟩
        [.get sampleKey] ∧
      ¬ DiskLaw emptyEntry
        ([DiskOp.get sampleKey].foldl (@stepDisk constantHash) ⟨openedOverEmptyEntry, []⟩) := by
  refine ⟨by decide, ⟨by unfold Succeeds; decide +kernel, trivial⟩, ?_⟩
  intro hLaw
  have hCount := hLaw.accounts.count
  revert hCount
  decide

/-- A preview stored in an empty directory and looked up again. -/
def storedPreview : List DiskOp :=
  [.insert sampleKey .jpeg sampleProxy sampleMoment, .get sampleKey]

omit [ContentHash] in
theorem diskProxyCache_law_storedPreview :
    DiskLaw [] ((storedPreview.take 2).foldl (@stepDisk constantHash)
      ⟨⟨16, ⟨0, 0, 0, 0, 0, 0, 0⟩, []⟩, []⟩) := by
  refine (@diskProxyCache_law constantHash [] 16 sampleMoment ⟨16, ⟨0, 0, 0, 0, 0, 0, 0⟩, []⟩
    storedPreview List.nodup_nil (by decide) ?_).2 ?_ 2
  · exact ⟨by unfold Succeeds; decide, by unfold Succeeds; decide +kernel, trivial⟩
  · refine ⟨trivial, ?_, trivial⟩
    exact (emptied_eq_zero_iff (by decide)).1 (by decide +kernel)

end FrameScope.Ports.DiskCacheLaw
