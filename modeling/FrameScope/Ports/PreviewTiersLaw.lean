import FrameScope.Ports.DiskCacheLaw
import FrameScope.Ports.NavigationRuns
import FrameScope.Ports.PreviewTiers

/-!
# Every tier shows the same preview

Three tiers answer for one frame: the RAM tier with its pixels, the disk tier with an
encoded proxy, and the decoder.  The invariant says what each tier holds under a key
of the index, and every call keeps it, whatever the operating system fails and whatever
other sessions over the same root do: a preview is always the encoder's answer for the
pixels of its frame.

A disk tier that fails costs nothing but time: a preview is served wherever the pixels
themselves would be, if the source has an identity that can be reused.  Without one the
pixels are served and the preview is not.
-/

namespace FrameScope.Ports.PreviewTiersLaw

open FrameScope.Verified.Runs
open FrameScope.Ports.Core
open FrameScope.Ports.Decoder
open FrameScope.Ports.FrameIndexModel
open FrameScope.Ports.SourceBinding
open FrameScope.Ports.FrameIndexStore
open FrameScope.Ports.IndexingCall
open FrameScope.Ports.IndexingRuns
open FrameScope.Ports.CompleteIndex
open FrameScope.Ports.FrameCache
open FrameScope.Ports.DiskCache
open FrameScope.Ports.DiskCacheLaw
open FrameScope.Ports.Navigation
open FrameScope.Ports.NavigationExact
open FrameScope.Ports.NavigationRuns
open FrameScope.Ports.PreviewTiers

/-! ## Files of the disk tier -/

section Files

variable {disk disk' : DiskProxyCache} {key : FrameCacheKey}

theorem getFormats_files {formats : List ProxyFormat} {answer : Option ProxyFrame}
    (hGet : DiskProxyCache.getFormats key formats disk = .ok (answer, disk')) :
    ∀ f ∈ disk'.files, f ∈ disk.files := by
  induction formats generalizing disk with
  | nil =>
      cases hGet
      exact fun f hf => hf
  | cons format rest ih =>
      rcases getFormats_cons hGet with ⟨-, hRest⟩ | ⟨f, -, -, -, rfl⟩ | ⟨f, -, -, hRest⟩
      · exact ih hRest
      · exact fun f hf => hf
      · intro g hg
        exact (removeFile_sublist _ _).subset (ih hRest g hg)

theorem evictFiles_files {budgetBytes resident : Nat} {entries : List StoredFile} :
    ∀ f ∈ (evictFiles budgetBytes entries resident disk).2.files, f ∈ disk.files := by
  induction entries generalizing resident disk with
  | nil => exact fun f hf => hf
  | cons entry rest ih =>
      rw [evictFiles]
      by_cases hFits : resident ≤ budgetBytes
      · rw [if_pos hFits]
        exact fun f hf => hf
      · rw [if_neg hFits]
        intro f hf
        exact (removeFile_sublist _ _).subset (ih f hf)

theorem evictToBudget_files {moment : Moment} (h : disk.evictToBudget moment = .ok disk') :
    ∀ f ∈ disk'.files, f ∈ disk.files := by
  obtain ⟨total, -, h⟩ := bind_eq_ok.1 h
  dsimp only at h
  split_ifs at h
  · cases h
    exact fun f hf => hf
  · cases h
    intro f hf
    have hLeft := @evictFiles_files
      (disk.setResident total (proxyFiles (moment.listing disk.files)).length) _ total _ f hf
    exact hLeft

theorem leftBy_files {os : DiskOs} {added : List StoredFile} {f : StoredFile}
    (hf : f ∈ (leftBy os disk added).files) : f ∈ disk.files ∨ f ∈ added := by
  have hIn := (List.mem_filter.1 hf).1
  cases List.mem_append.1 hIn with
  | inl hOld => exact Or.inl hOld
  | inr hNew =>
      by_cases hPlaced : os.placed = true
      · rw [if_pos hPlaced] at hNew
        exact Or.inr hNew
      · rw [if_neg hPlaced] at hNew
        cases hNew

/-- A lookup adds no file, and what it finds is the content of one. -/
theorem diskGet_files (os : DiskOs) (disk : DiskProxyCache) (key : FrameCacheKey) :
    (∀ f ∈ (diskGet os disk key).2.files, f ∈ disk.files) ∧
      ∀ proxy, (diskGet os disk key).1 = .ok (some proxy) →
        ∃ f ∈ disk.files, f.path = entryPath key proxy.format ∧ f.bytes = proxy.bytes := by
  have hLeft : ∀ f ∈ (leftBy os disk []).files, f ∈ disk.files := by
    intro f hf
    cases leftBy_files hf with
    | inl hOld => exact hOld
    | inr hNew => cases hNew
  unfold diskGet
  cases os.failure with
  | some detail => exact ⟨hLeft, fun proxy hOk => by cases hOk⟩
  | none =>
      cases hGet : disk.get key with
      | error error => exact ⟨hLeft, fun proxy hOk => by cases hOk⟩
      | ok served =>
          cases served with
          | mk found disk' =>
              refine ⟨getFormats_files hGet, fun proxy hOk => ?_⟩
              have hFound : found = some proxy := by simpa using hOk
              rw [hFound] at hGet
              exact (getFormats_hit hGet).2

/-- An insertion adds the file of its key at most. -/
theorem diskInsert_files (os : DiskOs) (disk : DiskProxyCache) (key : FrameCacheKey)
    (format : ProxyFormat) (bytes : List UInt8) :
    ∀ f ∈ (diskInsert os disk key format bytes).2.files,
      f ∈ disk.files ∨ (f.path = entryPath key format ∧ f.bytes = bytes) := by
  have hLeft : ∀ f ∈ (leftBy os disk [⟨entryPath key format, bytes, os.moment.modified⟩]).files,
      f ∈ disk.files ∨ (f.path = entryPath key format ∧ f.bytes = bytes) := by
    intro f hf
    cases leftBy_files hf with
    | inl hOld => exact Or.inl hOld
    | inr hNew =>
        rw [List.mem_singleton.1 hNew]
        exact Or.inr ⟨rfl, rfl⟩
  unfold diskInsert
  cases hInsert : disk.insert key format bytes os.moment with
  | error error =>
      cases error with
      | invalidProxy format' => exact fun f hf => Or.inl hf
      | io detail => exact hLeft
  | ok stored =>
      cases stored with
      | mk result disk' =>
          cases insert_cases hInsert with
          | inl hSame =>
              cases result with
              | inserted => exact absurd rfl hSame.1
              | alreadyPresent => exact fun f hf => Or.inl (hSame.2 ▸ hf)
              | tooLarge => exact fun f hf => Or.inl (hSame.2 ▸ hf)
          | inr hAdded =>
              obtain ⟨rfl, -, hTrim⟩ := hAdded
              dsimp only
              cases os.failure with
              | some detail => exact hLeft
              | none =>
                  intro f hf
                  cases List.mem_append.1 (evictToBudget_files hTrim f hf) with
                  | inl hOld => exact Or.inl hOld
                  | inr hNew =>
                      rw [List.mem_singleton.1 hNew]
                      exact Or.inr ⟨rfl, rfl⟩

end Files

/-! ## What each tier holds -/

section Tiers

variable [ContentHash] (S : List DecodedRgbaFrame) (index : FrameIndex)
  (encode : OwnedRgbaFrame → Except String EncodedPreview)

/-- The encoder's answer for the frame at a position. -/
def IsPreviewOf (target : Nat) (format : ProxyFormat) (bytes : List UInt8) : Prop :=
  ∃ pixels, IsFrameAt S target pixels ∧ encode pixels = .ok ⟨format, bytes⟩

/-- A file under a key of the index is the preview of its frame. -/
def FileOf (f : StoredFile) : Prop :=
  ∀ key format, IsKeyOf index key → f.path = entryPath key format →
    IsPreviewOf S encode key.frameId format f.bytes

def DiskOf (disk : DiskProxyCache) : Prop :=
  ∀ f ∈ disk.files, FileOf S index encode f

structure TiersOf (cache : FrameCacheHierarchy) : Prop where
  ram : CacheOf S index cache.ram
  disk : ∀ disk, cache.disk = some disk → DiskOf S index encode disk

variable {S} {index} {encode} {cache : FrameCacheHierarchy} {key : FrameCacheKey} {target : Nat}

omit [ContentHash] in
/-- One position has one frame. -/
theorem isFrameAt_unique {pixels pixels' : OwnedRgbaFrame} (h : IsFrameAt S target pixels)
    (h' : IsFrameAt S target pixels') : pixels = pixels' := by
  obtain ⟨f, hFrame, hOwned⟩ := h
  obtain ⟨f', hFrame', hOwned'⟩ := h'
  rw [hFrame] at hFrame'
  cases hFrame'
  rw [hOwned] at hOwned'
  cases hOwned'
  rfl

/-- What a lookup serves for a key of the index. -/
def Serves (S : List DecodedRgbaFrame) (encode : OwnedRgbaFrame → Except String EncodedPreview)
    (target : Nat) : Except DiskCacheError CacheLookup → Prop
  | .ok (.full frame) => IsFrameAt S target frame.pixels
  | .ok (.proxy proxy) => IsPreviewOf S encode target proxy.format proxy.bytes
  | _ => True

theorem lookup_spec (h : TiersOf S index encode cache) (os : DiskOs) (hKey : IsKeyOf index key)
    (hTarget : key.frameId = target) :
    TiersOf S index encode (cache.lookup os key).2 ∧
      Serves S encode target (cache.lookup os key).1 := by
  obtain ⟨hHolds, hHit⟩ := holds_get h.ram key
  unfold FrameCacheHierarchy.lookup
  cases hGet : cache.ram.get key with
  | mk found ram =>
      rw [hGet] at hHolds hHit
      cases found with
      | some frame =>
          obtain ⟨hCached, hFrame⟩ := hHit frame rfl
          rw [hCached, hTarget] at hFrame
          exact ⟨⟨hHolds, h.disk⟩, hFrame hKey⟩
      | none =>
          dsimp only
          cases hDisk : cache.disk with
          | none =>
              refine ⟨⟨hHolds, ?_⟩, trivial⟩
              intro disk hSome
              cases hSome
          | some disk =>
              dsimp only
              have hFiles := h.disk disk hDisk
              have hServed := diskGet_files os disk key
              have hKept : DiskOf S index encode (diskGet os disk key).2 :=
                fun f hf => hFiles f (hServed.1 f hf)
              cases hAnswer : diskGet os disk key with
              | mk answer disk' =>
                  rw [hAnswer] at hServed hKept
                  have hNext : TiersOf S index encode
                      { cache with ram := ram, disk := some disk' } := by
                    refine ⟨hHolds, fun other hOther => ?_⟩
                    cases hOther
                    exact hKept
                  cases answer with
                  | error error => exact ⟨hNext, trivial⟩
                  | ok found =>
                      cases found with
                      | none => exact ⟨hNext, trivial⟩
                      | some proxy =>
                          obtain ⟨f, hf, hPath, hBytes⟩ := hServed.2 proxy rfl
                          have hPreview := hFiles f hf key proxy.format hKey hPath
                          rw [hTarget, hBytes] at hPreview
                          exact ⟨hNext, hPreview⟩

/-- A key tells its frame: the file of one key is not that of another. -/
theorem insertProxy_spec (h : TiersOf S index encode cache) (os : DiskOs)
    {format : ProxyFormat} {bytes : List UInt8}
    (hPreview : IsPreviewOf S encode key.frameId format bytes) :
    TiersOf S index encode (cache.insertProxy os key format bytes).2 := by
  unfold FrameCacheHierarchy.insertProxy
  cases hDisk : cache.disk with
  | none => exact ⟨h.ram, fun disk hSome => h.disk disk hSome⟩
  | some disk =>
      refine ⟨h.ram, fun other hOther => ?_⟩
      cases hOther
      intro f hf key' format' hKey' hPath'
      cases diskInsert_files os disk key format bytes f hf with
      | inl hOld => exact h.disk disk hDisk f hOld key' format' hKey' hPath'
      | inr hNew =>
          obtain ⟨rfl, rfl⟩ := entryPath_inj (hNew.1.symm.trans hPath')
          rw [hNew.2]
          exact hPreview

/-! ## One call -/

/-- What a preview call answers for a frame. -/
def Exact (S : List DecodedRgbaFrame) (encode : OwnedRgbaFrame → Except String EncodedPreview)
    (target : Nat) (answer : Except PreviewNavigationError PreviewNavigationResult) : Prop :=
  ∀ result, answer = .ok result →
    result.frameId = target ∧ IsPreviewOf S encode target result.format result.bytes

/-- The answer is the preview with these bytes. -/
def Answers (encoded : EncodedPreview)
    (answer : Except PreviewNavigationError PreviewNavigationResult) : Prop :=
  ∃ result, answer = .ok result ∧ result.format = encoded.format ∧ result.bytes = encoded.bytes

theorem encodeAndStore_spec (h : TiersOf S index encode cache) (os : DiskOs)
    (hTarget : key.frameId = target) {pixels : OwnedRgbaFrame} (hPixels : IsFrameAt S target pixels)
    (source : PreviewSource) (decodedFrames : Nat) :
    TiersOf S index encode
        (encodeAndStore os cache key target pixels source decodedFrames encode).2 ∧
      Exact S encode target
        (encodeAndStore os cache key target pixels source decodedFrames encode).1 ∧
      ∀ encoded, encode pixels = .ok encoded → Answers encoded
        (encodeAndStore os cache key target pixels source decodedFrames encode).1 := by
  unfold encodeAndStore
  cases hEncode : encode pixels with
  | error text =>
      refine ⟨h, ?_, ?_⟩
      · intro result hOk
        cases hOk
      · intro encoded hOk
        cases hOk
  | ok encoded =>
      have hPreview : IsPreviewOf S encode key.frameId encoded.format encoded.bytes := by
        rw [hTarget]
        exact ⟨pixels, hPixels, hEncode⟩
      refine ⟨insertProxy_spec h os hPreview, ?_, ?_⟩
      · intro result hOk
        cases hOk
        exact ⟨rfl, pixels, hPixels, hEncode⟩
      · intro other hOk
        cases hOk
        exact ⟨_, rfl, rfl, rfl⟩

omit [ContentHash] in
theorem addWarning_spec (warning : Option String) (result : PreviewNavigationResult) :
    (addWarning warning result).frameId = result.frameId ∧
      (addWarning warning result).format = result.format ∧
      (addWarning warning result).bytes = result.bytes := by
  cases warning <;> exact ⟨rfl, rfl, rfl⟩

theorem previewFromSource_spec (hIndex : IndexOf S index) {opens : Opener}
    (hOpens : OpensConforming S opens) (h : TiersOf S index encode cache)
    (hTarget : key.frameId = target) (os : DiskOs) (warning : Option String) :
    TiersOf S index encode (previewFromSource index opens target key encode os warning cache).2 ∧
      Exact S encode target
        (previewFromSource index opens target key encode os warning cache).1 ∧
      ∀ cached encoded, (navigateToFrameCached index opens target cache.ram).1 = .ok cached →
        encode cached.pixels = .ok encoded → Answers encoded
          (previewFromSource index opens target key encode os warning cache).1 := by
  have hCached := navigateToFrameCached_spec hIndex hOpens target h.ram
  unfold previewFromSource
  cases hNavigate : navigateToFrameCached index opens target cache.ram with
  | mk answer ram =>
      rw [hNavigate] at hCached
      have hRam : TiersOf S index encode { cache with ram := ram } := ⟨hCached.1, h.disk⟩
      cases answer with
      | error error =>
          refine ⟨hRam, ?_, ?_⟩
          · intro result hOk
            cases hOk
          · intro cached encoded hOk
            cases hOk
      | ok decoded =>
          have hPixels := (hCached.2 decoded rfl).2
          obtain ⟨hTiers, hExact, hAnswers⟩ := encodeAndStore_spec hRam os hTarget hPixels
            (sourceOf decoded.source) decoded.decodedFrames
          dsimp only
          cases hStored : encodeAndStore os { cache with ram := ram } key target decoded.pixels
              (sourceOf decoded.source) decoded.decodedFrames encode with
          | mk stored cache' =>
              rw [hStored] at hTiers hExact hAnswers
              refine ⟨hTiers, ?_, ?_⟩
              · intro result hOk
                cases stored with
                | error error => cases hOk
                | ok plain =>
                    cases hOk
                    have hWarned := addWarning_spec warning plain
                    rw [hWarned.1, hWarned.2.1, hWarned.2.2]
                    exact hExact plain rfl
              · intro cached encoded hOk hEncode
                cases hOk
                obtain ⟨plain, hPlain, hFormat, hBytes⟩ := hAnswers encoded hEncode
                cases hPlain
                have hWarned := addWarning_spec warning plain
                exact ⟨_, rfl, hWarned.2.1.trans hFormat, hWarned.2.2.trans hBytes⟩

/-- The pixels do not depend on how often the RAM tier was asked in vain. -/
theorem navigateToFrameCached_again {opens : Opener} {ram ram' : RamFrameCache}
    {cached : CachedNavigationResult}
    (hNew : FrameCacheKey.new index.sourceIdentity index.streamIdentity.streamIndex target =
      .ok key)
    (hMiss : ram.get key = (none, ram'))
    (hOk : (navigateToFrameCached index opens target ram).1 = .ok cached) :
    ∃ again, (navigateToFrameCached index opens target ram').1 = .ok again ∧
      again.pixels = cached.pixels := by
  have hAgain : (ram'.get key).1 = none := by
    unfold RamFrameCache.get at hMiss ⊢
    dsimp only at hMiss ⊢
    split at hMiss
    · cases hMiss
    · rename_i hFind
      cases hMiss
      simp [hFind]
  unfold navigateToFrameCached at hOk ⊢
  cases hPrepare : prepare index target with
  | error error => simp [hPrepare] at hOk
  | ok prepared =>
      cases prepared with
      | mk entry key' =>
          have hKey : key' = some key := by
            unfold prepare at hPrepare
            obtain ⟨-, -, hPrepare⟩ := bind_eq_ok.1 hPrepare
            obtain ⟨row, -, hPrepare⟩ := bind_eq_ok.1 hPrepare
            rw [hNew] at hPrepare
            cases hPrepare
            rfl
          subst hKey
          have hFirst : lookupFull ram (some key) = (none, ram') := hMiss
          rw [hPrepare] at hOk
          dsimp only at hOk ⊢
          rw [hFirst] at hOk
          cases hSecond : lookupFull ram' (some key) with
          | mk found ram'' =>
              have hNone : found = none := by
                rw [← hAgain]
                exact (congrArg Prod.fst hSecond).symm
              subst hNone
              dsimp only at hOk ⊢
              cases hDecode : navigateWith index rgbaReader opens target with
              | error error => simp [hDecode] at hOk
              | ok reached =>
                  rw [hDecode] at hOk
                  unfold decodedResult at hOk ⊢
                  cases hOwned : ownedRgba reached.value with
                  | error error => simp [hOwned] at hOk
                  | ok pixels =>
                      simp only [hOwned] at hOk ⊢
                      cases hOk
                      exact ⟨_, rfl, rfl⟩

/-- A lookup that does not hit the RAM tier has asked it in vain, and left it so. -/
theorem lookup_missed {os : DiskOs} {answer : Except DiskCacheError CacheLookup}
    {cache' : FrameCacheHierarchy} (hLookup : cache.lookup os key = (answer, cache'))
    (hNotFull : ∀ full, answer ≠ .ok (.full full)) :
    cache.ram.get key = (none, cache'.ram) := by
  unfold FrameCacheHierarchy.lookup at hLookup
  cases hGet : cache.ram.get key with
  | mk found ram' =>
      rw [hGet] at hLookup
      cases found with
      | some frame =>
          cases hLookup
          exact absurd rfl (hNotFull frame)
      | none =>
          dsimp only at hLookup
          split at hLookup
          · cases hLookup
            rfl
          · split at hLookup <;> cases hLookup <;> rfl

/-- What a preview call does: the tiers keep what they hold, its answer is exact, and it
answers where the pixels would have been served from the RAM tier it found. -/
structure Previews (S : List DecodedRgbaFrame) (index : FrameIndex)
    (encode : OwnedRgbaFrame → Except String EncodedPreview) (opens : Opener) (target : Nat)
    (ram : RamFrameCache)
    (outcome : Except PreviewNavigationError PreviewNavigationResult × FrameCacheHierarchy) :
    Prop where
  tiers : TiersOf S index encode outcome.2
  exact : Exact S encode target outcome.1
  answers : index.sourceIdentity.isReuseSafe = true → ∀ cached encoded,
    (navigateToFrameCached index opens target ram).1 = .ok cached →
    encode cached.pixels = .ok encoded → Answers encoded outcome.1

theorem previewFromSource_previews (hIndex : IndexOf S index) {opens : Opener}
    (hOpens : OpensConforming S opens) {os atInsert : DiskOs}
    {answer : Except DiskCacheError CacheLookup} {cache' : FrameCacheHierarchy}
    (hNew : FrameCacheKey.new index.sourceIdentity index.streamIdentity.streamIndex target =
      .ok key)
    (hTarget : key.frameId = target) (hLookup : cache.lookup os key = (answer, cache'))
    (hNotFull : ∀ full, answer ≠ .ok (.full full)) (h : TiersOf S index encode cache')
    (warning : Option String) :
    Previews S index encode opens target cache.ram
      (previewFromSource index opens target key encode atInsert warning cache') := by
  obtain ⟨hKept, hExact, hAnswers⟩ :=
    previewFromSource_spec hIndex hOpens h hTarget atInsert warning
  refine ⟨hKept, hExact, fun _ cached encoded hOk hEncode => ?_⟩
  obtain ⟨again, hAgain, hSame⟩ :=
    navigateToFrameCached_again hNew (lookup_missed hLookup hNotFull) hOk
  exact hAnswers again encoded hAgain (hSame ▸ hEncode)

theorem navigateToFramePreview_previews (hIndex : IndexOf S index) {opens : Opener}
    (hOpens : OpensConforming S opens) (h : TiersOf S index encode cache) (target : Nat)
    (atLookup atInsert : DiskOs) :
    Previews S index encode opens target cache.ram
      (navigateToFramePreview index opens target encode atLookup atInsert cache) := by
  unfold navigateToFramePreview
  cases hNew : FrameCacheKey.new index.sourceIdentity index.streamIdentity.streamIndex target with
  | error error =>
      refine ⟨h, ?_, ?_⟩
      · intro result hOk
        cases hOk
      · intro hSafe
        rw [FrameCacheKey.new, if_pos hSafe] at hNew
        cases hNew
  | ok key =>
      have hOwn : IsKeyOf index key ∧ key.frameId = target := by
        unfold FrameCacheKey.new at hNew
        split_ifs at hNew
        cases hNew
        exact ⟨⟨rfl, rfl⟩, rfl⟩
      have hPixels : ∀ cached, (navigateToFrameCached index opens target cache.ram).1 =
          .ok cached → IsFrameAt S target cached.pixels :=
        fun cached hOk => ((navigateToFrameCached_spec hIndex hOpens target h.ram).2 cached hOk).2
      obtain ⟨hTiers, hServes⟩ := lookup_spec h atLookup hOwn.1 hOwn.2
      dsimp only
      cases hLookup : cache.lookup atLookup key with
      | mk answer cache' =>
          rw [hLookup] at hTiers hServes
          cases answer with
          | error error =>
              exact previewFromSource_previews hIndex hOpens hNew hOwn.2 hLookup (by simp) hTiers _
          | ok found =>
              cases found with
              | miss =>
                  exact previewFromSource_previews hIndex hOpens hNew hOwn.2 hLookup (by simp)
                    hTiers _
              | full full =>
                  have hFull : IsFrameAt S target full.pixels := hServes
                  obtain ⟨hKept, hExact, hAnswers⟩ := encodeAndStore_spec hTiers atInsert hOwn.2
                    hFull .encodedFromRam 0
                  refine ⟨hKept, hExact, fun _ cached encoded hOk hEncode => ?_⟩
                  rw [isFrameAt_unique (hPixels cached hOk) hFull] at hEncode
                  exact hAnswers encoded hEncode
              | proxy proxy =>
                  obtain ⟨pixels, hFrame, hProxy⟩ := hServes
                  refine ⟨hTiers, ?_, fun _ cached encoded hOk hEncode => ?_⟩
                  · intro result hOk
                    cases hOk
                    exact ⟨rfl, pixels, hFrame, hProxy⟩
                  · rw [isFrameAt_unique (hPixels cached hOk) hFrame, hProxy] at hEncode
                    cases hEncode
                    exact ⟨_, rfl, rfl, rfl⟩

/-! ## Runs -/

/-- A call on the hierarchy, or what another session over the same root does. -/
inductive TierOp where
  | preview (opens : Opener) (target : Nat) (atLookup atInsert : DiskOs)
  | cached (opens : Opener) (target : Nat)
  | setRamBudgetBytes (budgetBytes : Nat)
  | invalidateSource (os : DiskOs) (source : SourceIdentity)
  | clear (os : DiskOs)
  | otherRam (frame : CachedFrame)
  | otherDisk (keeps : StoredFile → Bool) (added : List StoredFile)

def TierOp.step (index : FrameIndex) (encode : OwnedRgbaFrame → Except String EncodedPreview)
    (cache : FrameCacheHierarchy) : TierOp → FrameCacheHierarchy
  | .preview opens target atLookup atInsert =>
      (navigateToFramePreview index opens target encode atLookup atInsert cache).2
  | .cached opens target =>
      { cache with ram := (navigateToFrameCached index opens target cache.ram).2 }
  | .setRamBudgetBytes budgetBytes => { cache with ram := cache.ram.setBudgetBytes budgetBytes }
  | .invalidateSource os source => cache.invalidateSource os source
  | .clear os => cache.clear os
  | .otherRam frame => { cache with ram := (cache.ram.insert frame).2 }
  | .otherDisk keeps added =>
      { cache with disk := cache.disk.map fun disk =>
          { disk with files := disk.files.filter keeps ++ added } }

/-- The decoders emit `S`, and other sessions keep what is theirs under other keys, or
the same frames and previews under the keys of the index. -/
def TierOp.Fits (S : List DecodedRgbaFrame) (index : FrameIndex)
    (encode : OwnedRgbaFrame → Except String EncodedPreview) : TierOp → Prop
  | .preview opens _ _ _ => OpensConforming S opens
  | .cached opens _ => OpensConforming S opens
  | .otherRam frame => IsKeyOf index frame.key → IsFrameAt S frame.key.frameId frame.pixels
  | .otherDisk _ added => ∀ f ∈ added, FileOf S index encode f
  | _ => True

theorem tiersOf_mapDisk (h : TiersOf S index encode cache) {ram : RamFrameCache}
    (hRam : CacheOf S index ram) {f : DiskProxyCache → DiskProxyCache}
    (hDisk : ∀ disk, DiskOf S index encode disk → DiskOf S index encode (f disk)) :
    TiersOf S index encode { cache with ram := ram, disk := cache.disk.map f } := by
  refine ⟨hRam, fun disk hSome => ?_⟩
  obtain ⟨disk', hOld, rfl⟩ := Option.map_eq_some_iff.1 hSome
  exact hDisk disk' (h.disk disk' hOld)

theorem leftBy_diskOf (os : DiskOs) {disk : DiskProxyCache} (h : DiskOf S index encode disk) :
    DiskOf S index encode (leftBy os disk []) := by
  intro f hf
  cases leftBy_files hf with
  | inl hOld => exact h f hOld
  | inr hNew => cases hNew

theorem step_tiersOf (hIndex : IndexOf S index) (cache : FrameCacheHierarchy) (op : TierOp)
    (h : TiersOf S index encode cache) (hFits : op.Fits S index encode) :
    TiersOf S index encode (TierOp.step index encode cache op) := by
  cases op with
  | preview opens target atLookup atInsert =>
      exact (navigateToFramePreview_previews hIndex hFits h target atLookup atInsert).tiers
  | cached opens target =>
      exact ⟨(navigateToFrameCached_spec hIndex hFits target h.ram).1, h.disk⟩
  | setRamBudgetBytes budgetBytes => exact ⟨holds_setBudgetBytes h.ram budgetBytes, h.disk⟩
  | otherRam frame => exact ⟨holds_insert h.ram hFits, h.disk⟩
  | invalidateSource os source =>
      apply tiersOf_mapDisk h (holds_invalidateSource h.ram source)
      intro disk hDisk
      split
      · rename_i disk' _ hOk
        unfold DiskProxyCache.invalidateSource at hOk
        obtain ⟨-, -, hOk⟩ := bind_eq_ok.1 hOk
        obtain ⟨total, -, hOk⟩ := bind_eq_ok.1 hOk
        cases hOk
        exact fun f hf => hDisk f (List.mem_filter.1 hf).1
      · exact leftBy_diskOf os hDisk
  | clear os =>
      apply tiersOf_mapDisk h holds_clear
      intro disk hDisk
      split
      · exact fun f hf => by cases hf
      · exact leftBy_diskOf os hDisk
  | otherDisk keeps added =>
      apply tiersOf_mapDisk h h.ram
      intro disk hDisk f hf
      cases List.mem_append.1 hf with
      | inl hOld => exact hDisk f (List.mem_filter.1 hOld).1
      | inr hNew => exact hFits f hNew

/-- Nothing of the index is in RAM, and the directory is empty or out of reach. -/
def Empty (index : FrameIndex) (cache : FrameCacheHierarchy) : Prop :=
  cache.ram.Holds (fun cached => ¬ IsKeyOf index cached.key) ∧
    ∀ disk, cache.disk = some disk → disk.files = []

theorem tiersOf_empty (h : Empty index cache) : TiersOf S index encode cache := by
  refine ⟨fun e he hOwn => absurd hOwn (h.1 e he), fun disk hDisk f hf => ?_⟩
  rw [h.2 disk hDisk] at hf
  cases hf

/-- After every series of calls, with whatever budgets, evictions and disk failures, on a
hierarchy that started empty: a preview that is served is the encoder's answer for the
pixels of its frame, whichever tier it came from.  Where the source has a reusable
identity, a preview is served whenever the pixels would be and the encoder takes them;
where it has none, no preview is. -/
theorem previews_exact (hIndex : IndexOf S index) {start : FrameCacheHierarchy}
    (hStart : Empty index start) {ops : List TierOp} (hOps : ∀ op ∈ ops, op.Fits S index encode)
    {opens : Opener} (hOpens : OpensConforming S opens) (target : Nat)
    (atLookup atInsert : DiskOs) :
    let cache := ops.foldl (TierOp.step index encode) start
    let preview := (navigateToFramePreview index opens target encode atLookup atInsert cache).1
    Exact S encode target preview ∧
      (index.sourceIdentity.isReuseSafe = true → ∀ cached encoded,
        (navigateToFrameCached index opens target cache.ram).1 = .ok cached →
        encode cached.pixels = .ok encoded → Answers encoded preview) ∧
      (index.sourceIdentity.isReuseSafe = false →
        preview = .error (.key .unsafeSourceIdentity)) := by
  intro cache preview
  have hTiers : TiersOf S index encode cache :=
    run_invariant (step_tiersOf hIndex) (tiersOf_empty hStart) (meets_of_forall hOps start)
  have hPreview :=
    navigateToFramePreview_previews hIndex hOpens hTiers target atLookup atInsert
  refine ⟨hPreview.exact, hPreview.answers, fun hWeak => ?_⟩
  simp [preview, navigateToFramePreview, FrameCacheKey.new, hWeak]

end Tiers

section Samples

local instance : ContentHash := constantHash

/-- A disk call that works. -/
def sampleOs : DiskOs := ⟨sampleMoment, none, fun _ => true, false⟩

def sampleEncode (pixels : OwnedRgbaFrame) : Except String EncodedPreview :=
  .ok ⟨.jpeg, [0xff, 0xd8, 0xff] ++ pixels.pixels⟩

/-- No room in RAM, so that a second preview is served by the disk. -/
def sampleTiers : FrameCacheHierarchy :=
  ⟨RamFrameCache.new 0, some ⟨1024, ⟨0, 0, 0, 0, 0, 0, 0⟩, []⟩, none⟩

theorem previews_exact_sampleTiers :
    Exact sampleSequence sampleEncode 0 (navigateToFramePreview sampleIndex sampleOpener 0
      sampleEncode sampleOs sampleOs
      ([TierOp.preview sampleOpener 0 sampleOs sampleOs].foldl
        (TierOp.step sampleIndex sampleEncode) sampleTiers)).1 := by
  have hStart : Empty sampleIndex sampleTiers := by
    refine ⟨holds_new 0, fun disk hDisk => ?_⟩
    cases hDisk
    rfl
  have hOps : ∀ op ∈ [TierOp.preview sampleOpener 0 sampleOs sampleOs],
      op.Fits sampleSequence sampleIndex sampleEncode := by
    intro op hOp
    rw [List.mem_singleton.1 hOp]
    exact sampleOpener_conforming
  exact (previews_exact sampleIndex_indexOf hStart hOps sampleOpener_conforming 0 sampleOs
    sampleOs).1

end Samples

end FrameScope.Ports.PreviewTiersLaw
