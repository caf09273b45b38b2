import FrameScope.Ports.NavigationExact

/-!
# Series of navigation requests

Requests on one index share a RAM cache and a retained cursor.  The invariant
has two halves: a frame cached under a key of the index is the whole frame at
the position of the key, and a retained cursor stands at the position it
records.  Every request keeps both, whatever its targets, its limits and the
failures of its decoders, and so does everything else that happens to a cache
that other sources share.
-/

namespace FrameScope.Ports.NavigationRuns

open FrameScope.Verified.Runs
open FrameScope.Ports.Core
open FrameScope.Ports.Decoder
open FrameScope.Ports.FrameIndexModel
open FrameScope.Ports.SourceBinding
open FrameScope.Ports.FrameIndexStore
open FrameScope.Ports.FrameTimeline
open FrameScope.Ports.FrameIndexState
open FrameScope.Ports.IndexingCall
open FrameScope.Ports.IndexingRuns
open FrameScope.Ports.CompleteIndex
open FrameScope.Ports.FrameCache
open FrameScope.Ports.ScrubPreview
open FrameScope.Ports.Navigation
open FrameScope.Ports.NavigationExact

/-- A preview made from the frame at decode position `target`. -/
def IsPreviewAt [NativeScaler] (S : List DecodedRgbaFrame) (target maxEdge : Nat)
    (pixels : OwnedRgbaFrame) : Prop :=
  ∃ f preview, S[target]? = some f ∧ previewOf f maxEdge = .ok preview ∧
    ownedPreview preview = .ok pixels

/-- The cursor stands at the position it records. -/
def CursorAt (S : List DecodedRgbaFrame) (cursor : Option TargetRgbaNavigationCursor) : Prop :=
  ∀ active, cursor = some active → StandsAt S active.frameId active.decoder

theorem CursorAt.none {S : List DecodedRgbaFrame} : CursorAt S none :=
  fun _ h => by cases h

theorem CursorAt.filter {S : List DecodedRgbaFrame}
    {cursor : Option TargetRgbaNavigationCursor} (h : CursorAt S cursor)
    (keep : TargetRgbaNavigationCursor → Bool) : CursorAt S (cursor.filter keep) := by
  intro active hActive
  exact h active (Option.filter_eq_some_iff.1 hActive).1

section Runs

variable [ContentHash] {S : List DecodedRgbaFrame} {index : FrameIndex}

/-- A cache key of a frame of the index. -/
def IsKeyOf (index : FrameIndex) (key : FrameCacheKey) : Prop :=
  key.sourceKey = ContentHash.stableKey index.sourceIdentity ∧
    key.streamIndex = index.streamIdentity.streamIndex

/-- What the cache holds under keys of the index are the frames of `S`. -/
def CacheOf (S : List DecodedRgbaFrame) (index : FrameIndex) (cache : RamFrameCache) : Prop :=
  cache.Holds fun cached => IsKeyOf index cached.key → IsFrameAt S cached.key.frameId cached.pixels

/-! ## One request -/

theorem prepare_key {target : Nat} {entry : FrameIndexEntry} {key : Option FrameCacheKey}
    (h : prepare index target = .ok (entry, key)) :
    ∀ k, key = some k → IsKeyOf index k ∧ k.frameId = target := by
  unfold prepare at h
  obtain ⟨-, -, h⟩ := bind_eq_ok.1 h
  obtain ⟨row, -, h⟩ := bind_eq_ok.1 h
  unfold FrameCacheKey.new at h
  split_ifs at h
  · cases h
    intro k hk
    cases hk
    exact ⟨⟨rfl, rfl⟩, rfl⟩
  · cases h
    intro k hk
    cases hk

/-- A RAM hit is the frame asked for. -/
theorem lookupFull_spec {cache cache' : RamFrameCache} {target : Nat}
    {key : Option FrameCacheKey} {found : Option CachedFrame} (h : CacheOf S index cache)
    (hKey : ∀ k, key = some k → IsKeyOf index k ∧ k.frameId = target)
    (hLookup : lookupFull cache key = (found, cache')) :
    CacheOf S index cache' ∧
      ∀ cached, found = some cached → IsFrameAt S target cached.pixels := by
  cases key with
  | none =>
      cases hLookup
      exact ⟨h, fun _ hFound => by cases hFound⟩
  | some k =>
      obtain ⟨hOwn, hId⟩ := hKey k rfl
      obtain ⟨hHolds, hHit⟩ := holds_get h k
      change cache.get k = (found, cache') at hLookup
      rw [hLookup] at hHolds hHit
      refine ⟨hHolds, ?_⟩
      intro cached hFound
      obtain ⟨hCachedKey, hFrame⟩ := hHit cached hFound
      rw [hCachedKey, hId] at hFrame
      exact hFrame hOwn

/-- What a decode offers to the cache is the frame that was decoded. -/
theorem decodedResult_spec {cache : RamFrameCache} {target : Nat} (entry : FrameIndexEntry)
    {key : Option FrameCacheKey} {reached : Navigated DecodedRgbaFrame}
    (h : CacheOf S index cache) (hKey : ∀ k, key = some k → IsKeyOf index k ∧ k.frameId = target)
    (hReached : ∃ f, S[target]? = some f ∧ reached.value = f) :
    CacheOf S index (decodedResult target entry key reached cache).2 ∧
      ∀ result, (decodedResult target entry key reached cache).1 = .ok result →
        result.frameId = target ∧ IsFrameAt S target result.pixels := by
  obtain ⟨f, hFrame, rfl⟩ := hReached
  unfold decodedResult
  cases hOwned : ownedRgba reached.value with
  | error error => exact ⟨h, fun _ hOk => by cases hOk⟩
  | ok pixels =>
      have hPixels : IsFrameAt S target pixels := ⟨_, hFrame, hOwned⟩
      constructor
      · cases key with
        | none => exact h
        | some k =>
            refine holds_insert h ?_
            intro _
            change IsFrameAt S k.frameId pixels
            rw [(hKey k rfl).2]
            exact hPixels
      · intro result hOk
        cases hOk
        exact ⟨rfl, hPixels⟩

/-- Navigation from the cursor reaches the target and leaves the cursor there. -/
theorem navigateFromCursor_spec {φ α : Type} {reader : FrameReader φ α}
    {shows : DecodedRgbaFrame → α → Prop} (hShows : Shows reader shows)
    (hIndex : IndexOf S index) {opens : Opener} (hOpens : OpensConforming S opens) (target : Nat)
    {cursor : Option TargetRgbaNavigationCursor} (hCursor : CursorAt S cursor) :
    CursorAt S (navigateFromCursor index reader opens target cursor).2 ∧
      ∀ reached, (navigateFromCursor index reader opens target cursor).1 = .ok reached →
        ∃ f, S[target]? = some f ∧ shows f reached.value := by
  have hFresh : CursorAt S (navigateAndRetain index reader opens target).2 ∧
      ∀ reached, (navigateAndRetain index reader opens target).1 = .ok reached →
        ∃ f, S[target]? = some f ∧ shows f reached.value := by
    unfold navigateAndRetain
    cases hNavigate : navigateWith index reader opens target with
    | error error => exact ⟨CursorAt.none, fun _ hOk => by cases hOk⟩
    | ok reached =>
        obtain ⟨hStands, hValue⟩ := navigateWith_spec hShows hIndex hOpens hNavigate
        constructor
        · intro active hActive
          cases hActive
          exact hStands
        · intro reached' hOk
          cases hOk
          exact hValue
  unfold navigateFromCursor
  cases cursor with
  | none => exact hFresh
  | some active =>
      dsimp only
      split
      · rename_i value count d hDecode
        obtain ⟨hStands, hValue⟩ :=
          decodeForwardFromCursor_spec hShows (hCursor active rfl) hDecode
        constructor
        · intro active' hActive
          cases hActive
          exact hStands
        · intro reached hOk
          cases hOk
          exact hValue
      · exact hFresh
      · exact hFresh
      · exact ⟨CursorAt.none, fun _ hOk => by cases hOk⟩

/-- `navigate_to_frame_cached`, from a cache of the index. -/
theorem navigateToFrameCached_spec (hIndex : IndexOf S index) {opens : Opener}
    (hOpens : OpensConforming S opens) (target : Nat) {cache : RamFrameCache}
    (hCache : CacheOf S index cache) :
    CacheOf S index (navigateToFrameCached index opens target cache).2 ∧
      ∀ result, (navigateToFrameCached index opens target cache).1 = .ok result →
        result.frameId = target ∧ IsFrameAt S target result.pixels := by
  unfold navigateToFrameCached
  split
  · exact ⟨hCache, fun _ hOk => by cases hOk⟩
  · rename_i entry key hPrepare
    have hKey := prepare_key hPrepare
    split
    · rename_i cached cache' hLookup
      obtain ⟨hCache', hHit⟩ := lookupFull_spec hCache hKey hLookup
      refine ⟨hCache', ?_⟩
      intro result hOk
      cases hOk
      exact ⟨rfl, hHit cached rfl⟩
    · rename_i cache' hLookup
      obtain ⟨hCache', -⟩ := lookupFull_spec hCache hKey hLookup
      split
      · exact ⟨hCache', fun _ hOk => by cases hOk⟩
      · rename_i reached hNavigate
        obtain ⟨-, hValue⟩ := navigateWith_spec rgbaReader_shows hIndex hOpens hNavigate
        exact decodedResult_spec entry hCache' hKey hValue

/-- What the shared cache and the retained cursor keep. -/
structure Consistent (S : List DecodedRgbaFrame) (index : FrameIndex)
    (st : NavigationState) : Prop where
  cache : CacheOf S index st.cache
  cursor : CursorAt S st.cursor

/-- `navigate_to_frame_cached_target_only_with_cursor`. -/
theorem navigateTargetOnly_spec (hIndex : IndexOf S index) {opens : Opener}
    (hOpens : OpensConforming S opens) (target maxForward : Nat) {st : NavigationState}
    (h : Consistent S index st) :
    Consistent S index
        (navigateToFrameCachedTargetOnlyWithCursor index opens target maxForward st).2 ∧
      ∀ result,
        (navigateToFrameCachedTargetOnlyWithCursor index opens target maxForward st).1 =
          .ok result →
        result.frameId = target ∧ IsFrameAt S target result.pixels := by
  unfold navigateToFrameCachedTargetOnlyWithCursor
  split
  · exact ⟨h, fun _ hOk => by cases hOk⟩
  · rename_i entry key hPrepare
    have hKey := prepare_key hPrepare
    have hCursor := h.cursor.filter (·.canContinueTo target maxForward)
    dsimp only
    split
    · rename_i cached cache' hLookup
      obtain ⟨hCache', hHit⟩ := lookupFull_spec h.cache hKey hLookup
      refine ⟨⟨hCache', hCursor⟩, ?_⟩
      intro result hOk
      cases hOk
      exact ⟨rfl, hHit cached rfl⟩
    · rename_i cache' hLookup
      obtain ⟨hCache', -⟩ := lookupFull_spec h.cache hKey hLookup
      have hNavigate := navigateFromCursor_spec targetReader_shows hIndex hOpens target hCursor
      split
      · rename_i error cursor' hFailed
        rw [hFailed] at hNavigate
        exact ⟨⟨hCache', hNavigate.1⟩, fun _ hOk => by cases hOk⟩
      · rename_i reached cursor' hReached
        rw [hReached] at hNavigate
        obtain ⟨hCache'', hResult⟩ :=
          decodedResult_spec entry hCache' hKey (hNavigate.2 reached rfl)
        exact ⟨⟨hCache'', hNavigate.1⟩, hResult⟩

/-- `navigate_to_frame_cached_target_only`, which keeps no cursor. -/
theorem navigateTargetOnly_cache (hIndex : IndexOf S index) {opens : Opener}
    (hOpens : OpensConforming S opens) (target : Nat) {cache : RamFrameCache}
    (hCache : CacheOf S index cache) :
    CacheOf S index (navigateToFrameCachedTargetOnly index opens target cache).2 ∧
      ∀ result, (navigateToFrameCachedTargetOnly index opens target cache).1 = .ok result →
        result.frameId = target ∧ IsFrameAt S target result.pixels := by
  have hStart : Consistent S index ⟨cache, none⟩ := ⟨hCache, CursorAt.none⟩
  obtain ⟨hState, hResult⟩ := navigateTargetOnly_spec hIndex hOpens target 0 hStart
  exact ⟨hState.cache, hResult⟩

/-- `navigate_to_frame_bounded_preview_with_cursor`. -/
theorem navigatePreview_spec [NativeScaler] (hIndex : IndexOf S index) {opens : Opener}
    (hOpens : OpensConforming S opens) (target maxForward maxEdge : Nat)
    {cursor : Option TargetRgbaNavigationCursor} (h : CursorAt S cursor) :
    CursorAt S (navigateToFrameBoundedPreviewWithCursor index opens target maxForward maxEdge
        cursor).2 ∧
      ∀ result, (navigateToFrameBoundedPreviewWithCursor index opens target maxForward maxEdge
          cursor).1 = .ok result →
        result.frameId = target ∧ IsPreviewAt S target maxEdge result.pixels := by
  unfold navigateToFrameBoundedPreviewWithCursor
  dsimp only
  split
  · exact ⟨h, fun _ hOk => by cases hOk⟩
  · have hCursor := h.filter (·.canContinueTo target maxForward)
    have hNavigate :=
      navigateFromCursor_spec (previewReader_shows maxEdge) hIndex hOpens target hCursor
    split
    · rename_i error cursor' hFailed
      rw [hFailed] at hNavigate
      exact ⟨hNavigate.1, fun _ hOk => by cases hOk⟩
    · rename_i reached cursor' hReached
      rw [hReached] at hNavigate
      obtain ⟨f, hFrame, hPreview⟩ := hNavigate.2 reached rfl
      split
      · exact ⟨hNavigate.1, fun _ hOk => by cases hOk⟩
      · rename_i pixels hOwned
        refine ⟨hNavigate.1, ?_⟩
        intro result hOk
        cases hOk
        exact ⟨rfl, f, reached.value, hFrame, hPreview, hOwned⟩

/-! ## Series of requests -/

/-- Nothing of the index is cached yet, and there is no cursor. -/
def Untouched (index : FrameIndex) (st : NavigationState) : Prop :=
  st.cache.Holds (fun cached => ¬ IsKeyOf index cached.key) ∧ st.cursor = none

theorem consistent_of_untouched {st : NavigationState} (h : Untouched index st) :
    Consistent S index st where
  cache := fun e he hOwn => absurd hOwn (h.1 e he)
  cursor := by rw [h.2]; exact CursorAt.none

/-- A request, or what else may happen to the cache. -/
inductive Request where
  | cached (opens : Opener) (target : Nat)
  | targetOnly (opens : Opener) (target : Nat)
  | full (opens : Opener) (target maxForward : Nat)
  | preview (opens : Opener) (target maxForward maxEdge : Nat)
  | setBudgetBytes (budgetBytes : Nat)
  | invalidateSource (source : SourceIdentity)
  | clear
  | insert (frame : CachedFrame)

variable [NativeScaler]

/-- The cache and the cursor that a request leaves. -/
def Request.step (index : FrameIndex) (st : NavigationState) : Request → NavigationState
  | .cached opens target =>
      { st with cache := (navigateToFrameCached index opens target st.cache).2 }
  | .targetOnly opens target =>
      { st with cache := (navigateToFrameCachedTargetOnly index opens target st.cache).2 }
  | .full opens target maxForward =>
      (navigateToFrameCachedTargetOnlyWithCursor index opens target maxForward st).2
  | .preview opens target maxForward maxEdge =>
      { st with cursor := (navigateToFrameBoundedPreviewWithCursor index opens target maxForward
          maxEdge st.cursor).2 }
  | .setBudgetBytes budgetBytes => { st with cache := st.cache.setBudgetBytes budgetBytes }
  | .invalidateSource source => { st with cache := st.cache.invalidateSource source }
  | .clear => { st with cache := st.cache.clear }
  | .insert frame => { st with cache := (st.cache.insert frame).2 }

/-- The decoders of a request emit `S`, and an insertion from elsewhere is for
another source or stream. -/
def Request.Fits (S : List DecodedRgbaFrame) (index : FrameIndex) : Request → Prop
  | .cached opens _ => OpensConforming S opens
  | .targetOnly opens _ => OpensConforming S opens
  | .full opens _ _ => OpensConforming S opens
  | .preview opens _ _ _ => OpensConforming S opens
  | .insert frame => ¬ IsKeyOf index frame.key
  | _ => True

/-- **One step of a series.** -/
theorem step_consistent (hIndex : IndexOf S index) (st : NavigationState) (request : Request)
    (h : Consistent S index st) (hFits : request.Fits S index) :
    Consistent S index (request.step index st) := by
  cases request with
  | cached opens target =>
      exact ⟨(navigateToFrameCached_spec hIndex hFits target h.cache).1, h.cursor⟩
  | targetOnly opens target =>
      exact ⟨(navigateTargetOnly_cache hIndex hFits target h.cache).1, h.cursor⟩
  | full opens target maxForward =>
      exact (navigateTargetOnly_spec hIndex hFits target maxForward h).1
  | preview opens target maxForward maxEdge =>
      exact ⟨h.cache, (navigatePreview_spec hIndex hFits target maxForward maxEdge h.cursor).1⟩
  | setBudgetBytes budgetBytes => exact ⟨holds_setBudgetBytes h.cache budgetBytes, h.cursor⟩
  | invalidateSource source => exact ⟨holds_invalidateSource h.cache source, h.cursor⟩
  | clear => exact ⟨holds_clear, h.cursor⟩
  | insert frame => exact ⟨holds_insert h.cache (fun hOwn => absurd hOwn hFits), h.cursor⟩

/-- **The whole series.** -/
theorem run_consistent (hIndex : IndexOf S index) {start : NavigationState}
    (hStart : Untouched index start) {history : List Request}
    (hHistory : ∀ request ∈ history, request.Fits S index) :
    Consistent S index (history.foldl (Request.step index) start) := by
  exact run_invariant (fun st request h hFits => step_consistent hIndex st request h hFits)
    (consistent_of_untouched hStart) (meets_of_forall hHistory start)

/-- Every plain decode of the target from the start of the stream that succeeds
returns a value with the property `same`. -/
def PlainDecode {φ α : Type} (S : List DecodedRgbaFrame) (index : FrameIndex)
    (reader : FrameReader φ α) (target : Nat) (same : α → Prop) : Prop :=
  ∀ decoder value count decoder', Conforms S decoder →
    decodeFromStart index reader decoder target = .ok (value, count, decoder') → same value

/-- **Navigation is exact.**  After any series of requests, a navigation that
succeeds returns the frame at decode position `target`, the one that a plain
decode from the start returns; for `navigate_to_frame` the session it used
stands at that position. -/
theorem navigation_exact (hIndex : IndexOf S index) {start : NavigationState}
    (hStart : Untouched index start) {history : List Request}
    (hHistory : ∀ request ∈ history, request.Fits S index)
    {opens : Opener} (hOpens : OpensConforming S opens) (target : Nat) :
    let st := history.foldl (Request.step index) start
    (∀ result, navigateToFrame index opens target = .ok result →
      result.frameId = target ∧
      (∃ f, S[target]? = some f ∧ result.frame = f.frame) ∧
      (∃ reached, navigateWith index metadataReader opens target = .ok reached ∧
        StandsAt S target reached.decoder) ∧
      PlainDecode S index metadataReader target (· = result.frame)) ∧
    (∀ result,
      ((navigateToFrameCached index opens target st.cache).1 = .ok result ∨
        (navigateToFrameCachedTargetOnly index opens target st.cache).1 = .ok result ∨
        ∃ maxForward, (navigateToFrameCachedTargetOnlyWithCursor index opens target
          maxForward st).1 = .ok result) →
      result.frameId = target ∧ IsFrameAt S target result.pixels ∧
      PlainDecode S index rgbaReader target (fun rgba => ownedRgba rgba = .ok result.pixels)) := by
  intro st
  have hState : Consistent S index st := run_consistent hIndex hStart hHistory
  constructor
  · intro result hOk
    unfold navigateToFrame at hOk
    cases hNavigate : navigateWith index metadataReader opens target with
    | error error =>
        rw [hNavigate] at hOk
        cases hOk
    | ok reached =>
        rw [hNavigate] at hOk
        cases hOk
        obtain ⟨hStands, f, hFrame, hValue⟩ :=
          navigateWith_spec metadataReader_shows hIndex hOpens hNavigate
        refine ⟨rfl, ⟨f, hFrame, hValue⟩, ⟨reached, rfl, hStands⟩, ?_⟩
        intro decoder value count decoder' hConforms hDecode
        obtain ⟨-, f', hFrame', hPlain⟩ :=
          decodeFrom_spec metadataReader_shows hConforms.fresh hDecode
        rw [hFrame, Option.some.injEq] at hFrame'
        change value = reached.value
        rw [hPlain, hValue, hFrame']
  · intro result hOk
    have hExact : result.frameId = target ∧ IsFrameAt S target result.pixels := by
      rcases hOk with hOk | hOk | ⟨maxForward, hOk⟩
      · exact (navigateToFrameCached_spec hIndex hOpens target hState.cache).2 result hOk
      · exact (navigateTargetOnly_cache hIndex hOpens target hState.cache).2 result hOk
      · exact (navigateTargetOnly_spec hIndex hOpens target maxForward hState).2 result hOk
    refine ⟨hExact.1, hExact.2, ?_⟩
    obtain ⟨f, hFrame, hOwned⟩ := hExact.2
    intro decoder value count decoder' hConforms hDecode
    obtain ⟨-, f', hFrame', hPlain⟩ := decodeFrom_spec rgbaReader_shows hConforms.fresh hDecode
    rw [hFrame, Option.some.injEq] at hFrame'
    rw [hPlain, ← hFrame', hOwned]

/-- **Retained-cursor navigation never drifts.**  After any series of requests
that share a cursor and a cache, every further request that succeeds returns
the frame at its target (a preview, one made from it), a retained cursor
records the position of the last frame its session emitted, and every frame
cached for the index has the full size of its source frame. -/
theorem cursor_never_drifts (hIndex : IndexOf S index) {start : NavigationState}
    (hStart : Untouched index start) {history : List Request}
    (hHistory : ∀ request ∈ history, request.Fits S index) :
    let st := history.foldl (Request.step index) start
    (∀ opens target maxForward, OpensConforming S opens → ∀ result,
      (navigateToFrameCachedTargetOnlyWithCursor index opens target maxForward st).1 =
        .ok result → IsFrameAt S target result.pixels) ∧
    (∀ opens target maxForward maxEdge, OpensConforming S opens → ∀ result,
      (navigateToFrameBoundedPreviewWithCursor index opens target maxForward maxEdge
        st.cursor).1 = .ok result → IsPreviewAt S target maxEdge result.pixels) ∧
    (∀ cursor, st.cursor = some cursor →
      ∃ e, cursor.decoder.current = some e ∧ e.position = cursor.frameId ∧
        S[cursor.frameId]? = some e.rgba) ∧
    (∀ entry ∈ st.cache.entries, IsKeyOf index entry.frame.key →
      ∃ f, S[entry.frame.key.frameId]? = some f ∧ ownedRgba f = .ok entry.frame.pixels ∧
        entry.frame.pixels.width = f.frame.width ∧
        entry.frame.pixels.height = f.frame.height) := by
  intro st
  have hState : Consistent S index st := run_consistent hIndex hStart hHistory
  refine ⟨?_, ?_, ?_, ?_⟩
  · intro opens target maxForward hOpens result hOk
    exact ((navigateTargetOnly_spec hIndex hOpens target maxForward hState).2 result hOk).2
  · intro opens target maxForward maxEdge hOpens result hOk
    exact ((navigatePreview_spec hIndex hOpens target maxForward maxEdge hState.cursor).2
      result hOk).2
  · intro cursor hCursor
    exact (hState.cursor cursor hCursor).current
  · intro entry hEntry hOwn
    obtain ⟨f, hFrame, hOwned⟩ := hState.cache entry hEntry hOwn
    obtain ⟨hWidth, hHeight, -⟩ := OwnedRgbaFrame.new_ok hOwned
    exact ⟨f, hFrame, hOwned, hWidth, hHeight⟩

end Runs

section Samples

local instance : ContentHash := constantHash

/-- A scaler that fills the target with black. -/
local instance : NativeScaler where
  resize := fun _ width height =>
    .ok ⟨width, height, 4 * width, List.replicate (4 * width * height) 0⟩

/-- A full request for frame 0, then a preview of frame 1 by its cursor. -/
def sampleHistory : List Request :=
  [.full sampleOpener 0 4, .preview sampleOpener 1 4 64]

def sampleStart : NavigationState := ⟨RamFrameCache.new 64, none⟩

private theorem sampleHistory_fits :
    ∀ request ∈ sampleHistory, request.Fits sampleSequence sampleIndex := by
  intro request hRequest
  simp only [sampleHistory, List.mem_cons, List.not_mem_nil, or_false] at hRequest
  rcases hRequest with rfl | rfl
  · exact sampleOpener_conforming
  · exact sampleOpener_conforming

private theorem sampleStart_untouched : Untouched sampleIndex sampleStart :=
  ⟨holds_new 64, rfl⟩

theorem navigation_exact_sample :
    (∃ result, navigateToFrame sampleIndex sampleOpener 1 = .ok result ∧
      result.frame = (sampleFrame 1 20).frame) ∧
    ∃ result, (navigateToFrameCached sampleIndex sampleOpener 0
      (sampleHistory.foldl (Request.step sampleIndex) sampleStart).cache).1 = .ok result ∧
      result.source = .ram ∧ IsFrameAt sampleSequence 0 result.pixels := by
  obtain ⟨result, hOk⟩ : ∃ result, navigateToFrame sampleIndex sampleOpener 1 = .ok result :=
    ⟨_, rfl⟩
  obtain ⟨hit, hHit, hRam⟩ : ∃ result, (navigateToFrameCached sampleIndex sampleOpener 0
      (sampleHistory.foldl (Request.step sampleIndex) sampleStart).cache).1 = .ok result ∧
      result.source = .ram := ⟨_, rfl, rfl⟩
  have hOne := (navigation_exact sampleIndex_indexOf sampleStart_untouched sampleHistory_fits
    sampleOpener_conforming 1).1 result hOk
  have hZero := (navigation_exact sampleIndex_indexOf sampleStart_untouched sampleHistory_fits
    sampleOpener_conforming 0).2 hit (.inl hHit)
  obtain ⟨f, hFrame, hEq⟩ := hOne.2.1
  cases hFrame
  exact ⟨⟨result, hOk, hEq⟩, hit, hHit, hRam, hZero.2.1⟩

theorem cursor_never_drifts_sample :
    ∃ cursor, (sampleHistory.foldl (Request.step sampleIndex) sampleStart).cursor = some cursor ∧
      cursor.frameId = 1 ∧
      ∃ e, cursor.decoder.current = some e ∧ e.position = 1 ∧
        sampleSequence[1]? = some e.rgba := by
  obtain ⟨cursor, hCursor, hId⟩ : ∃ cursor,
      (sampleHistory.foldl (Request.step sampleIndex) sampleStart).cursor = some cursor ∧
        cursor.frameId = 1 := ⟨_, rfl, rfl⟩
  have hStands := (cursor_never_drifts sampleIndex_indexOf sampleStart_untouched
    sampleHistory_fits).2.2.1 cursor hCursor
  rw [hId] at hStands
  exact ⟨cursor, hCursor, hId, hStands⟩

end Samples

end FrameScope.Ports.NavigationRuns
