import FrameScope.Ports.Navigation

/-!
# Navigation is exact

On the complete index of `S`, every navigation that succeeds has reached the
frame at decode position `target`, whether it got there by a seek or from the
start of the stream.  Each decode function is described once, for every reader:
it says at which position of `S` the session then stands.  The seek needs that
the timeline is safe, which makes the anchor the only frame that matches the
anchor's row.
-/

namespace FrameScope.Ports.NavigationExact

open FrameScope.Ports.Core
open FrameScope.Ports.Decoder
open FrameScope.Ports.FrameIndexModel
open FrameScope.Ports.SourceBinding
open FrameScope.Ports.FrameIndexStore
open FrameScope.Ports.FrameTimeline
open FrameScope.Ports.IndexingCall
open FrameScope.Ports.CompleteIndex
open FrameScope.Ports.FrameCache
open FrameScope.Ports.ScrubPreview
open FrameScope.Ports.Navigation

/-! ## Sessions and readers -/

/-- What a reader delivers for a target is an image of the frame the session
stands at. -/
structure Shows {φ α : Type} (reader : FrameReader φ α)
    (shows : DecodedRgbaFrame → α → Prop) : Prop where
  metadata : ∀ {d e x}, d.current = some e → reader.read d e.rgba.frame = .ok x →
    reader.metadata x = e.rgba.frame
  finish : ∀ {d e x value}, d.current = some e → reader.read d e.rgba.frame = .ok x →
    reader.finish d x = .ok value → shows e.rgba value

theorem metadataReader_shows : Shows metadataReader fun rgba frame => frame = rgba.frame where
  metadata := fun _ hRead => (Except.ok.inj hRead).symm
  finish := by
    intro d e x value _ hRead hFinish
    rw [← Except.ok.inj hFinish, ← Except.ok.inj hRead]

theorem rgbaReader_shows : Shows rgbaReader fun rgba value => value = rgba where
  metadata := by
    intro d e x hCurrent hRead
    change x.frame = e.rgba.frame
    rw [snapshot_ok hCurrent hRead]
  finish := by
    intro d e x value hCurrent hRead hFinish
    rw [← Except.ok.inj hFinish]
    exact snapshot_ok hCurrent hRead

theorem targetReader_shows : Shows targetReader fun rgba value => value = rgba where
  metadata := fun _ hRead => (Except.ok.inj hRead).symm
  finish := fun hCurrent _ hFinish => snapshot_ok hCurrent hFinish

theorem previewReader_shows [NativeScaler] (maxEdge : Nat) :
    Shows (previewReader maxEdge) fun rgba value => previewOf rgba maxEdge = .ok value where
  metadata := fun _ hRead => (Except.ok.inj hRead).symm
  finish := by
    intro d e x value hCurrent _ hFinish
    change snapshotCurrentFramePreviewRgba d x maxEdge = .ok value at hFinish
    unfold snapshotCurrentFramePreviewRgba at hFinish
    rw [hCurrent] at hFinish
    dsimp only at hFinish
    split_ifs at hFinish
    unfold Emission.readRgba at hFinish
    split at hFinish
    · cases hFinish
    · exact hFinish

/-- The session stands at `q` and `x` is what the reader took there. -/
def Holding {φ α : Type} (S : List DecodedRgbaFrame) (reader : FrameReader φ α) (q : Nat) (x : φ)
    (d : VideoDecoder) : Prop :=
  StandsAt S q d ∧ ∃ e, d.current = some e ∧ reader.read d e.rgba.frame = .ok x

section Decode

variable {φ α : Type} {reader : FrameReader φ α} {shows : DecodedRgbaFrame → α → Prop}
  {S : List DecodedRgbaFrame}

theorem Holding.metadata (hShows : Shows reader shows) {q : Nat} {x : φ} {d : VideoDecoder}
    (h : Holding S reader q x d) : ∃ f, S[q]? = some f ∧ reader.metadata x = f.frame := by
  obtain ⟨⟨⟨e, hCurrent, -, hFrame⟩, -⟩, e', hCurrent', hRead⟩ := h
  rw [hCurrent, Option.some.injEq] at hCurrent'
  subst hCurrent'
  exact ⟨e.rgba, hFrame, hShows.metadata hCurrent hRead⟩

theorem Holding.finish (hShows : Shows reader shows) {q : Nat} {x : φ} {d : VideoDecoder}
    (h : Holding S reader q x d) {value : α} (hFinish : reader.finish d x = .ok value) :
    ∃ f, S[q]? = some f ∧ shows f value := by
  obtain ⟨⟨⟨e, hCurrent, -, hFrame⟩, -⟩, e', hCurrent', hRead⟩ := h
  rw [hCurrent, Option.some.injEq] at hCurrent'
  subst hCurrent'
  exact ⟨e.rgba, hFrame, hShows.finish hCurrent hRead hFinish⟩

/-- One read advances the session by one position. -/
theorem nextDecoded_spec {d d' : VideoDecoder} {p count count' : Nat} {x : φ}
    (hEmits : d.script.Emits S p) (h : nextDecoded reader d count = .ok (x, count', d')) :
    Holding S reader p x d' := by
  unfold nextDecoded at h
  split at h
  · cases h
  · cases h
  · rename_i frame d₁ hNext
    obtain ⟨hStands, e, hCurrent, hFrame⟩ := nextFrame_standsAt hEmits hNext
    split at h
    · cases h
    · rename_i y hRead
      cases h
      exact ⟨hStands, e, hCurrent, by rw [hFrame]; exact hRead⟩

/-- One round of the scan: it stops here, or goes on behind this frame. -/
theorem scanToAnchor_cases {anchorEntry : FrameIndexEntry} {rounds count count' : Nat}
    {d d' : VideoDecoder} {x : φ}
    (h : scanToAnchor reader anchorEntry rounds count d = .ok (x, count', d')) :
    ∃ y count₁ d₁, nextDecoded reader d count = .ok (y, count₁, d₁) ∧
      ((matchesIndexEntry (reader.metadata y) anchorEntry = true ∧ y = x ∧ d₁ = d') ∨
        ∃ r, rounds = r + 1 ∧ scanToAnchor reader anchorEntry r count₁ d₁ = .ok (x, count', d')) := by
  unfold scanToAnchor at h
  obtain ⟨⟨y, count₁, d₁⟩, hNext, h⟩ := bind_eq_ok.1 h
  refine ⟨y, count₁, d₁, hNext, ?_⟩
  dsimp only at h
  split_ifs at h with hMatches
  · cases h
    exact .inl ⟨hMatches, rfl, rfl⟩
  · cases rounds with
    | zero => cases h
    | succ r => exact .inr ⟨r, rfl, h⟩

/-- A scan stops at some position whose frame matches the anchor's row. -/
theorem scanToAnchor_spec (anchorEntry : FrameIndexEntry) (rounds : Nat) :
    ∀ {d d' : VideoDecoder} {p count count' : Nat} {x : φ}, d.script.Emits S p →
      scanToAnchor reader anchorEntry rounds count d = .ok (x, count', d') →
      ∃ q, Holding S reader q x d' ∧ matchesIndexEntry (reader.metadata x) anchorEntry = true := by
  induction rounds with
  | zero =>
      intro d d' p count count' x hEmits h
      obtain ⟨y, count₁, d₁, hNext, ⟨hMatches, rfl, rfl⟩ | ⟨r, hRounds, -⟩⟩ :=
        scanToAnchor_cases h
      · exact ⟨p, nextDecoded_spec hEmits hNext, hMatches⟩
      · cases hRounds
  | succ rounds ih =>
      intro d d' p count count' x hEmits h
      obtain ⟨y, count₁, d₁, hNext, ⟨hMatches, rfl, rfl⟩ | ⟨r, hRounds, h⟩⟩ :=
        scanToAnchor_cases h
      · exact ⟨p, nextDecoded_spec hEmits hNext, hMatches⟩
      · cases hRounds
        exact ih (nextDecoded_spec hEmits hNext).1.onward h

theorem nextFrameId_ok {current next : Nat} (h : nextFrameId current = .ok next) :
    next = current + 1 := by
  unfold nextFrameId checkedAddU64 at h
  split_ifs at h
  exact (Except.ok.inj h).symm

variable {index : FrameIndex}

/-- One round of the common loop: the target is reached, or one more frame is
read. -/
theorem decodeOnward_cases {target rounds current count count' : Nat} {x : φ} {value : α}
    {d d' : VideoDecoder}
    (h : decodeOnward index reader target rounds current x count d = .ok (value, count', d')) :
    (current = target ∧ reader.finish d x = .ok value ∧ d = d') ∨
    ∃ r y count₁ d₁, rounds = r + 1 ∧ nextDecoded reader d count = .ok (y, count₁, d₁) ∧
      decodeOnward index reader target r (current + 1) y count₁ d₁ = .ok (value, count', d') := by
  unfold decodeOnward at h
  obtain ⟨-, -, h⟩ := bind_eq_ok.1 h
  dsimp only at h
  split_ifs at h with hReached
  · obtain ⟨value', hFinish, h⟩ := bind_eq_ok.1 h
    cases h
    exact .inl ⟨hReached, mapError_eq_ok.1 hFinish, rfl⟩
  · obtain ⟨next, hId, h⟩ := bind_eq_ok.1 h
    obtain ⟨⟨y, count₁, d₁⟩, hNext, h⟩ := bind_eq_ok.1 h
    rw [nextFrameId_ok hId] at h
    cases rounds with
    | zero => cases h
    | succ r => exact .inr ⟨r, y, count₁, d₁, rfl, hNext, h⟩

/-- The common loop: a session that stands where it should ends at the target. -/
theorem decodeOnward_spec (hShows : Shows reader shows) {target : Nat} (rounds : Nat) :
    ∀ {d d' : VideoDecoder} {current count count' : Nat} {x : φ} {value : α},
      Holding S reader current x d →
      decodeOnward index reader target rounds current x count d = .ok (value, count', d') →
      StandsAt S target d' ∧ ∃ f, S[target]? = some f ∧ shows f value := by
  induction rounds with
  | zero =>
      intro d d' current count count' x value hHolding h
      rcases decodeOnward_cases h with ⟨rfl, hFinish, rfl⟩ | ⟨r, y, count₁, d₁, hRounds, -⟩
      · exact ⟨hHolding.1, hHolding.finish hShows hFinish⟩
      · cases hRounds
  | succ rounds ih =>
      intro d d' current count count' x value hHolding h
      rcases decodeOnward_cases h with
        ⟨rfl, hFinish, rfl⟩ | ⟨r, y, count₁, d₁, hRounds, hNext, h⟩
      · exact ⟨hHolding.1, hHolding.finish hShows hFinish⟩
      · cases hRounds
        exact ih (nextDecoded_spec hHolding.1.onward hNext) h

/-- Decoding from a session that emits `S` from `current` on. -/
theorem decodeFrom_spec (hShows : Shows reader shows) {d d' : VideoDecoder}
    {current target count : Nat} {value : α} (hEmits : d.script.Emits S current)
    (h : decodeFrom index reader d current target = .ok (value, count, d')) :
    StandsAt S target d' ∧ ∃ f, S[target]? = some f ∧ shows f value := by
  obtain ⟨⟨x, count₁, d₁⟩, hNext, h⟩ := bind_eq_ok.1 h
  exact decodeOnward_spec hShows _ (nextDecoded_spec hEmits hNext) h

/-- Decoding forward from a session that stands at `current`. -/
theorem decodeForwardFromCursor_spec (hShows : Shows reader shows) {d d' : VideoDecoder}
    {current target count : Nat} {value : α} (hStands : StandsAt S current d)
    (h : decodeForwardFromCursor index reader d current target = .ok (value, count, d')) :
    StandsAt S target d' ∧ ∃ f, S[target]? = some f ∧ shows f value := by
  unfold decodeForwardFromCursor at h
  split_ifs at h
  obtain ⟨expected, hId, h⟩ := bind_eq_ok.1 h
  rw [nextFrameId_ok hId] at h
  exact decodeFrom_spec hShows hStands.onward h

/-- A checked session is one the factory opened. -/
theorem openCheckedDecoder_ok {opens : Opener} {n : Nat} {d : VideoDecoder}
    (h : openCheckedDecoder index opens n = .ok d) : opens n = .ok d := by
  obtain ⟨decoder, hOpen, h⟩ := bind_eq_ok.1 h
  obtain ⟨identity, -, h⟩ := bind_eq_ok.1 h
  split_ifs at h
  cases h
  exact mapError_eq_ok.1 hOpen

variable [ContentHash]

theorem requireEntry_ok (hIndex : IndexOf S index) {i : Nat} {missing : NavigationError}
    {row : FrameIndexEntry} (h : requireEntry index i missing = .ok row) :
    (timeline S)[i]? = some row := by
  obtain ⟨found, hEntry, h⟩ := bind_eq_ok.1 h
  cases found with
  | none => cases h
  | some entry =>
      cases h
      exact hIndex.entry_some (mapError_eq_ok.1 hEntry)

/-- **Decoding after a seek.**  Wherever the session landed, the scan can only
stop at the anchor, because the timeline is safe to seek. -/
theorem decodeFromSeek_spec (hShows : Shows reader shows) (hIndex : IndexOf S index)
    (hSafe : seekSafetyOf (timeline S) = .unambiguous) {d d' : VideoDecoder}
    {p anchor target count : Nat} {value : α} {key : FrameIndexEntry}
    (hKey : (timeline S)[anchor]? = some key) (hClean : key.isClean = true)
    (hEmits : d.script.Emits S p)
    (h : decodeFromSeek index reader d anchor target = .ok (value, count, d')) :
    StandsAt S target d' ∧ ∃ f, S[target]? = some f ∧ shows f value := by
  obtain ⟨anchorEntry, hEntry, h⟩ := bind_eq_ok.1 h
  obtain ⟨⟨x, count₁, d₁⟩, hScan, h⟩ := bind_eq_ok.1 h
  have hRow := requireEntry_ok hIndex hEntry
  rw [hKey, Option.some.injEq] at hRow
  rw [← hRow] at hScan
  obtain ⟨q, hHolding, hMatches⟩ := scanToAnchor_spec key _ hEmits hScan
  obtain ⟨f, hFrame, hMetadata⟩ := hHolding.metadata hShows
  rw [hMetadata] at hMatches
  have hAligned : q = anchor := aligned_position hSafe hKey hClean hFrame hMatches
  rw [hAligned] at hHolding
  exact decodeOnward_spec hShows _ hHolding h

/-- **One navigation.**  Whichever path it took, a navigation that succeeds has
reached the frame at the position of the target and stands there. -/
theorem navigateWith_spec (hShows : Shows reader shows) (hIndex : IndexOf S index)
    {opens : Opener} (hOpens : OpensConforming S opens) {target : Nat} {reached : Navigated α}
    (h : navigateWith index reader opens target = .ok reached) :
    StandsAt S target reached.decoder ∧ ∃ f, S[target]? = some f ∧ shows f reached.value := by
  have hStart : ∀ {d : VideoDecoder} {n : Nat} {used fell : Bool} {reached : Navigated α},
      openCheckedDecoder index opens n = .ok d →
      navigateFromStart index reader d target used fell = .ok reached →
      StandsAt S target reached.decoder ∧ ∃ f, S[target]? = some f ∧ shows f reached.value := by
    intro d n used fell reached hOpen h
    obtain ⟨⟨value, count, d'⟩, hDecode, h⟩ := bind_eq_ok.1 h
    cases h
    exact decodeFrom_spec hShows (hOpens n d (openCheckedDecoder_ok hOpen)).fresh hDecode
  unfold navigateWith at h
  obtain ⟨-, -, h⟩ := bind_eq_ok.1 h
  obtain ⟨row, hRow, h⟩ := bind_eq_ok.1 h
  obtain ⟨safety, hSafety, h⟩ := bind_eq_ok.1 h
  obtain ⟨d, hOpen, h⟩ := bind_eq_ok.1 h
  rw [mapError_eq_ok, hIndex.timestampSeekSafety, Except.ok.injEq] at hSafety
  replace hRow := requireEntry_ok hIndex hRow
  split at h
  · rename_i anchorId us hSeek
    obtain ⟨d₁, hSought, h⟩ := bind_eq_ok.1 h
    split_ifs at hSeek with hPermits
    · have hSafe : seekSafetyOf (timeline S) = .unambiguous := by
        rw [hSafety]
        cases safety with
        | unambiguous => rfl
        | ambiguous => cases hPermits
      obtain ⟨t, hAnchor⟩ := anchorSeek_some hSeek
      obtain ⟨-, key, hKey, hClean, -⟩ := anchor_spec hIndex.shaped hRow hAnchor
      obtain ⟨p, hEmits⟩ :=
        seekToTimestampUs_ok (hOpens 0 d (openCheckedDecoder_ok hOpen)) (mapError_eq_ok.1 hSought)
      split at h
      · rename_i value count d' hDecode
        cases h
        exact decodeFromSeek_spec hShows hIndex hSafe hKey hClean hEmits hDecode
      · obtain ⟨fallback, hReopen, h⟩ := bind_eq_ok.1 h
        exact hStart hReopen h
      · obtain ⟨fallback, hReopen, h⟩ := bind_eq_ok.1 h
        exact hStart hReopen h
      · cases h
  · exact hStart hOpen h

end Decode

end FrameScope.Ports.NavigationExact
