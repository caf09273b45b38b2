import FrameScope.Ports.CompleteIndex
import FrameScope.Ports.ScrubPreview

/-!
# Indexed navigation

Port of `navigation.rs`, `cached_navigation.rs` and
`target_rgba_navigation.rs`.  The four navigations share one body: check the
index, seek to the anchor of the target when the timeline is safe to seek, scan
for the anchor's metadata, decode forward while every frame is reconciled with
its row, and start over from the beginning of the stream when the metadata do
not line up.  They differ in what they take from the decoder, which a
`FrameReader` says:

* `navigate_to_frame` reads metadata and returns the metadata of the target;
* `navigate_to_frame_cached` copies the pixels of every frame it crosses;
* the target-only navigation reads metadata and copies the target alone;
* the bounded preview reads metadata and scales the target.

`NavigationError` merges the two error types of the source, of which
`CachedNavigationError` has the cache case in addition; the preview's own error
type only wraps it.
-/

namespace FrameScope.Ports.Navigation

open FrameScope.Ports.Core
open FrameScope.Ports.Decoder
open FrameScope.Ports.FrameIndexModel
open FrameScope.Ports.SourceBinding
open FrameScope.Ports.FrameIndexStore
open FrameScope.Ports.FrameCache
open FrameScope.Ports.ScrubPreview

inductive NavigationError where
  | decoder (error : FrameScopeError)
  | index (error : FrameIndexError)
  | cache (error : FrameCacheError)
  | incompleteIndex
  | frameNotIndexed
  | streamIdentityMismatch
  | timelineMismatch
  | unexpectedEof
  deriving DecidableEq, Repr

/-! ## Readers -/

/-- What a navigation takes from the decoder: `read` after every `next_frame`,
`finish` once the target is reached. -/
structure FrameReader (φ α : Type) where
  read : VideoDecoder → DecodedFrame → Except FrameScopeError φ
  metadata : φ → DecodedFrame
  finish : VideoDecoder → φ → Except FrameScopeError α

/-- `next_frame` alone. -/
def metadataReader : FrameReader DecodedFrame DecodedFrame where
  read := fun _ frame => .ok frame
  metadata := id
  finish := fun _ frame => .ok frame

/-- `next_frame_rgba`. -/
def rgbaReader : FrameReader DecodedRgbaFrame DecodedRgbaFrame where
  read := fun decoder frame => decoder.snapshotCurrentFrameRgba frame
  metadata := (·.frame)
  finish := fun _ rgba => .ok rgba

/-- `next_frame`, and a snapshot of the target. -/
def targetReader : FrameReader DecodedFrame DecodedRgbaFrame where
  read := fun _ frame => .ok frame
  metadata := id
  finish := fun decoder frame => decoder.snapshotCurrentFrameRgba frame

/-- `next_frame`, and a bounded snapshot of the target. -/
def previewReader [NativeScaler] (maxEdge : Nat) :
    FrameReader DecodedFrame DecodedPreviewRgbaFrame where
  read := fun _ frame => .ok frame
  metadata := id
  finish := fun decoder frame => snapshotCurrentFramePreviewRgba decoder frame maxEdge

/-! ## Decoding forward -/

/-- `next_decoded` and `next_metadata`. -/
def nextDecoded {φ α : Type} (reader : FrameReader φ α) (decoder : VideoDecoder) (count : Nat) :
    Except NavigationError (φ × Nat × VideoDecoder) :=
  match decoder.nextFrame with
  | (.error error, _) => .error (.decoder error)
  | (.ok none, _) => .error .unexpectedEof
  | (.ok (some frame), decoder) =>
      match reader.read decoder frame with
      | .error error => .error (.decoder error)
      | .ok x => .ok (x, saturatingAddU64 count 1, decoder)

/-- `next_frame_id`. -/
def nextFrameId (frameId : Nat) : Except NavigationError Nat :=
  match checkedAddU64 frameId 1 with
  | some next => .ok next
  | none => .error .timelineMismatch

section Index

variable [ContentHash] (index : FrameIndex)

/-- `index.entry(frame_id)?.ok_or(missing)?`. -/
def requireEntry (frameId : Nat) (missing : NavigationError) :
    Except NavigationError FrameIndexEntry := do
  match ← (index.entry frameId).mapError .index with
  | none => .error missing
  | some entry => .ok entry

/-- `ensure_complete`. -/
def ensureComplete : Except NavigationError Unit := do
  let status ← index.status.mapError .index
  if status.lifecycle = .complete then .ok () else .error .incompleteIndex

/-- `open_checked_decoder`, at the `n`-th call of the factory. -/
def openCheckedDecoder (opens : Opener) (n : Nat) : Except NavigationError VideoDecoder := do
  let decoder ← (opens n).mapError .decoder
  let identity ← (FrameIndexStreamIdentity.fromStream decoder.stream).mapError .index
  if identity ≠ index.streamIdentity then .error .streamIdentityMismatch else .ok decoder

/-- `verify_decoded`. -/
def verifyDecoded (frameId : Nat) (decoded : DecodedFrame) : Except NavigationError Unit := do
  let expected ← requireEntry index frameId .timelineMismatch
  if matchesIndexEntry decoded expected then .ok () else .error .timelineMismatch

section Reader

variable {φ α : Type} (reader : FrameReader φ α)

/-- The loop that all decode functions end in, entered with a frame in hand
that should be the one of `current`.  A session has finitely many frames left
and each round reads one, so the rounds never run out. -/
def decodeOnward (target : Nat) :
    Nat → Nat → φ → Nat → VideoDecoder → Except NavigationError (α × Nat × VideoDecoder)
  | rounds, current, x, count, decoder => do
      verifyDecoded index current (reader.metadata x)
      if current = target then
        let value ← (reader.finish decoder x).mapError .decoder
        .ok (value, count, decoder)
      else
        let next ← nextFrameId current
        let (x, count, decoder) ← nextDecoded reader decoder count
        match rounds with
        | 0 => .error .unexpectedEof
        | rounds + 1 => decodeOnward target rounds next x count decoder

/-- Decode from a session whose next frame should be the one of `current`. -/
def decodeFrom (decoder : VideoDecoder) (current target : Nat) :
    Except NavigationError (α × Nat × VideoDecoder) := do
  let (x, count, decoder) ← nextDecoded reader decoder 0
  decodeOnward index reader target decoder.script.pending.length current x count decoder

/-- `decode_from_start`. -/
def decodeFromStart (decoder : VideoDecoder) (target : Nat) :
    Except NavigationError (α × Nat × VideoDecoder) :=
  decodeFrom index reader decoder 0 target

/-- `decode_forward_from_cursor`. -/
def decodeForwardFromCursor (decoder : VideoDecoder) (current target : Nat) :
    Except NavigationError (α × Nat × VideoDecoder) := do
  if target ≤ current then .error .timelineMismatch
  else
    let expected ← nextFrameId current
    decodeFrom index reader decoder expected target

/-- The scan of `decode_from_seek`: FFmpeg may land before the requested
keyframe, so frames are passed over until one has the metadata of the anchor. -/
def scanToAnchor (anchorEntry : FrameIndexEntry) :
    Nat → Nat → VideoDecoder → Except NavigationError (φ × Nat × VideoDecoder)
  | rounds, count, decoder => do
      let (x, count, decoder) ← nextDecoded reader decoder count
      if matchesIndexEntry (reader.metadata x) anchorEntry then .ok (x, count, decoder)
      else match rounds with
        | 0 => .error .unexpectedEof
        | rounds + 1 => scanToAnchor anchorEntry rounds count decoder

/-- `decode_from_seek`. -/
def decodeFromSeek (decoder : VideoDecoder) (anchor target : Nat) :
    Except NavigationError (α × Nat × VideoDecoder) := do
  let anchorEntry ← requireEntry index anchor .timelineMismatch
  let (x, count, decoder) ←
    scanToAnchor reader anchorEntry decoder.script.pending.length 0 decoder
  decodeOnward index reader target decoder.script.pending.length anchor x count decoder

/-! ## One navigation -/

/-- A reached target, with the session that reached it. -/
structure Navigated (α : Type) where
  value : α
  decodedFrames : Nat
  usedKeyframeSeek : Bool
  fellBackToStreamStart : Bool
  decoder : VideoDecoder

/-- Decode the target from the start of the stream. -/
def navigateFromStart (decoder : VideoDecoder) (frameId : Nat) (usedKeyframeSeek fellBack : Bool) :
    Except NavigationError (Navigated α) := do
  let (value, decodedFrames, decoder) ← decodeFromStart index reader decoder frameId
  .ok ⟨value, decodedFrames, usedKeyframeSeek, fellBack, decoder⟩

/-- The common body of `navigate_to_frame`, `navigate_rgba_to_frame`,
`navigate_target_rgba_retained` and `navigate_target_preview_retained`. -/
def navigateWith (opens : Opener) (frameId : Nat) :
    Except NavigationError (Navigated α) := do
  ensureComplete index
  let target ← requireEntry index frameId .frameNotIndexed
  let safety ← index.timestampSeekSafety.mapError .index
  let decoder ← openCheckedDecoder index opens 0
  match if safety.permitsTimestampSeek then anchorSeek target.anchor else none with
  | some (anchorId, timestampUs) =>
      let decoder ← (decoder.seekToTimestampUs timestampUs).mapError .decoder
      -- The seek is only a hint: metadata that do not line up send the
      -- navigation back to the start of the stream.
      match decodeFromSeek index reader decoder anchorId frameId with
      | .ok (value, decodedFrames, decoder) => .ok ⟨value, decodedFrames, true, false, decoder⟩
      | .error .timelineMismatch | .error .unexpectedEof =>
          let fallback ← openCheckedDecoder index opens 1
          navigateFromStart index reader fallback frameId true true
      | .error error => .error error
  | none =>
      navigateFromStart index reader decoder frameId false (!safety.permitsTimestampSeek)

end Reader

/-- `NavigationResult`. -/
structure NavigationResult where
  frameId : Nat
  frame : DecodedFrame
  decodedFrames : Nat
  usedKeyframeSeek : Bool
  fellBackToStreamStart : Bool
  deriving DecidableEq, Repr

/-- `navigate_to_frame`. -/
def navigateToFrame (opens : Opener) (frameId : Nat) :
    Except NavigationError NavigationResult :=
  (navigateWith index metadataReader opens frameId).map fun reached =>
    { frameId
      frame := reached.value
      decodedFrames := reached.decodedFrames
      usedKeyframeSeek := reached.usedKeyframeSeek
      fellBackToStreamStart := reached.fellBackToStreamStart }

/-! ## Navigation through the RAM cache -/

inductive CachedFrameSource where
  | ram | decoded
  deriving DecidableEq, Repr

/-- `CachedNavigationResult`. -/
structure CachedNavigationResult where
  frameId : Nat
  indexEntry : FrameIndexEntry
  pixels : OwnedRgbaFrame
  source : CachedFrameSource
  decodedFrames : Nat
  usedKeyframeSeek : Bool
  fellBackToStreamStart : Bool
  cacheInsertResult : Option RamInsertResult
  deriving DecidableEq, Repr

/-- The checks before any pixel work, and the cache key of the frame.  A source
without a reusable identity is navigated without the cache. -/
def prepare (frameId : Nat) :
    Except NavigationError (FrameIndexEntry × Option FrameCacheKey) := do
  ensureComplete index
  let entry ← requireEntry index frameId .frameNotIndexed
  match FrameCacheKey.new index.sourceIdentity index.streamIdentity.streamIndex frameId with
  | .ok key => .ok (entry, some key)
  | .error .unsafeSourceIdentity => .ok (entry, none)
  | .error error => .error (.cache error)

end Index

/-- A lookup, when there is a key. -/
def lookupFull (cache : RamFrameCache) : Option FrameCacheKey → Option CachedFrame × RamFrameCache
  | none => (none, cache)
  | some key => cache.get key

/-- An insertion, when there is a key. -/
def insertFull (cache : RamFrameCache) (pixels : OwnedRgbaFrame) :
    Option FrameCacheKey → Option RamInsertResult × RamFrameCache
  | none => (none, cache)
  | some key => ((some (cache.insert ⟨key, pixels⟩).1), (cache.insert ⟨key, pixels⟩).2)

/-- The result of a RAM hit. -/
def ramResult (frameId : Nat) (indexEntry : FrameIndexEntry) (cached : CachedFrame) :
    CachedNavigationResult :=
  { frameId, indexEntry
    pixels := cached.pixels
    source := .ram
    decodedFrames := 0
    usedKeyframeSeek := false
    fellBackToStreamStart := false
    cacheInsertResult := none }

/-- The result of a decode: the pixels are validated and offered to the cache. -/
def decodedResult (frameId : Nat) (indexEntry : FrameIndexEntry) (key : Option FrameCacheKey)
    (reached : Navigated DecodedRgbaFrame) (cache : RamFrameCache) :
    Except NavigationError CachedNavigationResult × RamFrameCache :=
  match ownedRgba reached.value with
  | .error error => (.error (.cache error), cache)
  | .ok pixels =>
      let (cacheInsertResult, cache) := insertFull cache pixels key
      (.ok
        { frameId, indexEntry, pixels
          source := .decoded
          decodedFrames := reached.decodedFrames
          usedKeyframeSeek := reached.usedKeyframeSeek
          fellBackToStreamStart := reached.fellBackToStreamStart
          cacheInsertResult },
        cache)

section Requests

variable [ContentHash] (index : FrameIndex)

/-- `navigate_to_frame_cached`. -/
def navigateToFrameCached (opens : Opener) (frameId : Nat) (cache : RamFrameCache) :
    Except NavigationError CachedNavigationResult × RamFrameCache :=
  match prepare index frameId with
  | .error error => (.error error, cache)
  | .ok (indexEntry, key) =>
      match lookupFull cache key with
      | (some cached, cache) => (.ok (ramResult frameId indexEntry cached), cache)
      | (none, cache) =>
          match navigateWith index rgbaReader opens frameId with
          | .error error => (.error error, cache)
          | .ok reached => decodedResult frameId indexEntry key reached cache

/-! ## Navigation with a retained cursor -/

/-- A decoder session kept for nearby forward targets, and the identity of the
frame it stands at. -/
structure TargetRgbaNavigationCursor where
  decoder : VideoDecoder
  frameId : Nat

/-- `can_continue_to`. -/
def TargetRgbaNavigationCursor.canContinueTo (cursor : TargetRgbaNavigationCursor)
    (target maxForwardFrames : Nat) : Bool :=
  cursor.frameId ≤ target && 0 < target - cursor.frameId &&
    target - cursor.frameId ≤ maxForwardFrames

/-- A fresh navigation whose session becomes the cursor. -/
def navigateAndRetain {φ α : Type} (reader : FrameReader φ α) (opens : Opener) (frameId : Nat) :
    Except NavigationError (Navigated α) × Option TargetRgbaNavigationCursor :=
  match navigateWith index reader opens frameId with
  | .error error => (.error error, none)
  | .ok reached => (.ok reached, some ⟨reached.decoder, frameId⟩)

/-- Continue the cursor when there is one; it is dropped on every failure, and
one that does not line up is replaced by a fresh navigation. -/
def navigateFromCursor {φ α : Type} (reader : FrameReader φ α) (opens : Opener) (frameId : Nat) :
    Option TargetRgbaNavigationCursor →
      Except NavigationError (Navigated α) × Option TargetRgbaNavigationCursor
  | none => navigateAndRetain index reader opens frameId
  | some active =>
      match decodeForwardFromCursor index reader active.decoder active.frameId frameId with
      | .ok (value, decodedFrames, decoder) =>
          (.ok ⟨value, decodedFrames, false, false, decoder⟩, some ⟨decoder, frameId⟩)
      | .error .timelineMismatch | .error .unexpectedEof =>
          navigateAndRetain index reader opens frameId
      | .error error => (.error error, none)

/-- What the requests on one opened video share. -/
structure NavigationState where
  cache : RamFrameCache
  cursor : Option TargetRgbaNavigationCursor

/-- `navigate_to_frame_cached_target_only_with_cursor`. -/
def navigateToFrameCachedTargetOnlyWithCursor (opens : Opener)
    (frameId maxForwardFrames : Nat) (st : NavigationState) :
    Except NavigationError CachedNavigationResult × NavigationState :=
  match prepare index frameId with
  | .error error => (.error error, st)
  | .ok (indexEntry, key) =>
      let cursor := st.cursor.filter (·.canContinueTo frameId maxForwardFrames)
      match lookupFull st.cache key with
      | (some cached, cache) => (.ok (ramResult frameId indexEntry cached), ⟨cache, cursor⟩)
      | (none, cache) =>
          match navigateFromCursor index targetReader opens frameId cursor with
          | (.error error, cursor) => (.error error, ⟨cache, cursor⟩)
          | (.ok reached, cursor) =>
              let (result, cache) := decodedResult frameId indexEntry key reached cache
              (result, ⟨cache, cursor⟩)

/-- `navigate_to_frame_cached_target_only`. -/
def navigateToFrameCachedTargetOnly (opens : Opener) (frameId : Nat) (cache : RamFrameCache) :
    Except NavigationError CachedNavigationResult × RamFrameCache :=
  let (result, st) :=
    navigateToFrameCachedTargetOnlyWithCursor index opens frameId 0 ⟨cache, none⟩
  (result, st.cache)

/-- `TargetPreviewNavigationResult`, whose source is always `Decoded`. -/
structure TargetPreviewNavigationResult where
  frameId : Nat
  indexEntry : FrameIndexEntry
  pixels : OwnedRgbaFrame
  decodedFrames : Nat
  usedKeyframeSeek : Bool
  fellBackToStreamStart : Bool
  deriving DecidableEq, Repr

/-- `navigate_to_frame_bounded_preview_with_cursor`. -/
def navigateToFrameBoundedPreviewWithCursor [NativeScaler] (opens : Opener)
    (frameId maxForwardFrames maxEdge : Nat) (cursor : Option TargetRgbaNavigationCursor) :
    Except NavigationError TargetPreviewNavigationResult ×
      Option TargetRgbaNavigationCursor :=
  let checked := do
    ensureComplete index
    requireEntry index frameId .frameNotIndexed
  match checked with
  | .error error => (.error error, cursor)
  | .ok indexEntry =>
      let cursor := cursor.filter (·.canContinueTo frameId maxForwardFrames)
      match navigateFromCursor index (previewReader maxEdge) opens frameId cursor with
      | (.error error, cursor) => (.error error, cursor)
      | (.ok reached, cursor) =>
          match ownedPreview reached.value with
          | .error error => (.error (.cache error), cursor)
          | .ok pixels => (.ok
              { frameId, indexEntry, pixels
                decodedFrames := reached.decodedFrames
                usedKeyframeSeek := reached.usedKeyframeSeek
                fellBackToStreamStart := reached.fellBackToStreamStart }, cursor)

end Requests

end FrameScope.Ports.Navigation
