import FrameScope.Ports.PreviewCacheLaw
import FrameScope.Ports.PreviewDelivery
import FrameScope.Ports.SamplingBounds

/-!
# Every preview is accepted

The three producers of a preview give a source frame of some size the same
dimensions under a requested edge, with tight rows.  A cache that only they feed
holds no other previews, so the descriptor of every response passes the checks of
the consumer and the pixels fit into the buffer it has set aside.
-/

namespace FrameScope.Ports.PreviewDeliveryLaw

open FrameScope.Verified.Runs
open FrameScope.Ports.Core
open FrameScope.Ports.FrameCache
open FrameScope.Ports.ScrubPreview
open FrameScope.Ports.VisiblePixels
open FrameScope.Ports.SamplingBounds (new_accepts length_sampledPixels)
open FrameScope.Ports.PreviewCache
open FrameScope.Ports.PreviewCacheLaw (remove_entries evictUntilFits_ends)
open FrameScope.Ports.NativeSession
open FrameScope.Ports.PreviewDelivery

/-! ## Dimensions -/

/-- A size that fits into the requested edge and into the source, with the longest edge as long
as it may be. -/
structure Shape (width height maxEdge : Nat) (target : Nat × Nat) : Prop where
  width_pos : 1 ≤ target.1
  height_pos : 1 ≤ target.2
  width_le_edge : target.1 ≤ maxEdge
  height_le_edge : target.2 ≤ maxEdge
  width_le : target.1 ≤ width
  height_le : target.2 ≤ height
  longest : max target.1 target.2 = min (max width height) maxEdge

section Dimensions

variable {edge width height maxEdge longest : Nat}

/-- The rounded quotient of an edge is no longer than the requested one. -/
theorem scaled_le (hEdge : edge ≤ longest) (hLongest : 0 < longest) :
    (edge * maxEdge + longest / 2) / longest ≤ maxEdge := by
  have hProduct : edge * maxEdge ≤ longest * maxEdge := Nat.mul_le_mul_right _ hEdge
  apply Nat.le_of_lt_succ
  apply Nat.div_lt_of_lt_mul
  rw [Nat.mul_succ]
  omega

/-- The longest edge becomes the requested one. -/
theorem scaled_longest (hLongest : 0 < longest) :
    (longest * maxEdge + longest / 2) / longest = maxEdge := by
  rw [Nat.mul_add_div hLongest, Nat.div_eq_of_lt (by omega : longest / 2 < longest)]
  rfl

theorem scaledEdge_eq (hEdge : edge ≤ longest) (hLongest : 0 < longest) (hBound : longest < 2 ^ 32)
    (hMax : maxEdge ≤ 1024) :
    scaledEdge edge maxEdge longest =
      .ok (max ((edge * maxEdge + longest / 2) / longest) 1) := by
  have hScaled := @scaled_le edge maxEdge longest hEdge hLongest
  have hProduct : edge * maxEdge ≤ 2 ^ 32 * 1024 := Nat.mul_le_mul (by omega) hMax
  unfold scaledEdge
  rw [if_neg (by omega)]
  dsimp only
  rw [if_pos (by omega)]

/-- Of every source the dimensions of the preview are defined. -/
theorem previewDimensions_shape (hWidth : 1 ≤ width) (hWidth' : width < 2 ^ 32)
    (hHeight : 1 ≤ height) (hHeight' : height < 2 ^ 32) (hEdge : 64 ≤ maxEdge)
    (hEdge' : maxEdge ≤ 1024) :
    ∃ target, previewDimensions width height maxEdge = .ok target ∧
      Shape width height maxEdge target := by
  by_cases hSmall : max width height ≤ maxEdge
  · refine ⟨(width, height), ?_, ?_⟩
    · unfold previewDimensions
      rw [if_neg (by omega)]
      exact if_pos hSmall
    · constructor
      all_goals dsimp only
      all_goals omega
  · have hPos : 0 < max width height := by omega
    have hScaledWidth := scaledEdge_eq (Nat.le_max_left width height) hPos (by omega) hEdge'
    have hScaledHeight := scaledEdge_eq (Nat.le_max_right width height) hPos (by omega) hEdge'
    have hDimensions : previewDimensions width height maxEdge =
        .ok (max ((width * maxEdge + max width height / 2) / max width height) 1,
          max ((height * maxEdge + max width height / 2) / max width height) 1) := by
      unfold previewDimensions
      rw [if_neg (by omega)]
      dsimp only
      rw [if_neg hSmall, hScaledWidth, ok_bind, hScaledHeight]
      rfl
    obtain ⟨hFirst, hFirst', hSecond, hSecond'⟩ := previewDimensions_le hDimensions
    have hWidthLe := @scaled_le width maxEdge _ (Nat.le_max_left width height) hPos
    have hHeightLe := @scaled_le height maxEdge _ (Nat.le_max_right width height) hPos
    refine ⟨_, hDimensions, ?_⟩
    constructor
    · exact hFirst
    · exact hSecond
    · dsimp only
      omega
    · dsimp only
      omega
    · exact hFirst'
    · exact hSecond'
    · have hLongest := @scaled_longest maxEdge (max width height) hPos
      dsimp only
      -- one of the two edges is the longest one
      rcases Nat.le_total width height with hLe | hLe
      · rw [Nat.max_eq_right hLe] at hLongest hWidthLe hHeightLe hSmall ⊢
        rw [hLongest]
        omega
      · rw [Nat.max_eq_left hLe] at hLongest hWidthLe hHeightLe hSmall ⊢
        rw [hLongest]
        omega

end Dimensions

/-! ## The producers -/

/-- A frame of given dimensions with tight rows. -/
structure HasSize (target : Nat × Nat) (g : OwnedRgbaFrame) : Prop where
  width : g.width = target.1
  height : g.height = target.2
  stride : g.strideBytes = target.1 * 4

section Producers

variable {π : Type} {convert : Converter π} {width height maxEdge : Nat} {target : Nat × Nat}

theorem Shape.area_le (h : Shape width height maxEdge target) :
    target.1 * 4 * target.2 ≤ maxEdge * maxEdge * 4 := by
  have hArea : target.1 * target.2 ≤ maxEdge * maxEdge :=
    Nat.mul_le_mul h.width_le_edge h.height_le_edge
  rw [Nat.mul_right_comm]
  omega

theorem Shape.area_lt (h : Shape width height maxEdge target) (hEdge : maxEdge ≤ 1024) :
    target.1 * 4 * target.2 < 2 ^ 23 := by
  have hSquare : maxEdge * maxEdge ≤ 1024 * 1024 := Nat.mul_le_mul hEdge hEdge
  have hArea := h.area_le
  omega

/-- Tight pixels of the right number make a frame of the size. -/
theorem Shape.owned (h : Shape width height maxEdge target) (hEdge : maxEdge ≤ 1024)
    {pixels : List UInt8} (hLength : pixels.length = target.1 * 4 * target.2) :
    ∃ g, OwnedRgbaFrame.new target.1 target.2 (target.1 * 4) pixels = .ok g ∧
      HasSize target g := by
  have hArea := h.area_lt hEdge
  obtain ⟨g, hNew⟩ := new_accepts h.width_pos h.height_pos (Nat.le_refl (target.1 * 4))
    (by omega) hLength
  obtain ⟨hWidth, hHeight, hStride, -⟩ := OwnedRgbaFrame.new_ok hNew
  exact ⟨g, hNew, hWidth, hHeight, hStride⟩

/-- A cached frame is scaled, whatever its stride. -/
theorem downscale_hasSize {strideBytes : Nat} {pixels : List UInt8} {f : OwnedRgbaFrame}
    (hNew : OwnedRgbaFrame.new width height strideBytes pixels = .ok f)
    (hWidth : width < 2 ^ 32) (hHeight : height < 2 ^ 32) (hEdge : 64 ≤ maxEdge)
    (hEdge' : maxEdge ≤ 1024) (hTarget : previewDimensions width height maxEdge = .ok target)
    (hShape : Shape width height maxEdge target) :
    ∃ g, downscaleScrubPreview f maxEdge = .ok g ∧ HasSize target g := by
  obtain ⟨hFWidth, hFHeight, -, -⟩ := OwnedRgbaFrame.new_ok hNew
  have hAdmitted := admitted_of_new hNew hWidth hHeight
  obtain ⟨g, hOwned, hSize⟩ := hShape.owned hEdge' (length_sampledPixels f target.1 target.2)
  refine ⟨g, ?_, hSize⟩
  rw [downscaleScrubPreview_eq hAdmitted, if_neg (by omega), hFWidth, hFHeight, hTarget, ok_bind,
    hOwned]
  rfl

/-! ### The bounded snapshot -/

/-- What the wrapper returns has tight rows, whatever the native side does. -/
structure Tight (width height : Nat) (rgba : NativeRgba) : Prop where
  width_eq : rgba.width = width
  height_eq : rgba.height = height
  stride_eq : rgba.stride = width * 4
  length_eq : rgba.pixels.length = width * 4 * height

theorem copyToDimensions_tight {s : Session π} {outcome : CopyOutcome} {scaled : Bool}
    {rgba : NativeRgba} (h : s.copyCurrentFrameRgbaToDimensions convert outcome width height scaled =
      .ok rgba) : Tight width height rgba := by
  unfold Session.copyCurrentFrameRgbaToDimensions at h
  obtain ⟨stride, hStride, h⟩ := bind_eq_ok.1 h
  obtain ⟨required, hRequired, h⟩ := bind_eq_ok.1 h
  rw [okOr_eq_ok, checkedMulU64_eq_some] at hStride hRequired
  split_ifs at h with hAllocated
  obtain ⟨-, -, h⟩ := bind_eq_ok.1 h
  obtain ⟨converted, -, h⟩ := bind_eq_ok.1 h
  dsimp only at h
  split_ifs at h with hOut
  cases h
  exact ⟨rfl, rfl, hStride.2, by rw [length_written, hRequired.2, hStride.2]⟩

theorem copyCurrent_tight {s : Session π} {outcome : CopyOutcome} {rgba : NativeRgba}
    (h : s.copyCurrentFrameRgba convert outcome = .ok rgba) :
    Tight rgba.width rgba.height rgba := by
  obtain ⟨dimensions, -, h⟩ := bind_eq_ok.1 h
  have hTight := copyToDimensions_tight h
  rw [hTight.width_eq, hTight.height_eq]
  exact hTight

theorem copyResized_tight {s : Session π} {outcome : CopyOutcome} {rgba : NativeRgba}
    (h : s.copyCurrentFrameRgbaResized convert outcome width height = .ok rgba) :
    Tight width height rgba := by
  obtain ⟨dimensions, -, h⟩ := bind_eq_ok.1 h
  dsimp only at h
  split_ifs at h
  exact copyToDimensions_tight h

/-- Either copy of a preview is tight. -/
theorem previewCopy_tight {d : VideoDecoder π} {frame : LabelledFrame} {outcome : CopyOutcome}
    {rgba : NativeRgba} (h : d.previewCopy convert frame target outcome = .ok rgba) :
    Tight rgba.width rgba.height rgba := by
  unfold VideoDecoder.previewCopy at h
  split_ifs at h
  · exact copyCurrent_tight h
  · have hTight := copyResized_tight h
    rw [hTight.width_eq, hTight.height_eq]
    exact hTight

/-- A bounded snapshot has the dimensions of the preview and tight rows. -/
theorem snapshotPreview_hasSize {d : VideoDecoder π} {cancelled : Bool} {frame : LabelledFrame}
    {outcome : CopyOutcome} {preview : PreviewSnapshot}
    (h : d.snapshotCurrentFramePreviewRgba convert cancelled frame maxEdge outcome = .ok preview)
    (hTarget : previewDimensions frame.width frame.height maxEdge = .ok target)
    (hShape : Shape width height maxEdge target) (hEdge : maxEdge ≤ 1024) :
    ∃ g, ownedSnapshot preview = .ok g ∧ HasSize target g := by
  unfold VideoDecoder.snapshotCurrentFramePreviewRgba at h
  split_ifs at h
  obtain ⟨target', hDimensions', h⟩ := bind_eq_ok.1 h
  cases hTarget.symm.trans (mapError_eq_ok.1 hDimensions')
  obtain ⟨rgba, hCopy, h⟩ := bind_eq_ok.1 h
  have hTight := previewCopy_tight (mapError_eq_ok.1 hCopy)
  split_ifs at h with hDimensions
  obtain ⟨expected, -, h⟩ := bind_eq_ok.1 h
  split_ifs at h
  cases h
  have hWidth : rgba.width = target.1 := by
    by_contra hNot
    exact hDimensions (.inl hNot)
  have hHeight : rgba.height = target.2 := by
    by_contra hNot
    exact hDimensions (.inr hNot)
  have hStride := hTight.stride_eq
  have hLength := hTight.length_eq
  rw [hWidth] at hStride
  rw [hWidth, hHeight] at hLength
  obtain ⟨g, hNew, hSize⟩ := hShape.owned hEdge hLength
  refine ⟨g, ?_, hSize⟩
  unfold ownedSnapshot
  dsimp only
  rw [hWidth, hHeight, hStride]
  exact hNew

/-- The decoder holds the frame, and nothing goes wrong: the copies report tight rows. -/
structure Convertible (convert : Converter π) (d : VideoDecoder π) (frame : LabelledFrame) :
    Prop where
  current : d.currentFrame = some frame
  dimensions : d.session.lastFrameDimensions = some (frame.width, frame.height)
  picture : ∃ picture, d.session.slot = some picture ∧
    ∀ scaled width height, (convert picture scaled width height).1 = ((width * 4 : Nat) : Int)

/-- A copy to a small size succeeds. -/
theorem copyToDimensions_ok {d : VideoDecoder π} {frame : LabelledFrame}
    (h : Convertible convert d frame) (hShape : Shape width height maxEdge target)
    (hEdge : maxEdge ≤ 1024) (scaled : Bool) :
    ∃ rgba, d.session.copyCurrentFrameRgbaToDimensions convert ⟨true, none⟩ target.1 target.2
      scaled = .ok rgba := by
  obtain ⟨picture, hSlot, hReports⟩ := h.picture
  have hArea := hShape.area_lt hEdge
  have hWidth := hShape.width_le_edge
  have hHeight := hShape.height_le_edge
  have hCheck : checkTargetSize scaled target.1 target.2 = .ok () := by
    unfold checkTargetSize
    rw [if_neg (by omega), if_neg (by omega)]
  have hConvert : d.session.convertCurrent convert none scaled target.1 target.2 =
      .ok (convert picture scaled target.1 target.2) := by
    unfold Session.convertCurrent
    rw [hSlot]
  unfold Session.copyCurrentFrameRgbaToDimensions
  rw [okOr_mul (by omega), ok_bind, okOr_mul (by omega), ok_bind, if_neg Bool.noConfusion, hCheck,
    ok_bind, hConvert, ok_bind]
  dsimp only
  rw [if_pos (hReports scaled target.1 target.2)]
  exact ⟨_, rfl⟩

/-- Either copy of a preview succeeds. -/
theorem previewCopy_ok {d : VideoDecoder π} {frame : LabelledFrame}
    (h : Convertible convert d frame) (hShape : Shape frame.width frame.height maxEdge target)
    (hEdge : maxEdge ≤ 1024) :
    ∃ rgba, d.previewCopy convert frame target ⟨true, none⟩ = .ok rgba ∧
      Tight target.1 target.2 rgba := by
  unfold VideoDecoder.previewCopy
  by_cases hSame : target.1 = frame.width ∧ target.2 = frame.height
  · obtain ⟨rgba, hCopy⟩ := copyToDimensions_ok h hShape hEdge false
    refine ⟨rgba, ?_, copyToDimensions_tight hCopy⟩
    rw [if_pos hSame]
    unfold Session.copyCurrentFrameRgba
    rw [h.dimensions, ← hSame.1, ← hSame.2]
    exact hCopy
  · obtain ⟨rgba, hCopy⟩ := copyToDimensions_ok h hShape hEdge true
    refine ⟨rgba, ?_, copyToDimensions_tight hCopy⟩
    have hWidth := hShape.width_pos
    have hHeight := hShape.height_pos
    have hWidth' := hShape.width_le
    have hHeight' := hShape.height_le
    rw [if_neg hSame]
    unfold Session.copyCurrentFrameRgbaResized
    rw [h.dimensions]
    show (if _ then _ else _) = _
    rw [if_neg (by omega)]
    exact hCopy

theorem snapshotPreview_ok {d : VideoDecoder π} {frame : LabelledFrame}
    (h : Convertible convert d frame)
    (hTarget : previewDimensions frame.width frame.height maxEdge = .ok target)
    (hShape : Shape frame.width frame.height maxEdge target) (hEdge : maxEdge ≤ 1024) :
    ∃ preview, d.snapshotCurrentFramePreviewRgba convert false frame maxEdge ⟨true, none⟩ =
      .ok preview := by
  obtain ⟨rgba, hCopy, hTight⟩ := previewCopy_ok h hShape hEdge
  have hArea := hShape.area_lt hEdge
  have hLength := hTight.length_eq
  unfold VideoDecoder.snapshotCurrentFramePreviewRgba
  rw [if_neg Bool.noConfusion, if_neg (not_not.2 h.current), hTarget]
  show ∃ preview, (d.previewCopy convert frame target ⟨true, none⟩).mapError mapNativeError >>= _ =
    Except.ok preview
  rw [hCopy]
  show ∃ preview, (if rgba.width ≠ target.1 ∨ rgba.height ≠ target.2 then _ else _) =
    Except.ok preview
  rw [hTight.width_eq, hTight.height_eq, if_neg (by omega), hTight.stride_eq,
    okOr_mul (by omega), ok_bind, if_neg (not_not.2 hLength)]
  exact ⟨_, rfl⟩

/-! ### The fallback -/

/-- The fallback scales whatever full snapshot is valid. -/
theorem fallback_hasSize {frame : LabelledFrame} {strideBytes : Nat} {pixels : List UInt8}
    {f : OwnedRgbaFrame}
    (hNew : OwnedRgbaFrame.new frame.width frame.height strideBytes pixels = .ok f)
    (hWidth : frame.width < 2 ^ 32) (hHeight : frame.height < 2 ^ 32) (hEdge : 64 ≤ maxEdge)
    (hEdge' : maxEdge ≤ 1024)
    (hTarget : previewDimensions frame.width frame.height maxEdge = .ok target)
    (hShape : Shape frame.width frame.height maxEdge target) :
    ∃ preview g, fallbackPreviewRgba (.ok ⟨frame, strideBytes, pixels⟩) maxEdge = .ok preview ∧
      ownedSnapshot preview = .ok g ∧ HasSize target g := by
  obtain ⟨g, hScaled, hSize⟩ := downscale_hasSize hNew hWidth hHeight hEdge hEdge' hTarget hShape
  refine ⟨⟨frame, g.width, g.height, g.strideBytes, g.pixels⟩, g, ?_, ?_, hSize⟩
  · unfold fallbackPreviewRgba
    rw [ok_bind]
    dsimp only
    rw [hNew]
    show (downscaleScrubPreview f maxEdge).mapError _ >>= _ = _
    rw [hScaled]
    rfl
  · have hArea := hShape.area_lt hEdge'
    have hBytes : g.strideBytes * g.height < 2 ^ 64 := by
      rw [hSize.stride, hSize.height]
      omega
    have hGWidth : g.width < 2 ^ 32 := by
      have hLe := hShape.width_le_edge
      rw [hSize.width]
      omega
    have hGHeight : g.height < 2 ^ 32 := by
      have hLe := hShape.height_le_edge
      rw [hSize.height]
      omega
    exact Admitted.new_self ⟨hGWidth, hGHeight, hBytes⟩

end Producers

/-! ## What the producers make of one source frame -/

/-- The previews of a source frame of `width` by `height`. -/
inductive Produced {π : Type} (convert : Converter π) (width height maxEdge : Nat) :
    OwnedRgbaFrame → Prop
  | scaled {strideBytes : Nat} {pixels : List UInt8} {f g : OwnedRgbaFrame}
      (source : OwnedRgbaFrame.new width height strideBytes pixels = .ok f)
      (scales : downscaleScrubPreview f maxEdge = .ok g) : Produced convert width height maxEdge g
  | decoded {d : VideoDecoder π} {cancelled : Bool} {frame : LabelledFrame}
      {outcome : CopyOutcome} {preview : PreviewSnapshot} {g : OwnedRgbaFrame}
      (frameWidth : frame.width = width) (frameHeight : frame.height = height)
      (snapshot : d.snapshotCurrentFramePreviewRgba convert cancelled frame maxEdge outcome =
        .ok preview)
      (owned : ownedSnapshot preview = .ok g) : Produced convert width height maxEdge g
  | fallback {rgba : RgbaSnapshot} {preview : PreviewSnapshot} {g : OwnedRgbaFrame}
      (frameWidth : rgba.frame.width = width) (frameHeight : rgba.frame.height = height)
      (snapshot : fallbackPreviewRgba (.ok rgba) maxEdge = .ok preview)
      (owned : ownedSnapshot preview = .ok g) : Produced convert width height maxEdge g

section Produced

variable {π : Type} {convert : Converter π} {width height maxEdge : Nat} {target : Nat × Nat}
  {g : OwnedRgbaFrame}

/-- One size for all of them. -/
theorem Produced.hasSize (h : Produced convert width height maxEdge g)
    (hWidth : width < 2 ^ 32) (hHeight : height < 2 ^ 32) (hEdge : 64 ≤ maxEdge)
    (hEdge' : maxEdge ≤ 1024) (hTarget : previewDimensions width height maxEdge = .ok target)
    (hShape : Shape width height maxEdge target) : HasSize target g := by
  cases h with
  | scaled source scales =>
      obtain ⟨g', hScaled, hSize⟩ :=
        downscale_hasSize source hWidth hHeight hEdge hEdge' hTarget hShape
      cases hScaled.symm.trans scales
      exact hSize
  | decoded frameWidth frameHeight snapshot owned =>
      rw [← frameWidth, ← frameHeight] at hTarget
      obtain ⟨g', hOwned, hSize⟩ := snapshotPreview_hasSize snapshot hTarget hShape hEdge'
      cases hOwned.symm.trans owned
      exact hSize
  | @fallback rgba preview _ frameWidth frameHeight snapshot owned =>
      obtain ⟨_, hRgba, hRest⟩ := bind_eq_ok.1 snapshot
      cases hRgba
      obtain ⟨f, hNew, -⟩ := bind_eq_ok.1 hRest
      rw [← frameWidth] at hTarget hShape hWidth
      rw [← frameHeight] at hTarget hShape hHeight
      obtain ⟨preview', g', hPreview, hOwned, hSize⟩ :=
        fallback_hasSize (mapError_eq_ok.1 hNew) hWidth hHeight hEdge hEdge' hTarget hShape
      cases hPreview.symm.trans snapshot
      cases hOwned.symm.trans owned
      exact hSize

end Produced

/-! ## A cache that only producers feed -/

section Cache

variable {P : ScrubPreviewKey → OwnedRgbaFrame → Prop} {cache : ScrubPreviewCache}

/-- Every entry is a frame that its key allows. -/
def Holds (P : ScrubPreviewKey → OwnedRgbaFrame → Prop) (cache : ScrubPreviewCache) : Prop :=
  ∀ e ∈ cache.entries, P e.key e.pixels

theorem Holds.remove (h : Holds P cache) (key : ScrubPreviewKey) : Holds P (cache.remove key) := by
  intro e he
  rw [remove_entries] at he
  exact h e (List.mem_of_mem_filter he)

theorem Holds.evictLeast (h : Holds P cache) : Holds P cache.evictLeast := by
  unfold ScrubPreviewCache.evictLeast
  split
  · exact h
  · exact h.remove _

theorem Holds.evictUntilFits (h : Holds P cache) (additionalBytes : Nat) (inserting : Bool) :
    Holds P (cache.evictUntilFits additionalBytes inserting) :=
  (evictUntilFits_ends cache additionalBytes inserting).keeps (fun _ hCache _ => hCache.evictLeast) h

theorem Holds.insert (h : Holds P cache) {frameId maxEdge : Nat} {pixels : OwnedRgbaFrame}
    (hPixels : P ⟨frameId, maxEdge⟩ pixels) : Holds P (cache.insert frameId maxEdge pixels) := by
  unfold ScrubPreviewCache.insert
  split_ifs
  · exact h
  · have hRoom := (h.remove ⟨frameId, maxEdge⟩).evictUntilFits pixels.byteLen true
    intro e he
    have hSplit : e ∈ _ ++ [_] := he
    simp only [List.mem_append, List.mem_singleton] at hSplit
    cases hSplit with
    | inl hOld => exact hRoom e hOld
    | inr hNew =>
        rw [hNew]
        exact hPixels

/-- A lookup only moves the access times. -/
theorem Holds.get (h : Holds P cache) (frameId maxEdge : Nat) :
    Holds P (cache.get frameId maxEdge).2 ∧
      ∀ g, (cache.get frameId maxEdge).1 = some g → P ⟨frameId, maxEdge⟩ g := by
  unfold ScrubPreviewCache.get
  cases hFind : cache.entries.find? (·.key = (⟨frameId, maxEdge⟩ : ScrubPreviewKey)) with
  | none =>
      dsimp only
      rw [hFind]
      exact ⟨h, fun g hNone => by cases hNone⟩
  | some entry =>
      dsimp only
      rw [hFind]
      constructor
      · intro e he
        obtain ⟨old, hOld, hSame⟩ := List.mem_map.1 he
        have hHeld := h old hOld
        by_cases hKey : old.key = ⟨frameId, maxEdge⟩
        · rw [if_pos hKey] at hSame
          rw [← hSame]
          exact hHeld
        · rw [if_neg hKey] at hSame
          rw [← hSame]
          exact hHeld
      · intro g hSome
        cases hSome
        have hKey : entry.key = ⟨frameId, maxEdge⟩ := by simpa using List.find?_some hFind
        rw [← hKey]
        exact h entry (List.mem_of_find?_eq_some hFind)

/-- An insertion of what the key allows. -/
def Allowed (P : ScrubPreviewKey → OwnedRgbaFrame → Prop) : PreviewOp → Prop
  | .insert frameId maxEdge pixels => P ⟨frameId, maxEdge⟩ pixels
  | _ => True

theorem Holds.applyOp (h : Holds P cache) {op : PreviewOp} (hAllowed : Allowed P op) :
    Holds P (applyOp cache op) := by
  cases op with
  | insert frameId maxEdge pixels => exact h.insert hAllowed
  | get frameId maxEdge => exact (h.get frameId maxEdge).1
  | setBudgetBytes budgetBytes =>
      have hSame : Holds P { cache with budgetBytes } := h
      exact hSame.evictUntilFits 0 false
  | setMaxFrames maxFrames =>
      have hSame : Holds P { cache with maxFrames } := h
      exact hSame.evictUntilFits 0 false
  | clear =>
      intro e he
      cases he

/-- After a run the cache holds what was allowed in. -/
theorem holds_cacheAfter {budgetBytes maxFrames : Nat} {ops : List PreviewOp}
    (h : ∀ op ∈ ops, Allowed P op) : Holds P (cacheAfter budgetBytes maxFrames ops) := by
  apply run_invariant (P := fun _ op => Allowed P op) (fun _ _ hCache hOp => hCache.applyOp hOp)
  · intro e he
    cases he
  · exact meets_of_forall h _

end Cache

/-! ## The consumer -/

section Consumer

variable {width height maxEdge : Nat} {target : Nat × Nat} {g : OwnedRgbaFrame}

theorem jsonLong_nonneg (value : Nat) : 0 ≤ jsonLong value := by
  unfold jsonLong
  split_ifs
  · omega
  · omega

theorem jsonLong_of_lt {value : Nat} (h : value < 2 ^ 63) : jsonLong value = value := if_pos h

theorem jsonInt_of_lt {value : Nat} (h : value < 2 ^ 31) : jsonInt value = value := by
  unfold jsonInt
  apply Int.bmod_eq_of_le
  · omega
  · omega

theorem name_mem_validSources (source : PreviewSource) : source.name ∈ validSources := by
  cases source with
  | previewRam => decide
  | sourceRam => decide
  | decoded => decide

/-- A descriptor of the size is accepted. -/
theorem parseResponse_accepts (hShape : Shape width height maxEdge target) (hSize : HasSize target g)
    (hEdge : 64 ≤ maxEdge) (hEdge' : maxEdge ≤ 1024) {sessionId : Int} (hSession : 0 < sessionId)
    (frameId : Nat) (timestampUs : Option Int) (source : PreviewSource) (decodedFrames : Nat)
    {capacity : Nat} (hCapacity : maxEdge * maxEdge * 4 ≤ capacity) :
    let details : PreviewDetails :=
      { sessionId, frameId, timestampUs, width := g.width, height := g.height
        strideBytes := g.strideBytes, byteLen := g.byteLen, source, decodedFrames }
    parseResponse details sessionId maxEdge capacity = some details.descriptor := by
  have hBytes : g.byteLen = target.1 * 4 * target.2 := by
    show g.pixels.length = _
    rw [g.pixels_length, hSize.stride, hSize.height]
  have hArea := hShape.area_lt hEdge'
  have hArea' := hShape.area_le
  have hArea'' : 1 ≤ target.1 * 4 * target.2 :=
    Nat.mul_pos (Nat.mul_pos hShape.width_pos (by omega)) hShape.height_pos
  have hWidth := hShape.width_pos
  have hHeight := hShape.height_pos
  have hWidth' := hShape.width_le_edge
  have hHeight' := hShape.height_le_edge
  have hFrame := jsonLong_nonneg frameId
  have hDecoded := jsonLong_nonneg decodedFrames
  have hProduct : ((target.1 * 4 : Nat) : Int) * (target.2 : Int) =
      ((target.1 * 4 * target.2 : Nat) : Int) := by
    push_cast
    rfl
  have hSquare : (maxEdge : Int) * maxEdge * 4 = ((maxEdge * maxEdge * 4 : Nat) : Int) := by
    push_cast
    rfl
  intro details
  have hDescriptor : details.descriptor =
      { sessionId, frameId := jsonLong frameId, timestampUs, width := (target.1 : Int)
        height := (target.2 : Int), strideBytes := ((target.1 * 4 : Nat) : Int)
        byteLen := ((target.1 * 4 * target.2 : Nat) : Int), source := source.name
        decodedFrames := jsonLong decodedFrames } := by
    show MicroscopePreviewDescriptor.mk sessionId (jsonLong frameId) timestampUs (jsonInt g.width)
      (jsonInt g.height) (jsonLong g.strideBytes) (jsonLong g.byteLen) source.name
      (jsonLong decodedFrames) = _
    rw [hSize.width, hSize.height, hSize.stride, hBytes, jsonInt_of_lt (by omega),
      jsonInt_of_lt (by omega), jsonLong_of_lt (show target.1 * 4 < 2 ^ 63 by omega),
      jsonLong_of_lt (show target.1 * 4 * target.2 < 2 ^ 63 by omega)]
  have hSane : details.descriptor.isSane maxEdge = true := by
    rw [hDescriptor]
    unfold MicroscopePreviewDescriptor.isSane
    dsimp only
    rw [if_neg (by omega), if_neg (by omega), if_neg (by omega),
      if_neg (not_not.2 (name_mem_validSources source)), if_neg (by omega), hProduct, hSquare,
      if_neg (by omega)]
    apply decide_eq_true
    omega
  unfold parseResponse
  dsimp only
  rw [hSane, hDescriptor]
  dsimp only
  rw [if_neg (by omega), if_neg]
  intro hNot
  simp only [ne_eq, not_true_eq_false, Bool.true_eq_false, false_or] at hNot
  omega

end Consumer

/-! ## Every response -/

section Responses

variable {π : Type} {convert : Converter π} {width height maxEdge : Nat} {target : Nat × Nat}

/-- What a request for a frame of `width` by `height` may find: frames that were decoded from it. -/
structure FoundFor (convert : Converter π) (width height maxEdge : Nat) (found : Findings) :
    Prop where
  cached : ∀ g, found.cachedPreview = some g → Produced convert width height maxEdge g
  source : ∀ f, found.sourcePixels = .ok (some f) → ∃ strideBytes pixels,
    OwnedRgbaFrame.new width height strideBytes pixels = .ok f
  navigated : ∀ g decodedFrames, found.navigated = .ok (g, decodedFrames) →
    Produced convert width height maxEdge g

/-- Each of the three ways leads to a preview of the frame. -/
theorem render_produced {found : Findings} {rendered : Rendered}
    (hFound : FoundFor convert width height maxEdge found)
    (h : found.render maxEdge = .ok rendered) :
    Produced convert width height maxEdge rendered.preview := by
  obtain ⟨-, -, h⟩ := bind_eq_ok.1 h
  cases hCached : found.cachedPreview with
  | some preview =>
      rw [hCached] at h
      obtain ⟨-, -, h⟩ := bind_eq_ok.1 h
      cases h
      exact hFound.cached preview hCached
  | none =>
      rw [hCached] at h
      obtain ⟨-, -, h⟩ := bind_eq_ok.1 h
      obtain ⟨sourcePixels, hSource, h⟩ := bind_eq_ok.1 h
      cases sourcePixels with
      | some f =>
          obtain ⟨-, -, h⟩ := bind_eq_ok.1 h
          obtain ⟨preview, hScaled, h⟩ := bind_eq_ok.1 h
          obtain ⟨-, -, h⟩ := bind_eq_ok.1 h
          cases h
          obtain ⟨strideBytes, pixels, hNew⟩ := hFound.source f hSource
          exact .scaled hNew (mapError_eq_ok.1 hScaled)
      | none =>
          obtain ⟨-, -, h⟩ := bind_eq_ok.1 h
          obtain ⟨navigated, hNavigated, h⟩ := bind_eq_ok.1 h
          obtain ⟨-, -, h⟩ := bind_eq_ok.1 h
          obtain ⟨-, -, h⟩ := bind_eq_ok.1 h
          cases h
          exact hFound.navigated navigated.1 navigated.2 hNavigated

/-- A preview of the right size leaves for the consumer, who accepts it. -/
theorem finishPreview_accepted {g : OwnedRgbaFrame} (hShape : Shape width height maxEdge target)
    (hSize : HasSize target g) (hEdge : 64 ≤ maxEdge) (hEdge' : maxEdge ≤ 1024) {sessionId : Int}
    (hSession : 0 < sessionId) (frameId : Nat) (timestampUs : Option Int) (source : PreviewSource)
    (decodedFrames : Nat) {destination : List UInt8}
    (hRoom : maxEdge * maxEdge * 4 ≤ destination.length) :
    ∃ details bytes, finishPreview sessionId frameId timestampUs g source decodedFrames
        destination = .ok (details, bytes) ∧
      (details.width, details.height) = target ∧
      parseResponse details sessionId maxEdge destination.length = some details.descriptor := by
  have hBytes : g.byteLen ≤ maxEdge * maxEdge * 4 := by
    show g.pixels.length ≤ _
    rw [g.pixels_length, hSize.stride, hSize.height]
    exact hShape.area_le
  refine ⟨_, _, if_neg (by omega), ?_,
    parseResponse_accepts hShape hSize hEdge hEdge' hSession frameId timestampUs source
      decodedFrames hRoom⟩
  dsimp only
  rw [hSize.width, hSize.height]

theorem previewEdge_of (hEdge : 64 ≤ maxEdge) (hEdge' : maxEdge ≤ 1024) :
    previewEdge maxEdge = some maxEdge := by
  unfold previewEdge toU32
  rw [if_pos (by omega), Int.toNat_natCast]
  exact Option.filter_some_pos (by simpa using ⟨hEdge, hEdge'⟩)

/-- What a request renders it delivers. -/
theorem renderPreview_of_render {found : Findings} {rendered : Rendered}
    (hFound : FoundFor convert width height maxEdge found)
    (hWidth : width < 2 ^ 32) (hHeight : height < 2 ^ 32) (hEdge : 64 ≤ maxEdge)
    (hEdge' : maxEdge ≤ 1024) (hTarget : previewDimensions width height maxEdge = .ok target)
    (hShape : Shape width height maxEdge target) {sessionId : Int} (hSession : 0 < sessionId)
    {frame : Nat × Option Int} (hFrame : found.target = .ok frame)
    (hRender : found.render maxEdge = .ok rendered) {destination : List UInt8}
    (hRoom : maxEdge * maxEdge * 4 ≤ destination.length) :
    ∃ details bytes, renderPreview sessionId maxEdge found destination = .ok (details, bytes) ∧
      (details.width, details.height) = target ∧
      parseResponse details sessionId maxEdge destination.length = some details.descriptor := by
  have hSize := (render_produced hFound hRender).hasSize hWidth hHeight hEdge hEdge' hTarget hShape
  obtain ⟨details, bytes, hFinish, hAccepted⟩ := finishPreview_accepted hShape hSize hEdge hEdge'
    hSession frame.1 frame.2 rendered.source rendered.decodedFrames hRoom
  refine ⟨details, bytes, ?_, hAccepted⟩
  unfold renderPreview
  rw [if_neg (by omega), previewEdge_of hEdge hEdge', hFrame]
  show found.render maxEdge >>= _ = _
  rw [hRender]
  exact hFinish

/-- A request that succeeds has rendered something. -/
theorem render_of_renderPreview {found : Findings} {sessionId : Int} {destination : List UInt8}
    {result : PreviewDetails × List UInt8} (hEdge : 64 ≤ maxEdge) (hEdge' : maxEdge ≤ 1024)
    (h : renderPreview sessionId maxEdge found destination = .ok result) :
    0 < sessionId ∧ (∃ frame, found.target = .ok frame) ∧
      ∃ rendered, found.render maxEdge = .ok rendered := by
  unfold renderPreview at h
  rw [previewEdge_of hEdge hEdge'] at h
  split_ifs at h with hSession
  obtain ⟨edge, hEdgeEq, h⟩ := bind_eq_ok.1 h
  cases hEdgeEq
  obtain ⟨frame, hFrame, h⟩ := bind_eq_ok.1 h
  obtain ⟨rendered, hRender, -⟩ := bind_eq_ok.1 h
  exact ⟨by omega, ⟨frame, hFrame⟩, rendered, hRender⟩

end Responses

/-- The entries that the producers make when the frame `id` of the source has the size
`size id`. -/
def PreviewOf {π : Type} (convert : Converter π) (size : Nat → Nat × Nat) (key : ScrubPreviewKey)
    (g : OwnedRgbaFrame) : Prop :=
  Produced convert (size key.frameId).1 (size key.frameId).2 key.maxEdge g

/-- One size for every producer, and every response is accepted. -/
theorem every_preview_accepted {π : Type} (convert : Converter π) (size : Nat → Nat × Nat)
    (frameId : Nat) (hWidth : 1 ≤ (size frameId).1) (hWidth' : (size frameId).1 < 2 ^ 32)
    (hHeight : 1 ≤ (size frameId).2) (hHeight' : (size frameId).2 < 2 ^ 32) {maxEdge : Nat}
    (hEdge : 64 ≤ maxEdge) (hEdge' : maxEdge ≤ 1024) :
    ∃ target,
      previewDimensions (size frameId).1 (size frameId).2 maxEdge = .ok target ∧
      Shape (size frameId).1 (size frameId).2 maxEdge target ∧
      (∀ g, Produced convert (size frameId).1 (size frameId).2 maxEdge g → HasSize target g) ∧
      (∀ strideBytes pixels f,
        OwnedRgbaFrame.new (size frameId).1 (size frameId).2 strideBytes pixels = .ok f →
          ∃ g, downscaleScrubPreview f maxEdge = .ok g) ∧
      (∀ d frame, frame.width = (size frameId).1 → frame.height = (size frameId).2 →
        Convertible convert d frame →
          ∃ preview, d.snapshotCurrentFramePreviewRgba convert false frame maxEdge ⟨true, none⟩ =
            .ok preview) ∧
      (∀ frame strideBytes pixels f, frame.width = (size frameId).1 →
        frame.height = (size frameId).2 →
        OwnedRgbaFrame.new (size frameId).1 (size frameId).2 strideBytes pixels = .ok f →
          ∃ preview, fallbackPreviewRgba (.ok ⟨frame, strideBytes, pixels⟩) maxEdge =
            .ok preview) ∧
      ∀ budgetBytes maxFrames ops, (∀ op ∈ ops, Allowed (PreviewOf convert size) op) →
        ∀ found : Findings,
          found.cachedPreview =
            ((cacheAfter budgetBytes maxFrames ops).get frameId maxEdge).1 →
          (∀ f, found.sourcePixels = .ok (some f) → ∃ strideBytes pixels,
            OwnedRgbaFrame.new (size frameId).1 (size frameId).2 strideBytes pixels = .ok f) →
          (∀ g decodedFrames, found.navigated = .ok (g, decodedFrames) →
            Produced convert (size frameId).1 (size frameId).2 maxEdge g) →
          ∀ (sessionId : Int) (destination : List UInt8),
            maxEdge * maxEdge * 4 ≤ destination.length →
            (∀ details bytes,
              renderPreview sessionId maxEdge found destination = .ok (details, bytes) →
                (details.width, details.height) = target ∧
                  parseResponse details sessionId maxEdge destination.length =
                    some details.descriptor) ∧
            (0 < sessionId → ∀ frame rendered, found.target = .ok frame →
              found.render maxEdge = .ok rendered →
                ∃ result, renderPreview sessionId maxEdge found destination = .ok result) := by
  obtain ⟨target, hTarget, hShape⟩ :=
    previewDimensions_shape hWidth hWidth' hHeight hHeight' hEdge hEdge'
  refine ⟨target, hTarget, hShape, ?_, ?_, ?_, ?_, ?_⟩
  · intro g hProduced
    exact hProduced.hasSize hWidth' hHeight' hEdge hEdge' hTarget hShape
  · intro strideBytes pixels f hNew
    obtain ⟨g, hScaled, -⟩ := downscale_hasSize hNew hWidth' hHeight' hEdge hEdge' hTarget hShape
    exact ⟨g, hScaled⟩
  · intro d frame hFrameWidth hFrameHeight hConvertible
    rw [← hFrameWidth, ← hFrameHeight] at hTarget hShape
    exact snapshotPreview_ok hConvertible hTarget hShape hEdge'
  · intro frame strideBytes pixels f hFrameWidth hFrameHeight hNew
    rw [← hFrameWidth] at hTarget hShape hNew hWidth'
    rw [← hFrameHeight] at hTarget hShape hNew hHeight'
    obtain ⟨preview, -, hPreview, -⟩ :=
      fallback_hasSize hNew hWidth' hHeight' hEdge hEdge' hTarget hShape
    exact ⟨preview, hPreview⟩
  · intro budgetBytes maxFrames ops hOps found hCached hSource hNavigated sessionId destination
      hRoom
    have hFound : FoundFor convert (size frameId).1 (size frameId).2 maxEdge found := by
      refine ⟨?_, hSource, hNavigated⟩
      intro g hSome
      rw [hCached] at hSome
      exact ((holds_cacheAfter hOps).get frameId maxEdge).2 g hSome
    constructor
    · intro details bytes hResult
      obtain ⟨hSession, ⟨frame, hFrame⟩, rendered, hRender⟩ :=
        render_of_renderPreview hEdge hEdge' hResult
      obtain ⟨details', bytes', hResult', hAccepted⟩ := renderPreview_of_render hFound hWidth'
        hHeight' hEdge hEdge' hTarget hShape hSession hFrame hRender hRoom
      cases hResult'.symm.trans hResult
      exact hAccepted
    · intro hSession frame rendered hFrame hRender
      obtain ⟨details, bytes, hResult, -⟩ := renderPreview_of_render hFound hWidth' hHeight' hEdge
        hEdge' hTarget hShape hSession hFrame hRender hRoom
      exact ⟨(details, bytes), hResult⟩

/-- A source of 1920 by 1080 pixels under an edge of 640. -/
theorem every_preview_accepted_fullHd :
    ∃ target, previewDimensions 1920 1080 640 = .ok target ∧ Shape 1920 1080 640 target := by
  obtain ⟨target, hTarget, hShape, -⟩ := every_preview_accepted
    (fun (_ : Unit) _ width _ => ((width * 4 : Nat), [])) (fun _ => (1920, 1080)) 0 (by decide) (by decide)
    (by decide) (by decide) (show 64 ≤ 640 by decide) (by decide)
  exact ⟨target, hTarget, hShape⟩

end FrameScope.Ports.PreviewDeliveryLaw
