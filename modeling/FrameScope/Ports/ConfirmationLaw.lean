import FrameScope.Verified.Bilinear
import FrameScope.Ports.GlobalDescriptors

/-!
# The confirmation score

`confirmationSimilarity` is the best of the scores of nine translations and of
fifteen crops, each crop in both orientations.  A translation of one picture
over the other is the opposite translation of the other over the one, pixel by
pixel, so the order of the two does not matter.

The second half runs the same computation on machine integers and in bounds.
-/

namespace FrameScope.Ports.ConfirmationLaw

open FrameScope.Verified.Checked
open FrameScope.Verified.Bilinear
open FrameScope.Ports.Core
open FrameScope.Ports.Similarity (absDiff)
open FrameScope.Ports.GlobalDescriptors

/-- The bytes of the picture of a descriptor. -/
structure Picture where
  bytes : List UInt8
  length_eq : bytes.length = normalizedRgbBytes

/-- The picture of a frame's descriptor. -/
def Picture.ofFrame (frameId : Nat) (frame : FrameCache.OwnedRgbaFrame) : Picture where
  bytes := (descriptorForFrame frameId frame).normalizedRgb
  length_eq := length_resampleRgb frame normalizedSide normalizedSide

/-! ## Best of a loop -/

/-- The best value of a loop is below a bound when every value is. -/
theorem foldl_le_iff {α : Type} {f : Nat → α → Nat} {P : α → Prop} {bound : Nat} {items : List α}
    (h : ∀ best, ∀ x ∈ items, f best x ≤ bound ↔ best ≤ bound ∧ P x) :
    ∀ best, items.foldl f best ≤ bound ↔ best ≤ bound ∧ ∀ x ∈ items, P x := by
  induction items with
  | nil =>
      intro best
      simp
  | cons x rest ih =>
      intro best
      rw [List.foldl_cons, ih (fun b y hy => h b y (List.mem_cons_of_mem x hy)),
        h best x List.mem_cons_self, List.forall_mem_cons, and_assoc]

/-! ## Scores -/

theorem absDiff_comm (a b : Nat) : absDiff a b = absDiff b a := by
  unfold absDiff
  omega

theorem absDiff_self (a : Nat) : absDiff a a = 0 := by
  unfold absDiff
  omega

theorem scoreFromDifference_le (difference channels : Nat) :
    scoreFromDifference difference channels ≤ similarityScale := by
  unfold scoreFromDifference
  split_ifs
  · exact Nat.zero_le _
  · exact Nat.sub_le _ _

/-- No difference gives the best score. -/
theorem scoreFromDifference_zero {channels : Nat} (h : 0 < channels) :
    scoreFromDifference 0 channels = similarityScale := by
  unfold scoreFromDifference
  have hHalf : (0 * similarityScale + channels * 255 / 2) / (channels * 255) = 0 :=
    Nat.div_eq_of_lt (by omega)
  rw [if_neg (by omega)]
  dsimp only
  rw [hHalf]
  rfl

/-- The pairs of cells that a translation puts over each other. -/
def overlapOf (dy dx : Int) : List ((Nat × Nat) × (Nat × Nat)) :=
  cells.filterMap fun cell => (translatedCell dy dx cell).map fun moved => (cell, moved)

/-- The channels of the pairs. -/
def overlapChannels (dy dx : Int) : List (((Nat × Nat) × (Nat × Nat)) × Nat) :=
  (overlapOf dy dx).flatMap fun pair => (List.range 3).map fun channel => (pair, channel)

/-- The difference of two pictures in one channel of a pair of cells. -/
def pairDifference (left right : List UInt8) (sample : ((Nat × Nat) × (Nat × Nat)) × Nat) : Nat :=
  absDiff (byteAt left (channelIndex sample.1.1 sample.2))
    (byteAt right (channelIndex sample.1.2 sample.2))

theorem translatedScore_eq (left right : List UInt8) (dy dx : Int) :
    translatedScore left right dy dx =
      scoreFromDifference ((overlapChannels dy dx).map (pairDifference left right)).sum
        (overlapChannels dy dx).length := by
  have hSamples : (overlapChannels dy dx).map (pairDifference left right) =
      (overlapOf dy dx).flatMap fun pair => (List.range 3).map fun channel =>
        absDiff (byteAt left (channelIndex pair.1 channel))
          (byteAt right (channelIndex pair.2 channel)) := by
    unfold overlapChannels
    rw [List.map_flatMap]
    rfl
  rw [← List.length_map (pairDifference left right), hSamples]
  rfl

theorem cells_eq_product : cells = List.range normalizedSide ×ˢ List.range normalizedSide := rfl

theorem mem_cells {cell : Nat × Nat} :
    cell ∈ cells ↔ cell.1 < normalizedSide ∧ cell.2 < normalizedSide := by
  rw [cells_eq_product, List.mem_product, List.mem_range, List.mem_range]

theorem nodup_cells : cells.Nodup := by
  rw [cells_eq_product]
  exact List.nodup_range.product List.nodup_range

theorem translatedCell_eq_some {dy dx : Int} {cell moved : Nat × Nat} :
    translatedCell dy dx cell = some moved ↔
      (moved.1 : Int) = cell.1 + dy ∧ (moved.2 : Int) = cell.2 + dx ∧
        moved.1 < normalizedSide ∧ moved.2 < normalizedSide := by
  unfold translatedCell
  dsimp only
  split_ifs with h
  · rw [Option.some.injEq]
    constructor
    · intro hMoved
      rw [← hMoved]
      dsimp only
      omega
    · intro hMoved
      apply Prod.ext
      · dsimp only
        omega
      · dsimp only
        omega
  · constructor
    · intro hMoved
      cases hMoved
    · intro hMoved
      omega

theorem mem_overlapOf {dy dx : Int} {pair : (Nat × Nat) × (Nat × Nat)} :
    pair ∈ overlapOf dy dx ↔
      pair.1 ∈ cells ∧ translatedCell dy dx pair.1 = some pair.2 := by
  unfold overlapOf
  rw [List.mem_filterMap]
  constructor
  · intro h
    obtain ⟨cell, hCell, hMap⟩ := h
    obtain ⟨moved, hMoved, rfl⟩ := Option.map_eq_some_iff.1 hMap
    exact ⟨hCell, hMoved⟩
  · intro h
    exact ⟨pair.1, h.1, by rw [h.2]; rfl⟩

/-- The opposite translation pairs the same cells, the other way round. -/
theorem mem_overlapOf_swap {dy dx : Int} {pair : (Nat × Nat) × (Nat × Nat)} :
    pair ∈ overlapOf (-dy) (-dx) ↔ pair.swap ∈ overlapOf dy dx := by
  rw [mem_overlapOf, mem_overlapOf, mem_cells, mem_cells, translatedCell_eq_some,
    translatedCell_eq_some, Prod.fst_swap, Prod.snd_swap]
  omega

theorem nodup_overlapOf (dy dx : Int) : (overlapOf dy dx).Nodup := by
  apply List.Nodup.filterMap ?_ nodup_cells
  intro cell cell' pair h h'
  obtain ⟨_, _, hPair⟩ := Option.map_eq_some_iff.1 h
  obtain ⟨_, _, hPair'⟩ := Option.map_eq_some_iff.1 h'
  rw [← hPair'] at hPair
  exact (Prod.ext_iff.1 hPair).1

theorem overlapOf_perm (dy dx : Int) :
    ((overlapOf dy dx).map Prod.swap).Perm (overlapOf (-dy) (-dx)) := by
  apply (List.perm_ext_iff_of_nodup ?_ (nodup_overlapOf _ _)).2
  · intro pair
    rw [mem_overlapOf_swap, List.mem_map]
    constructor
    · intro h
      obtain ⟨pair', hPair', rfl⟩ := h
      rwa [Prod.swap_swap]
    · intro h
      exact ⟨pair.swap, h, Prod.swap_swap pair⟩
  · exact (nodup_overlapOf dy dx).map Prod.swap_injective

/-- A sample the other way round. -/
def swapSample (sample : ((Nat × Nat) × (Nat × Nat)) × Nat) : ((Nat × Nat) × (Nat × Nat)) × Nat :=
  (sample.1.swap, sample.2)

theorem overlapChannels_perm (dy dx : Int) :
    ((overlapChannels dy dx).map swapSample).Perm (overlapChannels (-dy) (-dx)) := by
  have hMap : (overlapChannels dy dx).map swapSample =
      ((overlapOf dy dx).map Prod.swap).flatMap fun pair =>
        (List.range 3).map fun channel => (pair, channel) := by
    unfold overlapChannels
    rw [List.map_flatMap, List.flatMap_map]
    rfl
  rw [hMap]
  exact (overlapOf_perm dy dx).flatMap_right _

theorem pairDifference_swap (left right : List UInt8)
    (sample : ((Nat × Nat) × (Nat × Nat)) × Nat) :
    pairDifference right left (swapSample sample) = pairDifference left right sample :=
  absDiff_comm _ _

/-- A translation and the opposite one give the same score. -/
theorem translatedScore_swap (left right : List UInt8) (dy dx : Int) :
    translatedScore right left (-dy) (-dx) = translatedScore left right dy dx := by
  have hPerm := overlapChannels_perm dy dx
  have hSum : ((overlapChannels (-dy) (-dx)).map (pairDifference right left)).sum =
      ((overlapChannels dy dx).map (pairDifference left right)).sum := by
    rw [← (hPerm.map (pairDifference right left)).sum_eq, List.map_map]
    congr 2
    funext sample
    exact pairDifference_swap left right sample
  have hLength : (overlapChannels (-dy) (-dx)).length = (overlapChannels dy dx).length := by
    rw [← hPerm.length_eq, List.length_map]
  rw [translatedScore_eq, translatedScore_eq, hSum, hLength]

/-! ## The best score -/

section Best

variable {left right : List UInt8} {bound : Nat}

/-- The shifts of one axis. -/
def shifts : List Int := [-1, 0, 1]

theorem translationSimilarity_le_iff :
    translationSimilarity left right ≤ bound ↔
      ∀ dy ∈ shifts, ∀ dx ∈ shifts, translatedScore left right dy dx ≤ bound := by
  unfold translationSimilarity
  rw [foldl_le_iff (P := fun dy => ∀ dx ∈ shifts, translatedScore left right dy dx ≤ bound)]
  · rw [and_iff_right (Nat.zero_le bound)]
    rfl
  · intro best dy _
    rw [foldl_le_iff (P := fun dx => translatedScore left right dy dx ≤ bound)]
    · rfl
    · intro best dx _
      exact Nat.max_le

/-- The crops that are tried. -/
def IsCrop (insetX insetY : Nat) : Prop :=
  insetX ∈ scaleInsetsQ16 ∧ insetY ∈ scaleInsetsQ16 ∧ ¬(insetX = 0 ∧ insetY = 0)

/-- The score that `confirmationSimilarity` gives for two valid pictures. -/
def bestScore (left right : List UInt8) : Nat :=
  scaleInsetsQ16.foldl (fun best insetX => scaleInsetsQ16.foldl (fun best insetY =>
    if insetX = 0 ∧ insetY = 0 then best
    else max (max best (scaledSimilarity left right insetX insetY))
      (scaledSimilarity right left insetX insetY)) best) (translationSimilarity left right)

theorem confirmationSimilarity_eq (hLeft : left.length = normalizedRgbBytes)
    (hRight : right.length = normalizedRgbBytes) :
    confirmationSimilarity left right = .ok (bestScore left right) := by
  unfold confirmationSimilarity validateDescriptorBytes
  rw [ensure_true hLeft, ensure_true hRight]
  rfl

theorem bestScore_le_iff :
    bestScore left right ≤ bound ↔
      (∀ dy ∈ shifts, ∀ dx ∈ shifts, translatedScore left right dy dx ≤ bound) ∧
      ∀ insetX insetY, IsCrop insetX insetY →
        scaledSimilarity left right insetX insetY ≤ bound ∧
          scaledSimilarity right left insetX insetY ≤ bound := by
  unfold bestScore
  rw [foldl_le_iff (P := fun insetX => ∀ insetY ∈ scaleInsetsQ16, ¬(insetX = 0 ∧ insetY = 0) →
      scaledSimilarity left right insetX insetY ≤ bound ∧
        scaledSimilarity right left insetX insetY ≤ bound), translationSimilarity_le_iff]
  · refine and_congr_right fun _ => ?_
    constructor
    · intro h insetX insetY hCrop
      exact h insetX hCrop.1 insetY hCrop.2.1 hCrop.2.2
    · intro h insetX hX insetY hY hNone
      exact h insetX insetY ⟨hX, hY, hNone⟩
  · intro best insetX _
    rw [foldl_le_iff (P := fun insetY => ¬(insetX = 0 ∧ insetY = 0) →
      scaledSimilarity left right insetX insetY ≤ bound ∧
        scaledSimilarity right left insetX insetY ≤ bound)]
    intro best insetY _
    by_cases hNone : insetX = 0 ∧ insetY = 0
    · rw [if_pos hNone]
      simp [hNone]
    · rw [if_neg hNone, Nat.max_le, Nat.max_le, and_assoc]
      simp [hNone]

theorem neg_mem_shifts {d : Int} (h : d ∈ shifts) : -d ∈ shifts := by
  unfold shifts at *
  simp only [List.mem_cons, List.not_mem_nil, or_false] at *
  omega

theorem bestScore_le_swap : bestScore right left ≤ bestScore left right := by
  obtain ⟨hShifts, hCrops⟩ := bestScore_le_iff.1 (Nat.le_refl (bestScore left right))
  apply bestScore_le_iff.2
  constructor
  · intro dy hDy dx hDx
    have hSwap := translatedScore_swap left right (-dy) (-dx)
    rw [neg_neg, neg_neg] at hSwap
    rw [hSwap]
    exact hShifts (-dy) (neg_mem_shifts hDy) (-dx) (neg_mem_shifts hDx)
  · intro insetX insetY hCrop
    exact (hCrops insetX insetY hCrop).symm

/-- The score does not depend on the order of the pictures. -/
theorem bestScore_comm : bestScore left right = bestScore right left :=
  Nat.le_antisymm bestScore_le_swap bestScore_le_swap

theorem translatedScore_le (left right : List UInt8) (dy dx : Int) :
    translatedScore left right dy dx ≤ similarityScale := scoreFromDifference_le _ _

theorem scaledSimilarity_le (left right : List UInt8) (insetX insetY : Nat) :
    scaledSimilarity left right insetX insetY ≤ similarityScale := scoreFromDifference_le _ _

theorem bestScore_le : bestScore left right ≤ similarityScale := by
  apply bestScore_le_iff.2
  constructor
  · intro dy _ dx _
    exact translatedScore_le left right dy dx
  · intro insetX insetY _
    exact ⟨scaledSimilarity_le left right insetX insetY,
      scaledSimilarity_le right left insetX insetY⟩

/-- Where nothing is moved, every cell lies over itself. -/
theorem overlapOf_self {pair : (Nat × Nat) × (Nat × Nat)} (h : pair ∈ overlapOf 0 0) :
    pair.2 = pair.1 := by
  obtain ⟨-, hMoved⟩ := mem_overlapOf.1 h
  obtain ⟨hY, hX, -, -⟩ := translatedCell_eq_some.1 hMoved
  apply Prod.ext
  · omega
  · omega

theorem overlapChannels_nonempty : 0 < (overlapChannels 0 0).length := by
  have hCell : ((0, 0), (0, 0)) ∈ overlapOf 0 0 := by
    rw [mem_overlapOf, mem_cells, translatedCell_eq_some]
    decide
  apply List.length_pos_of_mem (a := (((0, 0), (0, 0)), 0))
  exact List.mem_flatMap.2 ⟨_, hCell, List.mem_map.2 ⟨0, by decide, rfl⟩⟩

theorem translatedScore_self (bytes : List UInt8) :
    translatedScore bytes bytes 0 0 = similarityScale := by
  rw [translatedScore_eq]
  have hZero : ((overlapChannels 0 0).map (pairDifference bytes bytes)).sum = 0 := by
    apply List.sum_eq_zero
    intro difference hDifference
    obtain ⟨sample, hSample, rfl⟩ := List.mem_map.1 hDifference
    obtain ⟨pair, hPair, hSample⟩ := List.mem_flatMap.1 hSample
    obtain ⟨channel, -, rfl⟩ := List.mem_map.1 hSample
    unfold pairDifference
    rw [overlapOf_self hPair]
    exact absDiff_self _
  rw [hZero]
  exact scoreFromDifference_zero overlapChannels_nonempty

theorem bestScore_self (bytes : List UInt8) : bestScore bytes bytes = similarityScale := by
  apply Nat.le_antisymm bestScore_le
  rw [← translatedScore_self bytes]
  exact (bestScore_le_iff.1 (Nat.le_refl _)).1 0 (by decide) 0 (by decide)

end Best

/-! ## The computation on machine integers -/

/-- `score_from_difference`. -/
def checkedScore (difference channels : Nat) : Option Nat :=
  if channels = 0 then some 0
  else do
    let maximum ← mul 64 channels 255
    let scaled ← mul 64 difference similarityScale
    let rounded ← add 64 scaled (maximum / 2)
    let differenceBps ← div rounded maximum
    sub similarityScale (min differenceBps similarityScale)

/-- The index of a channel of a cell, as `usize`. -/
def checkedIndex (cell : Nat × Nat) (channel : Nat) : Option Nat := do
  let row ← mul 64 cell.1 normalizedSide
  let pixel ← add 64 row cell.2
  let start ← mul 64 pixel 3
  add 64 start channel

/-- A byte of a picture, read in bounds. -/
def checkedByte (bytes : List UInt8) (cell : Nat × Nat) (channel : Nat) : Option Nat := do
  let index ← checkedIndex cell channel
  let byte ← bytes[index]?
  some byte.toNat

/-- The cells that a translation puts over each other; the shifted coordinates are `i32`. -/
def checkedOverlap (dy dx : Int) : Option (List ((Nat × Nat) × (Nat × Nat))) := do
  let _ ← collect (fun cell : Nat × Nat => fitInt 32 (cell.1 + dy)) cells
  let _ ← collect (fun cell : Nat × Nat => fitInt 32 (cell.2 + dx)) cells
  some (overlapOf dy dx)

/-- One round of `translation_similarity`: the difference and the channels are `u64` counters. -/
def checkedTranslatedScore (left right : List UInt8) (dy dx : Int) : Option Nat := do
  let overlap ← checkedOverlap dy dx
  let samples := overlap.flatMap fun pair => (List.range 3).map fun channel => (pair, channel)
  let difference ← accumulate 64 (fun sample => do
    let leftByte ← checkedByte left sample.1.1 sample.2
    let rightByte ← checkedByte right sample.1.2 sample.2
    some (absDiff leftByte rightByte)) 0 samples
  let channels ← accumulate 64 (fun _ => some 1) 0 samples
  checkedScore difference channels

/-- `translation_similarity`. -/
def checkedTranslationSimilarity (left right : List UInt8) : Option Nat :=
  shifts.foldlM (fun best dy => shifts.foldlM (fun best dx => do
    let score ← checkedTranslatedScore left right dy dx
    some (max best score)) best) 0

/-- `sample_descriptor_channel`. -/
def checkedSampleDescriptorChannel (descriptor : List UInt8) (xQ16 yQ16 channel : Nat) :
    Option Nat := do
  let maxIndex ← sub normalizedSide 1
  let x0 := min (xQ16 / 2 ^ 16) maxIndex
  let y0 := min (yQ16 / 2 ^ 16) maxIndex
  let nextX ← add 64 x0 1
  let nextY ← add 64 y0 1
  let x1 := min nextX maxIndex
  let y1 := min nextY maxIndex
  let p00 ← checkedByte descriptor (y0, x0) channel
  let p10 ← checkedByte descriptor (y0, x1) channel
  let p01 ← checkedByte descriptor (y1, x0) channel
  let p11 ← checkedByte descriptor (y1, x1) channel
  checkedBilinear p00 p10 p01 p11 (xQ16 % 2 ^ 16) (yQ16 % 2 ^ 16)

/-- The coordinate that a crop reads for a cell. -/
def checkedCroppedCoordinate (insetQ16 i : Nat) : Option Nat := do
  let side ← sub normalizedSide 1
  let inset ← mul 64 insetQ16 2
  let span := side * 2 ^ 16 - inset
  let product ← mul 64 i span
  let offset ← div product side
  add 64 insetQ16 offset

/-- `scaled_similarity`. -/
def checkedScaledSimilarity (source target : List UInt8) (insetXQ16 insetYQ16 : Nat) :
    Option Nat := do
  let difference ← accumulate 64 (fun sample : (Nat × Nat) × Nat => do
    let sourceY ← checkedCroppedCoordinate insetYQ16 sample.1.1
    let sourceX ← checkedCroppedCoordinate insetXQ16 sample.1.2
    let sampled ← checkedSampleDescriptorChannel source sourceX sourceY sample.2
    let targetByte ← checkedByte target sample.1 sample.2
    some (absDiff sampled targetByte)) 0
    (cells.flatMap fun cell => (List.range 3).map fun channel => (cell, channel))
  checkedScore difference normalizedRgbBytes

/-- The computation of `confirmation_similarity` once the lengths have been checked. -/
def checkedConfirmation (left right : List UInt8) : Option Nat := do
  let translated ← checkedTranslationSimilarity left right
  scaleInsetsQ16.foldlM (fun best insetX => scaleInsetsQ16.foldlM (fun best insetY =>
    if insetX = 0 ∧ insetY = 0 then some best
    else do
      let forward ← checkedScaledSimilarity left right insetX insetY
      let backward ← checkedScaledSimilarity right left insetX insetY
      some (max (max best forward) backward)) best) translated

section Bounds

theorem checkedIndex_of {cell : Nat × Nat} (h : cell ∈ cells) {channel : Nat} (hChannel : channel < 3) :
    checkedIndex cell channel = some (channelIndex cell channel) ∧
      channelIndex cell channel < normalizedRgbBytes := by
  obtain ⟨hY, hX⟩ := mem_cells.1 h
  unfold channelIndex normalizedRgbBytes normalizedSide at *
  constructor
  · unfold checkedIndex normalizedSide
    apply bind_of (mul_of (by omega))
    apply bind_of (add_of (by omega))
    apply bind_of (mul_of (by omega))
    exact add_of (by omega)
  · omega

theorem byteAt_le (bytes : List UInt8) (i : Nat) : byteAt bytes i ≤ 255 := by
  have := (bytes.getD i 0).toNat_lt
  unfold byteAt
  omega

/-- A byte of a cell is read in bounds. -/
theorem checkedByte_of {bytes : List UInt8} (hLength : bytes.length = normalizedRgbBytes)
    {cell : Nat × Nat} (h : cell ∈ cells) {channel : Nat} (hChannel : channel < 3) :
    checkedByte bytes cell channel = some (byteAt bytes (channelIndex cell channel)) := by
  obtain ⟨hIndex, hLt⟩ := checkedIndex_of h hChannel
  rw [← hLength] at hLt
  apply bind_of hIndex
  apply bind_of (List.getElem?_eq_getElem hLt)
  unfold byteAt
  rw [List.getD_eq_getElem?_getD, List.getElem?_eq_getElem hLt]
  rfl

theorem absDiff_le {a b bound : Nat} (ha : a ≤ bound) (hb : b ≤ bound) : absDiff a b ≤ bound := by
  unfold absDiff
  omega

/-- A score is computed without overflow while the counters are small. -/
theorem checkedScore_of {difference channels : Nat} (hDifference : difference < 2 ^ 48)
    (hChannels : channels < 2 ^ 48) :
    checkedScore difference channels = some (scoreFromDifference difference channels) := by
  unfold checkedScore scoreFromDifference similarityScale
  by_cases hNone : channels = 0
  · rw [if_pos hNone, if_pos hNone]
  · rw [if_neg hNone, if_neg hNone]
    apply bind_of (mul_of (by omega))
    apply bind_of (mul_of (by omega))
    apply bind_of (add_of (by omega))
    apply bind_of (div_of (by omega))
    exact sub_of (Nat.min_le_right _ _)

/-- What `absDiff` of two checked bytes is. -/
theorem checkedDifference_of {x y : Option Nat} {a b : Nat} (hx : x = some a) (hy : y = some b) :
    (do
      let first ← x
      let second ← y
      some (absDiff first second)) = some (absDiff a b) :=
  bind_of hx (bind_of hy rfl)

theorem length_cells : cells.length = 256 := by
  rw [cells_eq_product, List.length_product, List.length_range]
  rfl

/-- There are three channels to a cell. -/
theorem length_channels {α : Type} (items : List α) :
    (items.flatMap fun item => (List.range 3).map fun channel => (item, channel)).length =
      items.length * 3 := by
  simp [List.length_flatMap]

theorem mem_channels {α : Type} {items : List α} {sample : α × Nat}
    (h : sample ∈ items.flatMap fun item => (List.range 3).map fun channel => (item, channel)) :
    sample.1 ∈ items ∧ sample.2 < 3 := by
  obtain ⟨item, hItem, hSample⟩ := List.mem_flatMap.1 h
  obtain ⟨channel, hChannel, rfl⟩ := List.mem_map.1 hSample
  exact ⟨hItem, List.mem_range.1 hChannel⟩

theorem mem_shifts {d : Int} (h : d ∈ shifts) : -1 ≤ d ∧ d ≤ 1 := by
  unfold shifts at h
  simp only [List.mem_cons, List.not_mem_nil, or_false] at h
  omega

variable {left right : List UInt8}

theorem checkedOverlap_of {dy dx : Int} (hDy : dy ∈ shifts) (hDx : dx ∈ shifts) :
    checkedOverlap dy dx = some (overlapOf dy dx) := by
  have hY := mem_shifts hDy
  have hX := mem_shifts hDx
  have hFirst : collect (fun cell : Nat × Nat => fitInt 32 (cell.1 + dy)) cells =
      some (cells.map fun cell => cell.1 + dy) := by
    apply collect_of
    intro cell hCell
    have hBounds := mem_cells.1 hCell
    unfold normalizedSide at hBounds
    exact fitInt_of (by omega) (by omega)
  have hSecond : collect (fun cell : Nat × Nat => fitInt 32 (cell.2 + dx)) cells =
      some (cells.map fun cell => cell.2 + dx) := by
    apply collect_of
    intro cell hCell
    have hBounds := mem_cells.1 hCell
    unfold normalizedSide at hBounds
    exact fitInt_of (by omega) (by omega)
  exact bind_of hFirst (bind_of hSecond rfl)

theorem length_overlapChannels (dy dx : Int) : (overlapChannels dy dx).length ≤ 768 := by
  unfold overlapChannels
  rw [length_channels]
  have hLength : (overlapOf dy dx).length ≤ cells.length := List.length_filterMap_le _ _
  rw [length_cells] at hLength
  omega

/-- Both cells of a pair lie in the pictures. -/
theorem cells_of_overlap {dy dx : Int} {pair : (Nat × Nat) × (Nat × Nat)}
    (h : pair ∈ overlapOf dy dx) : pair.1 ∈ cells ∧ pair.2 ∈ cells := by
  obtain ⟨hCell, hMoved⟩ := mem_overlapOf.1 h
  obtain ⟨-, -, hY, hX⟩ := translatedCell_eq_some.1 hMoved
  exact ⟨hCell, mem_cells.2 ⟨hY, hX⟩⟩

theorem checkedTranslatedScore_of (hLeft : left.length = normalizedRgbBytes)
    (hRight : right.length = normalizedRgbBytes) {dy dx : Int} (hDy : dy ∈ shifts)
    (hDx : dx ∈ shifts) :
    checkedTranslatedScore left right dy dx = some (translatedScore left right dy dx) := by
  have hLength := length_overlapChannels dy dx
  have hDifference : ((overlapChannels dy dx).map (pairDifference left right)).sum ≤
      (overlapChannels dy dx).length * 255 := by
    apply sum_map_le
    intro sample _
    exact absDiff_le (byteAt_le _ _) (byteAt_le _ _)
  have hOnes : ((overlapChannels dy dx).map fun _ => 1).sum =
      (overlapChannels dy dx).length := by simp
  rw [translatedScore_eq]
  apply bind_of (checkedOverlap_of hDy hDx)
  apply bind_of (v := ((overlapChannels dy dx).map (pairDifference left right)).sum)
  · show accumulate 64 _ 0 (overlapChannels dy dx) = _
    rw [← Nat.zero_add ((overlapChannels dy dx).map (pairDifference left right)).sum]
    apply accumulate_of ?_ (by omega)
    intro sample hSample
    obtain ⟨hPair, hChannel⟩ := mem_channels hSample
    obtain ⟨hCell, hMoved⟩ := cells_of_overlap hPair
    exact checkedDifference_of (checkedByte_of hLeft hCell hChannel)
      (checkedByte_of hRight hMoved hChannel)
  · apply bind_of (v := (overlapChannels dy dx).length)
    · show accumulate 64 _ 0 (overlapChannels dy dx) = _
      rw [← Nat.zero_add (overlapChannels dy dx).length, ← hOnes]
      exact accumulate_of (fun _ _ => rfl) (by omega)
    · exact checkedScore_of (by omega) (by omega)

theorem checkedTranslationSimilarity_of (hLeft : left.length = normalizedRgbBytes)
    (hRight : right.length = normalizedRgbBytes) :
    checkedTranslationSimilarity left right = some (translationSimilarity left right) := by
  apply foldlM_of
  intro best dy hDy
  apply foldlM_of
  intro best dx hDx
  exact bind_of (checkedTranslatedScore_of hLeft hRight hDy hDx) rfl

/-- A sample of a picture is read in bounds. -/
theorem checkedSampleDescriptorChannel_of (hLength : left.length = normalizedRgbBytes)
    (x y : Nat) {channel : Nat} (hChannel : channel < 3) :
    checkedSampleDescriptorChannel left x y channel =
      some (sampleDescriptorChannel left x y channel) := by
  have hCell : ∀ a b : Nat, (min a 15, min b 15) ∈ cells := by
    intro a b
    rw [mem_cells]
    unfold normalizedSide
    dsimp only
    omega
  apply bind_of (sub_of (show 1 ≤ normalizedSide by decide))
  apply bind_of (add_of (show min (x / 2 ^ 16) 15 + 1 < 2 ^ 64 by omega))
  apply bind_of (add_of (show min (y / 2 ^ 16) 15 + 1 < 2 ^ 64 by omega))
  apply bind_of (checkedByte_of hLength (hCell _ _) hChannel)
  apply bind_of (checkedByte_of hLength (hCell _ _) hChannel)
  apply bind_of (checkedByte_of hLength (hCell _ _) hChannel)
  apply bind_of (checkedByte_of hLength (hCell _ _) hChannel)
  exact checkedBilinear_of (by omega) (by omega) (byteAt_le _ _) (byteAt_le _ _)
    (byteAt_le _ _) (byteAt_le _ _)

theorem inset_le {inset : Nat} (h : inset ∈ scaleInsetsQ16) : inset ≤ 65536 := by
  unfold scaleInsetsQ16 at h
  simp only [List.mem_cons, List.not_mem_nil, or_false] at h
  omega

theorem checkedCroppedCoordinate_of {inset i : Nat} (hInset : inset ∈ scaleInsetsQ16)
    (hi : i < normalizedSide) :
    checkedCroppedCoordinate inset i = some (croppedCoordinate inset i) := by
  have hBound := inset_le hInset
  unfold normalizedSide at hi
  have hProduct : i * (15 * 2 ^ 16 - inset * 2) ≤ 15 * (15 * 2 ^ 16) :=
    Nat.mul_le_mul (by omega) (by omega)
  apply bind_of (sub_of (show 1 ≤ normalizedSide by decide))
  apply bind_of (mul_of (by omega))
  apply bind_of (mul_of (show i * (15 * 2 ^ 16 - inset * 2) < 2 ^ 64 by omega))
  apply bind_of (div_of (show 0 < 15 by decide))
  exact add_of (show inset + i * (15 * 2 ^ 16 - inset * 2) / 15 < 2 ^ 64 by omega)

/-- The channels of all cells. -/
def cellChannels : List ((Nat × Nat) × Nat) :=
  cells.flatMap fun cell => (List.range 3).map fun channel => (cell, channel)

/-- The difference between a crop and a picture in one channel of a cell. -/
def cropDifference (source target : List UInt8) (insetX insetY : Nat)
    (sample : (Nat × Nat) × Nat) : Nat :=
  absDiff (sampleDescriptorChannel source (croppedCoordinate insetX sample.1.2)
    (croppedCoordinate insetY sample.1.1) sample.2)
    (byteAt target (channelIndex sample.1 sample.2))

theorem scaledSimilarity_eq (source target : List UInt8) (insetX insetY : Nat) :
    scaledSimilarity source target insetX insetY =
      scoreFromDifference (cellChannels.map (cropDifference source target insetX insetY)).sum
        normalizedRgbBytes := by
  unfold scaledSimilarity cellChannels
  rw [List.map_flatMap]
  rfl

theorem length_cellChannels : cellChannels.length = 768 := by
  unfold cellChannels
  rw [length_channels, length_cells]

theorem checkedScaledSimilarity_of (hLeft : left.length = normalizedRgbBytes)
    (hRight : right.length = normalizedRgbBytes) {insetX insetY : Nat}
    (hX : insetX ∈ scaleInsetsQ16) (hY : insetY ∈ scaleInsetsQ16) :
    checkedScaledSimilarity left right insetX insetY =
      some (scaledSimilarity left right insetX insetY) := by
  have hLength := length_cellChannels
  have hSum : (cellChannels.map (cropDifference left right insetX insetY)).sum ≤
      cellChannels.length * 255 := by
    apply sum_map_le
    intro sample _
    exact absDiff_le (Nat.min_le_right _ _) (byteAt_le _ _)
  rw [scaledSimilarity_eq]
  apply bind_of (v := (cellChannels.map (cropDifference left right insetX insetY)).sum)
  · show accumulate 64 _ 0 cellChannels = _
    rw [← Nat.zero_add (cellChannels.map (cropDifference left right insetX insetY)).sum]
    apply accumulate_of ?_ (by omega)
    intro sample hSample
    obtain ⟨hCell, hChannel⟩ := mem_channels hSample
    obtain ⟨hRow, hColumn⟩ := mem_cells.1 hCell
    apply bind_of (checkedCroppedCoordinate_of hY hRow)
    apply bind_of (checkedCroppedCoordinate_of hX hColumn)
    exact checkedDifference_of (checkedSampleDescriptorChannel_of hLeft _ _ hChannel)
      (checkedByte_of hRight hCell hChannel)
  · exact checkedScore_of (by omega) (by decide)

/-- **The score is computed without overflow and in bounds.** -/
theorem checkedConfirmation_of (hLeft : left.length = normalizedRgbBytes)
    (hRight : right.length = normalizedRgbBytes) :
    checkedConfirmation left right = some (bestScore left right) := by
  apply bind_of (checkedTranslationSimilarity_of hLeft hRight)
  apply foldlM_of
  intro best insetX hX
  apply foldlM_of
  intro best insetY hY
  by_cases hNone : insetX = 0 ∧ insetY = 0
  · rw [if_pos hNone, if_pos hNone]
  · rw [if_neg hNone, if_neg hNone]
    apply bind_of (checkedScaledSimilarity_of hLeft hRight hX hY)
    exact bind_of (checkedScaledSimilarity_of hRight hLeft hX hY) rfl

end Bounds

/-- **The confirmation score is a proper score.**  It does not depend on the order of the
descriptors, lies in `0..=10000`, is the best possible one for equal descriptors, is at least every
score it is the best of, and is computed without overflow. -/
theorem confirmation_proper_score (a b : Picture) :
    ∃ score, confirmationSimilarity a.bytes b.bytes = .ok score ∧
      confirmationSimilarity b.bytes a.bytes = .ok score ∧
      score ≤ 10000 ∧
      (a = b → score = 10000) ∧
      translatedScore a.bytes b.bytes 0 0 ≤ score ∧
      (∀ dy ∈ shifts, ∀ dx ∈ shifts, translatedScore a.bytes b.bytes dy dx ≤ score) ∧
      (∀ insetX insetY, IsCrop insetX insetY →
        scaledSimilarity a.bytes b.bytes insetX insetY ≤ score ∧
          scaledSimilarity b.bytes a.bytes insetX insetY ≤ score) ∧
      checkedConfirmation a.bytes b.bytes = some score := by
  have hParts := bestScore_le_iff.1 (Nat.le_refl (bestScore a.bytes b.bytes))
  refine ⟨bestScore a.bytes b.bytes, confirmationSimilarity_eq a.length_eq b.length_eq, ?_,
    bestScore_le, ?_, hParts.1 0 (by decide) 0 (by decide), hParts.1, hParts.2,
    checkedConfirmation_of a.length_eq b.length_eq⟩
  · rw [bestScore_comm]
    exact confirmationSimilarity_eq b.length_eq a.length_eq
  · intro hEqual
    rw [hEqual]
    exact bestScore_self b.bytes

end FrameScope.Ports.ConfirmationLaw
