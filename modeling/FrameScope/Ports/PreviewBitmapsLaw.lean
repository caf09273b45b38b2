import FrameScope.Verified.Occupancy
import FrameScope.Verified.Runs
import FrameScope.Ports.PreviewBitmaps

/-!
# Who owns a preview bitmap

The bitmaps of the pool are the retained ones and the lent ones, and no bitmap is
both.  A lent one belongs to the lease that has not been returned.  The
references of a handle are counted by the parties that still have to release one:
the owner, every open draw lease, and every thread that is about to decrement.
Once the count is zero it stays zero, and one thread is left with the duty to
return the bitmap.
-/

namespace FrameScope.Ports.PreviewBitmapsLaw

open FrameScope.Verified.Occupancy
open FrameScope.Verified.Runs
open FrameScope.Ports.PreviewBitmaps

/-! ## The pool -/

/-- The retained bitmaps are within the limit and distinct; none of them is lent or recycled, and
neither is a lent one recycled. -/
structure Kept (pool : PreviewBitmapPool) (lent : Nat → Prop) : Prop where
  bound : pool.retained.length ≤ pool.maxRetainedBitmaps
  nodup : pool.retained.Nodup
  retained : ∀ b ∈ pool.retained, b < pool.nextBitmap ∧ pool.isRecycled b = false ∧ ¬ lent b
  lent_lt : ∀ b, lent b → b < pool.nextBitmap ∧ pool.isRecycled b = false
  fresh : ∀ b, pool.nextBitmap ≤ b → pool.isRecycled b = false

/-- The pool neither reconfigures nor recycles the bitmap. -/
structure Untouched (pool pool' : PreviewBitmapPool) (b : Nat) : Prop where
  recycled : pool'.isRecycled b = pool.isRecycled b
  reconfigured : pool'.reconfigured b = pool.reconfigured b

section Pool

variable {pool pool' pool'' : PreviewBitmapPool} {lent lent' : Nat → Prop} {bitmap b : Nat}
  {outcome : BorrowOutcome}

theorem Untouched.refl (pool : PreviewBitmapPool) (b : Nat) : Untouched pool pool b := ⟨rfl, rfl⟩

theorem Untouched.trans (h : Untouched pool pool' b) (h' : Untouched pool' pool'' b) :
    Untouched pool pool'' b :=
  ⟨h'.recycled.trans h.recycled, h'.reconfigured.trans h.reconfigured⟩

theorem Kept.congr (h : Kept pool lent) (hSame : ∀ b, lent' b ↔ lent b) : Kept pool lent' := by
  constructor
  · exact h.bound
  · exact h.nodup
  · intro b hb
    rw [hSame]
    exact h.retained b hb
  · intro b hb
    exact h.lent_lt b ((hSame b).1 hb)
  · exact h.fresh

/-- What the pool may do to the lent bitmaps when it lends one more, or none. -/
structure Lends (pool : PreviewBitmapPool) (lent : Nat → Prop)
    (result : Option Nat × PreviewBitmapPool) : Prop where
  new : ∀ bitmap, result.1 = some bitmap → ¬ lent bitmap
  kept : Kept result.2 fun b => lent b ∨ result.1 = some b
  untouched : ∀ b, lent b → Untouched pool result.2 b

theorem Lends.none (h : Kept pool lent) : Lends pool lent (none, pool) := by
  constructor
  · intro bitmap hNone
    cases hNone
  · apply h.congr
    intro b
    simp
  · exact fun b _ => .refl pool b

theorem lends_createBitmap (h : Kept pool lent) (outcome : BorrowOutcome) :
    Lends pool lent (pool.createBitmap outcome) := by
  unfold PreviewBitmapPool.createBitmap
  cases outcome.created with
  | none => exact .none h
  | some created =>
      have hNew : ¬ lent pool.nextBitmap := fun hLent => Nat.lt_irrefl _ (h.lent_lt _ hLent).1
      constructor
      · intro bitmap hSome
        cases hSome
        exact hNew
      · constructor
        · exact h.bound
        · exact h.nodup
        · intro b hb
          obtain ⟨hLt, hRecycled, hLent⟩ := h.retained b hb
          refine ⟨Nat.lt_succ_of_lt hLt, hRecycled, ?_⟩
          rintro (hOld | hSome)
          · exact hLent hOld
          · exact Nat.lt_irrefl b (Option.some.inj hSome ▸ hLt)
        · rintro b (hOld | hSome)
          · obtain ⟨hLt, hRecycled⟩ := h.lent_lt b hOld
            exact ⟨Nat.lt_succ_of_lt hLt, hRecycled⟩
          · have hb : pool.nextBitmap = b := Option.some.inj hSome
            rw [← hb]
            exact ⟨Nat.lt_succ_self _, h.fresh _ (Nat.le_refl _)⟩
        · intro b hb
          exact h.fresh b (Nat.le_of_succ_le hb)
      · exact fun b _ => ⟨rfl, rfl⟩

/-- A bitmap that is taken out is lent afterwards. -/
theorem Kept.takeAt (h : Kept pool lent) {index : Nat} (hAt : pool.retained[index]? = some bitmap) :
    Kept (pool.takeAt index bitmap) fun b => lent b ∨ b = bitmap := by
  obtain ⟨hIndex, hGet⟩ := List.getElem?_eq_some_iff.1 hAt
  have hMem : bitmap ∈ pool.retained := List.mem_of_getElem? hAt
  have hErase : pool.retained.eraseIdx index = pool.retained.erase bitmap := by
    rw [← h.nodup.erase_getElem index hIndex, hGet]
  constructor
  · exact Nat.le_trans (List.length_eraseIdx_le ..) h.bound
  · exact h.nodup.eraseIdx index
  · intro b hb
    have hRest : b ∈ pool.retained.erase bitmap := by rwa [← hErase]
    obtain ⟨hLt, hRecycled, hLent⟩ := h.retained b (List.mem_of_mem_erase hRest)
    refine ⟨hLt, hRecycled, ?_⟩
    rintro (hOld | hSame)
    · exact hLent hOld
    · rw [hSame] at hRest
      exact h.nodup.not_mem_erase hRest
  · rintro b (hOld | hSame)
    · exact h.lent_lt b hOld
    · rw [hSame]
      obtain ⟨hLt, hRecycled, -⟩ := h.retained bitmap hMem
      exact ⟨hLt, hRecycled⟩
  · exact h.fresh

/-- A lent bitmap that is recycled is gone. -/
theorem Kept.recycle (h : Kept pool lent) (hLent : lent bitmap) :
    Kept (pool.recycle bitmap) fun b => lent b ∧ b ≠ bitmap := by
  have hLt := (h.lent_lt bitmap hLent).1
  have hOther : ∀ b, b ≠ bitmap → (pool.recycle bitmap).isRecycled b = pool.isRecycled b :=
    fun b hNe => Function.update_of_ne hNe ..
  constructor
  · exact h.bound
  · exact h.nodup
  · intro b hb
    obtain ⟨hBound, hRecycled, hNot⟩ := h.retained b hb
    have hNe : b ≠ bitmap := fun hSame => hNot (hSame ▸ hLent)
    exact ⟨hBound, (hOther b hNe).trans hRecycled, fun hOld => hNot hOld.1⟩
  · rintro b ⟨hOld, hNe⟩
    obtain ⟨hBound, hRecycled⟩ := h.lent_lt b hOld
    exact ⟨hBound, (hOther b hNe).trans hRecycled⟩
  · intro b hb
    have hBound : pool.nextBitmap ≤ b := hb
    have hNe : b ≠ bitmap := by omega
    exact (hOther b hNe).trans (h.fresh b hb)

/-- `borrow` lends a bitmap that nobody has, and leaves the lent ones alone. -/
theorem lends_borrow (h : Kept pool lent) (width height : Int) (outcome : BorrowOutcome) :
    Lends pool lent (pool.borrow width height outcome) := by
  unfold PreviewBitmapPool.borrow
  by_cases hSize : width ≤ 0 ∨ height ≤ 0 ∨ 2 ^ 31 ≤ width * height * 4
  · rw [if_pos hSize]
    exact .none h
  rw [if_neg hSize]
  split
  · exact lends_createBitmap h outcome
  next index _ =>
    split
    · exact .none h
    next bitmap hAt =>
      have hTaken := h.takeAt hAt
      have hFree : ¬ lent bitmap := (h.retained bitmap (List.mem_of_getElem? hAt)).2.2
      have hUntouched : ∀ b, lent b → Untouched pool (pool.takeAt index bitmap) b := by
        intro b hb
        have hNe : b ≠ bitmap := fun hSame => hFree (hSame ▸ hb)
        exact ⟨rfl, Function.update_of_ne hNe ..⟩
      split_ifs with hReconfigures
      · constructor
        · intro other hSome
          cases hSome
          exact hFree
        · apply hTaken.congr
          intro b
          simp [eq_comm]
        · exact hUntouched
      · -- the bitmap cannot be reconfigured: it is recycled and a new one is made
        have hRecycled : Kept ((pool.takeAt index bitmap).recycle bitmap) lent := by
          apply (hTaken.recycle (.inr rfl)).congr
          intro b
          constructor
          · intro hb
            exact ⟨.inl hb, fun hSame => hFree (hSame ▸ hb)⟩
          · rintro ⟨hOld | hSame, hNe⟩
            · exact hOld
            · exact absurd hSame hNe
        have hLends := lends_createBitmap hRecycled outcome
        constructor
        · exact hLends.new
        · exact hLends.kept
        · intro b hb
          have hNe : b ≠ bitmap := fun hSame => hFree (hSame ▸ hb)
          have hAlone : Untouched (pool.takeAt index bitmap)
              ((pool.takeAt index bitmap).recycle bitmap) b :=
            ⟨Function.update_of_ne hNe .., rfl⟩
          exact ((hUntouched b hb).trans hAlone).trans (hLends.untouched b hb)

/-- The bitmap of a place other than the one that is set, and the new one. -/
theorem ne_of_mem_set {xs : List Nat} (hNodup : xs.Nodup) {index : Nat} {smallest : Nat}
    (hAt : xs[index]? = some smallest) (hb : b ∈ xs.set index bitmap) :
    b = bitmap ∨ (b ∈ xs ∧ b ≠ smallest) := by
  obtain ⟨hIndex, hGet⟩ := List.getElem?_eq_some_iff.1 hAt
  obtain ⟨j, hj, hSet⟩ := List.getElem_of_mem hb
  rw [List.getElem_set] at hSet
  split_ifs at hSet with hSame
  · exact .inl hSet.symm
  · have hLength : j < xs.length := by simpa using hj
    right
    constructor
    · rw [← hSet]
      exact List.getElem_mem hLength
    · intro hEq
      rw [← hSet, ← hGet] at hEq
      exact hSame ((hNodup.getElem_inj_iff).1 hEq).symm

/-- `release` takes a lent bitmap back, or recycles it or a smaller one in its place. -/
theorem kept_release (h : Kept pool lent) (hLent : lent bitmap) :
    Kept (pool.release bitmap) (fun b => lent b ∧ b ≠ bitmap) ∧
      ∀ b, lent b → b ≠ bitmap → Untouched pool (pool.release bitmap) b := by
  obtain ⟨hLt, hLive⟩ := h.lent_lt bitmap hLent
  have hNew : bitmap ∉ pool.retained := fun hMem => (h.retained bitmap hMem).2.2 hLent
  have hRecycle : Kept (pool.recycle bitmap) (fun b => lent b ∧ b ≠ bitmap) ∧
      ∀ b, lent b → b ≠ bitmap → Untouched pool (pool.recycle bitmap) b :=
    ⟨h.recycle hLent, fun b _ hNe => ⟨Function.update_of_ne hNe .., rfl⟩⟩
  unfold PreviewBitmapPool.release
  rw [if_neg (by rw [hLive]; exact Bool.noConfusion)]
  split_ifs with hRefused hRoom
  · exact hRecycle
  · refine ⟨?_, fun b _ _ => ⟨rfl, rfl⟩⟩
    constructor
    · simpa using hRoom
    · exact List.nodup_append.2 ⟨h.nodup, List.nodup_singleton bitmap, by
        intro a ha b hb
        rw [List.mem_singleton.1 hb]
        exact fun hSame => hNew (hSame ▸ ha)⟩
    · intro b hb
      have hSplit : b ∈ pool.retained ++ [bitmap] := hb
      simp only [List.mem_append, List.mem_singleton] at hSplit
      cases hSplit with
      | inl hOld =>
          obtain ⟨hBound, hRecycled, hNot⟩ := h.retained b hOld
          exact ⟨hBound, hRecycled, fun hStill => hNot hStill.1⟩
      | inr hSame =>
          rw [hSame]
          exact ⟨hLt, hLive, fun hStill => hStill.2 rfl⟩
    · exact fun b hb => h.lent_lt b hb.1
    · exact h.fresh
  · split
    · exact hRecycle
    next smallest index hLeast =>
      split_ifs with hSmaller
      · -- the smallest retained bitmap makes room
        have hAt : pool.retained[index]? = some smallest :=
          List.mem_zipIdx_iff_getElem?.1 (List.argmin_mem hLeast)
        obtain ⟨hBound, hRecycled, hNot⟩ := h.retained smallest (List.mem_of_getElem? hAt)
        have hOther : ∀ b, b ≠ smallest →
            Function.update pool.isRecycled smallest true b = pool.isRecycled b :=
          fun b hNe => Function.update_of_ne hNe ..
        have hLentNe : ∀ b, lent b → b ≠ smallest := fun b hb hSame => hNot (hSame ▸ hb)
        constructor
        · constructor
          · show (pool.retained.set index bitmap).length ≤ _
            rw [List.length_set]
            exact h.bound
          · exact h.nodup.set hNew
          · intro b hb
            rcases ne_of_mem_set h.nodup hAt hb with hSame | ⟨hOld, hNe⟩
            · rw [hSame]
              exact ⟨hLt, (hOther _ (hLentNe _ hLent)).trans hLive, fun hStill => hStill.2 rfl⟩
            · obtain ⟨hBound', hRecycled', hNot'⟩ := h.retained b hOld
              exact ⟨hBound', (hOther b hNe).trans hRecycled', fun hStill => hNot' hStill.1⟩
          · rintro b ⟨hStill, -⟩
            obtain ⟨hBound', hRecycled'⟩ := h.lent_lt b hStill
            exact ⟨hBound', (hOther b (hLentNe b hStill)).trans hRecycled'⟩
          · intro b hb
            have hPast : pool.nextBitmap ≤ b := hb
            have hNe : b ≠ smallest := by omega
            exact (hOther b hNe).trans (h.fresh b hb)
        · exact fun b hb _ => ⟨hOther b (hLentNe b hb), rfl⟩
      · exact hRecycle

theorem limit_createBitmap (pool : PreviewBitmapPool) (outcome : BorrowOutcome) :
    (pool.createBitmap outcome).2.maxRetainedBitmaps = pool.maxRetainedBitmaps := by
  unfold PreviewBitmapPool.createBitmap
  cases outcome.created with
  | none => rfl
  | some created => rfl

theorem limit_borrow (pool : PreviewBitmapPool) (width height : Int) (outcome : BorrowOutcome) :
    (pool.borrow width height outcome).2.maxRetainedBitmaps = pool.maxRetainedBitmaps := by
  unfold PreviewBitmapPool.borrow
  by_cases hSize : width ≤ 0 ∨ height ≤ 0 ∨ 2 ^ 31 ≤ width * height * 4
  · rw [if_pos hSize]
  rw [if_neg hSize]
  split
  · exact limit_createBitmap pool outcome
  · split
    · rfl
    · by_cases hReconfigures : outcome.reconfigures = true
      · rw [if_pos hReconfigures]
        rfl
      · rw [if_neg hReconfigures, limit_createBitmap]
        rfl

theorem limit_release (pool : PreviewBitmapPool) (bitmap : Nat) :
    (pool.release bitmap).maxRetainedBitmaps = pool.maxRetainedBitmaps := by
  unfold PreviewBitmapPool.release
  split_ifs
  · rfl
  · rfl
  · rfl
  · split
    · rfl
    · split_ifs
      · rfl
      · rfl

end Pool

end FrameScope.Ports.PreviewBitmapsLaw
