import FrameScope.Ports.PreviewLeases

/-!
# Preview bitmap ownership

The invariant of the whole preview bridge over any order of the steps of any
number of threads: every lease has an exact account, the bitmaps of the leases
that are not returned are distinct, and those are the bitmaps the pool has lent.
-/

namespace FrameScope.Ports.PreviewOwnership

open FrameScope.Verified.Runs
open FrameScope.Ports.PreviewBitmaps
open FrameScope.Ports.PreviewBitmapsLaw
open FrameScope.Ports.PreviewLeases

/-! ## The invariant -/

/-- The bitmap of a lease that is not returned. -/
def Lent (leases : Nat → Option PoolLease) (bitmap : Nat) : Prop :=
  ∃ lease value, leases lease = some value ∧ value.returns = 0 ∧ value.bitmap = bitmap

/-- Every lease has an exact account, and whatever refers to a lease finds it. -/
structure Accounts (s : BitmapState) : Prop where
  exact : ∀ lease value, s.leases lease = some value → Exact lease value s.draws s.threads
  known : ∀ t lease, atLease (s.threads t) = some lease → ∃ value, s.leases lease = some value
  drawn : ∀ d lease closed, s.draws d = some ⟨lease, closed⟩ → s.IsShared lease
  latest : ∀ session lease, s.latest session = some lease → s.IsShared lease
  fresh_lease : ∀ lease, s.nextLease ≤ lease → s.leases lease = none
  fresh_draw : ∀ d, s.nextDraw ≤ d → s.draws d = none

structure BitmapsInv (s : BitmapState) : Prop where
  accounts : Accounts s
  kept : Kept s.pool (Lent s.leases)
  distinct : ∀ lease lease' value value', s.leases lease = some value →
    s.leases lease' = some value' → value.returns = 0 → value'.returns = 0 →
      value.bitmap = value'.bitmap → lease = lease'

theorem bitmapsInv_initial (max : Nat) : BitmapsInv (initial max) := by
  refine ⟨⟨?_, ?_, ?_, ?_, fun _ _ => rfl, fun _ _ => rfl⟩, ⟨?_, ?_, ?_, ?_, fun _ _ => rfl⟩, ?_⟩
  · intro lease value hLease
    cases hLease
  · intro t lease hAt
    cases hAt
  · intro d lease closed hDraw
    cases hDraw
  · intro session lease hLatest
    cases hLatest
  · exact Nat.zero_le max
  · exact List.nodup_nil
  · intro b hb
    cases hb
  · rintro b ⟨lease, value, hLease, -⟩
    cases hLease
  · intro lease lease' value value' hLease
    cases hLease

/-! ## A step at one lease -/

/-- At most one draw lease changes, and it is one of this lease. -/
def DrawsAt (lease : Nat) (draws draws' : Nat → Option DrawLease) : Prop :=
  draws' = draws ∨ ∃ d closed, draws' = Function.update draws d (some ⟨lease, closed⟩) ∧
    ∀ before, draws d = some before → before.handle = lease

section Touch

variable {s : BitmapState} {lease thread : Nat} {value value' : PoolLease} {phase : ThreadPhase}
  {draws' : Nat → Option DrawLease}

/-- A step at one lease leaves everything that concerns another. -/
theorem same_elsewhere {other : Nat} (hNe : other ≠ lease)
    (hAt : ∀ l, atLease (s.threads thread) = some l → l = lease)
    (hPhase : ∀ l, atLease phase = some l → l = lease) (hDraws : DrawsAt lease s.draws draws') :
    Same other s.draws draws' s.threads (Function.update s.threads thread phase) where
  draws := by
    intro d
    rcases hDraws with rfl | ⟨d', closed, rfl, hBefore⟩
    · exact Iff.rfl
    · by_cases hd : d = d'
      · rw [hd, Function.update_self]
        apply iff_of_false
        · intro hSame
          cases hSame
          exact hNe rfl
        · intro hSame
          exact hNe (hBefore _ hSame)
      · rw [Function.update_of_ne hd]
  threads := by
    intro t p hp
    by_cases ht : t = thread
    · rw [ht, Function.update_self]
      apply iff_of_false
      · intro hSame
        exact hNe (hPhase other (hSame ▸ hp))
      · intro hSame
        exact hNe (hAt other (hSame ▸ hp))
    · rw [Function.update_of_ne ht]

/-- A shared lease stays shared when its value is replaced by a shared one. -/
theorem shared_update {leases : Nat → Option PoolLease} (hLease : leases lease = some value)
    (hShared : value.shared = true → value'.shared = true) {other : Nat}
    (h : ∃ v, leases other = some v ∧ v.shared = true) :
    ∃ v, Function.update leases lease (some value') other = some v ∧ v.shared = true := by
  obtain ⟨v, hOther, hIs⟩ := h
  by_cases hSame : other = lease
  · rw [hSame, hLease] at hOther
    cases hOther
    exact ⟨value', by rw [hSame, Function.update_self], hShared hIs⟩
  · exact ⟨v, by rw [Function.update_of_ne hSame, hOther], hIs⟩

/-- A step of a thread that was and stays at one lease. -/
theorem Accounts.touch (h : Accounts s) (hLease : s.leases lease = some value)
    (hAt : ∀ l, atLease (s.threads thread) = some l → l = lease)
    (hPhase : ∀ l, atLease phase = some l → l = lease)
    (hShared : value.shared = true → value'.shared = true)
    (hDraws : DrawsAt lease s.draws draws') (hDrawn : draws' ≠ s.draws → value'.shared = true)
    {nextDraw : Nat} (hFresh : ∀ d, nextDraw ≤ d → draws' d = none)
    (hExact : Exact lease value' draws' (Function.update s.threads thread phase))
    (pool : PreviewBitmapPool) :
    Accounts { s with
      pool
      leases := Function.update s.leases lease (some value')
      threads := Function.update s.threads thread phase
      draws := draws'
      nextDraw } where
  exact := by
    intro l v hl
    by_cases hSame : l = lease
    · subst hSame
      have hIs : value' = v := by simpa using hl
      rw [← hIs]
      exact hExact
    · have hOld : s.leases l = some v := by simpa [Function.update_of_ne hSame] using hl
      exact (h.exact l v hOld).congr (same_elsewhere hSame hAt hPhase hDraws)
  known := by
    intro t l hl
    by_cases hSame : l = lease
    · exact ⟨value', by simp [hSame]⟩
    · have hOld : atLease (s.threads t) = some l := by
        by_cases ht : t = thread
        · have hAfter : atLease phase = some l := by simpa [ht] using hl
          exact absurd (hPhase l hAfter) hSame
        · simpa [Function.update_of_ne ht] using hl
      obtain ⟨v, hv⟩ := h.known t l hOld
      exact ⟨v, by simp [Function.update_of_ne hSame, hv]⟩
  drawn := by
    intro d l closed hd
    by_cases hSame : l = lease
    · by_cases hChanged : draws' = s.draws
      · have hOld : s.draws d = some ⟨l, closed⟩ := by
          rw [← hChanged]
          exact hd
        exact shared_update hLease hShared (h.drawn d l closed hOld)
      · exact ⟨value', by simp [hSame], hDrawn hChanged⟩
    · have hOld : s.draws d = some ⟨l, closed⟩ := by
        rcases hDraws with hNone | ⟨d', c, hUpdate, -⟩
        · rw [← hNone]
          exact hd
        · have hNew : draws' d = some ⟨l, closed⟩ := hd
          by_cases hdd : d = d'
          · rw [hUpdate, hdd, Function.update_self] at hNew
            cases hNew
            exact absurd rfl hSame
          · rwa [hUpdate, Function.update_of_ne hdd] at hNew
      exact shared_update hLease hShared (h.drawn d l closed hOld)
  latest := fun session l hl => shared_update hLease hShared (h.latest session l hl)
  fresh_lease := by
    intro l hl
    have hNe : l ≠ lease := by
      intro hSame
      have hNone := h.fresh_lease l hl
      rw [hSame, hLease] at hNone
      cases hNone
    simp [Function.update_of_ne hNe, h.fresh_lease l hl]
  fresh_draw := hFresh

/-- A step at one lease that returns nothing keeps the invariant. -/
theorem BitmapsInv.touch (h : BitmapsInv s) (hLease : s.leases lease = some value)
    (hAt : ∀ l, atLease (s.threads thread) = some l → l = lease)
    (hPhase : ∀ l, atLease phase = some l → l = lease)
    (hShared : value.shared = true → value'.shared = true) (hBitmap : value'.bitmap = value.bitmap)
    (hReturns : value'.returns = value.returns)
    (hDraws : DrawsAt lease s.draws draws') (hDrawn : draws' ≠ s.draws → value'.shared = true)
    {nextDraw : Nat} (hFresh : ∀ d, nextDraw ≤ d → draws' d = none)
    (hExact : Exact lease value' draws' (Function.update s.threads thread phase)) :
    BitmapsInv { s with
      leases := Function.update s.leases lease (some value')
      threads := Function.update s.threads thread phase
      draws := draws'
      nextDraw } := by
  have hAccounts := h.accounts.touch hLease hAt hPhase hShared hDraws hDrawn hFresh hExact s.pool
  have hSame : ∀ l v, Function.update s.leases lease (some value') l = some v →
      ∃ v₀, s.leases l = some v₀ ∧ v.bitmap = v₀.bitmap ∧ v.returns = v₀.returns := by
    intro l v hl
    by_cases hIs : l = lease
    · rw [hIs, Function.update_self] at hl
      cases hl
      exact ⟨value, by rw [hIs, hLease], hBitmap, hReturns⟩
    · rw [Function.update_of_ne hIs] at hl
      exact ⟨v, hl, rfl, rfl⟩
  refine ⟨hAccounts, ?_, ?_⟩
  · apply h.kept.congr
    intro b
    constructor
    · rintro ⟨l, v, hl, hUnreturned, hb⟩
      obtain ⟨v₀, hOld, hSameBitmap, hSameReturns⟩ := hSame l v hl
      exact ⟨l, v₀, hOld, by omega, by rw [← hSameBitmap, hb]⟩
    · rintro ⟨l, v, hl, hUnreturned, hb⟩
      by_cases hIs : l = lease
      · rw [hIs, hLease] at hl
        cases hl
        exact ⟨lease, value', Function.update_self .., by omega, by rw [hBitmap, hb]⟩
      · have hStill : Function.update s.leases lease (some value') l = some v := by
          rw [Function.update_of_ne hIs, hl]
        exact ⟨l, v, hStill, hUnreturned, hb⟩
  · intro l l' v v' hl hl' hReturned hReturned' hEq
    obtain ⟨v₀, hOld, hSameBitmap, hSameReturns⟩ := hSame l v hl
    obtain ⟨v₁, hOld', hSameBitmap', hSameReturns'⟩ := hSame l' v' hl'
    exact h.distinct l l' v₀ v₁ hOld hOld' (by omega) (by omega)
      (by rw [← hSameBitmap, ← hSameBitmap', hEq])

/-- A thread goes on at a lease, and nothing else changes. -/
theorem BitmapsInv.setThread (h : BitmapsInv s) (hLease : s.leases lease = some value)
    (hAt : ∀ l, atLease (s.threads thread) = some l → l = lease)
    (hPhase : ∀ l, atLease phase = some l → l = lease)
    (hExact : Exact lease value s.draws (Function.update s.threads thread phase)) :
    BitmapsInv (s.setThread thread phase) := by
  have hTouch := h.touch hLease hAt hPhase id rfl rfl (.inl rfl) (fun hNe => absurd rfl hNe)
    h.accounts.fresh_draw hExact
  have hLeases : Function.update s.leases lease (some value) = s.leases := by
    rw [← hLease, Function.update_eq_self]
  rw [hLeases] at hTouch
  exact hTouch

/-- `onRelease` gives the bitmap back to the pool. -/
theorem BitmapsInv.giveBack (h : BitmapsInv s) (hLease : s.leases lease = some value)
    (hAt : s.threads thread = .onRelease lease) :
    BitmapsInv { s with
      pool := s.pool.release value.bitmap
      leases := Function.update s.leases lease (some { value with returns := value.returns + 1 })
      threads := Function.update s.threads thread .idle } := by
  have hExact := h.accounts.exact lease value hLease
  have hDuty : Duty lease (s.threads thread) := by
    rw [hAt]
    exact rfl
  have hUnreturned := (hExact.duty_iff.1 ⟨thread, hDuty⟩).2
  have hHere : ∀ l, atLease (s.threads thread) = some l → l = lease := by
    intro l hl
    rw [hAt] at hl
    cases hl
    rfl
  have hNowhere : ∀ l, atLease .idle = some l → l = lease := by
    intro l hl
    cases hl
  have hKeeps : value.shared = true →
      ({ value with returns := value.returns + 1 } : PoolLease).shared = true := id
  have hAccounts := h.accounts.touch hLease hHere hNowhere hKeeps (.inl rfl)
    (fun hNe => absurd rfl hNe) h.accounts.fresh_draw (hExact.giveBack hAt)
    (s.pool.release value.bitmap)
  have hLent : Lent s.leases value.bitmap := ⟨lease, value, hLease, hUnreturned, rfl⟩
  -- a lease that is not returned afterwards is another one, with another bitmap
  have hOther : ∀ l v, Function.update s.leases lease
      (some { value with returns := value.returns + 1 }) l = some v → v.returns = 0 →
        l ≠ lease ∧ s.leases l = some v := by
    intro l v hl hReturns
    by_cases hIs : l = lease
    · rw [hIs, Function.update_self] at hl
      cases hl
      exact absurd hReturns (Nat.succ_ne_zero _)
    · rw [Function.update_of_ne hIs] at hl
      exact ⟨hIs, hl⟩
  refine ⟨hAccounts, ?_, ?_⟩
  · apply (kept_release h.kept hLent).1.congr
    intro b
    constructor
    · rintro ⟨l, v, hl, hReturns, hb⟩
      obtain ⟨hNe, hOld⟩ := hOther l v hl hReturns
      refine ⟨⟨l, v, hOld, hReturns, hb⟩, ?_⟩
      intro hSame
      exact hNe (h.distinct l lease v value hOld hLease hReturns hUnreturned (hb.trans hSame))
    · rintro ⟨⟨l, v, hOld, hReturns, hb⟩, hNe⟩
      have hIs : l ≠ lease := by
        intro hSame
        rw [hSame, hLease] at hOld
        cases hOld
        exact hNe hb.symm
      have hStill : Function.update s.leases lease
          (some { value with returns := value.returns + 1 }) l = some v := by
        rw [Function.update_of_ne hIs, hOld]
      exact ⟨l, v, hStill, hReturns, hb⟩
  · intro l l' v v' hl hl' hReturns hReturns' hEq
    exact h.distinct l l' v v' (hOther l v hl hReturns).2 (hOther l' v' hl' hReturns').2 hReturns
      hReturns' hEq

end Touch

/-! ## Lending -/

section Borrow

variable {s : BitmapState} {thread bitmap : Nat} {pool : PreviewBitmapPool}

/-- A new lease is at the thread that borrowed its bitmap. -/
theorem Accounts.borrow (h : Accounts s) (hIdle : s.threads thread = .idle)
    (pool : PreviewBitmapPool) (bitmap : Nat) :
    Accounts { s with
      pool
      leases := Function.update s.leases s.nextLease (some ⟨bitmap, false, false, 0, false, 0⟩)
      threads := Function.update s.threads thread (.borrowed s.nextLease)
      nextLease := s.nextLease + 1 } := by
  have hFresh : s.leases s.nextLease = none := h.fresh_lease _ (Nat.le_refl _)
  have hNobody : ∀ t, atLease (s.threads t) ≠ some s.nextLease := by
    intro t hAt
    obtain ⟨v, hv⟩ := h.known t _ hAt
    rw [hFresh] at hv
    cases hv
  have hNew : ∀ l v, s.leases l = some v → l ≠ s.nextLease := by
    intro l v hl hSame
    rw [hSame, hFresh] at hl
    cases hl
  have hUndrawn : ∀ d, s.draws d ≠ some ⟨s.nextLease, false⟩ := by
    intro d hd
    obtain ⟨v, hv, -⟩ := h.drawn d _ _ hd
    exact hNew _ _ hv rfl
  have hOld : ∀ l v, s.leases l = some v → Function.update s.leases s.nextLease
      (some ⟨bitmap, false, false, 0, false, 0⟩) l = some v := by
    intro l v hl
    rw [Function.update_of_ne (hNew l v hl), hl]
  have hShared : ∀ l, s.IsShared l → ∃ v, Function.update s.leases s.nextLease
      (some ⟨bitmap, false, false, 0, false, 0⟩) l = some v ∧ v.shared = true := by
    rintro l ⟨v, hl, hIs⟩
    exact ⟨v, hOld l v hl, hIs⟩
  constructor
  · intro l v hl
    by_cases hSame : l = s.nextLease
    · rw [hSame] at hl ⊢
      have hIs : (⟨bitmap, false, false, 0, false, 0⟩ : PoolLease) = v := by simpa using hl
      rw [← hIs]
      exact Exact.borrow hNobody hUndrawn
    · have hBefore : s.leases l = some v := by simpa [Function.update_of_ne hSame] using hl
      apply (h.exact l v hBefore).congr
      apply same_elsewhere hSame
      · intro l' hAt
        rw [hIdle] at hAt
        cases hAt
      · intro l' hAt
        cases hAt
        rfl
      · exact .inl rfl
  · intro t l hAt
    by_cases ht : t = thread
    · have hIs : l = s.nextLease := by
        have hPhase : atLease (.borrowed s.nextLease) = some l := by simpa [ht] using hAt
        cases hPhase
        rfl
      exact ⟨_, by rw [hIs]; exact Function.update_self ..⟩
    · have hBefore : atLease (s.threads t) = some l := by
        simpa [Function.update_of_ne ht] using hAt
      obtain ⟨v, hv⟩ := h.known t l hBefore
      exact ⟨v, hOld l v hv⟩
  · exact fun d l closed hd => hShared l (h.drawn d l closed hd)
  · exact fun session l hl => hShared l (h.latest session l hl)
  · intro l hl
    have hLe : s.nextLease + 1 ≤ l := hl
    have hNe : l ≠ s.nextLease := by omega
    simp [Function.update_of_ne hNe, h.fresh_lease l (by omega)]
  · exact h.fresh_draw

/-- `borrow` keeps the invariant, whatever the pool answers. -/
theorem BitmapsInv.borrow (h : BitmapsInv s) (hIdle : s.threads thread = .idle)
    (width height : Int) (outcome : BorrowOutcome) :
    BitmapsInv (s.borrow thread width height outcome) := by
  have hLends := lends_borrow h.kept width height outcome
  unfold BitmapState.borrow
  generalize s.pool.borrow width height outcome = lent at hLends ⊢
  obtain ⟨answer, pool⟩ := lent
  cases answer with
  | none =>
      show BitmapsInv { s with pool }
      refine ⟨⟨h.accounts.exact, h.accounts.known, h.accounts.drawn, h.accounts.latest,
        h.accounts.fresh_lease, h.accounts.fresh_draw⟩, ?_, h.distinct⟩
      apply hLends.kept.congr
      intro b
      simp
  | some bitmap =>
      show BitmapsInv { s with
        pool
        leases := Function.update s.leases s.nextLease (some ⟨bitmap, false, false, 0, false, 0⟩)
        threads := Function.update s.threads thread (.borrowed s.nextLease)
        nextLease := s.nextLease + 1 }
      have hFresh : s.leases s.nextLease = none := h.accounts.fresh_lease _ (Nat.le_refl _)
      have hFree : ¬ Lent s.leases bitmap := hLends.new bitmap rfl
      refine ⟨h.accounts.borrow hIdle pool bitmap, ?_, ?_⟩
      · apply hLends.kept.congr
        intro b
        constructor
        · rintro ⟨l, v, hl, hReturns, hb⟩
          by_cases hSame : l = s.nextLease
          · have hIs : (⟨bitmap, false, false, 0, false, 0⟩ : PoolLease) = v := by
              simpa [hSame] using hl
            exact .inr (by rw [← hb, ← hIs])
          · have hBefore : s.leases l = some v := by simpa [Function.update_of_ne hSame] using hl
            exact .inl ⟨l, v, hBefore, hReturns, hb⟩
        · rintro (⟨l, v, hl, hReturns, hb⟩ | hNew)
          · have hNe : l ≠ s.nextLease := by
              intro hSame
              rw [hSame, hFresh] at hl
              cases hl
            have hStill : Function.update s.leases s.nextLease
                (some ⟨bitmap, false, false, 0, false, 0⟩) l = some v := by
              rw [Function.update_of_ne hNe, hl]
            exact ⟨l, v, hStill, hReturns, hb⟩
          · cases hNew
            exact ⟨s.nextLease, _, Function.update_self .., rfl, rfl⟩
      · have hSplit : ∀ l v, Function.update s.leases s.nextLease
            (some ⟨bitmap, false, false, 0, false, 0⟩) l = some v →
              l = s.nextLease ∧ v.bitmap = bitmap ∨ s.leases l = some v := by
          intro l v hl
          by_cases hSame : l = s.nextLease
          · rw [hSame, Function.update_self] at hl
            cases hl
            exact .inl ⟨hSame, rfl⟩
          · rw [Function.update_of_ne hSame] at hl
            exact .inr hl
        intro l l' v v' hl hl' hReturns hReturns' hEq
        rcases hSplit l v hl with ⟨hIs, hb⟩ | hOld
        · rcases hSplit l' v' hl' with ⟨hIs', -⟩ | hOld'
          · rw [hIs, hIs']
          · exact absurd ⟨l', v', hOld', hReturns', by rw [← hEq, hb]⟩ hFree
        · rcases hSplit l' v' hl' with ⟨-, hb'⟩ | hOld'
          · exact absurd ⟨l, v, hOld, hReturns, by rw [hEq, hb']⟩ hFree
          · exact h.distinct l l' v v' hOld hOld' hReturns hReturns' hEq

end Borrow

/-! ## Every step -/

section Steps

variable {s : BitmapState} {thread lease : Nat} {value : PoolLease}

theorem atLease_only {phase : ThreadPhase} (h : atLease phase = some lease) :
    ∀ l, atLease phase = some l → l = lease := by
  intro l hl
  rw [h] at hl
  exact (Option.some.inj hl).symm

theorem atLease_idle {phase : ThreadPhase} (h : phase = .idle) :
    ∀ l, atLease phase = some l → l = lease := by
  intro l hl
  rw [h] at hl
  cases hl

/-- A phase that neither releases nor returns. -/
theorem neutral_iff {phase : ThreadPhase}
    (h : phase = .idle ∨ phase = .acquireRead lease ∨ (∃ current, phase = .acquireSet lease current) ∨
      phase = .releaseOwner lease) :
    ¬ Duty lease phase ∧ phase ≠ .releaseReference lease := by
  rcases h with rfl | rfl | ⟨current, rfl⟩ | rfl
  · exact ⟨id, by simp⟩
  · exact ⟨id, by simp⟩
  · exact ⟨id, by simp⟩
  · exact ⟨id, by simp⟩

/-- An idle thread enters a method of a handle. -/
theorem BitmapsInv.enter (h : BitmapsInv s) (hIdle : s.threads thread = .idle)
    (hShared : s.IsShared lease) {phase : ThreadPhase}
    (hPhase : phase = .acquireRead lease ∨ phase = .releaseOwner lease) :
    BitmapsInv (s.setThread thread phase) := by
  obtain ⟨value, hLease, hIs⟩ := hShared
  have hExact := h.accounts.exact lease value hLease
  rcases hPhase with rfl | rfl
  · apply h.setThread hLease (atLease_idle hIdle) (atLease_only rfl)
    apply hExact.move (neutral_iff (.inl hIdle)) (neutral_iff (.inr (.inl rfl)))
    exact fun _ => hIs
  · apply h.setThread hLease (atLease_idle hIdle) (atLease_only rfl)
    apply hExact.move (neutral_iff (.inl hIdle)) (neutral_iff (.inr (.inr (.inr rfl))))
    exact fun _ => hIs

/-- The next step of `acquire`. -/
theorem BitmapsInv.advance_acquire (h : BitmapsInv s) {phase : ThreadPhase}
    (hAt : s.threads thread = phase)
    (hPhase : phase = .acquireRead lease ∨ ∃ current, phase = .acquireSet lease current) :
    BitmapsInv (s.advance thread) := by
  have hNeutral : ¬ Duty lease (s.threads thread) ∧
      s.threads thread ≠ .releaseReference lease := by
    rw [hAt]
    apply neutral_iff
    rcases hPhase with hRead | hSet
    · exact .inr (.inl hRead)
    · exact .inr (.inr (.inl hSet))
  have hHere : atLease (s.threads thread) = some lease := by
    rw [hAt]
    rcases hPhase with rfl | ⟨current, rfl⟩
    · rfl
    · rfl
  obtain ⟨value, hLease⟩ := h.accounts.known thread lease hHere
  have hExact := h.accounts.exact lease value hLease
  have hFits := hExact.fits thread
  rw [hAt] at hFits
  have hStop : BitmapsInv (s.setThread thread .idle) :=
    h.setThread hLease (atLease_only hHere) (atLease_idle rfl)
      (hExact.move hNeutral (neutral_iff (.inl rfl)) trivial)
  unfold BitmapState.advance
  rcases hPhase with rfl | ⟨current, rfl⟩
  · simp only [hAt, hLease]
    by_cases hNone : value.references ≤ 0
    · rw [if_pos hNone]
      exact hStop
    · rw [if_neg hNone]
      apply h.setThread hLease (atLease_only hHere) (atLease_only rfl)
      apply hExact.move hNeutral (neutral_iff (.inr (.inr (.inl ⟨_, rfl⟩))))
      exact fun _ => ⟨hFits rfl, by omega⟩
  · obtain ⟨hShared, hSeen⟩ := hFits rfl
    simp only [hAt, hLease]
    by_cases hSame : value.references = current
    · rw [if_pos hSame]
      subst hSame
      have hFresh : s.draws s.nextDraw = none := h.accounts.fresh_draw _ (Nat.le_refl _)
      have hAfter : ∀ d, s.nextDraw + 1 ≤ d →
          Function.update s.draws s.nextDraw (some ⟨lease, false⟩) d = none := by
        intro d hd
        have hNe : d ≠ s.nextDraw := by omega
        rw [Function.update_of_ne hNe]
        exact h.accounts.fresh_draw d (by omega)
      have hDraws : DrawsAt lease s.draws
          (Function.update s.draws s.nextDraw (some ⟨lease, false⟩)) := by
        refine .inr ⟨s.nextDraw, false, rfl, ?_⟩
        intro before hBefore
        rw [hFresh] at hBefore
        cases hBefore
      have hNowhere : ∀ l, atLease .idle = some l → l = lease := atLease_idle rfl
      have hKeeps : value.shared = true →
          ({ value with references := value.references + 1 } : PoolLease).shared = true := id
      exact h.touch hLease (atLease_only hHere) hNowhere hKeeps rfl rfl hDraws (fun _ => hShared)
        hAfter (hExact.acquire hAt hFresh)
    · rw [if_neg hSame]
      apply h.setThread hLease (atLease_only hHere) (atLease_only rfl)
      apply hExact.move hNeutral (neutral_iff (.inr (.inl rfl)))
      exact fun _ => hShared

/-- The next step of a thread that releases or returns. -/
theorem BitmapsInv.advance_release (h : BitmapsInv s) {phase : ThreadPhase}
    (hAt : s.threads thread = phase)
    (hPhase : phase = .releaseOwner lease ∨ phase = .releaseReference lease ∨
      phase = .closeLease lease ∨ phase = .onRelease lease) :
    BitmapsInv (s.advance thread) := by
  have hHere : atLease (s.threads thread) = some lease := by
    rw [hAt]
    rcases hPhase with rfl | rfl | rfl | rfl
    · rfl
    · rfl
    · rfl
    · rfl
  obtain ⟨value, hLease⟩ := h.accounts.known thread lease hHere
  have hExact := h.accounts.exact lease value hLease
  have hSet : ∀ (value' : PoolLease) (next : ThreadPhase),
      (∀ l, atLease next = some l → l = lease) →
      (value.shared = true → value'.shared = true) → value'.bitmap = value.bitmap →
      value'.returns = value.returns →
      Exact lease value' s.draws (Function.update s.threads thread next) →
      BitmapsInv ((s.setLease lease value').setThread thread next) := by
    intro value' next hNext hShared hBitmap hReturns hAfter
    exact h.touch hLease (atLease_only hHere) hNext hShared hBitmap hReturns (.inl rfl)
      (fun hNe => absurd rfl hNe) h.accounts.fresh_draw hAfter
  unfold BitmapState.advance
  rcases hPhase with rfl | rfl | rfl | rfl
  · simp only [hAt, hLease]
    by_cases hReleased : value.ownerReleased = true
    · rw [if_pos hReleased]
      apply h.setThread hLease (atLease_only hHere) (atLease_idle rfl)
      apply hExact.move _ (neutral_iff (.inl rfl)) trivial
      exact neutral_iff (.inr (.inr (.inr hAt)))
    · rw [if_neg hReleased]
      have hOwner : value.ownerReleased = false := by simpa using hReleased
      exact hSet _ _ (atLease_only rfl) id rfl rfl (hExact.releaseOwner hAt hOwner)
  · simp only [hAt, hLease]
    have hNext : ∀ l, atLease (if value.references - 1 = 0 then ThreadPhase.closeLease lease
        else .idle) = some l → l = lease := by
      by_cases hLast : value.references - 1 = 0
      · rw [if_pos hLast]
        exact atLease_only rfl
      · rw [if_neg hLast]
        exact atLease_idle rfl
    exact hSet _ _ hNext id rfl rfl (hExact.release hAt)
  · have hFits := hExact.fits thread
    rw [hAt] at hFits
    have hOpen : ¬ value.closed = true := by
      rw [hFits rfl]
      exact Bool.noConfusion
    simp only [hAt, hLease]
    rw [if_neg hOpen]
    exact hSet _ _ (atLease_only rfl) id rfl rfl (hExact.close hAt)
  · simp only [hAt, hLease]
    exact h.giveBack hLease hAt

theorem BitmapsInv.advance (h : BitmapsInv s) (thread : Nat) : BitmapsInv (s.advance thread) := by
  cases hAt : s.threads thread with
  | idle =>
      unfold BitmapState.advance
      simp only [hAt]
      exact h
  | borrowed lease =>
      unfold BitmapState.advance
      simp only [hAt]
      exact h
  | acquireRead lease => exact h.advance_acquire hAt (.inl rfl)
  | acquireSet lease current => exact h.advance_acquire hAt (.inr ⟨current, rfl⟩)
  | releaseOwner lease => exact h.advance_release hAt (.inl rfl)
  | releaseReference lease => exact h.advance_release hAt (.inr (.inl rfl))
  | closeLease lease => exact h.advance_release hAt (.inr (.inr (.inl rfl)))
  | onRelease lease => exact h.advance_release hAt (.inr (.inr (.inr rfl)))

/-- Another preview becomes the latest of a session, or none. -/
theorem BitmapsInv.replaceLatest (h : BitmapsInv s) (session : Int) {latest : Option Nat}
    (hLatest : ∀ l, latest = some l → s.IsShared l) :
    BitmapsInv { s with latest := Function.update s.latest session latest } where
  accounts :=
    { exact := h.accounts.exact
      known := h.accounts.known
      drawn := h.accounts.drawn
      latest := by
        intro other l hl
        by_cases hSame : other = session
        · have hIs : latest = some l := by simpa [hSame] using hl
          exact hLatest l hIs
        · have hOld : s.latest other = some l := by simpa [Function.update_of_ne hSame] using hl
          exact h.accounts.latest other l hOld
      fresh_lease := h.accounts.fresh_lease
      fresh_draw := h.accounts.fresh_draw }
  kept := h.kept
  distinct := h.distinct

theorem BitmapsInv.releasePrevious (h : BitmapsInv s) (hIdle : s.threads thread = .idle)
    {previous : Option Nat} (hShared : ∀ l, previous = some l → s.IsShared l)
    (lease : Option Nat) : BitmapsInv (s.releasePrevious thread previous lease) := by
  unfold BitmapState.releasePrevious
  cases hPrevious : previous with
  | none => exact h
  | some before =>
      by_cases hSame : some before = lease
      · simp only [hSame, if_true]
        exact h
      · simp only [hSame, if_false]
        exact h.enter hIdle (hShared before hPrevious) (.inr rfl)

theorem BitmapsInv.share (h : BitmapsInv s) (thread : Nat) :
    BitmapsInv (s.step (.share thread)) := by
  unfold BitmapState.step
  cases hAt : s.threads thread with
  | borrowed lease =>
      have hHere : atLease (s.threads thread) = some lease := by
        rw [hAt]
        rfl
      obtain ⟨value, hLease⟩ := h.accounts.known thread lease hHere
      have hNowhere : ∀ l, atLease .idle = some l → l = lease := atLease_idle rfl
      have hKeeps : value.shared = true →
          ({ value with shared := true, references := 1 } : PoolLease).shared = true := fun _ => rfl
      simp only [hAt, hLease]
      exact h.touch hLease (atLease_only hHere) hNowhere hKeeps rfl rfl (.inl rfl)
        (fun hNe => absurd rfl hNe) h.accounts.fresh_draw
        ((h.accounts.exact lease value hLease).share hAt)
  | idle => simpa only [hAt] using h
  | acquireRead lease => simpa only [hAt] using h
  | acquireSet lease current => simpa only [hAt] using h
  | releaseOwner lease => simpa only [hAt] using h
  | releaseReference lease => simpa only [hAt] using h
  | closeLease lease => simpa only [hAt] using h
  | onRelease lease => simpa only [hAt] using h

theorem BitmapsInv.fail (h : BitmapsInv s) (thread : Nat) :
    BitmapsInv (s.step (.fail thread)) := by
  unfold BitmapState.step
  cases hAt : s.threads thread with
  | borrowed lease =>
      have hHere : atLease (s.threads thread) = some lease := by
        rw [hAt]
        rfl
      obtain ⟨value, hLease⟩ := h.accounts.known thread lease hHere
      simp only [hAt]
      exact h.setThread hLease (atLease_only hHere) (atLease_only rfl)
        ((h.accounts.exact lease value hLease).fail hAt)
  | idle => simpa only [hAt] using h
  | acquireRead lease => simpa only [hAt] using h
  | acquireSet lease current => simpa only [hAt] using h
  | releaseOwner lease => simpa only [hAt] using h
  | releaseReference lease => simpa only [hAt] using h
  | closeLease lease => simpa only [hAt] using h
  | onRelease lease => simpa only [hAt] using h

theorem BitmapsInv.closeDraw (h : BitmapsInv s) (thread draw : Nat) :
    BitmapsInv (s.step (.closeDraw thread draw)) := by
  unfold BitmapState.step
  by_cases hIdle : s.threads thread = .idle
  · simp only [hIdle, if_true]
    cases hDraw : s.draws draw with
    | none => exact h
    | some value =>
        obtain ⟨lease, closed⟩ := value
        cases closed with
        | true => exact h
        | false =>
            obtain ⟨value, hLease, hShared⟩ := h.accounts.drawn draw lease false hDraw
            have hExact := (h.accounts.exact lease value hLease).closeDraw hIdle hDraw
            have hDraws : DrawsAt lease s.draws
                (Function.update s.draws draw (some ⟨lease, true⟩)) := by
              refine .inr ⟨draw, true, rfl, ?_⟩
              intro before hBefore
              rw [hDraw] at hBefore
              cases hBefore
              rfl
            have hFresh : ∀ d, s.nextDraw ≤ d →
                Function.update s.draws draw (some ⟨lease, true⟩) d = none := by
              intro d hd
              have hNone := h.accounts.fresh_draw d hd
              have hNe : d ≠ draw := by
                intro hSame
                rw [hSame, hDraw] at hNone
                cases hNone
              rw [Function.update_of_ne hNe, hNone]
            have hReleases : ∀ l, atLease (.releaseReference lease) = some l → l = lease :=
              atLease_only rfl
            have hTouch := h.touch hLease (atLease_idle hIdle) hReleases id rfl rfl hDraws
              (fun _ => hShared) hFresh hExact
            have hLeases : Function.update s.leases lease (some value) = s.leases := by
              rw [← hLease, Function.update_eq_self]
            rw [hLeases] at hTouch
            exact hTouch
  · simp only [hIdle, if_false]
    exact h

/-- Every step keeps the invariant. -/
theorem BitmapsInv.step (h : BitmapsInv s) (event : BitmapEvent) : BitmapsInv (s.step event) := by
  cases event with
  | borrow thread width height outcome =>
      show BitmapsInv (if s.threads thread = .idle then _ else s)
      by_cases hIdle : s.threads thread = .idle
      · rw [if_pos hIdle]
        exact h.borrow hIdle width height outcome
      · rw [if_neg hIdle]
        exact h
  | share thread => exact h.share thread
  | fail thread => exact h.fail thread
  | acquire thread lease =>
      show BitmapsInv (if s.threads thread = .idle ∧ s.IsShared lease then _ else s)
      by_cases hBoth : s.threads thread = .idle ∧ s.IsShared lease
      · rw [if_pos hBoth]
        exact h.enter hBoth.1 hBoth.2 (.inl rfl)
      · rw [if_neg hBoth]
        exact h
  | closeDraw thread draw => exact h.closeDraw thread draw
  | releaseOwner thread lease =>
      show BitmapsInv (if s.threads thread = .idle ∧ s.IsShared lease then _ else s)
      by_cases hBoth : s.threads thread = .idle ∧ s.IsShared lease
      · rw [if_pos hBoth]
        exact h.enter hBoth.1 hBoth.2 (.inr rfl)
      · rw [if_neg hBoth]
        exact h
  | replaceLatestPreviewOwner thread sessionId lease =>
      show BitmapsInv (if s.threads thread = .idle ∧ s.IsShared lease then _ else s)
      by_cases hBoth : s.threads thread = .idle ∧ s.IsShared lease
      · rw [if_pos hBoth]
        have hNew : ∀ l, some lease = some l → s.IsShared l := by
          intro l hl
          cases hl
          exact hBoth.2
        exact (h.replaceLatest sessionId hNew).releasePrevious hBoth.1
          (h.accounts.latest sessionId) (some lease)
      · rw [if_neg hBoth]
        exact h
  | releaseLatestPreviewOwner thread sessionId =>
      show BitmapsInv (if s.threads thread = .idle then _ else s)
      by_cases hIdle : s.threads thread = .idle
      · rw [if_pos hIdle]
        have hNone : ∀ l, (none : Option Nat) = some l → s.IsShared l := by
          intro l hl
          cases hl
        exact (h.replaceLatest sessionId hNone).releasePrevious hIdle
          (h.accounts.latest sessionId) none
      · rw [if_neg hIdle]
        exact h
  | advance thread => exact h.advance thread

/-- **The invariant of every run.** -/
theorem bitmapsInv_after (max : Nat) (events : List BitmapEvent) :
    BitmapsInv (BitmapState.after max events) :=
  run_invariant_of_step (fun _ event h => h.step event) (bitmapsInv_initial max) events

end Steps

/-! ## What a step does to the pool -/

section PoolSteps

variable {s : BitmapState} {thread lease : Nat}

/-- A step leaves the pool alone and makes no lease. -/
def Quiet (s s' : BitmapState) : Prop :=
  s'.pool = s.pool ∧ ∀ l, s.leases l = none → s'.leases l = none

theorem quiet_setThread (s : BitmapState) (thread : Nat) (phase : ThreadPhase) :
    Quiet s (s.setThread thread phase) := ⟨rfl, fun _ hNone => hNone⟩

theorem quiet_refl (s : BitmapState) : Quiet s s := ⟨rfl, fun _ hNone => hNone⟩

theorem quiet_setLease {value value' : PoolLease} (hLease : s.leases lease = some value)
    (thread : Nat) (phase : ThreadPhase) :
    Quiet s ((s.setLease lease value').setThread thread phase) := by
  refine ⟨rfl, ?_⟩
  intro l hNone
  have hNe : l ≠ lease := by
    intro hSame
    rw [hSame, hLease] at hNone
    cases hNone
  show Function.update s.leases lease (some value') l = none
  rw [Function.update_of_ne hNe, hNone]

theorem quiet_releasePrevious (s : BitmapState) (thread : Nat) (previous lease : Option Nat) :
    Quiet s (s.releasePrevious thread previous lease) := by
  unfold BitmapState.releasePrevious
  cases previous with
  | none => exact quiet_refl s
  | some before =>
      by_cases hSame : some before = lease
      · simp only [hSame, if_true]
        exact quiet_refl s
      · simp only [hSame, if_false]
        exact quiet_setThread s thread _

/-- Only `onRelease` gives a bitmap to the pool. -/
theorem quiet_advance (h : BitmapsInv s) (thread : Nat) :
    Quiet s (s.advance thread) ∨ ∃ l v, s.threads thread = .onRelease l ∧ s.leases l = some v ∧
      (s.advance thread).pool = s.pool.release v.bitmap ∧
        ∀ l', s.leases l' = none → (s.advance thread).leases l' = none := by
  unfold BitmapState.advance
  cases hAt : s.threads thread with
  | idle => exact .inl (quiet_refl s)
  | borrowed l => exact .inl (quiet_refl s)
  | acquireRead l =>
      left
      obtain ⟨v, hLease⟩ := h.accounts.known thread l (by rw [hAt]; rfl)
      simp only [hLease]
      by_cases hNone : v.references ≤ 0
      · simp only [hNone, if_true]
        exact quiet_setThread s thread _
      · simp only [hNone, if_false]
        exact quiet_setThread s thread _
  | acquireSet l current =>
      left
      obtain ⟨v, hLease⟩ := h.accounts.known thread l (by rw [hAt]; rfl)
      simp only [hLease]
      by_cases hSame : v.references = current
      · simp only [hSame, if_true]
        have hQuiet := @quiet_setLease s l v { v with references := current + 1 } hLease thread
          .idle
        exact ⟨hQuiet.1, hQuiet.2⟩
      · simp only [hSame, if_false]
        exact quiet_setThread s thread _
  | releaseOwner l =>
      left
      obtain ⟨v, hLease⟩ := h.accounts.known thread l (by rw [hAt]; rfl)
      simp only [hLease]
      by_cases hReleased : v.ownerReleased = true
      · simp only [hReleased, if_true]
        exact quiet_setThread s thread _
      · simp only [hReleased]
        exact quiet_setLease hLease thread _
  | releaseReference l =>
      left
      obtain ⟨v, hLease⟩ := h.accounts.known thread l (by rw [hAt]; rfl)
      simp only [hLease]
      exact quiet_setLease hLease thread _
  | closeLease l =>
      left
      obtain ⟨v, hLease⟩ := h.accounts.known thread l (by rw [hAt]; rfl)
      simp only [hLease]
      by_cases hClosed : v.closed = true
      · simp only [hClosed, if_true]
        exact quiet_setThread s thread _
      · simp only [hClosed]
        exact quiet_setLease hLease thread _
  | onRelease l =>
      right
      obtain ⟨v, hLease⟩ := h.accounts.known thread l (by rw [hAt]; rfl)
      refine ⟨l, v, rfl, hLease, ?_, ?_⟩
      · simp only [hLease]
      · have hQuiet := @quiet_setLease s l v { v with returns := v.returns + 1 } hLease thread .idle
        simp only [hLease]
        exact hQuiet.2

/-- A step that is neither a loan nor the return of a bitmap leaves the pool alone. -/
theorem step_pool (h : BitmapsInv s) (event : BitmapEvent) :
    Quiet s (s.step event) ∨
      (∃ thread width height outcome, s.step event = s.borrow thread width height outcome) ∨
      ∃ thread l v, s.threads thread = .onRelease l ∧ s.leases l = some v ∧
        (s.step event).pool = s.pool.release v.bitmap ∧
          ∀ l', s.leases l' = none → (s.step event).leases l' = none := by
  cases event with
  | borrow thread width height outcome =>
      by_cases hIdle : s.threads thread = .idle
      · exact .inr (.inl ⟨thread, width, height, outcome, if_pos hIdle⟩)
      · left
        show Quiet s (if s.threads thread = .idle then _ else s)
        rw [if_neg hIdle]
        exact quiet_refl s
  | share thread =>
      left
      unfold BitmapState.step
      cases hAt : s.threads thread with
      | borrowed l =>
          cases hLease : s.leases l with
          | none => simpa only [hAt, hLease] using quiet_refl s
          | some v =>
              simp only [hAt, hLease]
              exact quiet_setLease hLease thread _
      | idle => simpa only [hAt] using quiet_refl s
      | acquireRead l => simpa only [hAt] using quiet_refl s
      | acquireSet l current => simpa only [hAt] using quiet_refl s
      | releaseOwner l => simpa only [hAt] using quiet_refl s
      | releaseReference l => simpa only [hAt] using quiet_refl s
      | closeLease l => simpa only [hAt] using quiet_refl s
      | onRelease l => simpa only [hAt] using quiet_refl s
  | fail thread =>
      left
      unfold BitmapState.step
      cases hAt : s.threads thread with
      | borrowed l =>
          simp only [hAt]
          exact quiet_setThread s thread _
      | idle => simpa only [hAt] using quiet_refl s
      | acquireRead l => simpa only [hAt] using quiet_refl s
      | acquireSet l current => simpa only [hAt] using quiet_refl s
      | releaseOwner l => simpa only [hAt] using quiet_refl s
      | releaseReference l => simpa only [hAt] using quiet_refl s
      | closeLease l => simpa only [hAt] using quiet_refl s
      | onRelease l => simpa only [hAt] using quiet_refl s
  | acquire thread l =>
      left
      show Quiet s (if s.threads thread = .idle ∧ s.IsShared l then _ else s)
      by_cases hBoth : s.threads thread = .idle ∧ s.IsShared l
      · rw [if_pos hBoth]
        exact quiet_setThread s thread _
      · rw [if_neg hBoth]
        exact quiet_refl s
  | closeDraw thread draw =>
      left
      unfold BitmapState.step
      by_cases hIdle : s.threads thread = .idle
      · simp only [hIdle, if_true]
        cases hDraw : s.draws draw with
        | none => exact quiet_refl s
        | some value =>
            obtain ⟨l, closed⟩ := value
            cases closed with
            | true => exact quiet_refl s
            | false => exact ⟨rfl, fun _ hNone => hNone⟩
      · simp only [hIdle, if_false]
        exact quiet_refl s
  | releaseOwner thread l =>
      left
      show Quiet s (if s.threads thread = .idle ∧ s.IsShared l then _ else s)
      by_cases hBoth : s.threads thread = .idle ∧ s.IsShared l
      · rw [if_pos hBoth]
        exact quiet_setThread s thread _
      · rw [if_neg hBoth]
        exact quiet_refl s
  | replaceLatestPreviewOwner thread sessionId l =>
      left
      show Quiet s (if s.threads thread = .idle ∧ s.IsShared l then _ else s)
      by_cases hBoth : s.threads thread = .idle ∧ s.IsShared l
      · rw [if_pos hBoth]
        exact quiet_releasePrevious _ thread _ _
      · rw [if_neg hBoth]
        exact quiet_refl s
  | releaseLatestPreviewOwner thread sessionId =>
      left
      show Quiet s (if s.threads thread = .idle then _ else s)
      by_cases hIdle : s.threads thread = .idle
      · rw [if_pos hIdle]
        exact quiet_releasePrevious _ thread _ _
      · rw [if_neg hIdle]
        exact quiet_refl s
  | advance thread =>
      rcases quiet_advance h thread with hQuiet | ⟨l, v, hAt, hLease, hPool, hNone⟩
      · exact .inl hQuiet
      · exact .inr (.inr ⟨thread, l, v, hAt, hLease, hPool, hNone⟩)

theorem pool_borrow (s : BitmapState) (thread : Nat) (width height : Int)
    (outcome : BorrowOutcome) :
    (s.borrow thread width height outcome).pool = (s.pool.borrow width height outcome).2 := by
  unfold BitmapState.borrow
  generalize s.pool.borrow width height outcome = lent
  obtain ⟨answer, pool⟩ := lent
  cases answer with
  | none => rfl
  | some bitmap => rfl

/-- A lease that was not there has the bitmap that the pool lends. -/
theorem new_borrow {thread : Nat} {width height : Int} {outcome : BorrowOutcome} {l : Nat}
    {v : PoolLease} (hNone : s.leases l = none)
    (hNew : (s.borrow thread width height outcome).leases l = some v) :
    (s.pool.borrow width height outcome).1 = some v.bitmap := by
  unfold BitmapState.borrow at hNew
  generalize s.pool.borrow width height outcome = lent at hNew ⊢
  obtain ⟨answer, pool⟩ := lent
  cases answer with
  | none =>
      have hSome : s.leases l = some v := hNew
      rw [hNone] at hSome
      cases hSome
  | some bitmap =>
      have hSome : Function.update s.leases s.nextLease
          (some ⟨bitmap, false, false, 0, false, 0⟩) l = some v := hNew
      by_cases hSame : l = s.nextLease
      · rw [hSame, Function.update_self] at hSome
        cases hSome
        rfl
      · rw [Function.update_of_ne hSame, hNone] at hSome
        cases hSome

/-- While somebody holds a reference of a lease, a step leaves its bitmap alone and
lends it to nobody else. -/
theorem step_untouched (h : BitmapsInv s) {value : PoolLease} (hLease : s.leases lease = some value)
    (hPos : 0 < value.references) (event : BitmapEvent) :
    Untouched s.pool (s.step event).pool value.bitmap ∧
      ∀ l v, s.leases l = none → (s.step event).leases l = some v → v.bitmap ≠ value.bitmap := by
  have hExact := h.accounts.exact lease value hLease
  obtain ⟨hUnreturned, -, hNoDuty⟩ := hExact.held hPos
  have hLent : Lent s.leases value.bitmap := ⟨lease, value, hLease, hUnreturned, rfl⟩
  have hNoNew : (∀ l, s.leases l = none → (s.step event).leases l = none) →
      ∀ l v, s.leases l = none → (s.step event).leases l = some v → v.bitmap ≠ value.bitmap := by
    intro hNone l v hBefore hAfter
    rw [hNone l hBefore] at hAfter
    cases hAfter
  rcases step_pool h event with
    ⟨hPool, hNone⟩ | ⟨thread, width, height, outcome, hStep⟩ | ⟨thread, l, v, hAt, hOther, hPool, hNone⟩
  · rw [hPool]
    exact ⟨Untouched.refl s.pool value.bitmap, hNoNew hNone⟩
  · have hLends := lends_borrow h.kept width height outcome
    rw [hStep, pool_borrow]
    refine ⟨hLends.untouched _ hLent, ?_⟩
    intro l v hBefore hAfter hSame
    exact hLends.new v.bitmap (new_borrow hBefore hAfter) (hSame ▸ hLent)
  · have hDuty : Duty l (s.threads thread) := by
      rw [hAt]
      exact rfl
    have hNe : lease ≠ l := by
      intro hSame
      exact hNoDuty thread (hSame ▸ hDuty)
    have hReturns := (((h.accounts.exact l v hOther).duty_iff).1 ⟨thread, hDuty⟩).2
    have hBitmap : value.bitmap ≠ v.bitmap := fun hSame =>
      hNe (h.distinct lease l value v hLease hOther hUnreturned hReturns hSame)
    have hGiven : Lent s.leases v.bitmap := ⟨l, v, hOther, hReturns, rfl⟩
    rw [hPool]
    exact ⟨(kept_release h.kept hGiven).2 value.bitmap hLent hBitmap, hNoNew hNone⟩

/-- The limit of the pool is fixed. -/
theorem step_limit (h : BitmapsInv s) (event : BitmapEvent) :
    (s.step event).pool.maxRetainedBitmaps = s.pool.maxRetainedBitmaps := by
  rcases step_pool h event with
    ⟨hPool, -⟩ | ⟨thread, width, height, outcome, hStep⟩ | ⟨thread, l, v, -, -, hPool, -⟩
  · rw [hPool]
  · rw [hStep, pool_borrow, limit_borrow]
  · rw [hPool, limit_release]

end PoolSteps

/-! ## The claim of the bridge -/

/-- The producer and every draw lease have released the bitmap: the owner of a
handle and its draw leases, or the thread that borrowed it when there is none. -/
def Released (s : BitmapState) (lease : Nat) (value : PoolLease) : Prop :=
  (value.shared = true → value.ownerReleased = true) ∧ ∀ d, s.draws d ≠ some ⟨lease, false⟩

/-- What holds of one lease. -/
structure LeaseOwned (s : BitmapState) (lease : Nat) (value : PoolLease) : Prop where
  references : 0 ≤ value.references
  /-- The bitmap is returned once at most, after everybody has released it. -/
  once : value.returns ≤ 1
  released : value.returns = 1 → Released s lease value
  /-- Once no thread is inside a method of the lease, it is returned exactly when
  everybody has released it. -/
  settled : (∀ t, atLease (s.threads t) ≠ some lease) →
    (value.returns = 1 ↔ Released s lease value)
  /-- After the return `acquire` reads a count for which it answers null, and its
  compare-and-set fails. -/
  null : value.returns = 1 → value.references ≤ 0 ∧
    ∀ t current, s.threads t = .acquireSet lease current → value.references ≠ current
  /-- While the owner or a draw lease has not released it, the bitmap is not
  recycled, and no step recycles it, reconfigures it or lends it again. -/
  safe : ¬ Released s lease value → value.shared = true →
    s.pool.isRecycled value.bitmap = false ∧ value.bitmap ∉ s.pool.retained ∧ ∀ event,
      Untouched s.pool (s.step event).pool value.bitmap ∧
        ∀ l v, s.leases l = none → (s.step event).leases l = some v → v.bitmap ≠ value.bitmap

/-- What holds of the pool: it is within its limit, and has no bitmap twice and
none that is lent. -/
structure PoolOwned (s : BitmapState) (max : Nat) : Prop where
  bound : s.pool.retained.length ≤ max
  nodup : s.pool.retained.Nodup
  not_lent : ∀ b ∈ s.pool.retained, ¬ Lent s.leases b

theorem leaseOwned (s : BitmapState) (h : BitmapsInv s) {lease : Nat} {value : PoolLease}
    (hLease : s.leases lease = some value) : LeaseOwned s lease value := by
  have hExact := h.accounts.exact lease value hLease
  have hReleased : value.references = 0 → Released s lease value := by
    intro hZero
    constructor
    · intro hShared
      have hOwner := hExact.holds_none hZero .owner
      simpa [holds, hShared] using hOwner
    · intro d hDraw
      have hOpen := hExact.holds_none hZero (.draw d)
      simp [holds, hDraw] at hOpen
  have hPos : ¬ Released s lease value → value.shared = true → 0 < value.references := by
    intro hNot _
    have hNonneg := hExact.references_nonneg
    have hNe : value.references ≠ 0 := fun hZero => hNot (hReleased hZero)
    omega
  have hReturnedZero : value.returns = 1 → value.references = 0 := by
    intro hReturns
    cases hClosed : value.closed with
    | true => exact hExact.closed_clear hClosed
    | false =>
        have hNone := hExact.unreturned hClosed
        omega
  constructor
  · exact hExact.references_nonneg
  · exact hExact.returned
  · exact fun hReturns => hReleased (hReturnedZero hReturns)
  · intro hSettled
    constructor
    · exact fun hReturns => hReleased (hReturnedZero hReturns)
    · rintro ⟨hOwner, hDraws⟩
      -- nobody holds a reference, and nobody has the duty any more
      have hNobody : ∀ party, holds lease value s.draws s.threads party = false := by
        intro party
        cases party with
        | owner =>
            cases hShared : value.shared with
            | false => simp [holds, hShared]
            | true => simp [holds, hShared, hOwner hShared]
        | draw d => exact decide_eq_false (hDraws d)
        | thread t =>
            apply decide_eq_false
            intro hAt
            exact hSettled t (by rw [hAt]; rfl)
      obtain ⟨n, hRefs, hCount⟩ := hExact.counted
      have hZero : n = 0 := hCount.eq_zero_iff.2 hNobody
      have hOnce := hExact.returned
      have hDone : value.returns ≠ 0 := by
        intro hReturns
        obtain ⟨t, hDuty⟩ := hExact.duty_iff.2 ⟨by omega, hReturns⟩
        exact hSettled t (atLease_of_duty hDuty)
      omega
  · intro hReturns
    have hZero := hReturnedZero hReturns
    refine ⟨by omega, ?_⟩
    intro t current hAt hSame
    have hFits := hExact.fits t
    rw [hAt] at hFits
    have hSeen := (hFits rfl).2
    omega
  · intro hNot hShared
    have hRefs := hPos hNot hShared
    have hUnreturned := (hExact.held hRefs).1
    have hLent : Lent s.leases value.bitmap := ⟨lease, value, hLease, hUnreturned, rfl⟩
    refine ⟨(h.kept.lent_lt _ hLent).2, ?_, fun event => step_untouched h hLease hRefs event⟩
    exact fun hMem => (h.kept.retained _ hMem).2.2 hLent

section Samples

/-- A preview is drawn once while a second thread releases its owner; the draw
lease is the last to go. -/
def drawnOnce : List BitmapEvent :=
  [.borrow 0 2 2 ⟨true, some (16, true)⟩, .share 0, .replaceLatestPreviewOwner 0 7 0,
    .acquire 1 0, .advance 1, .releaseLatestPreviewOwner 0 7, .advance 1, .advance 0, .advance 0,
    .closeDraw 1 0, .advance 1, .advance 1, .advance 1]

theorem drawnOnce_lease : (BitmapState.after 2 drawnOnce).leases 0 =
    some ⟨0, true, true, 0, true, 1⟩ := by decide

example : (BitmapState.after 2 drawnOnce).pool.retained = [0] := by decide

end Samples

end FrameScope.Ports.PreviewOwnership
