import FrameScope.Ports.PreviewBitmapsLaw

/-!
# The references of one lease

What the owner, the draw leases and the threads may do to one handle, over any
order of their steps.  `Exact` is the account of a lease: its references are the
parties that still have to release one, and while nobody does and it is not
returned, one thread has the duty to return it.
-/

namespace FrameScope.Ports.PreviewLeases

open FrameScope.Verified.Occupancy
open FrameScope.Ports.PreviewBitmaps

/-! ## Parties and phases -/

/-- Who may still have to release a reference. -/
inductive Party where
  | owner
  | draw (draw : Nat)
  | thread (thread : Nat)
  deriving DecidableEq, Repr

/-- The lease that a thread is at. -/
def atLease : ThreadPhase → Option Nat
  | .idle => none
  | .borrowed lease => some lease
  | .acquireRead lease => some lease
  | .acquireSet lease _ => some lease
  | .releaseOwner lease => some lease
  | .releaseReference lease => some lease
  | .closeLease lease => some lease
  | .onRelease lease => some lease

/-- The phases of a thread that has to see to it that the lease is returned. -/
def Duty (lease : Nat) : ThreadPhase → Prop
  | .borrowed other => other = lease
  | .closeLease other => other = lease
  | .onRelease other => other = lease
  | _ => False

/-- What a phase at the lease says about its value. -/
def Fits (lease : Nat) (value : PoolLease) : ThreadPhase → Prop
  | .idle => True
  | .borrowed other => other = lease → value.shared = false ∧ value.closed = false
  | .acquireRead other => other = lease → value.shared = true
  | .acquireSet other current => other = lease → value.shared = true ∧ 0 < current
  | .releaseOwner other => other = lease → value.shared = true
  | .releaseReference _ => True
  | .closeLease other => other = lease → value.closed = false
  | .onRelease other => other = lease → value.closed = true

theorem atLease_of_duty {lease : Nat} {phase : ThreadPhase} (h : Duty lease phase) :
    atLease phase = some lease := by
  cases phase <;> simp_all [Duty, atLease]

/-- A phase elsewhere says nothing. -/
theorem fits_elsewhere {lease : Nat} {value : PoolLease} {phase : ThreadPhase}
    (h : atLease phase ≠ some lease) : Fits lease value phase := by
  cases phase <;> simp_all [Fits, atLease]

/-- Only a thread with the duty relies on more than that the handle is there. -/
theorem fits_of_not_duty {lease : Nat} {value value' : PoolLease} {phase : ThreadPhase}
    (h : Fits lease value phase) (hNot : ¬ Duty lease phase)
    (hShared : value.shared = true → value'.shared = true) : Fits lease value' phase := by
  cases phase <;> simp_all [Fits, Duty]

section Lease

variable {lease : Nat} {value value' : PoolLease} {draws draws' : Nat → Option DrawLease}
  {threads threads' : Nat → ThreadPhase} {thread draw : Nat} {phase : ThreadPhase}

/-- The parties that hold a reference of the lease. -/
def holds (lease : Nat) (value : PoolLease) (draws : Nat → Option DrawLease)
    (threads : Nat → ThreadPhase) : Party → Bool
  | .owner => value.shared && !value.ownerReleased
  | .draw draw => decide (draws draw = some ⟨lease, false⟩)
  | .thread thread => decide (threads thread = .releaseReference lease)

/-- The account of a lease. -/
structure Exact (lease : Nat) (value : PoolLease) (draws : Nat → Option DrawLease)
    (threads : Nat → ThreadPhase) : Prop where
  counted : ∃ n : Nat, value.references = n ∧ Counted (holds lease value draws threads) n
  unshared : value.shared = false → value.references = 0 ∧ value.ownerReleased = false
  fits : ∀ t, Fits lease value (threads t)
  duty_iff : (∃ t, Duty lease (threads t)) ↔ value.references = 0 ∧ value.returns = 0
  duty_unique : ∀ t t', Duty lease (threads t) → Duty lease (threads t') → t = t'
  closed_clear : value.closed = true → value.references = 0
  unreturned : value.closed = false → value.returns = 0
  returned : value.returns ≤ 1

theorem Exact.references_nonneg (h : Exact lease value draws threads) : 0 ≤ value.references := by
  obtain ⟨n, hRefs, -⟩ := h.counted
  omega

/-- Somebody who holds a reference keeps the count above zero. -/
theorem Exact.references_pos (h : Exact lease value draws threads) {party : Party}
    (hHolds : holds lease value draws threads party = true) : 0 < value.references := by
  obtain ⟨n, hRefs, hCount⟩ := h.counted
  have hPos := hCount.pos hHolds
  omega

/-- Nobody holds a reference of a lease whose count is zero. -/
theorem Exact.holds_none (h : Exact lease value draws threads) (hZero : value.references = 0)
    (party : Party) : holds lease value draws threads party = false := by
  cases hHolds : holds lease value draws threads party with
  | false => rfl
  | true =>
      have hPos := h.references_pos hHolds
      omega

/-- While there are references the lease is not returned, and nobody is about to. -/
theorem Exact.held (h : Exact lease value draws threads) (hPos : 0 < value.references) :
    value.returns = 0 ∧ value.closed = false ∧ ∀ t, ¬ Duty lease (threads t) := by
  have hOpen : value.closed = false := by
    cases hClosed : value.closed with
    | false => rfl
    | true =>
        have hZero := h.closed_clear hClosed
        omega
  refine ⟨h.unreturned hOpen, hOpen, ?_⟩
  intro t hDuty
  have hZero := (h.duty_iff.1 ⟨t, hDuty⟩).1
  omega

/-! ## What the steps of other leases leave -/

/-- Everything that concerns a lease is the same. -/
structure Same (lease : Nat) (draws draws' : Nat → Option DrawLease)
    (threads threads' : Nat → ThreadPhase) : Prop where
  draws : ∀ d, draws' d = some ⟨lease, false⟩ ↔ draws d = some ⟨lease, false⟩
  threads : ∀ t phase, atLease phase = some lease → (threads' t = phase ↔ threads t = phase)

theorem Same.duty (h : Same lease draws draws' threads threads') {t : Nat} :
    Duty lease (threads' t) ↔ Duty lease (threads t) := by
  constructor
  · intro hDuty
    have hBefore := (h.threads t _ (atLease_of_duty hDuty)).1 rfl
    rw [hBefore]
    exact hDuty
  · intro hDuty
    have hAfter := (h.threads t _ (atLease_of_duty hDuty)).2 rfl
    rw [hAfter]
    exact hDuty

theorem Same.holds (h : Same lease draws draws' threads threads') :
    holds lease value draws' threads' = holds lease value draws threads := by
  funext party
  cases party with
  | owner => rfl
  | draw d => simp only [PreviewLeases.holds, h.draws]
  | thread t => simp only [PreviewLeases.holds, h.threads t (.releaseReference lease) rfl]

theorem Exact.congr (h : Exact lease value draws threads)
    (hSame : Same lease draws draws' threads threads') : Exact lease value draws' threads' where
  counted := by
    rw [hSame.holds]
    exact h.counted
  unshared := h.unshared
  fits := by
    intro t
    by_cases hAt : atLease (threads' t) = some lease
    · have hBefore := (hSame.threads t _ hAt).1 rfl
      have hFits := h.fits t
      rwa [hBefore] at hFits
    · exact fits_elsewhere hAt
  duty_iff := by
    rw [← h.duty_iff]
    exact exists_congr fun t => hSame.duty
  duty_unique := by
    intro t t' hDuty hDuty'
    exact h.duty_unique t t' (hSame.duty.1 hDuty) (hSame.duty.1 hDuty')
  closed_clear := h.closed_clear
  unreturned := h.unreturned
  returned := h.returned

/-! ## What the steps of a lease do -/

/-- A step while there are references: nobody had the duty, and the thread has it
now exactly when none is left. -/
theorem Exact.quiet (h : Exact lease value draws threads) (hPos : 0 < value.references)
    (hShared : value'.shared = value.shared) (hClosed : value'.closed = value.closed)
    (hReturns : value'.returns = value.returns)
    (hCount : ∃ n : Nat, value'.references = n ∧
      Counted (holds lease value' draws' (Function.update threads thread phase)) n)
    (hFits : Fits lease value' phase) (hDuty : Duty lease phase ↔ value'.references = 0) :
    Exact lease value' draws' (Function.update threads thread phase) := by
  obtain ⟨hUnreturned, hOpen, hNone⟩ := h.held hPos
  have hIsShared : value.shared = true := by
    cases hIs : value.shared with
    | true => rfl
    | false =>
        have hZero := (h.unshared hIs).1
        omega
  have hOnly : ∀ t, Duty lease (Function.update threads thread phase t) →
      t = thread ∧ Duty lease phase := by
    intro t hAt
    by_cases ht : t = thread
    · rw [ht, Function.update_self] at hAt
      exact ⟨ht, hAt⟩
    · rw [Function.update_of_ne ht] at hAt
      exact absurd hAt (hNone t)
  constructor
  · exact hCount
  · intro hNot
    rw [hShared, hIsShared] at hNot
    cases hNot
  · intro t
    by_cases ht : t = thread
    · rw [ht, Function.update_self]
      exact hFits
    · rw [Function.update_of_ne ht]
      exact fits_of_not_duty (h.fits t) (hNone t) fun hIs => hShared.trans hIs
  · rw [hReturns, hUnreturned, ← hDuty]
    constructor
    · rintro ⟨t, hAt⟩
      exact ⟨(hOnly t hAt).2, rfl⟩
    · rintro ⟨hPhase, -⟩
      exact ⟨thread, by rwa [Function.update_self]⟩
  · intro t t' hAt hAt'
    rw [(hOnly t hAt).1, (hOnly t' hAt').1]
  · rw [hClosed, hOpen]
    intro hNot
    cases hNot
  · rw [hReturns, hUnreturned]
    exact fun _ => rfl
  · rw [hReturns, hUnreturned]
    exact Nat.zero_le 1

/-- A step of the thread that has the duty. -/
theorem Exact.dutiful (h : Exact lease value draws threads) (hDuty : Duty lease (threads thread))
    (hShared : value.shared = true → value'.shared = true)
    (hCount : ∃ n : Nat, value'.references = n ∧
      Counted (holds lease value' draws (Function.update threads thread phase)) n)
    (hUnshared : value'.shared = false → value'.references = 0 ∧ value'.ownerReleased = false)
    (hFits : Fits lease value' phase)
    (hAfter : Duty lease phase ↔ value'.references = 0 ∧ value'.returns = 0)
    (hClear : value'.closed = true → value'.references = 0)
    (hUnreturned : value'.closed = false → value'.returns = 0) (hReturned : value'.returns ≤ 1) :
    Exact lease value' draws (Function.update threads thread phase) := by
  have hOnly : ∀ t, Duty lease (Function.update threads thread phase t) →
      t = thread ∧ Duty lease phase := by
    intro t hAt
    by_cases ht : t = thread
    · rw [ht, Function.update_self] at hAt
      exact ⟨ht, hAt⟩
    · rw [Function.update_of_ne ht] at hAt
      exact absurd (h.duty_unique t thread hAt hDuty) ht
  constructor
  · exact hCount
  · exact hUnshared
  · intro t
    by_cases ht : t = thread
    · rw [ht, Function.update_self]
      exact hFits
    · rw [Function.update_of_ne ht]
      have hNot : ¬ Duty lease (threads t) := fun hAt => ht (h.duty_unique t thread hAt hDuty)
      exact fits_of_not_duty (h.fits t) hNot hShared
  · rw [← hAfter]
    constructor
    · rintro ⟨t, hAt⟩
      exact (hOnly t hAt).2
    · intro hPhase
      exact ⟨thread, by rwa [Function.update_self]⟩
  · intro t t' hAt hAt'
    rw [(hOnly t hAt).1, (hOnly t' hAt').1]
  · exact hClear
  · exact hUnreturned
  · exact hReturned

/-- A thread that neither holds a reference nor has the duty goes on to a phase
of the same kind. -/
theorem Exact.move (h : Exact lease value draws threads)
    (hBefore : ¬ Duty lease (threads thread) ∧ threads thread ≠ .releaseReference lease)
    (hAfter : ¬ Duty lease phase ∧ phase ≠ .releaseReference lease)
    (hFits : Fits lease value phase) :
    Exact lease value draws (Function.update threads thread phase) := by
  have hHolds : holds lease value draws (Function.update threads thread phase) =
      holds lease value draws threads := by
    funext party
    cases party with
    | owner => rfl
    | draw d => rfl
    | thread t =>
        by_cases ht : t = thread
        · simp [holds, ht, hBefore.2, hAfter.2]
        · simp [holds, ht]
  have hDuty : ∀ t, Duty lease (Function.update threads thread phase t) ↔
      Duty lease (threads t) := by
    intro t
    by_cases ht : t = thread
    · rw [ht, Function.update_self]
      exact iff_of_false hAfter.1 hBefore.1
    · rw [Function.update_of_ne ht]
  constructor
  · rw [hHolds]
    exact h.counted
  · exact h.unshared
  · intro t
    by_cases ht : t = thread
    · rw [ht, Function.update_self]
      exact hFits
    · rw [Function.update_of_ne ht]
      exact h.fits t
  · rw [← h.duty_iff]
    exact exists_congr hDuty
  · intro t t' hAt hAt'
    exact h.duty_unique t t' ((hDuty t).1 hAt) ((hDuty t').1 hAt')
  · exact h.closed_clear
  · exact h.unreturned
  · exact h.returned

/-! ### The steps of the thread that has the duty -/

/-- A lease that was just borrowed is with the thread that borrowed it. -/
theorem Exact.borrow {bitmap : Nat} (hIdle : ∀ t, atLease (threads t) ≠ some lease)
    (hDraws : ∀ d, draws d ≠ some ⟨lease, false⟩) :
    Exact lease ⟨bitmap, false, false, 0, false, 0⟩ draws
      (Function.update threads thread (.borrowed lease)) := by
  have hElsewhere : ∀ t, Duty lease (Function.update threads thread (.borrowed lease) t) ↔
      t = thread := by
    intro t
    by_cases ht : t = thread
    · rw [ht, Function.update_self]
      exact iff_of_true rfl rfl
    · rw [Function.update_of_ne ht]
      exact iff_of_false (fun hDuty => hIdle t (atLease_of_duty hDuty)) ht
  have hNobody : holds lease ⟨bitmap, false, false, 0, false, 0⟩ draws
      (Function.update threads thread (.borrowed lease)) = fun _ => false := by
    funext party
    cases party with
    | owner => rfl
    | draw d => exact decide_eq_false (hDraws d)
    | thread t =>
        by_cases ht : t = thread
        · simp [holds, ht]
        · have hNot : threads t ≠ .releaseReference lease := fun hAt => hIdle t (by rw [hAt]; rfl)
          simp [holds, ht, hNot]
  constructor
  · refine ⟨0, rfl, ?_⟩
    rw [hNobody]
    exact counted_none
  · exact fun _ => ⟨rfl, rfl⟩
  · intro t
    by_cases ht : t = thread
    · rw [ht, Function.update_self]
      exact fun _ => ⟨rfl, rfl⟩
    · rw [Function.update_of_ne ht]
      exact fits_elsewhere (hIdle t)
  · exact iff_of_true ⟨thread, (hElsewhere thread).2 rfl⟩ ⟨rfl, rfl⟩
  · intro t t' hDuty hDuty'
    rw [(hElsewhere t).1 hDuty, (hElsewhere t').1 hDuty']
  · intro hClosed
    cases hClosed
  · exact fun _ => rfl
  · exact Nat.zero_le 1

/-- A handle starts with the reference of its owner. -/
theorem Exact.share (h : Exact lease value draws threads) (hAt : threads thread = .borrowed lease) :
    Exact lease { value with shared := true, references := 1 } draws
      (Function.update threads thread .idle) := by
  have hDuty : Duty lease (threads thread) := by
    rw [hAt]
    exact rfl
  have hFits := h.fits thread
  rw [hAt] at hFits
  obtain ⟨hShared, hOpen⟩ := hFits rfl
  obtain ⟨hZero, hOwner⟩ := h.unshared hShared
  obtain ⟨n, hRefs, hCount⟩ := h.counted
  have hNone : n = 0 := by omega
  have hHolds : holds lease { value with shared := true, references := 1 } draws
      (Function.update threads thread .idle) =
        Function.update (holds lease value draws threads) .owner true := by
    funext party
    cases party with
    | owner => simp [holds, hOwner]
    | draw d => simp [holds]
    | thread t =>
        by_cases ht : t = thread
        · simp [holds, ht, hAt]
        · simp [holds, ht]
  apply h.dutiful hDuty
  · exact fun _ => rfl
  · refine ⟨1, rfl, ?_⟩
    rw [hHolds]
    have hEnter := hCount.enter (h.holds_none hZero .owner)
    rwa [hNone] at hEnter
  · intro hNot
    cases hNot
  · trivial
  · exact iff_of_false id (fun hBoth => Int.one_ne_zero hBoth.1)
  · intro hClosed
    have hIs : value.closed = true := hClosed
    rw [hOpen] at hIs
    cases hIs
  · exact fun _ => h.unreturned hOpen
  · exact h.returned

/-- The duty goes on to the next phase of the same thread, and nothing else
changes for the parties. -/
theorem Exact.pass (h : Exact lease value draws threads) (hDuty : Duty lease (threads thread))
    (hPhase : phase ≠ .releaseReference lease) (hShared : value'.shared = value.shared)
    (hRefs : value'.references = value.references)
    (hOwner : value'.ownerReleased = value.ownerReleased) (hFits : Fits lease value' phase)
    (hAfter : Duty lease phase ↔ value'.returns = 0)
    (hUnreturned : value'.closed = false → value'.returns = 0) (hReturned : value'.returns ≤ 1) :
    Exact lease value' draws (Function.update threads thread phase) := by
  have hZero := (h.duty_iff.1 ⟨thread, hDuty⟩).1
  obtain ⟨n, hCount⟩ := h.counted
  have hNot : threads thread ≠ .releaseReference lease := by
    intro hAt
    rw [hAt] at hDuty
    exact hDuty
  have hHolds : holds lease value' draws (Function.update threads thread phase) =
      holds lease value draws threads := by
    funext party
    cases party with
    | owner => simp [holds, hShared, hOwner]
    | draw d => rfl
    | thread t =>
        by_cases ht : t = thread
        · simp [holds, ht, hNot, hPhase]
        · simp [holds, ht]
  apply h.dutiful hDuty
  · exact fun hIs => hShared.trans hIs
  · rw [hHolds, hRefs]
    exact h.counted
  · rw [hShared, hRefs, hOwner]
    exact h.unshared
  · exact hFits
  · rw [hAfter, hRefs]
    exact ⟨fun hReturns => ⟨hZero, hReturns⟩, fun hBoth => hBoth.2⟩
  · rw [hRefs]
    exact fun _ => hZero
  · exact hUnreturned
  · exact hReturned

/-- The failure paths go on to close the lease. -/
theorem Exact.fail (h : Exact lease value draws threads) (hAt : threads thread = .borrowed lease) :
    Exact lease value draws (Function.update threads thread (.closeLease lease)) := by
  have hFits := h.fits thread
  rw [hAt] at hFits
  have hOpen := (hFits rfl).2
  have hReturns := h.unreturned hOpen
  have hDuty : Duty lease (threads thread) := by
    rw [hAt]
    exact rfl
  apply h.pass hDuty
  · simp
  · rfl
  · rfl
  · rfl
  · exact fun _ => hOpen
  · exact iff_of_true rfl hReturns
  · exact h.unreturned
  · exact h.returned

/-- `close` marks the lease and goes on to return the bitmap. -/
theorem Exact.close (h : Exact lease value draws threads) (hAt : threads thread = .closeLease lease) :
    Exact lease { value with closed := true } draws
      (Function.update threads thread (.onRelease lease)) := by
  have hDuty : Duty lease (threads thread) := by
    rw [hAt]
    exact rfl
  have hReturns := (h.duty_iff.1 ⟨thread, hDuty⟩).2
  apply h.pass hDuty
  · simp
  · rfl
  · rfl
  · rfl
  · exact fun _ => rfl
  · exact iff_of_true rfl hReturns
  · exact fun _ => hReturns
  · exact h.returned

/-- `onRelease` discharges the duty. -/
theorem Exact.giveBack (h : Exact lease value draws threads)
    (hAt : threads thread = .onRelease lease) :
    Exact lease { value with returns := value.returns + 1 } draws
      (Function.update threads thread .idle) := by
  have hDuty : Duty lease (threads thread) := by
    rw [hAt]
    exact rfl
  have hReturns := (h.duty_iff.1 ⟨thread, hDuty⟩).2
  have hFits := h.fits thread
  rw [hAt] at hFits
  have hClosed := hFits rfl
  apply h.pass hDuty
  · simp
  · rfl
  · rfl
  · rfl
  · trivial
  · exact iff_of_false id (Nat.succ_ne_zero value.returns)
  · intro hOpen
    have hIs : value.closed = false := hOpen
    rw [hClosed] at hIs
    cases hIs
  · show value.returns + 1 ≤ 1
    omega

/-! ### The steps of the parties -/

/-- `acquire` succeeds: a draw lease that was not there holds a reference. -/
theorem Exact.acquire (h : Exact lease value draws threads)
    (hAt : threads thread = .acquireSet lease value.references)
    (hFresh : draws draw = none) :
    Exact lease { value with references := value.references + 1 }
      (Function.update draws draw (some ⟨lease, false⟩)) (Function.update threads thread .idle) := by
  have hFits := h.fits thread
  rw [hAt] at hFits
  have hPos := (hFits rfl).2
  obtain ⟨n, hRefs, hCount⟩ := h.counted
  have hHolds : holds lease { value with references := value.references + 1 }
      (Function.update draws draw (some ⟨lease, false⟩)) (Function.update threads thread .idle) =
        Function.update (holds lease value draws threads) (.draw draw) true := by
    funext party
    cases party with
    | owner => simp [holds]
    | draw d =>
        by_cases hd : d = draw
        · simp [holds, hd]
        · simp [holds, hd]
    | thread t =>
        by_cases ht : t = thread
        · simp [holds, ht, hAt]
        · simp [holds, ht]
  apply h.quiet hPos
  · rfl
  · rfl
  · rfl
  · refine ⟨n + 1, by simp [hRefs], ?_⟩
    rw [hHolds]
    apply hCount.enter
    simp [holds, hFresh]
  · trivial
  · apply iff_of_false id
    show value.references + 1 ≠ 0
    omega

/-- A party hands its reference to the thread that is about to release it. -/
theorem Exact.handOver (h : Exact lease value draws threads) {party : Party}
    (hHolds : holds lease value draws threads party = true)
    (hAt : threads thread ≠ .releaseReference lease) (hParty : party ≠ .thread thread)
    (hShared : value'.shared = value.shared) (hClosed : value'.closed = value.closed)
    (hReturns : value'.returns = value.returns) (hRefs : value'.references = value.references)
    (hAfter : holds lease value' draws' (Function.update threads thread (.releaseReference lease)) =
      Function.update (Function.update (holds lease value draws threads) party false)
        (.thread thread) true) :
    Exact lease value' draws' (Function.update threads thread (.releaseReference lease)) := by
  have hPos := h.references_pos hHolds
  obtain ⟨n, hIs, hCount⟩ := h.counted
  apply h.quiet hPos hShared hClosed hReturns
  · refine ⟨n - 1 + 1, by omega, ?_⟩
    rw [hAfter]
    apply (hCount.leave hHolds).enter
    rw [Function.update_of_ne hParty.symm]
    exact decide_eq_false hAt
  · trivial
  · apply iff_of_false id
    rw [hRefs]
    omega

/-- `releaseOwner` takes the reference of the owner. -/
theorem Exact.releaseOwner (h : Exact lease value draws threads)
    (hAt : threads thread = .releaseOwner lease) (hOwner : value.ownerReleased = false) :
    Exact lease { value with ownerReleased := true } draws
      (Function.update threads thread (.releaseReference lease)) := by
  have hFits := h.fits thread
  rw [hAt] at hFits
  have hShared := hFits rfl
  have hHolds : holds lease value draws threads .owner = true := by simp [holds, hShared, hOwner]
  apply h.handOver hHolds
  · rw [hAt]
    simp
  · simp
  · rfl
  · rfl
  · rfl
  · rfl
  · funext party
    cases party with
    | owner => simp [holds]
    | draw d => simp [holds]
    | thread t =>
        by_cases ht : t = thread
        · simp [holds, ht]
        · simp [holds, ht]

/-- `close` of a draw lease takes its reference. -/
theorem Exact.closeDraw (h : Exact lease value draws threads) (hIdle : threads thread = .idle)
    (hDraw : draws draw = some ⟨lease, false⟩) :
    Exact lease value (Function.update draws draw (some ⟨lease, true⟩))
      (Function.update threads thread (.releaseReference lease)) := by
  have hHolds : holds lease value draws threads (.draw draw) = true := by simp [holds, hDraw]
  apply h.handOver hHolds
  · rw [hIdle]
    simp
  · simp
  · rfl
  · rfl
  · rfl
  · rfl
  · funext party
    cases party with
    | owner => simp [holds]
    | draw d =>
        by_cases hd : d = draw
        · simp [holds, hd]
        · simp [holds, hd]
    | thread t =>
        by_cases ht : t = thread
        · simp [holds, ht]
        · simp [holds, ht]

/-- The decrement: the last one leaves the thread with the duty. -/
theorem Exact.release (h : Exact lease value draws threads)
    (hAt : threads thread = .releaseReference lease) :
    Exact lease { value with references := value.references - 1 } draws
      (Function.update threads thread
        (if value.references - 1 = 0 then .closeLease lease else .idle)) := by
  have hHolds : holds lease value draws threads (.thread thread) = true := by simp [holds, hAt]
  have hPos := h.references_pos hHolds
  have hOpen := (h.held hPos).2.1
  obtain ⟨n, hRefs, hCount⟩ := h.counted
  have hAfter : ∀ phase, phase ≠ .releaseReference lease →
      holds lease { value with references := value.references - 1 } draws
        (Function.update threads thread phase) =
          Function.update (holds lease value draws threads) (.thread thread) false := by
    intro phase hPhase
    funext party
    cases party with
    | owner => simp [holds]
    | draw d => simp [holds]
    | thread t =>
        by_cases ht : t = thread
        · simp [holds, ht, hPhase]
        · simp [holds, ht]
  have hCounted : ∀ phase, phase ≠ .releaseReference lease →
      ∃ m : Nat, value.references - 1 = m ∧
        Counted (holds lease { value with references := value.references - 1 } draws
          (Function.update threads thread phase)) m := by
    intro phase hPhase
    refine ⟨n - 1, by omega, ?_⟩
    rw [hAfter phase hPhase]
    exact hCount.leave hHolds
  by_cases hLast : value.references - 1 = 0
  · rw [if_pos hLast]
    apply h.quiet hPos
    · rfl
    · rfl
    · rfl
    · exact hCounted _ (by simp)
    · exact fun _ => hOpen
    · exact iff_of_true rfl hLast
  · rw [if_neg hLast]
    apply h.quiet hPos
    · rfl
    · rfl
    · rfl
    · exact hCounted _ (by simp)
    · trivial
    · exact iff_of_false id hLast

end Lease

end FrameScope.Ports.PreviewLeases
