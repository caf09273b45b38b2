import Mathlib

/-!
# Pre- and postconditions of fallible programs

A program of `EStateM ε σ α` runs on a state and ends with a value or with an
error, and leaves a state in both cases.  `wp x Q E s` says what it takes for
`x`, started in `s`, to end in `Q` when it returns and in `E` when it throws.
One equation for each program former computes it, `wp_mono` weakens both
postconditions, and a loop is an induction over its rounds.
-/

namespace FrameScope.Verified.Fallible

variable {ε δ σ α β : Type}

/-- The weakest precondition for the two postconditions. -/
def wp (x : EStateM ε σ α) (Q : α → σ → Prop) (E : ε → σ → Prop) (s : σ) : Prop :=
  match x s with
  | .ok a s' => Q a s'
  | .error e s' => E e s'

section Rules

variable {Q : α → σ → Prop} {E : ε → σ → Prop} {s : σ}

@[simp] theorem wp_pure (a : α) : wp (pure a : EStateM ε σ α) Q E s ↔ Q a s := Iff.rfl

@[simp] theorem wp_throw (e : ε) : wp (throw e : EStateM ε σ α) Q E s ↔ E e s := Iff.rfl

@[simp] theorem wp_get {Q : σ → σ → Prop} : wp (get : EStateM ε σ σ) Q E s ↔ Q s s := Iff.rfl

@[simp] theorem wp_set {Q : PUnit → σ → Prop} (s' : σ) :
    wp (set s' : EStateM ε σ PUnit) Q E s ↔ Q ⟨⟩ s' := Iff.rfl

@[simp] theorem wp_modify {Q : PUnit → σ → Prop} (f : σ → σ) :
    wp (modify f : EStateM ε σ PUnit) Q E s ↔ Q ⟨⟩ (f s) := Iff.rfl

@[simp] theorem wp_bind {Q : β → σ → Prop} (x : EStateM ε σ α) (f : α → EStateM ε σ β) :
    wp (x >>= f) Q E s ↔ wp x (fun a s' => wp (f a) Q E s') E s := by
  change (match EStateM.bind x f s with
    | .ok b s' => Q b s'
    | .error e s' => E e s') ↔ _
  unfold wp EStateM.bind
  cases x s with
  | ok a s' => exact Iff.rfl
  | error e s' => exact Iff.rfl

/-- A handler runs on the state that the failed program left. -/
@[simp] theorem wp_tryCatch (x : EStateM ε σ α) (handle : ε → EStateM ε σ α) :
    wp (tryCatch x handle) Q E s ↔ wp x Q (fun e s' => wp (handle e) Q E s') s := by
  change (match EStateM.tryCatch x handle s with
    | .ok a s' => Q a s'
    | .error e s' => E e s') ↔ _
  unfold wp EStateM.tryCatch
  cases x s with
  | ok a s' => exact Iff.rfl
  | error e s' => exact Iff.rfl

/-- A program under another error type. -/
@[simp] theorem wp_adaptExcept {E : δ → σ → Prop} (f : ε → δ) (x : EStateM ε σ α) :
    wp (EStateM.adaptExcept f x) Q E s ↔ wp x Q (fun e => E (f e)) s := by
  unfold wp EStateM.adaptExcept
  cases x s with
  | ok a s' => exact Iff.rfl
  | error e s' => exact Iff.rfl

/-- Both postconditions can be weakened. -/
theorem wp_mono {x : EStateM ε σ α} {Q' : α → σ → Prop} {E' : ε → σ → Prop}
    (h : wp x Q E s) (hQ : ∀ a s', Q a s' → Q' a s') (hE : ∀ e s', E e s' → E' e s') :
    wp x Q' E' s := by
  unfold wp at *
  cases hx : x s with
  | ok a s' =>
      rw [hx] at h
      exact hQ a s' h
  | error e s' =>
      rw [hx] at h
      exact hE e s' h

/-- A precondition looks at one run. -/
theorem wp_congr {x y : EStateM ε σ α} (h : x s = y s) : wp x Q E s ↔ wp y Q E s := by
  unfold wp
  rw [h]

/-- What a run that returned has established. -/
theorem wp_ok {x : EStateM ε σ α} {a : α} {s' : σ} (h : wp x Q E s) (hx : x s = .ok a s') :
    Q a s' := by
  unfold wp at h
  rwa [hx] at h

/-- What a run that failed has established. -/
theorem wp_error {x : EStateM ε σ α} {e : ε} {s' : σ} (h : wp x Q E s) (hx : x s = .error e s') :
    E e s' := by
  unfold wp at h
  rwa [hx] at h

/-- An empty postcondition is always met. -/
theorem wp_trivial (x : EStateM ε σ α) (s : σ) :
    wp x (fun _ _ => True) (fun _ _ => True) s := by
  unfold wp
  cases x s with
  | ok a s' => trivial
  | error e s' => trivial

/-- A run that cannot fail returns. -/
theorem wp_returns {x : EStateM ε σ α} (h : wp x Q (fun _ _ => False) s) :
    ∃ a s', x s = .ok a s' ∧ Q a s' := by
  unfold wp at h
  cases hx : x s with
  | ok a s' =>
      rw [hx] at h
      exact ⟨a, s', rfl, h⟩
  | error e s' =>
      rw [hx] at h
      exact h.elim

/-- What holds whatever the first program returns, when nothing is asked of a
failure. -/
theorem wp_bind_of {Q : β → σ → Prop} {x : EStateM ε σ α} {f : α → EStateM ε σ β}
    (h : ∀ a s', wp (f a) Q (fun _ _ => True) s') : wp (x >>= f) Q (fun _ _ => True) s := by
  rw [wp_bind]
  exact wp_mono (wp_trivial x s) (fun a s' _ => h a s') fun _ _ _ => trivial

/-- Two pairs of postconditions hold together. -/
theorem wp_and {x : EStateM ε σ α} {Q' : α → σ → Prop} {E' : ε → σ → Prop} (h : wp x Q E s)
    (h' : wp x Q' E' s) :
    wp x (fun a s' => Q a s' ∧ Q' a s') (fun e s' => E e s' ∧ E' e s') s := by
  unfold wp at *
  cases hx : x s with
  | ok a s' =>
      rw [hx] at h h'
      exact ⟨h, h'⟩
  | error e s' =>
      rw [hx] at h h'
      exact ⟨h, h'⟩

end Rules

/-- A step that only computes, with its error relabelled. -/
def ofExcept (f : ε → δ) : Except ε α → EStateM δ σ α
  | .ok a => pure a
  | .error e => throw (f e)

@[simp] theorem wp_ofExcept {Q : α → σ → Prop} {E : δ → σ → Prop} {s : σ} (f : ε → δ)
    (x : Except ε α) :
    wp (ofExcept f x) Q E s ↔ (∀ a, x = .ok a → Q a s) ∧ ∀ e, x = .error e → E (f e) s := by
  cases x with
  | ok a => simp [ofExcept]
  | error e => simp [ofExcept]

@[simp] theorem wp_ofExcept_ok {Q : α → σ → Prop} {E : δ → σ → Prop} {s : σ} (f : ε → δ) (a : α) :
    wp (ofExcept f (.ok a)) Q E s ↔ Q a s := Iff.rfl

/-! ## Ends of a run -/

/-- What a run returned. -/
def outcome : EStateM.Result ε σ α → Except ε α
  | .ok a _ => .ok a
  | .error e _ => .error e

/-- The state a run left. -/
def finalState : EStateM.Result ε σ α → σ
  | .ok _ s => s
  | .error _ s => s

theorem outcome_ofExcept (f : ε → δ) (x : Except ε α) (s : σ) :
    outcome (ofExcept f x s) = x.mapError f := by
  cases x with
  | ok a => rfl
  | error e => rfl

/-- A precondition says what holds of the two together. -/
theorem wp_iff_ends {x : EStateM ε σ α} {P : Except ε α → σ → Prop} {s : σ} :
    wp x (fun a => P (.ok a)) (fun e => P (.error e)) s ↔
      P (outcome (x s)) (finalState (x s)) := by
  unfold wp
  cases x s with
  | ok a s' => exact Iff.rfl
  | error e s' => exact Iff.rfl

/-- What both ends of a call promise holds of the files that it leaves. -/
theorem wp_finalState {ε σ α : Type} {x : EStateM ε σ α} {P : σ → Prop} {Q : α → σ → Prop}
    {E : ε → σ → Prop} {s : σ} (h : wp x Q E s) (hQ : ∀ a s', Q a s' → P s')
    (hE : ∀ e s', E e s' → P s') : P (finalState (x s)) := by
  have hBoth : wp x (fun _ s' => P s') (fun _ s' => P s') s := wp_mono h hQ hE
  unfold wp at hBoth
  cases hRun : x s with
  | ok a s' =>
      rw [hRun] at hBoth
      exact hBoth
  | error e s' =>
      rw [hRun] at hBoth
      exact hBoth

/-! ## Programs inside programs -/

/-- Run a program and hand on how it ended. -/
def attempt (x : EStateM ε σ α) : EStateM δ σ (Except ε α) := fun s =>
  match x s with
  | .ok a s' => .ok (.ok a) s'
  | .error e s' => .ok (.error e) s'

@[simp] theorem wp_attempt {Q : Except ε α → σ → Prop} {E : δ → σ → Prop} {s : σ}
    (x : EStateM ε σ α) :
    wp (attempt x) Q E s ↔ wp x (fun a => Q (.ok a)) (fun e => Q (.error e)) s := by
  unfold wp attempt
  cases x s with
  | ok a s' => exact Iff.rfl
  | error e s' => exact Iff.rfl

/-- A program on a part of the state. -/
def zoom {ρ : Type} (view : σ → ρ) (update : ρ → σ → σ) (x : EStateM ε ρ α) : EStateM ε σ α :=
  fun s =>
    match x (view s) with
    | .ok a r => .ok a (update r s)
    | .error e r => .error e (update r s)

@[simp] theorem wp_zoom {ρ : Type} {view : σ → ρ} {update : ρ → σ → σ} {Q : α → σ → Prop}
    {E : ε → σ → Prop} {s : σ} (x : EStateM ε ρ α) :
    wp (zoom view update x) Q E s ↔
      wp x (fun a r => Q a (update r s)) (fun e r => E e (update r s)) (view s) := by
  unfold wp zoom
  cases x (view s) with
  | ok a r => exact Iff.rfl
  | error e r => exact Iff.rfl

/-- A program whose failure undoes what it did. -/
def transaction (x : EStateM ε σ α) : EStateM ε σ α := fun s =>
  match x s with
  | .ok a s' => .ok a s'
  | .error e _ => .error e s

@[simp] theorem wp_transaction {Q : α → σ → Prop} {E : ε → σ → Prop} {s : σ}
    (x : EStateM ε σ α) :
    wp (transaction x) Q E s ↔ wp x Q (fun e _ => E e s) s := by
  unfold wp transaction
  cases x s with
  | ok a s' => exact Iff.rfl
  | error e s' => exact Iff.rfl

/-- A transaction that fails restores the state. -/
theorem wp_transaction_restores (x : EStateM ε σ α) (s : σ) :
    wp (transaction x) (fun _ _ => True) (fun _ s' => s' = s) s := by
  rw [wp_transaction]
  exact wp_mono (wp_trivial x s) (fun _ _ _ => trivial) fun _ _ _ => rfl

/-! ## Runs that return -/

section Returns

variable {s : σ} {a : α} {s' : σ}

theorem bind_ok_iff {x : EStateM ε σ α} {f : α → EStateM ε σ β} {b : β} :
    (x >>= f) s = .ok b s' ↔ ∃ a r, x s = .ok a r ∧ f a r = .ok b s' := by
  change EStateM.bind x f s = .ok b s' ↔ _
  unfold EStateM.bind
  cases x s with
  | ok a r => simp
  | error e r => simp

theorem bind_of_ok {x : EStateM ε σ α} {r : σ} (h : x s = .ok a r) (f : α → EStateM ε σ β) :
    (x >>= f) s = f a r := by
  change EStateM.bind x f s = _
  unfold EStateM.bind
  rw [h]

theorem bind_of_error {x : EStateM ε σ α} {e : ε} {r : σ} (h : x s = .error e r)
    (f : α → EStateM ε σ β) : (x >>= f) s = .error e r := by
  show EStateM.bind x f s = _
  unfold EStateM.bind
  rw [h]

theorem ofExcept_ok_iff {f : ε → δ} {x : Except ε α} :
    ofExcept f x s = .ok a s' ↔ x = .ok a ∧ s' = s := by
  cases x with
  | ok b =>
      show EStateM.Result.ok b s = .ok a s' ↔ _
      rw [EStateM.Result.ok.injEq, Except.ok.injEq, eq_comm (a := s)]
  | error e =>
      show EStateM.Result.error (f e) s = .ok a s' ↔ _
      simp

theorem transaction_ok_iff {x : EStateM ε σ α} :
    transaction x s = .ok a s' ↔ x s = .ok a s' := by
  unfold transaction
  cases x s with
  | ok b r => exact Iff.rfl
  | error e r => simp

theorem zoom_ok_iff {ρ : Type} {view : σ → ρ} {update : ρ → σ → σ} {x : EStateM ε ρ α} :
    zoom view update x s = .ok a s' ↔ ∃ r, x (view s) = .ok a r ∧ s' = update r s := by
  unfold zoom
  cases x (view s) with
  | ok b r =>
      dsimp only
      rw [EStateM.Result.ok.injEq]
      constructor
      · intro ⟨hValue, hState⟩
        exact ⟨r, by rw [hValue], hState.symm⟩
      · intro ⟨r', hRun, hState⟩
        cases hRun
        exact ⟨rfl, hState.symm⟩
  | error e r => simp

end Returns

/-! ## Runs that a second program repeats -/

section Simulation

variable {τ : Type} {R : σ → τ → Prop}

/-- From related states, `y` returns whatever `x` returns and leaves a related
state.  Nothing is said of a run of `x` that fails. -/
def Simulates (R : σ → τ → Prop) (x : EStateM ε σ α) (y : EStateM δ τ α) : Prop :=
  ∀ s t, R s t → ∀ a s', x s = .ok a s' → ∃ t', y t = .ok a t' ∧ R s' t'

theorem Simulates.refl_pure (a : α) :
    Simulates R (pure a : EStateM ε σ α) (pure a : EStateM δ τ α) := by
  intro s t hR b s' hRun
  cases hRun
  exact ⟨t, rfl, hR⟩

/-- A program that fails is repeated by every other. -/
theorem Simulates.throw (e : ε) (y : EStateM δ τ α) :
    Simulates R (throw e : EStateM ε σ α) y := by
  intro s t _ a s' hRun
  cases hRun

theorem Simulates.bind {x : EStateM ε σ α} {y : EStateM δ τ α} {f : α → EStateM ε σ β}
    {g : α → EStateM δ τ β} (h : Simulates R x y) (hNext : ∀ a, Simulates R (f a) (g a)) :
    Simulates R (x >>= f) (y >>= g) := by
  intro s t hR b s'' hRun
  obtain ⟨a, s', hFirst, hSecond⟩ := bind_ok_iff.1 hRun
  obtain ⟨t', hFirst', hR'⟩ := h s t hR a s' hFirst
  obtain ⟨t'', hSecond', hR''⟩ := hNext a s' t' hR' b s'' hSecond
  exact ⟨t'', bind_ok_iff.2 ⟨a, t', hFirst', hSecond'⟩, hR''⟩

theorem Simulates.modify {f : σ → σ} {g : τ → τ} (h : ∀ s t, R s t → R (f s) (g t)) :
    Simulates R (modify f : EStateM ε σ PUnit) (modify g : EStateM δ τ PUnit) := by
  intro s t hR a s' hRun
  cases hRun
  exact ⟨g t, rfl, h s t hR⟩

/-- A computation that answers at least as often. -/
theorem Simulates.ofExcept {ε' δ' : Type} {f : ε' → ε} {g : δ' → δ} {x : Except ε' α}
    {y : Except δ' α} (h : ∀ a, x = .ok a → y = .ok a) :
    Simulates R (ofExcept f x) (ofExcept g y) := by
  intro s t hR a s' hRun
  obtain ⟨hValue, hState⟩ := ofExcept_ok_iff.1 hRun
  rw [hState]
  exact ⟨t, ofExcept_ok_iff.2 ⟨h a hValue, rfl⟩, hR⟩

end Simulation

end FrameScope.Verified.Fallible
