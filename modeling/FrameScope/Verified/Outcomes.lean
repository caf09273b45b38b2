import Mathlib

/-!
# Programs that return or fail

A program of `Except ε α` without a state.  `post Q P x` says that what `x`
returns satisfies `Q` and that an error it ends with satisfies `P`.  `Follows x y`
says that `y` returns whatever `x` returns; nothing is said of a failure of `x`.

One rule for each program former; a longer program is the rules of its steps put
together in its order.
-/

namespace FrameScope.Verified.Outcomes

variable {ε α β : Type}

/-! ## Postconditions -/

/-- The postconditions for the two ends of a program. -/
def post (Q : α → Prop) (P : ε → Prop) (x : Except ε α) : Prop :=
  (∀ a, x = .ok a → Q a) ∧ ∀ e, x = .error e → P e

section Post

variable {Q Q' : α → Prop} {P P' : ε → Prop} {x : Except ε α} {a : α} {e : ε}

@[simp] theorem post_ok : post Q P (.ok a) ↔ Q a := by
  constructor
  · intro h
    exact h.1 a rfl
  · intro h
    exact ⟨fun _ hEq => Except.ok.inj hEq ▸ h, fun _ hEq => (by cases hEq)⟩

@[simp] theorem post_error : post Q P (.error e) ↔ P e := by
  constructor
  · intro h
    exact h.2 e rfl
  · intro h
    exact ⟨fun _ hEq => (by cases hEq), fun _ hEq => Except.error.inj hEq ▸ h⟩

theorem post_bind {Q : β → Prop} {f : α → Except ε β} :
    post Q P (x >>= f) ↔ post (fun a => post Q P (f a)) P x := by
  cases x with
  | ok a =>
      rw [post_ok]
      exact Iff.rfl
  | error e =>
      rw [post_error]
      exact post_error

theorem post_map {Q : β → Prop} {f : α → β} :
    post Q P (x.map f) ↔ post (fun a => Q (f a)) P x := by
  cases x with
  | ok a => simp [Except.map]
  | error e => simp [Except.map]

theorem post_mono (h : post Q P x) (hQ : ∀ a, Q a → Q' a) (hP : ∀ e, P e → P' e) :
    post Q' P' x :=
  ⟨fun a hx => hQ a (h.1 a hx), fun e hx => hP e (h.2 e hx)⟩

/-- A first step whose value is only known by its postcondition. -/
theorem post_bind_of {R : α → Prop} {Q : β → Prop} {f : α → Except ε β} (h : post R P x)
    (hNext : ∀ a, R a → post Q P (f a)) : post Q P (x >>= f) :=
  post_bind.2 (post_mono h hNext fun _ h => h)

theorem post_ite {p : Prop} [Decidable p] {y : Except ε α} (hThen : p → post Q P x)
    (hElse : ¬ p → post Q P y) : post Q P (if p then x else y) := by
  split_ifs with h
  · exact hThen h
  · exact hElse h

end Post

/-! ## Programs that return the same -/

/-- Whatever the first program returns, the second one returns. -/
def Follows (x y : Except ε α) : Prop := ∀ a, x = .ok a → y = .ok a

section Follows

variable {x y : Except ε α}

theorem Follows.refl (x : Except ε α) : Follows x x := fun _ h => h

/-- A program that fails is followed by every other. -/
theorem Follows.of_error (e : ε) (y : Except ε α) : Follows (.error e) y := fun _ h => by cases h

theorem Follows.bind {f g : α → Except ε β} (h : Follows x y)
    (hNext : ∀ a, x = .ok a → Follows (f a) (g a)) : Follows (x >>= f) (y >>= g) := by
  intro b hb
  cases hx : x with
  | error e =>
      rw [hx] at hb
      cases hb
  | ok a =>
      rw [hx] at hb
      rw [h a hx]
      exact hNext a hx b hb

theorem Follows.map (h : Follows x y) (f : α → β) : Follows (x.map f) (y.map f) := by
  intro b hb
  cases hx : x with
  | error e =>
      rw [hx] at hb
      cases hb
  | ok a =>
      rw [hx] at hb
      rw [h a hx]
      exact hb

/-- The first step is the same program in both. -/
theorem Follows.bind_same {f g : α → Except ε β}
    (hNext : ∀ a, x = .ok a → Follows (f a) (g a)) : Follows (x >>= f) (x >>= g) :=
  (Follows.refl x).bind hNext

theorem Follows.ite {p : Prop} [Decidable p] {x' y' : Except ε α} (hThen : p → Follows x y)
    (hElse : ¬ p → Follows x' y') :
    Follows (if p then x else x') (if p then y else y') := by
  split_ifs with h
  · exact hThen h
  · exact hElse h

end Follows

end FrameScope.Verified.Outcomes
