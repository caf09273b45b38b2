import Mathlib

/-!
# While loops

`Ends cond body s t` is the meaning of `while cond { body }`: started in `s`,
the loop stops in `t`.  `rounds` runs it for a bounded number of rounds.  A
measure that every round decreases makes the loop end, and bounds the rounds it
takes; an invariant of the body is one of the loop.

Nothing here knows what a state is.
-/

namespace FrameScope.Verified.Loops

variable {σ : Type} (cond : σ → Prop) (body : σ → σ)

/-- The loop started in the first state stops in the second one. -/
inductive Ends : σ → σ → Prop
  | stop {s : σ} (h : ¬ cond s) : Ends s s
  | round {s t : σ} (h : cond s) (hRest : Ends (body s) t) : Ends s t

/-- At most `n` rounds of the loop. -/
def rounds [DecidablePred cond] : Nat → σ → σ
  | 0, s => s
  | n + 1, s => if cond s then rounds n (body s) else s

variable {cond} {body} {s t t' : σ}

/-- As many rounds as the measure allows are enough. -/
theorem ends_rounds [DecidablePred cond] {m : σ → Nat}
    (hLess : ∀ s, cond s → m (body s) < m s) {n : Nat} (h : m s ≤ n) :
    Ends cond body s (rounds cond body n s) := by
  induction n generalizing s with
  | zero =>
      apply Ends.stop
      intro hCond
      have := hLess s hCond
      omega
  | succ n ih =>
      by_cases hCond : cond s
      · have hNext := hLess s hCond
        rw [rounds, if_pos hCond]
        exact Ends.round hCond (ih (by omega))
      · rw [rounds, if_neg hCond]
        exact Ends.stop hCond

theorem Ends.not_cond (h : Ends cond body s t) : ¬ cond t := by
  induction h with
  | stop hStop => exact hStop
  | round _ _ ih => exact ih

/-- The loop stops in one state at most. -/
theorem Ends.unique (h : Ends cond body s t) (h' : Ends cond body s t') : t = t' := by
  induction h with
  | stop hStop =>
      cases h' with
      | stop => rfl
      | round hCond => exact absurd hCond hStop
  | round hCond _ ih =>
      cases h' with
      | stop hStop => exact absurd hCond hStop
      | round _ hRest => exact ih hRest

/-- The invariant rule. -/
theorem Ends.keeps {P : σ → Prop} (hBody : ∀ s, P s → cond s → P (body s))
    (h : Ends cond body s t) (hInit : P s) : P t := by
  induction h with
  | stop => exact hInit
  | round hCond _ ih => exact ih (hBody _ hInit hCond)

end FrameScope.Verified.Loops
