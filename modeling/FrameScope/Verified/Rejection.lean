import FrameScope.Verified.Fallible

/-!
# Programs that reject before they write

A caller may go on using a state after a call on it has failed.  `Rejects` says
that nothing of the failed call is then left.  A program that writes in several
steps has the property when it does what a function on values says, which
`ended` compares: the function gives no new state with its error.

`calls` is a caller that goes on after every failure.
-/

namespace FrameScope.Verified.Rejection

open FrameScope.Verified.Fallible

variable {ε δ σ α β γ ι : Type}

/-- The program leaves the state as it is when it fails. -/
def Rejects (x : EStateM ε σ α) : Prop := ∀ s e s', x s = .error e s' → s' = s

/-- The end of a program that stands for a function on a value: the new state when it answers,
the old one when it does not. -/
def ended (s : σ) : Except ε (σ × α) → EStateM.Result ε σ α
  | .ok (s', a) => .ok a s'
  | .error e => .error e s

section Ended

variable {f : ε → δ} {s : σ} {k : α → EStateM δ σ β} {l : α → Except δ (σ × β)}

/-- A step that only computes, in the program and in the function. -/
theorem ended_bind {x : Except ε α} (h : ∀ a, x = .ok a → k a s = ended s (l a)) :
    (ofExcept f x >>= k) s = ended s (x.mapError f >>= l) := by
  cases x with
  | ok a => exact h a rfl
  | error e => rfl

theorem ended_bind_id {x : Except δ α} (h : ∀ a, x = .ok a → k a s = ended s (l a)) :
    (ofExcept id x >>= k) s = ended s (x >>= l) := by
  cases x with
  | ok a => exact h a rfl
  | error e => rfl

/-- A program that does what a function says leaves no trace of a failure. -/
theorem Rejects.of_ended {x : EStateM ε σ α} {g : σ → Except ε (σ × α)}
    (h : ∀ s, x s = ended s (g s)) : Rejects x := by
  intro s e s' hRun
  rw [h s] at hRun
  cases hg : g s with
  | ok r =>
      rw [hg] at hRun
      cases hRun
  | error e' =>
      rw [hg] at hRun
      cases hRun
      rfl

end Ended

/-! ## Calls that go on after a failure -/

section Calls

variable (call : ι → EStateM ε σ (Option γ))

/-- Make the calls one after the other, whatever becomes of them.  The result is the state they
leave and what the calls that returned gave out, in order. -/
def calls : σ → List ι → σ × List γ
  | s, [] => (s, [])
  | s, i :: rest =>
      let remaining := calls (finalState (call i s)) rest
      (remaining.1, ((outcome (call i s)).toOption.join).toList ++ remaining.2)

variable {call} {s : σ}

theorem calls_ok {i : ι} {a : Option γ} {r : σ} (h : call i s = .ok a r) (rest : List ι) :
    calls call s (i :: rest) = ((calls call r rest).1, a.toList ++ (calls call r rest).2) := by
  show ((calls call (finalState (call i s)) rest).1,
    ((outcome (call i s)).toOption.join).toList ++ _) = _
  rw [h]
  rfl

theorem calls_error {i : ι} {e : ε} {r : σ} (h : call i s = .error e r) (rest : List ι) :
    calls call s (i :: rest) = calls call r rest := by
  show ((calls call (finalState (call i s)) rest).1,
    ((outcome (call i s)).toOption.join).toList ++ _) = _
  rw [h]
  rfl

theorem calls_append (before after : List ι) :
    calls call s (before ++ after) =
      ((calls call (calls call s before).1 after).1,
        (calls call s before).2 ++ (calls call (calls call s before).1 after).2) := by
  induction before generalizing s with
  | nil => rfl
  | cons i rest ih =>
      show ((calls call _ (rest ++ after)).1, _ ++ (calls call _ (rest ++ after)).2) = _
      rw [ih, ← List.append_assoc]
      rfl

/-- A call that fails is as if it had not been made. -/
theorem calls_rejected (h : ∀ i, Rejects (call i)) {i : ι} {e : ε} {s' : σ}
    (hFails : call i s = .error e s') (after : List ι) :
    calls call s (i :: after) = calls call s after := by
  rw [calls_error hFails, h i s e s' hFails]

/-- A call that fails in the midst of others is as if it had not been made. -/
theorem calls_without (h : ∀ i, Rejects (call i)) {before : List ι} {i : ι} {e : ε} {s' : σ}
    (hFails : call i (calls call s before).1 = .error e s') (after : List ι) :
    calls call s (before ++ i :: after) = calls call s (before ++ after) := by
  rw [calls_append, calls_append, calls_rejected h hFails]

/-- The calls that return, in the order in which they are made. -/
def returning (call : ι → EStateM ε σ (Option γ)) : σ → List ι → List ι
  | _, [] => []
  | s, i :: rest =>
      let later := returning call (finalState (call i s)) rest
      if (outcome (call i s)).isOk then i :: later else later

/-- All failed calls can be left out. -/
theorem calls_returning (h : ∀ i, Rejects (call i)) (all : List ι) :
    calls call s (returning call s all) = calls call s all := by
  induction all generalizing s with
  | nil => rfl
  | cons i rest ih =>
      unfold returning
      cases hRun : call i s with
      | ok a r =>
          show calls call s (i :: returning call r rest) = _
          rw [calls_ok hRun, calls_ok hRun, ih]
      | error e r =>
          rw [calls_rejected h hRun]
          have hSame := h i s e r hRun
          subst hSame
          exact ih

end Calls

end FrameScope.Verified.Rejection
