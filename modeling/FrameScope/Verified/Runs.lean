import Mathlib

/-!
# Runs of a state machine

A run folds a step function over a list of operations.  `Meets step P s ops`
says that every operation of the run meets the condition `P` in the state it is
applied to.  An invariant that every such step keeps holds after the run; when
a step that breaks `P` breaks the property, `Meets` is exactly what a run needs
to have the property throughout.
-/

namespace FrameScope.Verified.Runs

variable {σ α : Type} (step : σ → α → σ)

/-- Every operation meets `P` in the state it is applied to. -/
def Meets (P : σ → α → Prop) : σ → List α → Prop
  | _, [] => True
  | s, a :: ops => P s a ∧ Meets P (step s a) ops

variable {step} {P : σ → α → Prop} {Inv : σ → Prop}

/-- The last operation of a run is applied to the state the others leave. -/
theorem meets_concat {s : σ} {ops : List α} {a : α} (h : Meets step P s (ops ++ [a])) :
    Meets step P s ops ∧ P (ops.foldl step s) a := by
  induction ops generalizing s with
  | nil => exact ⟨trivial, h.1⟩
  | cons b ops ih =>
      obtain ⟨hRest, hLast⟩ := ih h.2
      exact ⟨⟨h.1, hRest⟩, hLast⟩

/-- A condition on the operations alone is met in every state. -/
theorem meets_of_forall {Q : α → Prop} {ops : List α} (h : ∀ a ∈ ops, Q a) (s : σ) :
    Meets step (fun _ a => Q a) s ops := by
  induction ops generalizing s with
  | nil => trivial
  | cons a ops ih =>
      exact ⟨h a (List.mem_cons_self ..), ih (fun b hb => h b (List.mem_cons_of_mem _ hb)) _⟩

/-- Under a condition that the whole run meets, `Q` need only be asked where that
condition holds. -/
theorem meets_imp_iff {Q : σ → α → Prop} {s : σ} {ops : List α} (h : Meets step P s ops) :
    Meets step (fun s a => P s a → Q s a) s ops ↔ Meets step Q s ops := by
  induction ops generalizing s with
  | nil => exact Iff.rfl
  | cons a ops ih =>
      show _ ∧ _ ↔ _ ∧ _
      rw [ih h.2]
      exact and_congr_left fun _ => ⟨fun hQ => hQ h.1, fun hQ _ => hQ⟩

theorem run_invariant (hStep : ∀ s a, Inv s → P s a → Inv (step s a))
    {s : σ} (hInit : Inv s) {ops : List α} (hOps : Meets step P s ops) :
    Inv (ops.foldl step s) := by
  induction ops generalizing s with
  | nil => exact hInit
  | cons a ops ih =>
      obtain ⟨hHead, hTail⟩ := hOps
      exact ih (hStep s a hInit hHead) hTail

/-- An invariant of every step is one of every run. -/
theorem run_invariant_of_step (hStep : ∀ s a, Inv s → Inv (step s a))
    {s : σ} (hInit : Inv s) (ops : List α) : Inv (ops.foldl step s) := by
  induction ops generalizing s with
  | nil => exact hInit
  | cons a ops ih => exact ih (hStep s a hInit)

/-- In a run whose steps all meet `A`, `Q` holds in every state exactly when every
step meets `P`, where `P` keeps an invariant that gives `Q`, and a step into `Q`
meets `P`. -/
theorem always_iff_meets_of {A : σ → α → Prop} {Q : σ → Prop}
    (hKeep : ∀ s a, Inv s → A s a → P s a → Inv (step s a)) (hGives : ∀ s, Inv s → Q s)
    (hExact : ∀ s a, Inv s → A s a → Q (step s a) → P s a)
    {s : σ} (hInit : Inv s) {ops : List α} (hAll : Meets step A s ops) :
    (∀ k, Q ((ops.take k).foldl step s)) ↔ Meets step P s ops := by
  induction ops generalizing s with
  | nil => simpa [Meets] using hGives s hInit
  | cons a ops ih =>
      obtain ⟨hHeadAll, hTailAll⟩ := hAll
      constructor
      · intro hAlways
        have hNext : Q (step s a) := by simpa using hAlways 1
        have hMeets := hExact s a hInit hHeadAll hNext
        refine ⟨hMeets, (ih (hKeep s a hInit hHeadAll hMeets) hTailAll).1 ?_⟩
        intro k
        simpa using hAlways (k + 1)
      · rintro ⟨hHead, hTail⟩ k
        cases k with
        | zero => simpa using hGives s hInit
        | succ k => simpa using (ih (hKeep s a hInit hHeadAll hHead) hTailAll).2 hTail k

/-- The same of every run. -/
theorem always_iff_meets {Q : σ → Prop}
    (hKeep : ∀ s a, Inv s → P s a → Inv (step s a)) (hGives : ∀ s, Inv s → Q s)
    (hExact : ∀ s a, Inv s → Q (step s a) → P s a)
    {s : σ} (hInit : Inv s) (ops : List α) :
    (∀ k, Q ((ops.take k).foldl step s)) ↔ Meets step P s ops := by
  have hAll : Meets step (fun _ _ => True) s ops := meets_of_forall (fun _ _ => trivial) s
  exact always_iff_meets_of (fun s a h _ => hKeep s a h) hGives (fun s a h _ => hExact s a h)
    hInit hAll

end FrameScope.Verified.Runs
