import Mathlib

/-!
# Counting who is inside

A lock that counts the parties inside a region knows how many they are and not
who.  `Counted inside n` ties the number to the parties: it survives one that
enters and one that leaves, and the count is zero exactly when nobody is inside.
-/

namespace FrameScope.Verified.Occupancy

variable {κ : Type}

def Counted (inside : κ → Bool) (n : Nat) : Prop :=
  ∃ parties : Finset κ, (∀ k, k ∈ parties ↔ inside k = true) ∧ parties.card = n

variable {inside : κ → Bool} {n : Nat} {k : κ}

theorem counted_none : Counted (fun _ : κ => false) 0 := ⟨∅, by simp, rfl⟩

theorem Counted.pos (h : Counted inside n) (hIn : inside k = true) : 0 < n := by
  obtain ⟨parties, hMem, rfl⟩ := h
  exact Finset.card_pos.2 ⟨k, (hMem k).2 hIn⟩

theorem Counted.eq_zero_iff (h : Counted inside n) : n = 0 ↔ ∀ k, inside k = false := by
  constructor
  · intro hZero k
    cases hIn : inside k with
    | false => rfl
    | true =>
        have hPos := h.pos hIn
        omega
  · intro hNone
    obtain ⟨parties, hMem, rfl⟩ := h
    rw [Finset.card_eq_zero, Finset.eq_empty_iff_forall_notMem]
    intro k hk
    rw [hMem, hNone] at hk
    cases hk

variable [DecidableEq κ]

theorem Counted.enter (h : Counted inside n) (hOut : inside k = false) :
    Counted (Function.update inside k true) (n + 1) := by
  obtain ⟨parties, hMem, rfl⟩ := h
  have hNew : k ∉ parties := by
    rw [hMem, hOut]
    simp
  refine ⟨insert k parties, ?_, Finset.card_insert_of_notMem hNew⟩
  intro i
  by_cases hi : i = k
  · simp [hi]
  · simp [hi, hMem]

theorem Counted.leave (h : Counted inside n) (hIn : inside k = true) :
    Counted (Function.update inside k false) (n - 1) := by
  obtain ⟨parties, hMem, rfl⟩ := h
  refine ⟨parties.erase k, ?_, Finset.card_erase_of_mem ((hMem k).2 hIn)⟩
  intro i
  by_cases hi : i = k
  · simp [hi]
  · simp [hi, hMem]

end FrameScope.Verified.Occupancy
