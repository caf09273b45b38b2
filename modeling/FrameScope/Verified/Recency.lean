import Mathlib

/-!
# Weighted recency lists

The abstract least-recently-used cache: a list of items, the most recently used
one first.  An item is touched by moving it to the front; a budget is met by
keeping the longest initial part of the list whose weight fits.

Nothing here knows what an item is.
-/

namespace FrameScope.Verified.Recency

variable {α : Type} (weight : α → Nat)

/-- The weight of a list. -/
def total (l : List α) : Nat := (l.map weight).sum

@[simp] theorem total_nil : total weight [] = 0 := rfl

@[simp] theorem total_cons (a : α) (l : List α) :
    total weight (a :: l) = weight a + total weight l := by
  simp [total]

@[simp] theorem total_append (l l' : List α) :
    total weight (l ++ l') = total weight l + total weight l' := by
  simp [total]

theorem total_perm {l l' : List α} (h : l.Perm l') : total weight l = total weight l' :=
  (h.map weight).sum_eq

/-- A filter splits the weight. -/
theorem total_filter_add (p : α → Bool) (l : List α) :
    total weight (l.filter p) + total weight (l.filter fun a => !p a) = total weight l := by
  induction l with
  | nil => rfl
  | cons a l ih =>
      by_cases h : p a
      · simp [h]
        omega
      · simp [h]
        omega

/-- The longest initial part that fits `budget`. -/
def keepFitting : Nat → List α → List α
  | _, [] => []
  | budget, a :: rest =>
      if weight a ≤ budget then a :: keepFitting (budget - weight a) rest else []

/-- `kept` is the longest initial part of `l` that fits `budget`. -/
structure LongestFitting (budget : Nat) (l kept : List α) : Prop where
  initial : kept <+: l
  fits : total weight kept ≤ budget
  longest : ∀ other, other <+: l → total weight other ≤ budget → other <+: kept

variable {weight} {budget : Nat} {l : List α} {a : α}

theorem keepFitting_longest (budget : Nat) (l : List α) :
    LongestFitting weight budget l (keepFitting weight budget l) := by
  induction l generalizing budget with
  | nil =>
      constructor
      · exact List.nil_prefix
      · simp [keepFitting]
      · intro other h _
        exact h
  | cons a rest ih =>
      by_cases h : weight a ≤ budget
      · have hRest := ih (budget - weight a)
        rw [keepFitting, if_pos h]
        constructor
        · exact (List.prefix_cons_inj a).2 hRest.initial
        · have := hRest.fits
          rw [total_cons]
          omega
        · intro other hOther hFits
          cases other with
          | nil => exact List.nil_prefix
          | cons b other =>
              obtain ⟨rfl, hTail⟩ := List.cons_prefix_cons.1 hOther
              rw [total_cons] at hFits
              exact (List.prefix_cons_inj b).2 (hRest.longest other hTail (by omega))
      · rw [keepFitting, if_neg h]
        constructor
        · exact List.nil_prefix
        · simp
        · intro other hOther hFits
          cases other with
          | nil => exact List.nil_prefix
          | cons b other =>
              obtain ⟨rfl, -⟩ := List.cons_prefix_cons.1 hOther
              rw [total_cons] at hFits
              omega

/-- A list that fits is kept whole. -/
theorem keepFitting_of_fits (h : total weight l ≤ budget) : keepFitting weight budget l = l := by
  induction l generalizing budget with
  | nil => rfl
  | cons a rest ih =>
      rw [total_cons] at h
      rw [keepFitting, if_pos (by omega), ih (by omega)]

/-- A list that does not fit loses its last item first. -/
theorem keepFitting_concat (h : budget < total weight (l ++ [a])) :
    keepFitting weight budget (l ++ [a]) = keepFitting weight budget l := by
  induction l generalizing budget with
  | nil =>
      have hHeavy : ¬ weight a ≤ budget := by
        simp only [List.nil_append, total_cons, total_nil] at h
        omega
      show keepFitting weight budget [a] = []
      rw [keepFitting, if_neg hHeavy]
  | cons b rest ih =>
      by_cases hb : weight b ≤ budget
      · have hRest : budget - weight b < total weight (rest ++ [a]) := by
          rw [List.cons_append, total_cons] at h
          omega
        rw [List.cons_append, keepFitting, if_pos hb, keepFitting, if_pos hb, ih hRest]
      · rw [List.cons_append, keepFitting, if_neg hb, keepFitting, if_neg hb]

/-- The first item is kept when it fits on its own. -/
theorem keepFitting_head (h : weight a ≤ budget) : a ∈ keepFitting weight budget (a :: l) := by
  rw [keepFitting, if_pos h]
  exact List.mem_cons_self ..

theorem keepFitting_sublist (budget : Nat) (l : List α) :
    (keepFitting weight budget l).Sublist l :=
  (keepFitting_longest budget l).initial.sublist

/-- Relabelling the items does not change what is kept. -/
theorem keepFitting_map {β : Type} (f : β → α) (budget : Nat) (l : List β) :
    keepFitting weight budget (l.map f) =
      (keepFitting (fun b => weight (f b)) budget l).map f := by
  induction l generalizing budget with
  | nil => rfl
  | cons b rest ih =>
      by_cases h : weight (f b) ≤ budget
      · simp only [List.map_cons, keepFitting, h, if_true, ih]
      · simp only [List.map_cons, keepFitting, h, if_false, List.map_nil]

/-! ## A second limit on the number of items -/

/-- The longest initial part that fits `budget` and has `count` items at most. -/
def keepBounded (weight : α → Nat) (budget count : Nat) (l : List α) : List α :=
  (keepFitting weight budget l).take count

variable {count : Nat}

theorem keepBounded_sublist : (keepBounded weight budget count l).Sublist l :=
  (List.take_sublist ..).trans (keepFitting_sublist budget l)

theorem keepBounded_of_fits (h : total weight l ≤ budget) (hCount : l.length ≤ count) :
    keepBounded weight budget count l = l := by
  rw [keepBounded, keepFitting_of_fits h, List.take_of_length_le hCount]

/-- A list beyond either limit loses its last item first. -/
theorem keepBounded_concat (h : budget < total weight (l ++ [a]) ∨ count < (l ++ [a]).length) :
    keepBounded weight budget count (l ++ [a]) = keepBounded weight budget count l := by
  unfold keepBounded
  by_cases hHeavy : budget < total weight (l ++ [a])
  · rw [keepFitting_concat hHeavy]
  · have hLong : count < (l ++ [a]).length := h.resolve_left hHeavy
    rw [List.length_append, List.length_singleton] at hLong
    have hInit : total weight l ≤ budget := by
      rw [total_append] at hHeavy
      omega
    rw [keepFitting_of_fits (by omega), keepFitting_of_fits hInit,
      List.take_append_of_le_length (by omega)]

/-- The first item is kept when it fits on its own, and takes its share of both limits. -/
theorem keepBounded_cons (h : weight a ≤ budget) :
    keepBounded weight budget (count + 1) (a :: l) =
      a :: keepBounded weight (budget - weight a) count l := by
  rw [keepBounded, keepFitting, if_pos h]
  rfl

theorem keepBounded_map {β : Type} (f : β → α) (l : List β) :
    keepBounded weight budget count (l.map f) =
      (keepBounded (fun b => weight (f b)) budget count l).map f := by
  rw [keepBounded, keepFitting_map, keepBounded, List.map_take]

end FrameScope.Verified.Recency
