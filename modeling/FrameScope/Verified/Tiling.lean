import Mathlib

/-!
# Tilings of an interval

A list of pieces tiles `[n, stop)` when each piece is a non-empty closed span
that begins where the one before it ended.  The pieces are then in order and
disjoint, and every point of the interval lies in one of them.

Nothing here knows what a piece is.
-/

namespace FrameScope.Verified.Tiling

variable {γ : Type} (first last : γ → Nat)

/-- The spans of `pieces` follow each other from `n` to `stop`. -/
def TilesFrom : Nat → Nat → List γ → Prop
  | n, stop, [] => n = stop
  | n, stop, g :: rest => first g = n ∧ n ≤ last g ∧ TilesFrom (last g + 1) stop rest

variable {first last} {n stop : Nat} {pieces : List γ}

theorem TilesFrom.le_stop (h : TilesFrom first last n stop pieces) : n ≤ stop := by
  induction pieces generalizing n with
  | nil => exact Nat.le_of_eq h
  | cons g rest ih =>
      obtain ⟨-, hSpan, hRest⟩ := h
      have := ih hRest
      omega

theorem TilesFrom.length_le (h : TilesFrom first last n stop pieces) :
    n + pieces.length ≤ stop := by
  induction pieces generalizing n with
  | nil => exact Nat.le_of_eq h
  | cons g rest ih =>
      obtain ⟨-, hSpan, hRest⟩ := h
      have := ih hRest
      rw [List.length_cons]
      omega

/-- The span of a piece lies in the interval. -/
theorem TilesFrom.span (h : TilesFrom first last n stop pieces) {i : Nat} {g : γ}
    (hg : pieces[i]? = some g) : n ≤ first g ∧ first g ≤ last g ∧ last g < stop := by
  induction pieces generalizing n i with
  | nil => simp at hg
  | cons x rest ih =>
      obtain ⟨hFirst, hSpan, hRest⟩ := h
      cases i with
      | zero =>
          rw [List.getElem?_cons_zero, Option.some.injEq] at hg
          subst hg
          have := hRest.le_stop
          omega
      | succ i =>
          rw [List.getElem?_cons_succ] at hg
          have := ih hRest hg
          omega

/-- Earlier pieces end before later ones begin. -/
theorem TilesFrom.ordered (h : TilesFrom first last n stop pieces) {i j : Nat} {g g' : γ}
    (hij : i < j) (hg : pieces[i]? = some g) (hg' : pieces[j]? = some g') :
    last g < first g' := by
  induction pieces generalizing n i j with
  | nil => simp at hg
  | cons x rest ih =>
      obtain ⟨-, -, hRest⟩ := h
      obtain ⟨j, rfl⟩ : ∃ k, j = k + 1 := ⟨j - 1, by omega⟩
      rw [List.getElem?_cons_succ] at hg'
      cases i with
      | zero =>
          rw [List.getElem?_cons_zero, Option.some.injEq] at hg
          subst hg
          have := hRest.span hg'
          omega
      | succ i =>
          rw [List.getElem?_cons_succ] at hg
          exact ih hRest (by omega) hg hg'

/-- Every point of the interval lies in a piece. -/
theorem TilesFrom.exists_piece (h : TilesFrom first last n stop pieces) {x : Nat}
    (hFrom : n ≤ x) (hTo : x < stop) :
    ∃ (i : Nat) (g : γ), pieces[i]? = some g ∧ first g ≤ x ∧ x ≤ last g := by
  induction pieces generalizing n with
  | nil => exact absurd (Nat.lt_of_lt_of_le hTo (Nat.le_of_eq h.symm)) (Nat.not_lt.2 hFrom)
  | cons g rest ih =>
      obtain ⟨hFirst, hSpan, hRest⟩ := h
      by_cases hx : x ≤ last g
      · exact ⟨0, g, rfl, by omega, hx⟩
      · obtain ⟨i, g', hg', hBounds⟩ := ih hRest (by omega)
        exact ⟨i + 1, g', hg', hBounds⟩

/-- A point lies in one piece only. -/
theorem TilesFrom.piece_unique (h : TilesFrom first last n stop pieces) {i j x : Nat}
    {g g' : γ} (hg : pieces[i]? = some g) (hg' : pieces[j]? = some g')
    (hx : first g ≤ x ∧ x ≤ last g) (hx' : first g' ≤ x ∧ x ≤ last g') : i = j := by
  rcases Nat.lt_trichotomy i j with hLt | hEq | hGt
  · have := h.ordered hLt hg hg'
    omega
  · exact hEq
  · have := h.ordered hGt hg' hg
    omega

/-- The first piece begins at the beginning. -/
theorem TilesFrom.first_eq (h : TilesFrom first last n stop pieces) {g : γ}
    (hg : pieces[0]? = some g) : first g = n := by
  cases pieces with
  | nil => simp at hg
  | cons x rest =>
      rw [List.getElem?_cons_zero, Option.some.injEq] at hg
      subst hg
      exact h.1

/-- The last piece ends at the end. -/
theorem TilesFrom.last_eq (h : TilesFrom first last n stop pieces) {i : Nat} {g : γ}
    (hg : pieces[i]? = some g) (hi : i + 1 = pieces.length) : last g + 1 = stop := by
  induction pieces generalizing n i with
  | nil => simp at hg
  | cons x rest ih =>
      obtain ⟨-, -, hRest⟩ := h
      rw [List.length_cons] at hi
      cases i with
      | zero =>
          rw [List.getElem?_cons_zero, Option.some.injEq] at hg
          subst hg
          obtain rfl : rest = [] := List.eq_nil_of_length_eq_zero (by omega)
          exact hRest
      | succ i =>
          rw [List.getElem?_cons_succ] at hg
          exact ih hRest hg (by omega)

end FrameScope.Verified.Tiling
