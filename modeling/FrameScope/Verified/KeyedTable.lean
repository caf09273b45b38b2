import Mathlib

/-!
# Tables with consecutive integer keys

A table is a list of rows in key order.  `Consecutive key n rows` says that the
keys run `n, n + 1, …` without a gap.  On such a table every query by key is a
list operation by position: looking a key up is indexing, a half-open key range
is a slice, deleting from a key on is `take`, and inserting the next key is
appending.

The last sections are about lookups in any table, and about tables whose keys
are only known to be unique.

Nothing here knows what a row is.
-/

namespace FrameScope.Verified.KeyedTable

variable {ρ : Type} (key : ρ → Int)

/-- The keys of `rows` are `n, n + 1, …`. -/
def Consecutive : Nat → List ρ → Prop
  | _, [] => True
  | n, r :: rows => key r = n ∧ Consecutive (n + 1) rows

variable {key} {rows : List ρ} {n : Nat}

theorem Consecutive.append {more : List ρ} (h : Consecutive key n rows)
    (hMore : Consecutive key (n + rows.length) more) :
    Consecutive key n (rows ++ more) := by
  induction rows generalizing n with
  | nil => simpa using hMore
  | cons r rows ih =>
      refine ⟨h.1, ih h.2 ?_⟩
      rw [List.length_cons] at hMore
      rwa [show n + 1 + rows.length = n + (rows.length + 1) by omega]

theorem Consecutive.take (h : Consecutive key n rows) (k : Nat) :
    Consecutive key n (rows.take k) := by
  induction rows generalizing n k with
  | nil => simp [Consecutive]
  | cons r rows ih =>
      cases k with
      | zero => simp [Consecutive]
      | succ k => exact ⟨h.1, ih h.2 k⟩

theorem Consecutive.drop (h : Consecutive key n rows) (k : Nat) :
    Consecutive key (n + k) (rows.drop k) := by
  induction rows generalizing n k with
  | nil => simp [Consecutive]
  | cons r rows ih =>
      cases k with
      | zero => exact h
      | succ k =>
          rw [List.drop_succ_cons, show n + (k + 1) = n + 1 + k by omega]
          exact ih h.2 k

theorem Consecutive.append_right {more : List ρ} (h : Consecutive key n (rows ++ more)) :
    Consecutive key (n + rows.length) more := by
  have hDrop := h.drop rows.length
  rwa [List.drop_left] at hDrop

/-- Key `n + i` is at position `i`. -/
theorem Consecutive.key_eq (h : Consecutive key n rows) {i : Nat} {r : ρ}
    (hr : rows[i]? = some r) : key r = n + i := by
  induction rows generalizing n i with
  | nil => simp at hr
  | cons x rows ih =>
      cases i with
      | zero =>
          simp only [List.getElem?_cons_zero, Option.some.injEq] at hr
          subst hr
          simpa using h.1
      | succ i =>
          rw [List.getElem?_cons_succ] at hr
          have hStep := ih h.2 hr
          push_cast at hStep ⊢
          omega

theorem Consecutive.key_mem (h : Consecutive key n rows) {r : ρ} (hr : r ∈ rows) :
    (n : Int) ≤ key r ∧ key r < n + rows.length := by
  obtain ⟨i, hi⟩ := List.mem_iff_getElem?.1 hr
  have hKey := h.key_eq hi
  have hLt := (List.getElem?_eq_some_iff.1 hi).1
  omega

/-- Looking a key up is indexing. -/
theorem Consecutive.find? (h : Consecutive key 0 rows) (i : Nat) :
    rows.find? (fun r => key r == (i : Int)) = rows[i]? := by
  cases hr : rows[i]? with
  | none =>
      rw [List.find?_eq_none]
      intro r hr'
      have hKey := h.key_mem hr'
      have hLen := List.getElem?_eq_none_iff.1 hr
      simp only [beq_iff_eq]
      omega
  | some r =>
      obtain ⟨hLt, hGet⟩ := List.getElem?_eq_some_iff.1 hr
      rw [List.find?_eq_some_iff_getElem]
      have hKey := h.key_eq hr
      refine ⟨by simpa using hKey, i, hLt, hGet, ?_⟩
      intro j hj
      have hKeyJ := h.key_eq (List.getElem?_eq_getElem (by omega : j < rows.length))
      simp only [Bool.not_eq_true', beq_eq_false_iff_ne]
      omega

/-- Deleting from key `n + k` on keeps the first `k` rows. -/
theorem Consecutive.filter_lt (h : Consecutive key n rows) (k : Nat) :
    rows.filter (fun r => decide (key r < (n + k : Nat))) = rows.take k := by
  induction rows generalizing n k with
  | nil => simp
  | cons r rows ih =>
      cases k with
      | zero =>
          rw [List.take_zero, List.filter_eq_nil_iff]
          intro x hx
          have hKey := h.key_mem hx
          simp only [decide_eq_true_eq]
          omega
      | succ k =>
          have hHead : decide (key r < ((n + (k + 1) : Nat) : Int)) = true := by
            rw [decide_eq_true_eq, h.1]
            omega
          rw [List.filter_cons, if_pos hHead, List.take_succ_cons]
          have hTail := ih h.2 k
          rw [show n + 1 + k = n + (k + 1) by omega] at hTail
          rw [hTail]

/-- A half-open key range is a slice. -/
theorem Consecutive.filter_range (h : Consecutive key n rows) (a b : Nat) :
    rows.filter (fun r => decide (((n + a : Nat) : Int) ≤ key r ∧ key r < (n + b : Nat))) =
      (rows.take b).drop a := by
  induction rows generalizing n a b with
  | nil => simp
  | cons r rows ih =>
      cases b with
      | zero =>
          rw [List.take_zero, List.drop_nil, List.filter_eq_nil_iff]
          intro x hx
          have hKey := h.key_mem hx
          simp only [decide_eq_true_eq]
          omega
      | succ b =>
          have hHead := h.1
          cases a with
          | zero =>
              have hTake := h.filter_lt (b + 1)
              rw [List.drop_zero, ← hTake]
              apply List.filter_congr
              intro x hx
              have hKey := h.key_mem hx
              apply decide_eq_decide.2
              constructor
              · exact fun hx => hx.2
              · exact fun hx => ⟨by omega, hx⟩
          | succ a =>
              rw [List.filter_cons_of_neg (by
                simp only [decide_eq_true_eq]
                omega)]
              rw [List.take_succ_cons, List.drop_succ_cons]
              have hTail := ih h.2 a b
              rw [show n + 1 + a = n + (a + 1) by omega,
                show n + 1 + b = n + (b + 1) by omega] at hTail
              exact hTail

/-- The next key is free. -/
theorem Consecutive.any_next (h : Consecutive key 0 rows) :
    rows.any (fun r => key r == (rows.length : Int)) = false := by
  rw [List.any_eq_false]
  intro r hr
  have hKey := h.key_mem hr
  simp only [beq_iff_eq]
  omega

/-- Every stored key is below the next one. -/
theorem Consecutive.below_next (h : Consecutive key 0 rows) :
    ∀ r ∈ rows, decide (key r < (rows.length : Int)) = true := by
  intro r hr
  have hKey := h.key_mem hr
  simp only [decide_eq_true_eq]
  omega

theorem Consecutive.min?_keys (h : Consecutive key 0 rows) (hne : rows ≠ []) :
    (rows.map key).min? = some 0 := by
  cases rows with
  | nil => exact absurd rfl hne
  | cons r rest =>
      rw [List.min?_eq_some_iff]
      refine ⟨List.mem_map.2 ⟨r, by simp, by simpa using h.1⟩, ?_⟩
      intro k hk
      obtain ⟨x, hx, rfl⟩ := List.mem_map.1 hk
      have hKey := h.key_mem hx
      omega

theorem Consecutive.max?_keys (h : Consecutive key 0 rows) (hne : rows ≠ []) :
    (rows.map key).max? = some ((rows.length - 1 : Nat) : Int) := by
  have hPos : 0 < rows.length := List.length_pos_iff.2 hne
  have hLast : rows.length - 1 < rows.length := by omega
  rw [List.max?_eq_some_iff]
  refine ⟨List.mem_map.2 ⟨rows[rows.length - 1], List.getElem_mem hLast, ?_⟩, ?_⟩
  · have hKey := h.key_eq (List.getElem?_eq_getElem hLast)
    omega
  · intro k hk
    obtain ⟨x, hx, rfl⟩ := List.mem_map.1 hk
    have hKey := h.key_mem hx
    omega

/-- Ascending keys that fill a range are consecutive. -/
theorem consecutive_of_ascending (h : rows.Pairwise fun a b => key a < key b)
    (hMin : ∀ r ∈ rows, (n : Int) ≤ key r) (hMax : ∀ r ∈ rows, key r < n + rows.length) :
    Consecutive key n rows := by
  induction rows generalizing n with
  | nil => trivial
  | cons r rest ih =>
      rw [List.pairwise_cons] at h
      have hFirst := hMin r (List.mem_cons_self ..)
      have hRest : Consecutive key (n + 1) rest := by
        apply ih h.2
        · intro x hx
          have hLt := h.1 x hx
          omega
        · intro x hx
          have hLt := hMax x (List.mem_cons_of_mem _ hx)
          rw [List.length_cons] at hLt
          push_cast at hLt ⊢
          omega
      refine ⟨?_, hRest⟩
      cases rest with
      | nil =>
          have hLt := hMax r (List.mem_cons_self ..)
          simp only [List.length_cons, List.length_nil] at hLt
          omega
      | cons x rest =>
          have hLt := h.1 x (List.mem_cons_self ..)
          have hKey := hRest.1
          push_cast at hKey
          omega

/-- A position splits the rows around the one it holds. -/
theorem eraseIdx_split {i : Nat} {r : ρ} (h : rows[i]? = some r) :
    ∃ before after, rows = before ++ r :: after ∧ rows.eraseIdx i = before ++ after ∧
      before.length = i := by
  obtain ⟨hBound, hAt⟩ := List.getElem?_eq_some_iff.1 h
  refine ⟨rows.take i, rows.drop (i + 1), ?_, List.eraseIdx_eq_take_drop_succ .., ?_⟩
  · rw [← hAt, List.cons_getElem_drop_succ, List.take_append_drop]
  · rw [List.length_take]
    omega

/-- The first match is still the first one after a filter that it passes. -/
theorem find?_filter_of_pos {p q : ρ → Bool} {r : ρ} (h : rows.find? q = some r)
    (hKept : p r = true) : (rows.filter p).find? q = some r := by
  obtain ⟨hr, before, after, rfl, hBefore⟩ := List.find?_eq_some_iff_append.1 h
  rw [List.find?_eq_some_iff_append]
  refine ⟨hr, before.filter p, after.filter p, ?_, ?_⟩
  · rw [List.filter_append, List.filter_cons_of_pos hKept]
  · intro x hx
    exact hBefore x (List.mem_of_mem_filter hx)

/-! ## Unique keys of any type -/

section UniqueKeys

variable {κ : Type} [DecidableEq κ] {k : ρ → κ} {r : ρ}

/-- A row and the rows under other keys are all of them. -/
theorem perm_cons_filter_ne (h : (rows.map k).Nodup) (hr : r ∈ rows) :
    rows.Perm (r :: rows.filter fun x => k x ≠ k r) := by
  obtain ⟨before, after, rfl⟩ := List.append_of_mem hr
  rw [List.map_append, List.map_cons, List.nodup_append, List.nodup_cons] at h
  obtain ⟨-, ⟨hAfter, -⟩, hApart⟩ := h
  have hKeep : ∀ l : List ρ, k r ∉ l.map k → l.filter (fun x => k x ≠ k r) = l := by
    intro l hl
    rw [List.filter_eq_self]
    intro x hx
    rw [decide_eq_true_eq]
    intro hKey
    exact hl (List.mem_map.2 ⟨x, hx, hKey⟩)
  have hBefore : k r ∉ before.map k := fun hMem => hApart _ hMem _ (List.mem_cons_self ..) rfl
  rw [List.filter_append, List.filter_cons_of_neg (by simp), hKeep before hBefore,
    hKeep after hAfter]
  exact List.perm_middle

/-- A key finds its own row. -/
theorem find?_key_eq_some (h : (rows.map k).Nodup) {a : κ} :
    rows.find? (fun x => k x = a) = some r ↔ r ∈ rows ∧ k r = a := by
  constructor
  · intro hFind
    exact ⟨List.mem_of_find?_eq_some hFind, by simpa using List.find?_some hFind⟩
  · rintro ⟨hr, rfl⟩
    cases hFind : rows.find? (fun x => k x = k r) with
    | none =>
        have := List.find?_eq_none.1 hFind r hr
        simp at this
    | some x =>
        have hKey : k x = k r := by simpa using List.find?_some hFind
        rw [List.inj_on_of_nodup_map h (List.mem_of_find?_eq_some hFind) hr hKey]

end UniqueKeys

end FrameScope.Verified.KeyedTable
