import FrameScope.Verified.KeyedTable

/-!
# Keeping one item for each key

Items come one after another and a table keeps one of them for each key: the
first to come, unless it is plain and a preferred one comes later.  `winner`
says which item that is, and `settleAll` is the table.

The table depends on the order in which the items come only where two items of
one key rival each other: `Unrivalled` lists have none, and on those every
order gives the same items (`settleAll_perm`).  A rival that comes first is the
one that is kept (`winner_of_first`).

Nothing here knows what an item is.
-/

namespace FrameScope.Verified.Preference

open FrameScope.Verified.KeyedTable

variable {α κ : Type} [DecidableEq κ] (key : α → κ) (preferred : α → Bool)

/-- The table after one more item. -/
def settle (table : List α) (x : α) : List α :=
  match table.find? fun held => key held = key x with
  | none => table ++ [x]
  | some held =>
      if preferred x && !preferred held then
        table.map fun other => if key other = key x then x else other
      else table

/-- The table after all items. -/
def settleAll (xs : List α) : List α :=
  xs.foldl (settle key preferred) []

/-- The item that is kept for a key: the first preferred one, else the first. -/
def winner (xs : List α) (k : κ) : Option α :=
  (xs.find? fun x => key x = k && preferred x).or (xs.find? fun x => key x = k)

/-- An item that could be kept: a preferred one, or a plain one of a key that
has no preferred one. -/
def Contends (xs : List α) (x : α) : Prop :=
  preferred x = true ∨ ∀ y ∈ xs, key y = key x → preferred y = false

/-- No two items of one key could be kept. -/
def Unrivalled (xs : List α) : Prop :=
  ∀ x ∈ xs, ∀ y ∈ xs, key x = key y → Contends key preferred xs x →
    Contends key preferred xs y → x = y

variable {key preferred} {xs ys table : List α} {x a : α} {k : κ}

/-! ## The winner of a key -/

theorem winner_concat_of_ne (h : key x ≠ k) :
    winner key preferred (xs ++ [x]) k = winner key preferred xs k := by
  simp [winner, List.find?_append, h]

/-- The item that was kept and the one that comes decide which is kept. -/
theorem winner_concat :
    winner key preferred (xs ++ [x]) (key x) =
      (winner key preferred xs (key x)).elim (some x) fun held =>
        some (if preferred x && !preferred held then x else held) := by
  unfold winner
  cases hFirst : xs.find? fun y => key y = key x with
  | none =>
      have hNone : xs.find? (fun y => key y = key x && preferred y) = none := by
        rw [List.find?_eq_none] at hFirst ⊢
        intro y hy
        have := hFirst y hy
        simp_all
      by_cases hp : preferred x <;> simp [List.find?_append, hFirst, hNone, hp]
  | some held =>
      cases hBest : xs.find? fun y => key y = key x && preferred y with
      | some best =>
          have hPreferred : preferred best = true := by
            have := List.find?_some hBest
            simp_all
          simp [List.find?_append, hBest, hPreferred]
      | none =>
          have hPlain : preferred held = false := by
            have hMem := List.mem_of_find?_eq_some hFirst
            have hKey := List.find?_some hFirst
            have := List.find?_eq_none.1 hBest held hMem
            simp_all
          by_cases hp : preferred x <;>
            simp [List.find?_append, hBest, hFirst, hPlain, hp]

theorem winner_mem (h : winner key preferred xs k = some a) : a ∈ xs ∧ key a = k := by
  unfold winner at h
  rcases Option.or_eq_some_iff.1 h with h | ⟨-, h⟩
  · have hPass := List.find?_some h
    simp only [Bool.and_eq_true, decide_eq_true_eq] at hPass
    exact ⟨List.mem_of_find?_eq_some h, hPass.1⟩
  · have hPass := List.find?_some h
    rw [decide_eq_true_eq] at hPass
    exact ⟨List.mem_of_find?_eq_some h, hPass⟩

theorem winner_contends (h : winner key preferred xs k = some a) :
    Contends key preferred xs a := by
  have hKey := (winner_mem h).2
  unfold winner at h
  rcases Option.or_eq_some_iff.1 h with h | ⟨hNone, -⟩
  · have hPass := List.find?_some h
    simp only [Bool.and_eq_true] at hPass
    exact Or.inl hPass.2
  · right
    intro y hy hSame
    have hPlain := List.find?_eq_none.1 hNone y hy
    rw [hKey] at hSame
    simpa [hSame] using hPlain

theorem winner_isSome (ha : a ∈ xs) : (winner key preferred xs (key a)).isSome := by
  unfold winner
  rw [Option.isSome_or, Bool.or_eq_true, List.find?_isSome, List.find?_isSome]
  exact Or.inr ⟨a, ha, by simp⟩

/-- The item that comes first is kept when it could be. -/
theorem winner_of_first (h : Contends key preferred (a :: xs) a) :
    winner key preferred (a :: xs) (key a) = some a := by
  unfold winner
  cases hp : preferred a with
  | true => simp [hp]
  | false =>
      have hNone : (a :: xs).find? (fun y => key y = key a && preferred y) = none := by
        rw [List.find?_eq_none]
        intro y hy
        rcases h with h | h
        · rw [hp] at h
          cases h
        · by_cases hKey : key y = key a
          · simp [h y hy hKey]
          · simp [hKey]
      rw [hNone]
      simp

omit [DecidableEq κ] in
theorem contends_perm (h : xs.Perm ys) :
    Contends key preferred xs a ↔ Contends key preferred ys a := by
  simp [Contends, h.mem_iff]

/-- Without rivals every order has the same winners. -/
theorem winner_perm (h : Unrivalled key preferred xs) (hPerm : xs.Perm ys) :
    winner key preferred xs k = winner key preferred ys k := by
  cases hX : winner key preferred xs k with
  | none =>
      cases hY : winner key preferred ys k with
      | none => rfl
      | some b =>
          obtain ⟨hMem, rfl⟩ := winner_mem hY
          have hSome : (winner key preferred xs (key b)).isSome :=
            winner_isSome (hPerm.mem_iff.2 hMem)
          rw [hX] at hSome
          cases hSome
  | some a =>
      obtain ⟨hMem, rfl⟩ := winner_mem hX
      cases hY : winner key preferred ys (key a) with
      | none =>
          have hSome : (winner key preferred ys (key a)).isSome :=
            winner_isSome (hPerm.mem_iff.1 hMem)
          rw [hY] at hSome
          cases hSome
      | some b =>
          obtain ⟨hMemB, hKey⟩ := winner_mem hY
          have hSame := h a hMem b (hPerm.mem_iff.2 hMemB) hKey.symm (winner_contends hX)
            ((contends_perm hPerm).2 (winner_contends hY))
          rw [hSame]

/-! ## The table -/

/-- The table holds the winners, one for each key. -/
structure Settled (key : α → κ) (preferred : α → Bool) (xs table : List α) : Prop where
  nodup : (table.map key).Nodup
  find? : ∀ k, table.find? (fun x => key x = k) = winner key preferred xs k

theorem Settled.append_new (h : Settled key preferred xs table)
    (hNone : table.find? (fun held => key held = key x) = none) :
    Settled key preferred (xs ++ [x]) (table ++ [x]) := by
  constructor
  · rw [List.map_append, List.map_singleton, List.nodup_append]
    refine ⟨h.nodup, List.nodup_singleton _, ?_⟩
    intro held hHeld other hOther hSame
    obtain ⟨y, hy, rfl⟩ := List.mem_map.1 hHeld
    rw [List.mem_singleton.1 hOther] at hSame
    have hApart := List.find?_eq_none.1 hNone y hy
    simp [hSame] at hApart
  · intro k
    by_cases hKey : key x = k
    · subst hKey
      have hWinner := h.find? (key x)
      rw [hNone] at hWinner
      rw [winner_concat, ← hWinner, List.find?_append, hNone]
      simp
    · rw [winner_concat_of_ne hKey, List.find?_append, h.find? k]
      simp [hKey]

/-- Looking up a key in a table one of whose rows was replaced. -/
theorem find?_replace (k : κ) :
    (table.map fun other => if key other = key x then x else other).find?
        (fun y => key y = k) =
      if k = key x then (table.find? fun y => key y = k).map fun _ => x
      else table.find? fun y => key y = k := by
  induction table with
  | nil => simp
  | cons y rest ih =>
      by_cases hY : key y = key x
      · by_cases hK : k = key x
        · simp [hY, hK]
        · have hNot : ¬ key x = k := fun h => hK h.symm
          rw [if_neg hK] at ih
          simp [hY, hK, hNot, ih]
      · by_cases hK : k = key x
        · rw [if_pos hK] at ih
          have hNot : ¬ key y = k := fun h => hY (h.trans hK)
          simp only [List.map_cons, if_neg hY, if_pos hK]
          rw [List.find?_cons_of_neg (by simpa using hNot), ih,
            List.find?_cons_of_neg (by simpa using hNot)]
        · rw [if_neg hK] at ih
          simp only [List.map_cons, if_neg hY, if_neg hK, List.find?_cons, ih]

theorem Settled.settle (h : Settled key preferred xs table) (x : α) :
    Settled key preferred (xs ++ [x]) (settle key preferred table x) := by
  unfold Preference.settle
  cases hFind : table.find? fun held => key held = key x with
  | none => exact h.append_new hFind
  | some held =>
      have hWinner := h.find? (key x)
      rw [hFind] at hWinner
      simp only
      split_ifs with hTakes
      · constructor
        · have hKeys : (table.map fun other => if key other = key x then x else other).map key =
              table.map key := by
            rw [List.map_map]
            apply List.map_congr_left
            intro other _
            by_cases hKey : key other = key x <;> simp [hKey]
          rw [hKeys]
          exact h.nodup
        · intro k
          rw [find?_replace]
          split_ifs with hK
          · rw [hK, hFind, winner_concat, ← hWinner, Option.elim_some, if_pos hTakes]
            rfl
          · rw [winner_concat_of_ne (Ne.symm hK), h.find? k]
      · constructor
        · exact h.nodup
        · intro k
          by_cases hK : key x = k
          · rw [← hK, hFind, winner_concat, ← hWinner, Option.elim_some, if_neg hTakes]
          · rw [winner_concat_of_ne hK, h.find? k]

variable (key preferred) in
theorem settleAll_settled (xs : List α) :
    Settled key preferred xs (settleAll key preferred xs) := by
  induction xs using List.reverseRecOn with
  | nil => exact ⟨by simp [settleAll], by simp [settleAll, winner]⟩
  | append_singleton xs x ih =>
      have hStep : settleAll key preferred (xs ++ [x]) =
          settle key preferred (settleAll key preferred xs) x := by
        simp [settleAll]
      rw [hStep]
      exact ih.settle x

theorem mem_settleAll :
    a ∈ settleAll key preferred xs ↔ winner key preferred xs (key a) = some a := by
  have h := settleAll_settled key preferred xs
  rw [← h.find? (key a), find?_key_eq_some h.nodup]
  simp

variable (key preferred) in
theorem settleAll_nodup (xs : List α) : ((settleAll key preferred xs).map key).Nodup :=
  (settleAll_settled key preferred xs).nodup

/-- **Without rivals the order does not matter.** -/
theorem settleAll_perm (h : Unrivalled key preferred xs) (hPerm : xs.Perm ys) :
    (settleAll key preferred xs).Perm (settleAll key preferred ys) := by
  rw [List.perm_ext_iff_of_nodup (List.Nodup.of_map _ (settleAll_nodup key preferred xs))
    (List.Nodup.of_map _ (settleAll_nodup key preferred ys))]
  intro a
  rw [mem_settleAll, mem_settleAll, winner_perm h hPerm]

/-! ## Items behind a function -/

section Map

variable {β : Type} {f : β → α} {bs : List β}

theorem settle_map (table : List β) (b : β) :
    settle key preferred (table.map f) (f b) =
      (settle (fun b => key (f b)) (fun b => preferred (f b)) table b).map f := by
  unfold settle
  rw [List.find?_map]
  simp only [Function.comp_def]
  cases table.find? fun held => key (f held) = key (f b) with
  | none => simp
  | some held =>
      simp only [Option.map_some]
      split_ifs with hTakes
      · simp only [List.map_map]
        apply List.map_congr_left
        intro other _
        simp only [Function.comp_apply]
        split_ifs <;> rfl
      · rfl

/-- Settling the images is settling what they are images of. -/
theorem settleAll_map (bs : List β) :
    settleAll key preferred (bs.map f) =
      (settleAll (fun b => key (f b)) (fun b => preferred (f b)) bs).map f := by
  induction bs using List.reverseRecOn with
  | nil => rfl
  | append_singleton bs b ih =>
      unfold settleAll at ih ⊢
      rw [List.map_append, List.foldl_append, List.foldl_append, ih]
      exact settle_map _ b

end Map

end FrameScope.Verified.Preference
