import Mathlib

/-!
# Keeping the newest

A bounded history sorts its items by a time, latest first, and cuts the list at
its capacity.  The sort is stable, so of two items of one time the earlier one of
the list comes first: an item that is put at the end stays only when fewer than
the capacity are as late as it is, which is what `mem_keepNewest_concat` says.

`distinctBy` keeps the first item for each key, as a pass with a set of the keys
already seen does.
-/

namespace FrameScope.Verified.Newest

variable {α κ : Type}

/-! ## One item for each key -/

section Distinct

variable [DecidableEq κ] (key : α → κ)

/-- The items whose key has not been seen before. -/
def distinctFrom : List κ → List α → List α
  | _, [] => []
  | seen, a :: rest =>
      if key a ∈ seen then distinctFrom seen rest
      else a :: distinctFrom (key a :: seen) rest

/-- The first item for each key. -/
def distinctBy (items : List α) : List α := distinctFrom key [] items

variable {key}

theorem distinctFrom_eq_self {items : List α} :
    ∀ {seen : List κ}, (items.map key).Nodup → (∀ a ∈ items, key a ∉ seen) →
      distinctFrom key seen items = items := by
  induction items with
  | nil => intro seen _ _; rfl
  | cons a rest ih =>
      intro seen hNodup hNew
      rw [List.map_cons, List.nodup_cons] at hNodup
      have hHead : key a ∉ seen := hNew a (List.mem_cons_self ..)
      simp only [distinctFrom, if_neg hHead]
      rw [ih hNodup.2]
      intro b hb hSeen
      rcases List.mem_cons.1 hSeen with hSame | hOld
      · apply hNodup.1
        rw [← hSame]
        exact List.mem_map_of_mem hb
      · exact hNew b (List.mem_cons_of_mem _ hb) hOld

/-- A list with one item for each key is kept whole. -/
theorem distinctBy_eq_self {items : List α} (h : (items.map key).Nodup) :
    distinctBy key items = items := by
  apply distinctFrom_eq_self h
  intro a _ hSeen
  cases hSeen

/-- Where no two items have one key, the only item of a key is all that a search for
the key finds. -/
theorem filter_key_eq_singleton {find : α → Option κ} {items : List α} {a : α} {k : κ}
    (hNodup : (items.filterMap find).Nodup) (hMem : a ∈ items) (hKey : find a = some k) :
    items.filter (fun b => find b = some k) = [a] := by
  induction items with
  | nil => cases hMem
  | cons b rest ih =>
      rcases List.mem_cons.1 hMem with hSame | hRest
      · subst hSame
        rw [List.filterMap_cons_some hKey, List.nodup_cons] at hNodup
        rw [List.filter_cons_of_pos (by simpa using hKey), List.filter_eq_nil_iff.2]
        intro b hb hFound
        exact hNodup.1 (List.mem_filterMap.2 ⟨b, hb, by simpa using hFound⟩)
      · cases hHead : find b with
        | none =>
            rw [List.filterMap_cons_none hHead] at hNodup
            rw [List.filter_cons_of_neg (by simp [hHead])]
            exact ih hNodup hRest
        | some k' =>
            rw [List.filterMap_cons_some hHead, List.nodup_cons] at hNodup
            have hOther : k' ≠ k := by
              intro hSame
              rw [hSame] at hNodup
              exact hNodup.1 (List.mem_filterMap.2 ⟨a, hRest, hKey⟩)
            rw [List.filter_cons_of_neg (by simp [hHead, hOther])]
            exact ih hNodup.2 hRest

end Distinct

/-! ## Latest first -/

variable (time : α → Int)

/-- Sorted by time, latest first, equal times in their order. -/
def newestFirst (items : List α) : List α :=
  items.insertionSort fun a b => time b ≤ time a

/-- The `n` first of them. -/
def keepNewest (n : Nat) (items : List α) : List α := (newestFirst time items).take n

/-- Every item is at least as late as those after it. -/
def LatestFirst (items : List α) : Prop := items.Pairwise fun a b => time b ≤ time a

variable {time} {n : Nat}

theorem newestFirst_perm (items : List α) : (newestFirst time items).Perm items :=
  List.perm_insertionSort _ _

theorem newestFirst_sorted (items : List α) : LatestFirst time (newestFirst time items) := by
  have hTotal : Std.Total fun a b : α => time b ≤ time a := ⟨fun a b => Int.le_total _ _⟩
  have hTrans : IsTrans α fun a b => time b ≤ time a := ⟨fun a b c hab hbc => by omega⟩
  exact List.pairwise_insertionSort _ _

theorem newestFirst_eq_self {items : List α} (h : LatestFirst time items) :
    newestFirst time items = items := h.insertionSort_eq

theorem keepNewest_length_le (items : List α) : (keepNewest time n items).length ≤ n := by
  unfold keepNewest
  rw [List.length_take]
  omega

theorem keepNewest_sorted (items : List α) : LatestFirst time (keepNewest time n items) :=
  (newestFirst_sorted items).sublist (List.take_sublist _ _)

/-- A sorted list within the capacity is kept as it is. -/
theorem keepNewest_eq_self {items : List α} (h : LatestFirst time items)
    (hLength : items.length ≤ n) : keepNewest time n items = items := by
  unfold keepNewest
  rw [newestFirst_eq_self h, List.take_of_length_le hLength]

/-- Up to the order, a list within the capacity is kept. -/
theorem keepNewest_perm {items : List α} (hLength : items.length ≤ n) :
    (keepNewest time n items).Perm items := by
  unfold keepNewest
  rw [List.take_of_length_le]
  · exact newestFirst_perm items
  · rwa [(newestFirst_perm items).length_eq]

theorem mem_of_mem_keepNewest {items : List α} {a : α} (h : a ∈ keepNewest time n items) :
    a ∈ items :=
  (newestFirst_perm items).mem_iff.1 (List.mem_of_mem_take h)

/-- What holds of no two items holds of no two that are kept. -/
theorem keepNewest_nodup_map {β : Type} {f : α → β} {items : List α} (h : (items.map f).Nodup) :
    ((keepNewest time n items).map f).Nodup := by
  have hPerm : (newestFirst time items).Perm items := newestFirst_perm items
  have hSorted := (hPerm.map f).nodup_iff.2 h
  exact hSorted.sublist ((List.take_sublist _ _).map f)

theorem keepNewest_nodup_filterMap {β : Type} {f : α → Option β} {items : List α}
    (h : (items.filterMap f).Nodup) : ((keepNewest time n items).filterMap f).Nodup := by
  have hPerm : (newestFirst time items).Perm items := newestFirst_perm items
  have hSorted := (hPerm.filterMap f).nodup_iff.2 h
  exact hSorted.sublist ((List.take_sublist _ _).filterMap f)

/-- An item put at the end stands after those that are as late as it is and before
the others. -/
theorem newestFirst_concat (items : List α) (a : α) :
    newestFirst time (items ++ [a]) =
      newestFirst time (items.filter fun b => time a ≤ time b) ++
        a :: newestFirst time (items.filter fun b => ¬time a ≤ time b) := by
  induction items with
  | nil => rfl
  | cons x rest ih =>
      have hUnfold : newestFirst time (x :: rest ++ [a]) =
          (newestFirst time (rest ++ [a])).orderedInsert (fun a b => time b ≤ time a) x := rfl
      rw [hUnfold, ih]
      have hLate : ∀ b ∈ newestFirst time (rest.filter fun b => time a ≤ time b),
          time a ≤ time b := by
        intro b hb
        have hMem := (newestFirst_perm _).mem_iff.1 hb
        simpa using (List.mem_filter.1 hMem).2
      by_cases hx : time a ≤ time x
      · rw [List.filter_cons_of_pos (by simpa using hx), List.filter_cons_of_neg (by simpa using hx)]
        have hInsert : newestFirst time (x :: rest.filter fun b => time a ≤ time b) =
            (newestFirst time (rest.filter fun b => time a ≤ time b)).orderedInsert
              (fun a b => time b ≤ time a) x := rfl
        rw [hInsert]
        generalize newestFirst time (rest.filter fun b => time a ≤ time b) = late
        generalize newestFirst time (rest.filter fun b => ¬time a ≤ time b) = early
        clear hLate hInsert hUnfold ih
        induction late with
        | nil =>
            simp only [List.nil_append, List.orderedInsert_nil, List.orderedInsert_cons, if_pos hx,
              List.singleton_append]
        | cons b late ih =>
            by_cases hb : time b ≤ time x
            · simp only [List.cons_append, List.orderedInsert_cons, if_pos hb]
            · simp only [List.cons_append, List.orderedInsert_cons, if_neg hb, ih]
      · rw [List.filter_cons_of_neg (by simpa using hx), List.filter_cons_of_pos (by simpa using hx)]
        have hInsert : newestFirst time (x :: rest.filter fun b => ¬time a ≤ time b) =
            (newestFirst time (rest.filter fun b => ¬time a ≤ time b)).orderedInsert
              (fun a b => time b ≤ time a) x := rfl
        rw [hInsert]
        revert hLate
        generalize newestFirst time (rest.filter fun b => time a ≤ time b) = late
        generalize newestFirst time (rest.filter fun b => ¬time a ≤ time b) = early
        clear hInsert hUnfold ih
        intro hLate
        induction late with
        | nil => simp only [List.nil_append, List.orderedInsert_cons, if_neg hx]
        | cons b late ih =>
            have hb := hLate b (List.mem_cons_self ..)
            have hNot : ¬time b ≤ time x := by omega
            simp only [List.cons_append, List.orderedInsert_cons, if_neg hNot]
            rw [ih fun c hc => hLate c (List.mem_cons_of_mem _ hc)]

/-- **A new item stays** exactly when fewer than the capacity are as late as it
is. -/
theorem mem_keepNewest_concat {items : List α} {a : α} (hNew : a ∉ items) :
    a ∈ keepNewest time n (items ++ [a]) ↔ items.countP (fun b => time a ≤ time b) < n := by
  have hLength : (newestFirst time (items.filter fun b => time a ≤ time b)).length =
      items.countP (fun b => time a ≤ time b) := by
    rw [(newestFirst_perm _).length_eq, List.countP_eq_length_filter]
  have hApart : a ∉ newestFirst time (items.filter fun b => time a ≤ time b) := by
    intro hMem
    exact hNew (List.mem_of_mem_filter ((newestFirst_perm _).mem_iff.1 hMem))
  unfold keepNewest
  rw [newestFirst_concat, List.take_append, List.mem_append, hLength]
  by_cases hRoom : items.countP (fun b => time a ≤ time b) < n
  · refine iff_of_true (.inr ?_) hRoom
    obtain ⟨room, hIs⟩ : ∃ room, n - items.countP (fun b => time a ≤ time b) = room + 1 :=
      ⟨n - items.countP (fun b => time a ≤ time b) - 1, by omega⟩
    rw [hIs, List.take_succ_cons]
    exact List.mem_cons_self ..
  · refine iff_of_false ?_ hRoom
    rw [Nat.sub_eq_zero_of_le (Nat.not_lt.1 hRoom)]
    rintro (hMem | hMem)
    · exact hApart (List.mem_of_mem_take hMem)
    · cases hMem

end FrameScope.Verified.Newest
