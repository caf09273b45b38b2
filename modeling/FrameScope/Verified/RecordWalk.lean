import Mathlib

/-!
# Walking records

A range of positions holds records, one after the other.  `read` decodes the
record at a position or fails, and `after` tells where a record ends.  `walk` is
the loop that hands the records of a range to a visitor, which carries a state
on, may fail, and may end the loop early.

Where the records are known (`LaidOut`), the loop is a pass over their list
(`walk_laidOut`).  Where they are not, a reader that always advances makes the
loop end, and every error is one of the reader or of the visitor
(`walk_error`).  `visited` lists what the loop reads; another reader that agrees
there gives the same result (`walk_congr`).

Nothing here knows what a record is.
-/

namespace FrameScope.Verified.RecordWalk

variable {ε η σ : Type}

/-- What a visitor wants next. -/
inductive Flow (σ : Type)
  | next (s : σ)
  | done (s : σ)

variable (read : Nat → Except ε η) (after : η → Nat) (visit : σ → η → Except ε (Flow σ))
  (stuck : ε)

/-- The loop over the records from `pos` up to `stop`, for at most `fuel` rounds. -/
def walk (stop : Nat) : Nat → Nat → σ → Except ε σ
  | 0, pos, s => if pos < stop then .error stuck else .ok s
  | fuel + 1, pos, s =>
      if pos < stop then do
        let record ← read pos
        match ← visit s record with
        | .done s => .ok s
        | .next s => walk stop fuel (after record) s
      else .ok s

/-- The records that the loop reads when it is left after the first one of
which `last` holds. -/
def visited (last : η → Bool) (stop : Nat) : Nat → Nat → List (Nat × η)
  | 0, _ => []
  | fuel + 1, pos =>
      if pos < stop then
        match read pos with
        | .error _ => []
        | .ok record =>
            (pos, record) ::
              if last record then [] else visited last stop fuel (after record)
      else []

/-- A pass over a list of records. -/
def visitAll : List η → σ → Except ε σ
  | [], s => .ok s
  | record :: rest, s => do
      match ← visit s record with
      | .done s => .ok s
      | .next s => visitAll rest s

/-- The records of a range. -/
inductive LaidOut (stop : Nat) : Nat → List η → Prop
  | nil : LaidOut stop stop []
  | cons {pos : Nat} {record : η} {rest : List η} (hMore : pos < stop)
      (hRead : read pos = .ok record) (hRest : LaidOut stop (after record) rest) :
      LaidOut stop pos (record :: rest)

variable {read} {after} {visit} {stuck} {stop pos fuel : Nat} {s s' : σ}

theorem walk_of_not_lt (h : ¬ pos < stop) : walk read after visit stuck stop fuel pos s = .ok s := by
  cases fuel with
  | zero => exact if_neg h
  | succ fuel => exact if_neg h

theorem walk_of_read {record : η} (h : pos < stop) (hRead : read pos = .ok record) :
    walk read after visit stuck stop (fuel + 1) pos s =
      (visit s record).bind fun flow => match flow with
        | .done s => .ok s
        | .next s => walk read after visit stuck stop fuel (after record) s := by
  rw [walk, if_pos h, hRead]
  rfl

theorem walk_of_read_error {e : ε} (h : pos < stop) (hRead : read pos = .error e) :
    walk read after visit stuck stop (fuel + 1) pos s = .error e := by
  rw [walk, if_pos h, hRead]
  rfl

/-- Known records are visited in turn. -/
theorem walk_laidOut {records : List η} (h : LaidOut read after stop pos records)
    (hFuel : records.length ≤ fuel) :
    walk read after visit stuck stop fuel pos s = visitAll visit records s := by
  induction h generalizing fuel s with
  | nil => exact walk_of_not_lt (Nat.lt_irrefl stop)
  | cons hMore hRead _ ih =>
      cases fuel with
      | zero => simp at hFuel
      | succ fuel =>
          rw [List.length_cons] at hFuel
          rw [walk_of_read hMore hRead, visitAll]
          cases visit s _ with
          | error e => rfl
          | ok flow =>
              cases flow with
              | done s' => rfl
              | next s' => exact ih (by omega)

/-- A reader that advances: every record of the range ends beyond its start, and
within the range. -/
def Advances (read : Nat → Except ε η) (after : η → Nat) (stop : Nat) : Prop :=
  ∀ pos record, pos < stop → read pos = .ok record → pos < after record ∧ after record ≤ stop

/-- With enough fuel an error comes from the reader or from the visitor. -/
theorem walk_error {P : ε → Prop} (hAdvances : Advances read after stop)
    (hRead : ∀ pos e, pos < stop → read pos = .error e → P e)
    (hVisit : ∀ pos record, pos < stop → read pos = .ok record →
      ∀ s e, visit s record = .error e → P e)
    (hFuel : stop ≤ pos + fuel) {e : ε}
    (h : walk read after visit stuck stop fuel pos s = .error e) : P e := by
  induction fuel generalizing pos s with
  | zero =>
      rw [walk_of_not_lt (by omega)] at h
      cases h
  | succ fuel ih =>
      by_cases hMore : pos < stop
      · cases hRecord : read pos with
        | error e' =>
            rw [walk_of_read_error hMore hRecord, Except.error.injEq] at h
            exact h ▸ hRead pos e' hMore hRecord
        | ok record =>
            rw [walk_of_read hMore hRecord] at h
            cases hFlow : visit s record with
            | error e' =>
                rw [hFlow] at h
                exact Except.error.inj h ▸ hVisit pos record hMore hRecord s e' hFlow
            | ok flow =>
                rw [hFlow] at h
                have hNext := hAdvances pos record hMore hRecord
                cases flow with
                | done s' => cases h
                | next s' => exact ih (by omega) h
      · rw [walk_of_not_lt hMore] at h
        cases h

/-! ## What is visited -/

section Visited

variable {last : η → Bool}

theorem visited_of_not_lt (h : ¬ pos < stop) : visited read after last stop fuel pos = [] := by
  cases fuel with
  | zero => rfl
  | succ fuel => exact if_neg h

theorem visited_of_read {record : η} (h : pos < stop) (hRead : read pos = .ok record) :
    visited read after last stop (fuel + 1) pos =
      (pos, record) ::
        if last record then [] else visited read after last stop fuel (after record) := by
  rw [visited, if_pos h, hRead]

theorem visited_of_read_error {e : ε} (h : pos < stop) (hRead : read pos = .error e) :
    visited read after last stop (fuel + 1) pos = [] := by
  rw [visited, if_pos h, hRead]

/-- Every visited record has been read within the range. -/
theorem mem_visited {entry : Nat × η} (hAdvances : Advances read after stop)
    (h : entry ∈ visited read after last stop fuel pos) :
    pos ≤ entry.1 ∧ entry.1 < stop ∧ read entry.1 = .ok entry.2 := by
  induction fuel generalizing pos with
  | zero => cases h
  | succ fuel ih =>
      by_cases hMore : pos < stop
      · cases hRecord : read pos with
        | error e =>
            rw [visited_of_read_error hMore hRecord] at h
            cases h
        | ok record =>
            rw [visited_of_read hMore hRecord] at h
            cases List.mem_cons.1 h with
            | inl hHead =>
                subst hHead
                exact ⟨Nat.le_refl _, hMore, hRecord⟩
            | inr hTail =>
                split_ifs at hTail with hLast
                · cases hTail
                · have hNext := hAdvances pos record hMore hRecord
                  obtain ⟨hFrom, hIn⟩ := ih hTail
                  exact ⟨by omega, hIn⟩
      · rw [visited_of_not_lt hMore] at h
        cases h

/-- The positions of the visited records go up. -/
theorem visited_pairwise (hAdvances : Advances read after stop) :
    (visited read after last stop fuel pos).Pairwise fun a b => after a.2 ≤ b.1 := by
  induction fuel generalizing pos with
  | zero => exact List.Pairwise.nil
  | succ fuel ih =>
      by_cases hMore : pos < stop
      · cases hRecord : read pos with
        | error e =>
            rw [visited_of_read_error hMore hRecord]
            exact List.Pairwise.nil
        | ok record =>
            rw [visited_of_read hMore hRecord, List.pairwise_cons]
            split_ifs with hLast
            · exact ⟨by simp, List.Pairwise.nil⟩
            · exact ⟨fun entry hEntry => (mem_visited hAdvances hEntry).1, ih⟩
      · rw [visited_of_not_lt hMore]
        exact List.Pairwise.nil

/-- There are no more visited records than positions. -/
theorem visited_length_le (hAdvances : Advances read after stop) {bound : Nat}
    (h : ∀ entry ∈ visited read after last stop fuel pos, entry.1 < bound) :
    (visited read after last stop fuel pos).length ≤ bound - pos := by
  induction fuel generalizing pos with
  | zero => exact Nat.zero_le _
  | succ fuel ih =>
      by_cases hMore : pos < stop
      · cases hRecord : read pos with
        | error e =>
            rw [visited_of_read_error hMore hRecord]
            exact Nat.zero_le _
        | ok record =>
            rw [visited_of_read hMore hRecord] at h ⊢
            have hNext := hAdvances pos record hMore hRecord
            have hHead := h (pos, record) (List.mem_cons_self ..)
            rw [List.length_cons]
            split_ifs at h ⊢ with hLast
            · rw [List.length_nil]
              omega
            · have hRest := ih fun entry hEntry => h entry (List.mem_cons_of_mem _ hEntry)
              have hInside : visited read after last stop fuel (after record) = [] ∨
                  after record < bound := by
                cases hList : visited read after last stop fuel (after record) with
                | nil => exact Or.inl rfl
                | cons entry rest =>
                    right
                    have hMem : entry ∈ visited read after last stop fuel (after record) := by
                      rw [hList]
                      exact List.mem_cons_self ..
                    have hFrom := (mem_visited hAdvances hMem).1
                    have hBelow := h entry (List.mem_cons_of_mem _ hMem)
                    omega
              cases hInside with
              | inl hNone =>
                  rw [hNone, List.length_nil]
                  omega
              | inr hBelow => omega
      · rw [visited_of_not_lt hMore]
        exact Nat.zero_le _

/-- What every visit keeps holds when the loop returns. -/
theorem walk_keeps {P : σ → Prop}
    (hLast : ∀ s record s', visit s record = .ok (.next s') → last record = false)
    (hNext : ∀ entry ∈ visited read after last stop fuel pos, ∀ s s',
      P s → visit s entry.2 = .ok (.next s') → P s')
    (hDone : ∀ entry ∈ visited read after last stop fuel pos, ∀ s s',
      P s → visit s entry.2 = .ok (.done s') → P s')
    (hs : P s) (h : walk read after visit stuck stop fuel pos s = .ok s') : P s' := by
  induction fuel generalizing pos s with
  | zero =>
      by_cases hMore : pos < stop
      · rw [walk, if_pos hMore] at h
        cases h
      · rw [walk_of_not_lt hMore] at h
        exact Except.ok.inj h ▸ hs
  | succ fuel ih =>
      by_cases hMore : pos < stop
      · cases hRecord : read pos with
        | error e =>
            rw [walk_of_read_error hMore hRecord] at h
            cases h
        | ok record =>
            rw [visited_of_read hMore hRecord] at hNext hDone
            rw [walk_of_read hMore hRecord] at h
            have hHead := List.mem_cons_self (a := (pos, record))
              (l := if last record then [] else visited read after last stop fuel (after record))
            cases hFlow : visit s record with
            | error e =>
                rw [hFlow] at h
                cases h
            | ok flow =>
                rw [hFlow] at h
                cases flow with
                | done s'' => exact Except.ok.inj h ▸ hDone _ hHead s s'' hs hFlow
                | next s'' =>
                    have hKept := hNext _ hHead s s'' hs hFlow
                    rw [hLast s record s'' hFlow] at hNext hDone
                    apply ih _ _ hKept h
                    · exact fun entry hEntry => hNext entry (List.mem_cons_of_mem _ hEntry)
                    · exact fun entry hEntry => hDone entry (List.mem_cons_of_mem _ hEntry)
      · rw [walk_of_not_lt hMore] at h
        exact Except.ok.inj h ▸ hs

variable {read' : Nat → Except ε η} {visit' : σ → η → Except ε (Flow σ)} {stop' fuel' : Nat}

/-- A loop that returned does so under every reader and visitor that agree on
what it visited.  The two ranges may end differently where the loop was left
early. -/
theorem walk_congr
    (hLast : ∀ s record s', visit s record = .ok (.next s') → last record = false)
    (hEnds : stop' = stop ∨
      ∃ entry ∈ visited read after last stop fuel pos, last entry.2 = true)
    (hRead : ∀ entry ∈ visited read after last stop fuel pos,
      entry.1 < stop' ∧ read' entry.1 = .ok entry.2)
    (hVisit : ∀ entry ∈ visited read after last stop fuel pos, ∀ s flow,
      visit s entry.2 = .ok flow → visit' s entry.2 = .ok flow)
    (hFuel : (visited read after last stop fuel pos).length ≤ fuel')
    (h : walk read after visit stuck stop fuel pos s = .ok s') :
    walk read' after visit' stuck stop' fuel' pos s = .ok s' := by
  induction fuel generalizing pos s fuel' with
  | zero =>
      by_cases hMore : pos < stop
      · rw [walk, if_pos hMore] at h
        cases h
      · rw [walk_of_not_lt hMore] at h
        cases hEnds with
        | inl hStop =>
            rw [hStop, walk_of_not_lt hMore]
            exact h
        | inr hLeft =>
            obtain ⟨entry, hEntry, -⟩ := hLeft
            cases hEntry
  | succ fuel ih =>
      by_cases hMore : pos < stop
      · cases hRecord : read pos with
        | error e =>
            rw [walk_of_read_error hMore hRecord] at h
            cases h
        | ok record =>
            rw [visited_of_read hMore hRecord] at hEnds hRead hVisit hFuel
            rw [walk_of_read hMore hRecord] at h
            have hHead := hRead (pos, record) (List.mem_cons_self ..)
            cases fuel' with
            | zero => simp at hFuel
            | succ fuel' =>
                rw [walk_of_read hHead.1 hHead.2]
                cases hFlow : visit s record with
                | error e =>
                    rw [hFlow] at h
                    cases h
                | ok flow =>
                    rw [hFlow] at h
                    rw [hVisit (pos, record) (List.mem_cons_self ..) s flow hFlow]
                    cases flow with
                    | done s'' => exact h
                    | next s'' =>
                        have hPlain := hLast s record s'' hFlow
                        rw [hPlain] at hEnds hRead hVisit hFuel
                        rw [List.length_cons] at hFuel
                        apply ih _ _ _ _ h
                        · cases hEnds with
                          | inl hStop => exact Or.inl hStop
                          | inr hLeft =>
                              obtain ⟨entry, hEntry, hIs⟩ := hLeft
                              cases List.mem_cons.1 hEntry with
                              | inl hEq =>
                                  rw [hEq, hPlain] at hIs
                                  cases hIs
                              | inr hTail => exact Or.inr ⟨entry, hTail, hIs⟩
                        · exact fun entry hEntry => hRead entry (List.mem_cons_of_mem _ hEntry)
                        · exact fun entry hEntry => hVisit entry (List.mem_cons_of_mem _ hEntry)
                        · exact Nat.le_of_succ_le_succ hFuel
      · rw [visited_of_not_lt hMore] at hEnds
        rw [walk_of_not_lt hMore] at h
        cases hEnds with
        | inl hStop =>
            rw [hStop, walk_of_not_lt hMore]
            exact h
        | inr hLeft =>
            obtain ⟨entry, hEntry, -⟩ := hLeft
            cases hEntry

end Visited

end FrameScope.Verified.RecordWalk
