import FrameScope.Verified.Fallible

/-!
# Results that are derived from a source and kept in a file

A result is written beside its path and put in place when it is whole.  A later
call looks at what stands at the path: it takes a file that the validation
accepts and removes one that it refuses.

`openOrBuild` is such a call.  When every writer repeats one steady writer as
far as it comes, what stands at the path is nothing or the steady writer's
result, after calls of any kind, and a call that returns has that result at the
path.  A call that fails leaves what it found, or a file that is not accepted.
-/

namespace FrameScope.Verified.DerivedFile

open FrameScope.Verified.Fallible

variable {ε δ F L : Type}

/-- The file at the path of a result and the one beside it. -/
structure Files (F : Type) where
  visible : F
  building : F
  deriving DecidableEq

/-- Two states that only differ beside the path. -/
def SameVisible (s t : Files F) : Prop := s.visible = t.visible

/-- How a file is validated: the answer, or the error of the validation, and
the count of a file that is accepted. -/
structure Validation (ε F L : Type) where
  missing : F
  look : F → Except ε L
  accepted : L → Option Nat

/-- How a result was come by. -/
inductive Disposition where
  | reused | built
  deriving DecidableEq, Repr

/-- What a call makes of the counts it sees: the one of a file that it takes,
the one its writer returns, and the answer to the second look. -/
structure Counts (ε L : Type) where
  reuse : Nat → Except ε Nat
  wrote : Nat → Except ε Unit
  confirm : Nat → L → Except ε Nat

namespace Validation

variable (v : Validation ε F L)

/-- The validation accepts a file with a count. -/
def Accepts (file : F) (count : Nat) : Prop :=
  ∃ load, v.look file = .ok load ∧ v.accepted load = some count

/-- No file is no result. -/
def Empty : Prop := ∃ load, v.look v.missing = .ok load ∧ v.accepted load = none

/-- Look at the path, and remove a file that is refused. -/
def visit : EStateM ε (Files F) L := fun files =>
  match v.look files.visible with
  | .error e => .error e files
  | .ok load =>
      .ok load (if v.accepted load = none then { files with visible := v.missing } else files)

/-- Take the result that stands at the path, or write one and look again. -/
def openOrBuild (write : EStateM ε (Files F) Nat) (counts : Counts ε L) :
    EStateM ε (Files F) (Nat × Disposition) := do
  let load ← v.visit
  match v.accepted load with
  | some count => do
      let count ← ofExcept id (counts.reuse count)
      pure (count, .reused)
  | none => do
      let written ← write
      ofExcept id (counts.wrote written)
      let again ← v.visit
      let count ← ofExcept id (counts.confirm written again)
      pure (count, .built)

end Validation

/-- A writer that starts on empty paths puts `file` in place. -/
def Publishes (missing : F) (write : EStateM δ (Files F) Nat) (count : Nat) (file : F) : Prop :=
  ∃ t, write ⟨missing, missing⟩ = .ok count t ∧ t.visible = file

/-- What may stand at the path: nothing, or the steady writer's result. -/
def Holds (missing : F) (steady : EStateM δ (Files F) Nat) (files : Files F) : Prop :=
  files.visible = missing ∨ ∃ count, Publishes missing steady count files.visible

/-- A writer that comes as far as the steady one or fails, and that leaves the
path alone when it fails. -/
structure Faltering (write : EStateM ε (Files F) Nat) (steady : EStateM δ (Files F) Nat) :
    Prop where
  repeats : Simulates SameVisible write steady
  keeps : ∀ s, wp write (fun _ _ => True) (fun _ s' => s'.visible = s.visible) s

/-- The counts are checked in a way that suits the validation: a file that it
accepts passes, and one that it refuses does not. -/
structure Confirms (v : Validation ε F L) (steady : EStateM δ (Files F) Nat)
    (counts : Counts ε L) : Prop where
  reuse_ok : ∀ file count, v.Accepts file count → counts.reuse count = .ok count
  wrote_ok : ∀ written file count, Publishes v.missing steady written file →
    v.Accepts file count → counts.wrote written = .ok ()
  confirm_ok : ∀ written load count, counts.confirm written load = .ok count →
    v.accepted load = some count
  confirm_of : ∀ written file load count, Publishes v.missing steady written file →
    v.look file = .ok load → v.accepted load = some count →
      counts.confirm written load = .ok count

section Visits

variable {v : Validation ε F L} {s : Files F}

/-- The four ends of a visit, by what the validation says. -/
theorem wp_visit {Q : L → Files F → Prop} {E : ε → Files F → Prop} :
    wp v.visit Q E s ↔
      (∀ e, v.look s.visible = .error e → E e s) ∧
      ∀ load, v.look s.visible = .ok load →
        Q load (if v.accepted load = none then { s with visible := v.missing } else s) := by
  unfold wp Validation.visit
  cases v.look s.visible with
  | error e => simp
  | ok load => simp

theorem visit_accepts {count : Nat} (h : v.Accepts s.visible count) :
    ∃ load, v.look s.visible = .ok load ∧ v.accepted load = some count ∧
      v.visit s = .ok load s := by
  obtain ⟨load, hLook, hAccepted⟩ := h
  refine ⟨load, hLook, hAccepted, ?_⟩
  unfold Validation.visit
  rw [hLook]
  dsimp only
  rw [hAccepted, if_neg (by simp)]

theorem visit_missing (hEmpty : v.Empty) (h : s.visible = v.missing) :
    ∃ load, v.visit s = .ok load s ∧ v.accepted load = none := by
  obtain ⟨load, hLook, hAccepted⟩ := hEmpty
  refine ⟨load, ?_, hAccepted⟩
  unfold Validation.visit
  rw [h, hLook]
  dsimp only
  rw [if_pos hAccepted, ← h]

end Visits

section Calls

variable {v : Validation ε F L} {write : EStateM ε (Files F) Nat}
  {steady : EStateM δ (Files F) Nat} {counts : Counts ε L} {s : Files F}

theorem not_accepts_missing (hEmpty : v.Empty) (count : Nat) : ¬ v.Accepts v.missing count := by
  intro h
  obtain ⟨load, hLook, hAccepted⟩ := h
  obtain ⟨load', hLook', hNone⟩ := hEmpty
  rw [hLook] at hLook'
  cases hLook'
  rw [hAccepted] at hNone
  cases hNone

/-- A writer that returns has put the steady writer's result in place. -/
theorem Faltering.publishes (h : Faltering write steady) (hMissing : s.visible = v.missing)
    {count : Nat} {s' : Files F} (hRun : write s = .ok count s') :
    Publishes v.missing steady count s'.visible := by
  obtain ⟨t, hSteady, hSame⟩ := h.repeats s ⟨v.missing, v.missing⟩ hMissing count s' hRun
  exact ⟨t, hSteady, hSame.symm⟩

/-- The end of a build: the count is confirmed, or the file is not accepted. -/
theorem wp_confirm (hEmpty : v.Empty) (hConfirms : Confirms v steady counts)
    {written : Nat} (hPublished : Publishes v.missing steady written s.visible) :
    wp (do
      ofExcept id (counts.wrote written)
      let again ← v.visit
      let count ← ofExcept id (counts.confirm written again)
      pure (count, Disposition.built))
      (fun a s' => s' = s ∧ v.Accepts s.visible a.1)
      (fun _ s' => Holds v.missing steady s' ∧ ∀ count, ¬ v.Accepts s'.visible count) s := by
  simp only [wp_bind, wp_visit, wp_ofExcept, wp_pure]
  refine ⟨fun _ _ => ⟨?_, ?_⟩, ?_⟩
  · intro e hLook
    refine ⟨Or.inr ⟨written, hPublished⟩, ?_⟩
    intro count hAccepts
    obtain ⟨load, hOk, -⟩ := hAccepts
    rw [hLook] at hOk
    cases hOk
  · intro load hLook
    cases hAccepted : v.accepted load with
    | none =>
        rw [if_pos rfl]
        constructor
        · intro count hCount
          rw [hConfirms.confirm_ok written load count hCount] at hAccepted
          cases hAccepted
        · intro e _
          exact ⟨Or.inl rfl, not_accepts_missing hEmpty⟩
    | some count =>
        rw [if_neg (by simp)]
        have hOk := hConfirms.confirm_of written s.visible load count hPublished hLook hAccepted
        constructor
        · intro count' hCount
          rw [hOk] at hCount
          cases hCount
          exact ⟨rfl, load, hLook, hAccepted⟩
        · intro e hError
          rw [hOk] at hError
          cases hError
  · intro e hWrote
    refine ⟨Or.inr ⟨written, hPublished⟩, ?_⟩
    intro count hAccepts
    rw [hConfirms.wrote_ok written s.visible count hPublished hAccepts] at hWrote
    cases hWrote

/-- A call on a path that holds nothing or the steady writer's result. -/
theorem wp_openOrBuild (hEmpty : v.Empty) (hConfirms : Confirms v steady counts)
    (hWrite : Faltering write steady) (hs : Holds v.missing steady s) :
    wp (v.openOrBuild write counts)
      (fun a s' => (∃ count, Publishes v.missing steady count s'.visible) ∧
        v.Accepts s'.visible a.1)
      (fun _ s' => Holds v.missing steady s' ∧
        ∀ count, v.Accepts s'.visible count → s' = s) s := by
  unfold Validation.openOrBuild
  rw [wp_bind, wp_visit]
  constructor
  · intro e _
    exact ⟨hs, fun _ _ => rfl⟩
  · intro load hLook
    cases hAccepted : v.accepted load with
    | some count =>
        dsimp only
        have hAccepts : v.Accepts s.visible count := ⟨load, hLook, hAccepted⟩
        rw [if_neg (by simp), hConfirms.reuse_ok s.visible count hAccepts]
        refine ⟨?_, hAccepts⟩
        apply hs.resolve_left
        intro hMissing
        rw [hMissing] at hAccepts
        exact not_accepts_missing hEmpty count hAccepts
    | none =>
        dsimp only
        rw [if_pos rfl, wp_bind]
        generalize hCleared : ({ s with visible := v.missing } : Files F) = cleared
        have hMissing : cleared.visible = v.missing := by rw [← hCleared]
        have hKeeps := hWrite.keeps cleared
        unfold wp at hKeeps ⊢
        cases hRun : write cleared with
        | error e s' =>
            rw [hRun] at hKeeps
            dsimp only at hKeeps ⊢
            rw [hMissing] at hKeeps
            refine ⟨Or.inl hKeeps, ?_⟩
            intro count hAccepts
            rw [hKeeps] at hAccepts
            exact absurd hAccepts (not_accepts_missing hEmpty count)
        | ok written s' =>
            have hPublished := hWrite.publishes hMissing hRun
            have hEnd := wp_confirm hEmpty hConfirms hPublished
            exact wp_mono hEnd
              (fun a s'' h => by
                rw [h.1]
                exact ⟨⟨written, hPublished⟩, h.2⟩)
              fun e s'' h => ⟨h.1, fun count hAccepts => absurd hAccepts (h.2 count)⟩

/-- A build over empty paths, when its result is accepted. -/
theorem openOrBuild_fresh (hEmpty : v.Empty) (hConfirms : Confirms v steady counts)
    {written count : Nat} {t : Files F} (hRun : write ⟨v.missing, v.missing⟩ = .ok written t)
    (hPublished : Publishes v.missing steady written t.visible)
    (hAccepts : v.Accepts t.visible count) :
    v.openOrBuild write counts ⟨v.missing, v.missing⟩ = .ok (count, .built) t := by
  obtain ⟨load, hVisit, hNone⟩ := visit_missing hEmpty
    (show (⟨v.missing, v.missing⟩ : Files F).visible = v.missing from rfl)
  obtain ⟨again, hLook, hAccepted, hAgain⟩ := visit_accepts hAccepts
  have hConfirm := hConfirms.confirm_of written t.visible again count hPublished hLook hAccepted
  unfold Validation.openOrBuild
  refine bind_ok_iff.2 ⟨load, _, hVisit, ?_⟩
  rw [hNone]
  refine bind_ok_iff.2 ⟨written, t, hRun, ?_⟩
  rw [hConfirms.wrote_ok written t.visible count hPublished hAccepts]
  refine bind_ok_iff.2 ⟨(), t, rfl, ?_⟩
  refine bind_ok_iff.2 ⟨again, t, hAgain, ?_⟩
  rw [hConfirm]
  rfl

/-- A call that reuses a file has found one that is accepted. -/
theorem openOrBuild_reused {count : Nat} {s' : Files F}
    (hRun : v.openOrBuild write counts s = .ok (count, .reused) s') :
    ∃ found, v.Accepts s.visible found := by
  have hEnds : wp (v.openOrBuild write counts)
      (fun a _ => a.2 = .reused → ∃ found, v.Accepts s.visible found) (fun _ _ => True) s := by
    unfold Validation.openOrBuild
    rw [wp_bind, wp_visit]
    constructor
    · intro _ _
      trivial
    · intro load hLook
      cases hAccepted : v.accepted load with
      | some found =>
          dsimp only
          rw [wp_bind, wp_ofExcept]
          exact ⟨fun _ _ _ => ⟨found, load, hLook, hAccepted⟩, fun _ _ => trivial⟩
      | none =>
          dsimp only
          apply wp_bind_of
          intro _ _
          apply wp_bind_of
          intro _ _
          apply wp_bind_of
          intro _ _
          apply wp_bind_of
          intro _ _ hReused
          cases hReused
  exact wp_ok hEnds hRun rfl

end Calls

end FrameScope.Verified.DerivedFile
