import Mathlib

/-!
# Greedy segmentation of a stream

A stream is cut into runs of consecutive elements.  An element joins the open
run when it is accepted against two members of that run, the last one and the
first one; otherwise it opens a run of its own.

`accepts` and `rejects` are separate relations: a test that fails to answer is
neither.  Nothing here knows what an element or a test is.
-/

namespace FrameScope.Verified.Segmentation

variable {α : Type}

/-- A non-empty stretch of a stream. -/
structure Run (α : Type) where
  first : α
  rest : List α

namespace Run

def members (r : Run α) : List α := r.first :: r.rest

def last (r : Run α) : α := r.rest.getLastD r.first

def single (a : α) : Run α := ⟨a, []⟩

def extend (r : Run α) (a : α) : Run α := ⟨r.first, r.rest ++ [a]⟩

@[simp] theorem first_single (a : α) : (single a).first = a := rfl

@[simp] theorem last_single (a : α) : (single a).last = a := rfl

@[simp] theorem members_single (a : α) : (single a).members = [a] := rfl

@[simp] theorem first_extend (r : Run α) (a : α) : (r.extend a).first = r.first := rfl

@[simp] theorem last_extend (r : Run α) (a : α) : (r.extend a).last = a := by
  simp [last, extend, List.getLastD_eq_getLast?]

@[simp] theorem members_extend (r : Run α) (a : α) :
    (r.extend a).members = r.members ++ [a] := rfl

theorem members_getLast? (r : Run α) : r.members.getLast? = some r.last := by
  unfold members last
  rw [List.getLast?_cons, List.getLastD_eq_getLast?]

variable (accepts rejects : α → α → Prop)

/-- Every later member was accepted against its predecessor and against the
first member.  Member `i + 1` is `rest[i]`, its predecessor `members[i]`. -/
def Cohesive (r : Run α) : Prop :=
  ∀ (i : Nat) (a : α), r.rest[i]? = some a →
    ∃ previous, r.members[i]? = some previous ∧ accepts previous a ∧ accepts r.first a

/-- The run `r'` opens with an element that one of the two tests against `r`
turned away. -/
def CutBefore (r r' : Run α) : Prop :=
  rejects r.last r'.first ∨ rejects r.first r'.first

variable {accepts}

theorem cohesive_single (a : α) : (single a).Cohesive accepts := by
  intro i b h
  simp [single] at h

theorem Cohesive.extend {r : Run α} (h : r.Cohesive accepts) {a : α}
    (hLast : accepts r.last a) (hFirst : accepts r.first a) :
    (r.extend a).Cohesive accepts := by
  intro i b hb
  by_cases hi : i < r.rest.length
  · -- An old member keeps its place.
    have hOld : r.rest[i]? = some b := by
      rw [← hb]
      exact (List.getElem?_append_left hi).symm
    obtain ⟨previous, hPrevious, hAccepts⟩ := h i b hOld
    refine ⟨previous, ?_, hAccepts⟩
    rw [members_extend, List.getElem?_append_left]
    · exact hPrevious
    · simp only [members, List.length_cons]
      omega
  · -- The new member follows the last one.
    have hNew : i = r.rest.length ∧ b = a := by
      have hb' : (r.rest ++ [a])[i]? = some b := hb
      rw [List.getElem?_append_right (by omega), List.getElem?_singleton] at hb'
      split_ifs at hb' with hIndex
      exact ⟨by omega, (Option.some.inj hb').symm⟩
    obtain ⟨rfl, rfl⟩ := hNew
    refine ⟨r.last, ?_, hLast, hFirst⟩
    rw [members_extend, List.getElem?_append_left (by simp [members]), ← members_getLast?,
      List.getLast?_eq_getElem?]
    rfl

end Run

open Run

/-- `runs` is what greedy segmentation makes of `stream`. -/
structure Segments (accepts rejects : α → α → Prop) (stream : List α) (runs : List (Run α)) :
    Prop where
  flatten : runs.flatMap Run.members = stream
  cohesive : ∀ r ∈ runs, r.Cohesive accepts
  cut : runs.IsChain (CutBefore rejects)

namespace Segments

variable {accepts rejects : α → α → Prop} {stream : List α} {runs : List (Run α)} {r : Run α}
  {a : α}

theorem nil : Segments accepts rejects ([] : List α) [] :=
  ⟨rfl, by simp, List.isChain_nil⟩

theorem single (a : α) : Segments accepts rejects [a] [Run.single a] := by
  constructor
  · rfl
  · intro r hr
    rw [List.mem_singleton] at hr
    subst hr
    exact cohesive_single a
  · exact List.isChain_singleton _

/-- An accepted element joins the last run. -/
theorem join (h : Segments accepts rejects stream (runs ++ [r])) (hLast : accepts r.last a)
    (hFirst : accepts r.first a) :
    Segments accepts rejects (stream ++ [a]) (runs ++ [r.extend a]) := by
  constructor
  · rw [← h.flatten]
    simp [List.flatMap_append]
  · intro s hs
    rcases List.mem_append.1 hs with hs | hs
    · exact h.cohesive s (List.mem_append_left _ hs)
    · rw [List.mem_singleton] at hs
      subst hs
      exact (h.cohesive r (by simp)).extend hLast hFirst
  · -- The cut before a run only looks at the run's first member.
    have hCut := h.cut
    rw [List.isChain_append] at hCut ⊢
    refine ⟨hCut.1, List.isChain_singleton _, ?_⟩
    intro x hx y hy
    rw [List.head?_singleton, Option.mem_some_iff] at hy
    subst hy
    exact hCut.2.2 x hx r rfl

/-- A rejected element opens a run of its own. -/
theorem open_next (h : Segments accepts rejects stream (runs ++ [r]))
    (hReject : rejects r.last a ∨ rejects r.first a) :
    Segments accepts rejects (stream ++ [a]) (runs ++ [r] ++ [Run.single a]) := by
  constructor
  · rw [← h.flatten]
    simp [List.flatMap_append]
  · intro s hs
    rcases List.mem_append.1 hs with hs | hs
    · exact h.cohesive s hs
    · rw [List.mem_singleton] at hs
      subst hs
      exact cohesive_single a
  · rw [List.isChain_append]
    refine ⟨h.cut, List.isChain_singleton _, ?_⟩
    intro x hx y hy
    rw [List.head?_singleton, Option.mem_some_iff] at hy
    subst hy
    rw [List.getLast?_concat, Option.mem_some_iff] at hx
    subst hx
    exact hReject

end Segments

end FrameScope.Verified.Segmentation
