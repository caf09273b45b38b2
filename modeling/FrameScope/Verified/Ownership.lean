import Mathlib

/-!
# Resources with one holder each

`holding` says which resource each holder has, if any.  Ownership is exact when
the live resources are those that someone holds and no two holders have the same
one.  It survives acquiring a new resource, handing one over, and releasing one,
and a holder that is alone has everything that is live.
-/

namespace FrameScope.Verified.Ownership

variable {κ ι : Type}

structure Owned (live : ι → Prop) (holding : κ → Option ι) : Prop where
  live_iff : ∀ id, live id ↔ ∃ holder, holding holder = some id
  single : ∀ a b id, holding a = some id → holding b = some id → a = b

variable {live live' : ι → Prop} {holding : κ → Option ι}

theorem Owned.congr (h : Owned live holding) (hLive : ∀ id, live' id ↔ live id) :
    Owned live' holding :=
  ⟨fun id => (hLive id).trans (h.live_iff id), h.single⟩

/-- Only one holder has anything: what is live is what it has. -/
theorem Owned.only (h : Owned live holding) (a : κ) (hNone : ∀ b, b ≠ a → holding b = none)
    (id : ι) : live id ↔ holding a = some id := by
  rw [h.live_iff]
  constructor
  · rintro ⟨b, hHeld⟩
    by_cases hb : b = a
    · rwa [hb] at hHeld
    · rw [hNone b hb] at hHeld
      cases hHeld
  · exact fun hHeld => ⟨a, hHeld⟩

variable [DecidableEq κ]

/-- Two holders trade what they have; one of them may have nothing. -/
theorem Owned.swap (h : Owned live holding) (a b : κ) :
    Owned live (holding ∘ Equiv.swap a b) := by
  constructor
  · intro id
    rw [h.live_iff]
    constructor
    · rintro ⟨holder, hHeld⟩
      exact ⟨Equiv.swap a b holder, by simpa using hHeld⟩
    · rintro ⟨holder, hHeld⟩
      exact ⟨_, hHeld⟩
  · intro x y id hx hy
    exact (Equiv.swap a b).injective (h.single _ _ id hx hy)

theorem Owned.acquire (h : Owned live holding) {a : κ} {id : ι} (hFree : holding a = none)
    (hNew : ¬ live id) (hLive : ∀ other, live' other ↔ live other ∨ other = id) :
    Owned live' (Function.update holding a (some id)) := by
  have hUnheld : ∀ b, holding b ≠ some id := fun b hHeld => hNew ((h.live_iff id).2 ⟨b, hHeld⟩)
  constructor
  · intro other
    rw [hLive, h.live_iff]
    constructor
    · rintro (⟨b, hHeld⟩ | rfl)
      · have hb : b ≠ a := fun hba => by rw [hba, hFree] at hHeld; cases hHeld
        exact ⟨b, by rwa [Function.update_of_ne hb]⟩
      · exact ⟨a, Function.update_self ..⟩
    · rintro ⟨b, hHeld⟩
      by_cases hb : b = a
      · rw [hb, Function.update_self] at hHeld
        exact .inr (Option.some.inj hHeld).symm
      · rw [Function.update_of_ne hb] at hHeld
        exact .inl ⟨b, hHeld⟩
  · intro x y other hx hy
    by_cases hxa : x = a <;> by_cases hya : y = a
    · rw [hxa, hya]
    · rw [hxa, Function.update_self] at hx
      rw [Function.update_of_ne hya, ← Option.some.inj hx] at hy
      exact absurd hy (hUnheld y)
    · rw [hya, Function.update_self] at hy
      rw [Function.update_of_ne hxa, ← Option.some.inj hy] at hx
      exact absurd hx (hUnheld x)
    · rw [Function.update_of_ne hxa] at hx
      rw [Function.update_of_ne hya] at hy
      exact h.single x y other hx hy

theorem Owned.release (h : Owned live holding) {a : κ} {id : ι} (hHeld : holding a = some id)
    (hLive : ∀ other, live' other ↔ live other ∧ other ≠ id) :
    Owned live' (Function.update holding a none) := by
  constructor
  · intro other
    rw [hLive, h.live_iff]
    constructor
    · rintro ⟨⟨b, hOther⟩, hNe⟩
      have hb : b ≠ a := fun hba => by
        rw [hba, hHeld] at hOther
        exact hNe (Option.some.inj hOther).symm
      exact ⟨b, by rwa [Function.update_of_ne hb]⟩
    · rintro ⟨b, hOther⟩
      have hb : b ≠ a := fun hba => by
        rw [hba, Function.update_self] at hOther
        cases hOther
      rw [Function.update_of_ne hb] at hOther
      refine ⟨⟨b, hOther⟩, fun hSame => hb ?_⟩
      exact h.single b a id (hSame ▸ hOther) hHeld
  · intro x y other hx hy
    have held_of : ∀ z, Function.update holding a none z = some other → holding z = some other := by
      intro z hz
      by_cases hza : z = a
      · rw [hza, Function.update_self] at hz
        cases hz
      · rwa [Function.update_of_ne hza] at hz
    exact h.single x y other (held_of x hx) (held_of y hy)

end FrameScope.Verified.Ownership
