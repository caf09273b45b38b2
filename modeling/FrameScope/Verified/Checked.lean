import Mathlib

/-!
# Checked arithmetic

A computation over machine integers of given widths, and over buffers of given
lengths, as a program of `Option`: it stops with `none` where an operation
would overflow, divide by zero or read outside of a buffer.  A program that is
shown equal to `some` of a value over the natural numbers does none of these.

One rule for each operation turns it into its value; `bind_of` puts the rules
of a program together in its order, and `collect` and `accumulate` are its
loops.
-/

namespace FrameScope.Verified.Checked

variable {α β : Type}

/-- A value of an unsigned integer of `bits` bits. -/
def fit (bits value : Nat) : Option Nat := if value < 2 ^ bits then some value else none

def add (bits a b : Nat) : Option Nat := fit bits (a + b)

def mul (bits a b : Nat) : Option Nat := fit bits (a * b)

def sub (a b : Nat) : Option Nat := if b ≤ a then some (a - b) else none

/-- A value of a signed integer of `bits` bits. -/
def fitInt (bits : Nat) (value : Int) : Option Int :=
  if -2 ^ (bits - 1) ≤ value ∧ value < 2 ^ (bits - 1) then some value else none

def div (a b : Nat) : Option Nat := if b = 0 then none else some (a / b)

/-- `&xs[start..stop]`. -/
def slice (xs : List α) (start stop : Nat) : Option (List α) :=
  if start ≤ stop ∧ stop ≤ xs.length then some ((xs.drop start).take (stop - start)) else none

/-- Stop unless the condition holds. -/
def demand (p : Prop) [Decidable p] : Option Unit := if p then some () else none

section Operations

variable {bits a b : Nat}

theorem fit_of (h : a < 2 ^ bits) : fit bits a = some a := if_pos h

theorem add_of (h : a + b < 2 ^ bits) : add bits a b = some (a + b) := if_pos h

theorem mul_of (h : a * b < 2 ^ bits) : mul bits a b = some (a * b) := if_pos h

theorem sub_of (h : b ≤ a) : sub a b = some (a - b) := if_pos h

theorem fitInt_of {value : Int} (h : -2 ^ (bits - 1) ≤ value) (h' : value < 2 ^ (bits - 1)) :
    fitInt bits value = some value := if_pos ⟨h, h'⟩

theorem div_of (h : 0 < b) : div a b = some (a / b) := if_neg (by omega)

theorem slice_of {xs : List α} {start stop : Nat} (h : start ≤ stop) (hStop : stop ≤ xs.length) :
    slice xs start stop = some ((xs.drop start).take (stop - start)) := if_pos ⟨h, hStop⟩

theorem demand_of {p : Prop} [Decidable p] (h : p) : demand p = some () := if_pos h

/-- The rule for one step of a program. -/
theorem bind_of {x : Option α} {f : α → Option β} {v : α} {w : β} (h : x = some v)
    (hNext : f v = some w) : (x >>= f) = some w := by
  rw [h]
  exact hNext

end Operations

/-! ## Loops -/

/-- The values that a loop computes, one for each item. -/
def collect (f : α → Option β) : List α → Option (List β)
  | [] => some []
  | x :: rest => do
      let y ← f x
      let ys ← collect f rest
      some (y :: ys)

theorem collect_of {f : α → Option β} {g : α → β} {items : List α}
    (h : ∀ x ∈ items, f x = some (g x)) : collect f items = some (items.map g) := by
  induction items with
  | nil => rfl
  | cons x rest ih =>
      apply bind_of (h x List.mem_cons_self)
      exact bind_of (ih fun y hy => h y (List.mem_cons_of_mem x hy)) rfl

/-- Add up what a loop computes, in an integer of `bits` bits. -/
def accumulate (bits : Nat) (f : α → Option Nat) : Nat → List α → Option Nat
  | total, [] => some total
  | total, x :: rest => do
      let value ← f x
      let total ← add bits total value
      accumulate bits f total rest

theorem accumulate_of {bits : Nat} {f : α → Option Nat} {g : α → Nat} {items : List α}
    (h : ∀ x ∈ items, f x = some (g x)) :
    ∀ {total : Nat}, total + (items.map g).sum < 2 ^ bits →
      accumulate bits f total items = some (total + (items.map g).sum) := by
  induction items with
  | nil =>
      intro total _
      rfl
  | cons x rest ih =>
      intro total hTotal
      rw [List.map_cons, List.sum_cons] at hTotal ⊢
      apply bind_of (h x List.mem_cons_self)
      apply bind_of (add_of (by omega))
      rw [← Nat.add_assoc]
      exact ih (fun y hy => h y (List.mem_cons_of_mem x hy)) (by omega)

/-- A loop that carries a value on. -/
theorem foldlM_of {f : β → α → Option β} {g : β → α → β} {items : List α}
    (h : ∀ b, ∀ x ∈ items, f b x = some (g b x)) (start : β) :
    items.foldlM f start = some (items.foldl g start) := by
  induction items generalizing start with
  | nil => rfl
  | cons x rest ih =>
      rw [List.foldlM_cons]
      apply bind_of (h start x List.mem_cons_self)
      exact ih (fun b y hy => h b y (List.mem_cons_of_mem x hy)) _

/-- A sum of bounded terms. -/
theorem sum_map_le {items : List α} {g : α → Nat} {bound : Nat} (h : ∀ x ∈ items, g x ≤ bound) :
    (items.map g).sum ≤ items.length * bound := by
  have hSum := List.sum_le_card_nsmul (items.map g) bound (by simpa using h)
  rwa [List.length_map, smul_eq_mul] at hSum

end FrameScope.Verified.Checked
