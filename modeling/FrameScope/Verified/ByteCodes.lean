import Mathlib

/-!
# Numbers as bytes, and codes that delimit themselves

The first part has the bytes of a number in a field of a given width, in both
orders, and the number that bytes stand for.

The second part is about codes that can be read off the front of a longer text:
`Delimits D enc` says that a code word of `D` and the text after it are found
in one way only.  Fixed-width codes do, a tagged optional value does when its
value does, and so does text behind its length.  Codes that do may be written
one after another, and are injective.

Nothing here knows what is encoded.
-/

namespace FrameScope.Verified.ByteCodes

/-! ## Numbers -/

/-- The lowest `width` bytes of a number, lowest first. -/
def leBytes : Nat → Nat → List UInt8
  | 0, _ => []
  | width + 1, value => UInt8.ofNat value :: leBytes width (value / 256)

/-- The lowest `width` bytes of a number, highest first. -/
def beBytes (width value : Nat) : List UInt8 := (leBytes width value).reverse

/-- The number that bytes stand for, lowest byte first. -/
def leValue : List UInt8 → Nat
  | [] => 0
  | byte :: rest => byte.toNat + 256 * leValue rest

/-- The number that bytes stand for, highest byte first. -/
def beValue (bytes : List UInt8) : Nat := leValue bytes.reverse

section Numbers

variable {width value : Nat} {bytes : List UInt8}

@[simp] theorem leBytes_length (width value : Nat) : (leBytes width value).length = width := by
  induction width generalizing value with
  | zero => rfl
  | succ width ih => rw [leBytes, List.length_cons, ih]

@[simp] theorem beBytes_length (width value : Nat) : (beBytes width value).length = width := by
  rw [beBytes, List.length_reverse, leBytes_length]

theorem leValue_leBytes (h : value < 256 ^ width) : leValue (leBytes width value) = value := by
  induction width generalizing value with
  | zero =>
      rw [Nat.pow_zero] at h
      show 0 = value
      omega
  | succ width ih =>
      have hRest : value / 256 < 256 ^ width := by
        rw [Nat.pow_succ] at h
        exact Nat.div_lt_of_lt_mul (by rwa [Nat.mul_comm])
      show (UInt8.ofNat value).toNat + 256 * leValue (leBytes width (value / 256)) = value
      rw [ih hRest, UInt8.toNat_ofNat']
      exact Nat.mod_add_div value 256

theorem beValue_beBytes (h : value < 256 ^ width) : beValue (beBytes width value) = value := by
  rw [beValue, beBytes, List.reverse_reverse, leValue_leBytes h]

theorem leValue_lt (bytes : List UInt8) : leValue bytes < 256 ^ bytes.length := by
  induction bytes with
  | nil => simp [leValue]
  | cons byte rest ih =>
      have hByte := byte.toNat_lt
      rw [leValue, List.length_cons, Nat.pow_succ]
      omega

theorem beValue_lt (bytes : List UInt8) : beValue bytes < 256 ^ bytes.length := by
  have h := leValue_lt bytes.reverse
  rwa [List.length_reverse] at h

theorem leBytes_inj {other : Nat} (h : value < 256 ^ width) (hOther : other < 256 ^ width)
    (hSame : leBytes width value = leBytes width other) : value = other := by
  rw [← leValue_leBytes h, ← leValue_leBytes hOther, hSame]

end Numbers

/-! ## Codes that delimit themselves -/

section Codes

variable {α β τ : Type} {D : α → Prop} {enc : α → List τ}

/-- A code word of `D` is found in one way at the front of a text. -/
def Delimits (D : α → Prop) (enc : α → List τ) : Prop :=
  ∀ a b rest rest', D a → D b → enc a ++ rest = enc b ++ rest' → a = b ∧ rest = rest'

theorem Delimits.injective (h : Delimits D enc) {a b : α} (ha : D a) (hb : D b)
    (hSame : enc a = enc b) : a = b := by
  have hFront : enc a ++ [] = enc b ++ [] := by rw [hSame]
  exact (h a b [] [] ha hb hFront).1

/-- Code words of one length. -/
theorem delimits_fixed {width : Nat} (hLength : ∀ a, (enc a).length = width)
    (hInj : ∀ a b, D a → D b → enc a = enc b → a = b) : Delimits D enc := by
  intro a b rest rest' ha hb hSame
  have hParts := List.append_inj hSame ((hLength a).trans (hLength b).symm)
  exact ⟨hInj a b ha hb hParts.1, hParts.2⟩

theorem delimits_leBytes (width : Nat) :
    Delimits (fun value => value < 256 ^ width) (leBytes width) :=
  delimits_fixed (leBytes_length width) fun _ _ => leBytes_inj

/-- Two codes one after the other. -/
theorem Delimits.append {D' : β → Prop} {enc' : β → List τ} (h : Delimits D enc)
    (h' : Delimits D' enc') :
    Delimits (fun pair : α × β => D pair.1 ∧ D' pair.2) fun pair => enc pair.1 ++ enc' pair.2 := by
  intro a b rest rest' ha hb hSame
  rw [List.append_assoc, List.append_assoc] at hSame
  obtain ⟨hFirst, hRest⟩ := h _ _ _ _ ha.1 hb.1 hSame
  obtain ⟨hSecond, hRest⟩ := h' _ _ _ _ ha.2 hb.2 hRest
  exact ⟨Prod.ext hFirst hSecond, hRest⟩

/-- An optional value behind a tag that tells whether it is there. -/
theorem Delimits.option {absent present : τ} (h : Delimits D enc) (hTags : absent ≠ present) :
    Delimits (fun value : Option α => ∀ a ∈ value, D a)
      fun value => value.elim [absent] fun a => present :: enc a := by
  intro a b rest rest' ha hb hSame
  cases a with
  | none =>
      cases b with
      | none => exact ⟨rfl, by simpa using hSame⟩
      | some b => exact absurd (List.cons.inj hSame).1 hTags
  | some a =>
      cases b with
      | none => exact absurd (List.cons.inj hSame).1.symm hTags
      | some b =>
          obtain ⟨hValue, hRest⟩ :=
            h a b rest rest' (ha a rfl) (hb b rfl) (List.cons.inj hSame).2
          exact ⟨congrArg some hValue, hRest⟩

/-- Text behind its length. -/
theorem delimits_sized {D : Nat → Prop} {size : Nat → List τ} (h : Delimits D size) :
    Delimits (fun text : List τ => D text.length) fun text => size text.length ++ text := by
  intro a b rest rest' ha hb hSame
  rw [List.append_assoc, List.append_assoc] at hSame
  obtain ⟨hLength, hRest⟩ := h _ _ _ _ ha hb hSame
  exact List.append_inj hRest hLength

/-- A code of what a value is known by. -/
theorem Delimits.comap {D' : β → Prop} {f : β → α} (h : Delimits D enc)
    (hInto : ∀ b, D' b → D (f b)) (hInj : ∀ b b', f b = f b' → b = b') :
    Delimits D' fun b => enc (f b) := by
  intro a b rest rest' ha hb hSame
  obtain ⟨hValue, hRest⟩ := h _ _ _ _ (hInto a ha) (hInto b hb) hSame
  exact ⟨hInj a b hValue, hRest⟩

end Codes

end FrameScope.Verified.ByteCodes
