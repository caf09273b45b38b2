import Mathlib

/-!
# Compact JSON text

The bytes of strings, numbers, booleans and objects in compact JSON, and two
facts about where bytes of such a text can be found.

*Nesting.*  A scan that follows strings and counts braces returns to its depth
after a value and never goes below it, so the text of an object is not a proper
initial part of the text of another.

*Openings.*  The bytes that open an object whose first key starts with a given
letter occur only where such an object is opened, never inside a string.
-/

namespace FrameScope.Verified.JsonText

/-- The bytes of a string. -/
def utf8 (s : String) : List UInt8 := s.toUTF8.data.toList

/-! ## Values -/

/-- A digit of an escape, in lower case. -/
def hexByte (n : UInt8) : UInt8 := if n < 10 then 48 + n else 87 + n

/-- A byte of a string: quotes, backslashes and control bytes are escaped. -/
def escapeByte (b : UInt8) : List UInt8 :=
  if b = 34 then [92, 34]
  else if b = 92 then [92, 92]
  else if b = 8 then [92, 98]
  else if b = 9 then [92, 116]
  else if b = 10 then [92, 110]
  else if b = 12 then [92, 102]
  else if b = 13 then [92, 114]
  else if b < 32 then [92, 117, 48, 48, hexByte (b / 16), hexByte (b % 16)]
  else [b]

def escaped (s : List UInt8) : List UInt8 := s.flatMap escapeByte

/-- A string between its quotes. -/
def stringText (s : List UInt8) : List UInt8 := 34 :: (escaped s ++ [34])

def natText (n : Nat) : List UInt8 := (Nat.toDigits 10 n).map fun c => UInt8.ofNat c.toNat

def intText (i : Int) : List UInt8 :=
  if i < 0 then 45 :: natText i.natAbs else natText i.natAbs

def boolText (b : Bool) : List UInt8 := utf8 (if b then "true" else "false")

/-- A key with its value. -/
def member (key : String) (value : List UInt8) : List UInt8 :=
  stringText (utf8 key) ++ 58 :: value

/-- A member that is left out when there is no value. -/
def memberIf (key : String) (value : Option (List UInt8)) : List (List UInt8) :=
  (value.map (member key)).toList

/-- The members of an object after the first, with their commas. -/
def moreMembers (members : List (List UInt8)) : List UInt8 := members.flatMap (44 :: ·)

/-- An object with at least one member. -/
def objectText (first : List UInt8) (rest : List (List UInt8)) : List UInt8 :=
  123 :: (first ++ moreMembers rest ++ [125])

/-- A hexadecimal digit needs no escape and opens nothing. -/
theorem hexByte_content {n : UInt8} (h : n.toNat < 16) :
    hexByte n ≠ 34 ∧ hexByte n ≠ 92 ∧ hexByte n ≠ 123 := by
  have hAll : ∀ k : Fin 16, hexByte (UInt8.ofNat k) ≠ 34 ∧ hexByte (UInt8.ofNat k) ≠ 92 ∧
      hexByte (UInt8.ofNat k) ≠ 123 := by decide
  have hOne := hAll ⟨n.toNat, h⟩
  rwa [UInt8.ofNat_toNat] at hOne

/-- A byte stands for itself, or is a backslash and bytes that neither end the
string nor open anything. -/
theorem escapeByte_cases (b : UInt8) :
    (escapeByte b = [b] ∧ b ≠ 34 ∧ b ≠ 92) ∨
    ∃ c rest, escapeByte b = 92 :: c :: rest ∧ c ≠ 123 ∧
      ∀ x ∈ rest, x ≠ 34 ∧ x ≠ 92 ∧ x ≠ 123 := by
  have hNone : ∀ x ∈ ([] : List UInt8), x ≠ 34 ∧ x ≠ 92 ∧ x ≠ 123 := by
    intro x hx
    cases hx
  unfold escapeByte
  split_ifs with hQuote hSlash
  · exact .inr ⟨34, [], rfl, by decide, hNone⟩
  · exact .inr ⟨92, [], rfl, by decide, hNone⟩
  · exact .inr ⟨98, [], rfl, by decide, hNone⟩
  · exact .inr ⟨116, [], rfl, by decide, hNone⟩
  · exact .inr ⟨110, [], rfl, by decide, hNone⟩
  · exact .inr ⟨102, [], rfl, by decide, hNone⟩
  · exact .inr ⟨114, [], rfl, by decide, hNone⟩
  · refine .inr ⟨117, [48, 48, hexByte (b / 16), hexByte (b % 16)], rfl, by decide, ?_⟩
    have hHigh : (b / 16).toNat < 16 := by
      have hByte := b.toNat_lt
      rw [UInt8.toNat_div]
      show b.toNat / 16 < 16
      omega
    have hLow : (b % 16).toNat < 16 := by
      rw [UInt8.toNat_mod]
      exact Nat.mod_lt _ (by decide)
    intro x hx
    simp only [List.mem_cons, List.not_mem_nil, or_false] at hx
    rcases hx with rfl | rfl | rfl | rfl
    · decide
    · decide
    · exact hexByte_content hHigh
    · exact hexByte_content hLow
  · exact .inl ⟨rfl, hQuote, hSlash⟩

/-! ## Nesting -/

inductive Mode where
  | plain
  | quoted
  | escape
  deriving DecidableEq, Repr

/-- How many braces are open, and whether the next byte is in a string. -/
structure Scan where
  depth : Nat
  mode : Mode
  deriving DecidableEq, Repr

def Scan.step (s : Scan) (b : UInt8) : Scan :=
  match s.mode with
  | .plain =>
      if b = 34 then { s with mode := .quoted }
      else if b = 123 then { s with depth := s.depth + 1 }
      else if b = 125 then { s with depth := s.depth - 1 }
      else s
  | .quoted =>
      if b = 92 then { s with mode := .escape }
      else if b = 34 then { s with mode := .plain }
      else s
  | .escape => { s with mode := .quoted }

/-- The scan of `x` from `s`. -/
def Scan.over (s : Scan) (x : List UInt8) : Scan := x.foldl Scan.step s

/-- No brace is closed that was not opened, and one stays open. -/
def Scan.inside (s : Scan) : List UInt8 → Bool
  | [] => true
  | b :: x => decide (1 ≤ (s.step b).depth) && (s.step b).inside x

theorem Scan.over_append (s : Scan) (x y : List UInt8) :
    s.over (x ++ y) = (s.over x).over y := List.foldl_append

theorem Scan.inside_append (s : Scan) (x y : List UInt8) :
    s.inside (x ++ y) = (s.inside x && (s.over x).inside y) := by
  induction x generalizing s with
  | nil => simp [Scan.inside, Scan.over]
  | cons b x ih =>
      show (decide _ && (s.step b).inside (x ++ y)) = _
      rw [ih, ← Bool.and_assoc]
      rfl

/-- A scan comes back to where it was, and stays inside on the way. -/
structure Level (x : List UInt8) : Prop where
  back : ∀ d, Scan.over ⟨d + 1, .plain⟩ x = ⟨d + 1, .plain⟩
  inside : ∀ d, Scan.inside ⟨d + 1, .plain⟩ x = true

theorem Level.append {x y : List UInt8} (hX : Level x) (hY : Level y) : Level (x ++ y) := by
  constructor
  · intro d
    rw [Scan.over_append, hX.back, hY.back]
  · intro d
    rw [Scan.inside_append, hX.inside, hX.back, hY.inside, Bool.and_self]

theorem Level.nil : Level [] := ⟨fun _ => rfl, fun _ => rfl⟩

/-- Bytes outside strings that are neither quotes nor braces. -/
theorem Level.of_plain {x : List UInt8} (h : ∀ b ∈ x, b ≠ 34 ∧ b ≠ 123 ∧ b ≠ 125) : Level x := by
  have hStep : ∀ d, ∀ b ∈ x, Scan.step ⟨d + 1, .plain⟩ b = ⟨d + 1, .plain⟩ := by
    intro d b hb
    obtain ⟨hQuote, hOpen, hClose⟩ := h b hb
    simp [Scan.step, hQuote, hOpen, hClose]
  clear h
  induction x with
  | nil => exact Level.nil
  | cons b x ih =>
      obtain ⟨hBack, hInside⟩ := ih fun d c hc => hStep d c (List.mem_cons_of_mem b hc)
      have hHead := fun d => hStep d b (List.mem_cons_self ..)
      constructor
      · intro d
        show Scan.over (Scan.step ⟨d + 1, .plain⟩ b) x = _
        rw [hHead, hBack]
      · intro d
        show (decide _ && Scan.inside (Scan.step ⟨d + 1, .plain⟩ b) x) = _
        rw [hHead, hInside]
        simp

theorem Scan.over_content {d : Nat} {x : List UInt8} (h : ∀ b ∈ x, b ≠ 34 ∧ b ≠ 92) :
    Scan.over ⟨d + 1, .quoted⟩ x = ⟨d + 1, .quoted⟩ ∧
      Scan.inside ⟨d + 1, .quoted⟩ x = true := by
  induction x with
  | nil => exact ⟨rfl, rfl⟩
  | cons b x ih =>
      obtain ⟨hBack, hInside⟩ := ih fun c hc => h c (List.mem_cons_of_mem b hc)
      obtain ⟨hQuote, hSlash⟩ := h b (List.mem_cons_self ..)
      have hStep : Scan.step ⟨d + 1, .quoted⟩ b = ⟨d + 1, .quoted⟩ := by
        simp [Scan.step, hQuote, hSlash]
      constructor
      · show Scan.over (Scan.step ⟨d + 1, .quoted⟩ b) x = _
        rw [hStep, hBack]
      · show (decide _ && Scan.inside (Scan.step ⟨d + 1, .quoted⟩ b) x) = _
        rw [hStep, hInside]
        simp

/-- Inside a string the escaped bytes leave the scan as it was. -/
theorem escaped_quoted (d : Nat) (s : List UInt8) :
    Scan.over ⟨d + 1, .quoted⟩ (escaped s) = ⟨d + 1, .quoted⟩ ∧
      Scan.inside ⟨d + 1, .quoted⟩ (escaped s) = true := by
  induction s with
  | nil => exact ⟨rfl, rfl⟩
  | cons b s ih =>
      have hByte : Scan.over ⟨d + 1, .quoted⟩ (escapeByte b) = ⟨d + 1, .quoted⟩ ∧
          Scan.inside ⟨d + 1, .quoted⟩ (escapeByte b) = true := by
        rcases escapeByte_cases b with ⟨hSelf, hQuote, hSlash⟩ | ⟨c, rest, hEscape, -, hRest⟩
        · rw [hSelf]
          apply Scan.over_content
          intro x hx
          rw [List.mem_singleton.1 hx]
          exact ⟨hQuote, hSlash⟩
        · obtain ⟨hBack, hInside⟩ :=
            Scan.over_content (d := d) fun x hx => ⟨(hRest x hx).1, (hRest x hx).2.1⟩
          rw [hEscape]
          constructor
          · exact hBack
          · show (decide _ && (decide _ && Scan.inside ⟨d + 1, .quoted⟩ rest)) = true
            rw [hInside]
            simp [Scan.step]
      show Scan.over _ (escapeByte b ++ escaped s) = _ ∧
        Scan.inside _ (escapeByte b ++ escaped s) = true
      rw [Scan.over_append, Scan.inside_append, hByte.1, hByte.2]
      exact ⟨ih.1, by rw [ih.2, Bool.and_self]⟩

theorem level_stringText (s : List UInt8) : Level (stringText s) := by
  unfold stringText
  constructor
  · intro d
    show Scan.over ⟨d + 1, .quoted⟩ (escaped s ++ [34]) = _
    rw [Scan.over_append, (escaped_quoted d s).1]
    rfl
  · intro d
    show (decide _ && Scan.inside ⟨d + 1, .quoted⟩ (escaped s ++ [34])) = true
    rw [Scan.inside_append, (escaped_quoted d s).1, (escaped_quoted d s).2]
    simp [Scan.step, Scan.inside]

theorem level_member (key : String) {value : List UInt8} (h : Level value) :
    Level (member key value) := by
  have hColon : Level [58] := Level.of_plain (by simp)
  exact (level_stringText _).append (hColon.append h)

theorem level_moreMembers {members : List (List UInt8)} (h : ∀ m ∈ members, Level m) :
    Level (moreMembers members) := by
  have hComma : Level [44] := Level.of_plain (by simp)
  induction members with
  | nil => exact Level.nil
  | cons m members ih =>
      have hRest := ih fun x hx => h x (List.mem_cons_of_mem m hx)
      exact (hComma.append (h m (List.mem_cons_self ..))).append hRest

/-- The text of an object, around members that keep the level. -/
theorem level_objectText {first : List UInt8} {rest : List (List UInt8)} (hFirst : Level first)
    (hRest : ∀ m ∈ rest, Level m) : Level (objectText first rest) := by
  have hBody := hFirst.append (level_moreMembers hRest)
  unfold objectText
  constructor
  · intro d
    show Scan.over ⟨d + 1 + 1, .plain⟩ (first ++ moreMembers rest ++ [125]) = _
    rw [Scan.over_append, hBody.back]
    rfl
  · intro d
    show (decide _ && Scan.inside ⟨d + 1 + 1, .plain⟩ (first ++ moreMembers rest ++ [125])) = true
    rw [Scan.inside_append, hBody.back, hBody.inside]
    simp [Scan.step, Scan.inside]

/-- The text of an object is not a proper initial part of the text of another:
within the other, an object is still open. -/
theorem objectText_prefix {first first' : List UInt8} {rest rest' : List (List UInt8)}
    (hFirst : Level first) (hRest : ∀ m ∈ rest, Level m) (hFirst' : Level first')
    (hRest' : ∀ m ∈ rest', Level m)
    (h : objectText first rest <+: objectText first' rest') :
    objectText first rest = objectText first' rest' := by
  have hBody := hFirst.append (level_moreMembers hRest)
  have hBody' := hFirst'.append (level_moreMembers hRest')
  by_contra hNe
  unfold objectText at h hNe
  rw [List.cons_prefix_cons] at h
  have hNe' : first ++ moreMembers rest ++ [125] ≠ first' ++ moreMembers rest' ++ [125] := by
    intro hEq
    exact hNe (by rw [hEq])
  -- A proper initial part stops before the last brace.
  have hShort : first ++ moreMembers rest ++ [125] <+: first' ++ moreMembers rest' := by
    rcases List.prefix_concat_iff.1 h.2 with hEq | hShort
    · exact absurd hEq hNe'
    · exact hShort
  obtain ⟨tail, hTail⟩ := hShort
  have hInside := hBody'.inside 0
  rw [← hTail, Scan.inside_append, Scan.inside_append, hBody.back] at hInside
  simp [Scan.step, Scan.inside] at hInside

/-! ## Plain values -/

theorem natText_digit {n : Nat} {b : UInt8} (h : b ∈ natText n) :
    48 ≤ b.toNat ∧ b.toNat ≤ 57 := by
  unfold natText at h
  obtain ⟨c, hc, rfl⟩ := List.mem_map.1 h
  have hDigit := Nat.isDigit_of_mem_toDigits (by decide) (by decide) hc
  rw [Char.isDigit_iff_toNat] at hDigit
  have hZero : '0'.toNat = 48 := rfl
  have hNine : '9'.toNat = 57 := rfl
  rw [UInt8.toNat_ofNat']
  omega

def digitBytes : List UInt8 := [48, 49, 50, 51, 52, 53, 54, 55, 56, 57]

theorem natText_mem {n : Nat} {b : UInt8} (h : b ∈ natText n) : b ∈ digitBytes := by
  have hAll : ∀ k : Fin 10, UInt8.ofNat (48 + k) ∈ digitBytes := by decide
  have hDigit := natText_digit h
  have hOne := hAll ⟨b.toNat - 48, by omega⟩
  rwa [show 48 + (b.toNat - 48) = b.toNat by omega, UInt8.ofNat_toNat] at hOne

/-- The bytes of numbers and booleans: a sign, a digit, or a letter of `true`
and `false`. -/
def scalarBytes : List UInt8 := 45 :: digitBytes ++ [97, 101, 102, 108, 114, 115, 116, 117]

theorem intText_scalar (i : Int) : ∀ b ∈ intText i, b ∈ scalarBytes := by
  have hDigits : ∀ n, ∀ b ∈ natText n, b ∈ scalarBytes := by
    intro n b hb
    have hMem := natText_mem hb
    unfold scalarBytes
    simp [hMem]
  unfold intText
  split
  · intro b hb
    rcases List.mem_cons.1 hb with rfl | hb
    · decide
    · exact hDigits _ b hb
  · exact hDigits _

theorem boolText_eq (v : Bool) :
    boolText v = if v then [116, 114, 117, 101] else [102, 97, 108, 115, 101] := by
  cases v with
  | false => rfl
  | true => rfl

theorem boolText_scalar (v : Bool) : ∀ b ∈ boolText v, b ∈ scalarBytes := by
  rw [boolText_eq]
  cases v <;> simp [scalarBytes]

theorem level_scalar {x : List UInt8} (h : ∀ b ∈ x, b ∈ scalarBytes) : Level x := by
  have hAll : ∀ b ∈ scalarBytes, b ≠ 34 ∧ b ≠ 123 ∧ b ≠ 125 := by simp [scalarBytes, digitBytes]
  exact Level.of_plain fun b hb => hAll b (h b hb)

/-! ## Openings -/

/-- No object whose first key starts with `c` is opened in `x`, whatever comes
after `x`, as long as that does not start with `c` itself. -/
structure Clear (c : UInt8) (x : List UInt8) : Prop where
  head : x.head? ≠ some c
  unopened : ∀ y : List UInt8, y.head? ≠ some c →
    ∀ p < x.length, ¬ [123, 34, c] <+: (x ++ y).drop p

section Openings

variable {c : UInt8} {x y : List UInt8}

theorem Clear.nil : Clear c [] := by
  constructor
  · simp
  · intro y _ p hp
    cases hp

theorem Clear.append (hX : Clear c x) (hY : Clear c y) : Clear c (x ++ y) := by
  have hHead : ∀ z : List UInt8, z.head? ≠ some c → (y ++ z).head? ≠ some c := by
    intro z hz
    cases y with
    | nil => exact hz
    | cons b y => exact hY.head
  constructor
  · cases x with
    | nil => exact hY.head
    | cons b x => exact hX.head
  · intro z hz p hp
    rw [List.append_assoc]
    by_cases hIn : p < x.length
    · exact hX.unopened (y ++ z) (hHead z hz) p hIn
    · rw [List.length_append] at hp
      rw [List.drop_append, List.drop_eq_nil_of_le (by omega), List.nil_append]
      exact hY.unopened z hz _ (by omega)

/-- An opening starts with a brace. -/
theorem brace_of_opens {p : Nat} (hp : p < x.length)
    (h : [123, 34, c] <+: (x ++ y).drop p) : x[p] = 123 := by
  rw [List.drop_append_of_le_length (Nat.le_of_lt hp), List.drop_eq_getElem_cons hp,
    List.cons_append, List.cons_prefix_cons] at h
  exact h.1.symm

theorem Clear.of_unopened (hHead : x.head? ≠ some c) (hNone : 123 ∉ x) : Clear c x := by
  constructor
  · exact hHead
  · intro y _ p hp hOpens
    have hMem : x[p] ∈ x := List.getElem_mem hp
    rw [brace_of_opens hp hOpens] at hMem
    exact hNone hMem

/-- A string that follows an escaped byte does not close at once, unless it is
over. -/
theorem quote_after {s z : List UInt8} (h : [34, c] <+: escaped s ++ 34 :: z) :
    s = [] ∧ z.head? = some c := by
  cases s with
  | nil =>
      refine ⟨rfl, ?_⟩
      obtain ⟨rest, hRest⟩ := h
      simp only [escaped, List.flatMap_nil, List.nil_append, List.cons_append,
        List.cons.injEq, true_and] at hRest
      rw [← hRest]
      rfl
  | cons b s =>
      exfalso
      have hFirst : escaped (b :: s) = escapeByte b ++ escaped s := rfl
      rw [hFirst] at h
      rcases escapeByte_cases b with ⟨hSelf, hQuote, -⟩ | ⟨d, rest, hEscape, -, -⟩
      · rw [hSelf, List.singleton_append, List.cons_append, List.cons_prefix_cons] at h
        exact hQuote h.1.symm
      · rw [hEscape, List.cons_append, List.cons_append, List.cons_prefix_cons] at h
        exact absurd h.1 (by decide)

/-- Nothing is opened inside a string. -/
theorem escaped_unopened (s z : List UInt8) (hz : z.head? ≠ some c) :
    ∀ p < (escaped s).length, ¬ [123, 34, c] <+: (escaped s ++ 34 :: z).drop p := by
  induction s with
  | nil =>
      intro p hp
      cases hp
  | cons b s ih =>
      have hFirst : escaped (b :: s) = escapeByte b ++ escaped s := rfl
      intro p hp hOpens
      rw [hFirst, List.append_assoc] at hOpens
      rw [hFirst, List.length_append] at hp
      by_cases hIn : p < (escapeByte b).length
      · have hBrace := brace_of_opens hIn hOpens
        rcases escapeByte_cases b with ⟨hSelf, -, -⟩ | ⟨d, rest, hEscape, hd, hRest⟩
        · simp only [hSelf, List.length_singleton, Nat.lt_one_iff] at hIn
          rw [hIn, List.drop_zero, hSelf, List.singleton_append, List.cons_prefix_cons] at hOpens
          exact hz (quote_after hOpens.2).2
        · have hMem : (123 : UInt8) ∈ escapeByte b := by
            rw [← hBrace]
            exact List.getElem_mem hIn
          rw [hEscape] at hMem
          rcases List.mem_cons.1 hMem with hSlash | hMem
          · exact absurd hSlash (by decide)
          · rcases List.mem_cons.1 hMem with hSame | hMem
            · exact hd hSame.symm
            · exact (hRest 123 hMem).2.2 rfl
      · rw [List.drop_append, List.drop_eq_nil_of_le (by omega), List.nil_append] at hOpens
        exact ih _ (by omega) hOpens

theorem clear_stringText (hc : c ≠ 34) (s : List UInt8) : Clear c (stringText s) := by
  unfold stringText
  constructor
  · intro hHead
    cases hHead
    exact hc rfl
  · intro z hz p hp hOpens
    have hAll : 34 :: (escaped s ++ [34]) ++ z = 34 :: (escaped s ++ 34 :: z) := by simp
    rw [hAll] at hOpens
    cases p with
    | zero =>
        rw [List.drop_zero, List.cons_prefix_cons] at hOpens
        exact absurd hOpens.1 (by decide)
    | succ p =>
        rw [List.drop_succ_cons] at hOpens
        rw [List.length_cons, List.length_append, List.length_singleton] at hp
        by_cases hIn : p < (escaped s).length
        · exact escaped_unopened s z hz p hIn hOpens
        · have hLast : p = (escaped s).length := by omega
          rw [hLast, List.drop_left, List.cons_prefix_cons] at hOpens
          exact absurd hOpens.1 (by decide)

/-- The bytes that punctuation, strings, numbers and booleans start with. -/
def valueStarts : List UInt8 := [34, 44, 45, 58, 102, 116, 123, 125] ++ digitBytes

variable (hc : c ∉ valueStarts)

include hc

theorem Clear.of_start (hStart : ∀ b ∈ x.head?, b ∈ valueStarts) (hNone : 123 ∉ x) :
    Clear c x :=
  Clear.of_unopened (fun hHead => hc (hStart c hHead)) hNone

theorem clear_intText (i : Int) : Clear c (intText i) := by
  have hNatStart : ∀ n, ∀ b ∈ (natText n).head?, b ∈ valueStarts := by
    intro n b hb
    have hMem := natText_mem (List.mem_of_mem_head? hb)
    unfold valueStarts
    exact List.mem_append_right _ hMem
  apply Clear.of_start hc
  · unfold intText
    split
    · intro b hb
      cases hb
      decide
    · exact hNatStart _
  · intro hMem
    have hScalar := intText_scalar i 123 hMem
    exact absurd hScalar (by decide)

theorem clear_boolText (v : Bool) : Clear c (boolText v) := by
  apply Clear.of_start hc
  · rw [boolText_eq]
    cases v <;> simp [valueStarts]
  · intro hMem
    have hScalar := boolText_scalar v 123 hMem
    exact absurd hScalar (by decide)

theorem clear_string (s : List UInt8) : Clear c (stringText s) := by
  apply clear_stringText
  rintro rfl
  exact hc (by decide)

theorem clear_punctuation {b : UInt8} (hStart : b ∈ valueStarts) (hBrace : b ≠ 123) :
    Clear c [b] := by
  apply Clear.of_start hc
  · intro d hd
    cases hd
    exact hStart
  · simpa using hBrace.symm

theorem clear_member (key : String) {value : List UInt8} (h : Clear c value) :
    Clear c (member key value) := by
  have hColon : Clear c [58] := clear_punctuation hc (by decide) (by decide)
  exact (clear_string hc _).append (hColon.append h)

theorem clear_moreMembers {members : List (List UInt8)} (h : ∀ m ∈ members, Clear c m) :
    Clear c (moreMembers members) := by
  have hComma : Clear c [44] := clear_punctuation hc (by decide) (by decide)
  induction members with
  | nil => exact Clear.nil
  | cons m members ih =>
      have hRest := ih fun x hx => h x (List.mem_cons_of_mem m hx)
      exact (hComma.append (h m (List.mem_cons_self ..))).append hRest

/-- What follows the brace of an object. -/
theorem clear_body {first : List UInt8} {rest : List (List UInt8)} (hFirst : Clear c first)
    (hRest : ∀ m ∈ rest, Clear c m) : Clear c (first ++ moreMembers rest ++ [125]) := by
  have hClose : Clear c [125] := clear_punctuation hc (by decide) (by decide)
  exact (hFirst.append (clear_moreMembers hc hRest)).append hClose

/-- The text of an object whose first key starts with another letter. -/
theorem clear_objectText {key : String} {value : List UInt8} {rest : List (List UInt8)}
    (hKey : (escaped (utf8 key) ++ [34]).head? ≠ some c) (hFirst : Clear c (member key value))
    (hRest : ∀ m ∈ rest, Clear c m) : Clear c (objectText (member key value) rest) := by
  have hBody := clear_body hc hFirst hRest
  constructor
  · intro hHead
    cases hHead
    exact hc (by decide)
  · intro y hy p hp hOpens
    unfold objectText at hp hOpens
    rw [List.cons_append] at hOpens
    cases p with
    | zero =>
        rw [List.drop_zero, List.cons_prefix_cons] at hOpens
        obtain ⟨-, hOpens⟩ := hOpens
        have hStart : member key value ++ moreMembers rest ++ [125] ++ y =
            34 :: ((escaped (utf8 key) ++ [34]) ++ (58 :: value ++ moreMembers rest ++ [125] ++ y)) := by
          simp [member, stringText]
        rw [hStart, List.cons_prefix_cons] at hOpens
        have hSome : escaped (utf8 key) ++ [34] ≠ [] := by simp
        obtain ⟨b, bs, hCons⟩ := List.exists_cons_of_ne_nil hSome
        rw [hCons] at hOpens hKey
        rw [List.cons_append, List.cons_prefix_cons] at hOpens
        apply hKey
        rw [List.head?_cons, hOpens.2.1]
    | succ p =>
        rw [List.drop_succ_cons] at hOpens
        rw [List.length_cons] at hp
        exact hBody.unopened y hy p (by omega) hOpens

/-- Where the members of an object open nothing of the kind, only the object
itself can be such an opening. -/
theorem objectText_opens_once {first : List UInt8} {rest : List (List UInt8)}
    (hFirst : Clear c first) (hRest : ∀ m ∈ rest, Clear c m) {p : Nat} (hp : 0 < p) :
    ¬ [123, 34, c] <+: (objectText first rest).drop p := by
  have hBody := clear_body hc hFirst hRest
  intro hOpens
  unfold objectText at hOpens
  obtain ⟨q, rfl⟩ : ∃ q, p = q + 1 := ⟨p - 1, by omega⟩
  rw [List.drop_succ_cons] at hOpens
  by_cases hIn : q < (first ++ moreMembers rest ++ [125]).length
  · have hNone := hBody.unopened [] (by simp) q hIn
    rw [List.append_nil] at hNone
    exact hNone hOpens
  · rw [List.drop_eq_nil_of_le (by omega)] at hOpens
    simpa using List.eq_nil_of_prefix_nil hOpens

end Openings

/-! ## Values of either kind -/

/-- The text of a value or of a member. -/
structure Value (c : UInt8) (x : List UInt8) : Prop where
  level : Level x
  clear : Clear c x

section Values

variable {c : UInt8} (hc : c ∉ valueStarts)

include hc

theorem value_string (s : List UInt8) : Value c (stringText s) :=
  ⟨level_stringText s, clear_string hc s⟩

theorem value_int (i : Int) : Value c (intText i) :=
  ⟨level_scalar (intText_scalar i), clear_intText hc i⟩

theorem value_bool (v : Bool) : Value c (boolText v) :=
  ⟨level_scalar (boolText_scalar v), clear_boolText hc v⟩

theorem value_member (key : String) {x : List UInt8} (h : Value c x) : Value c (member key x) :=
  ⟨level_member key h.level, clear_member hc key h.clear⟩

theorem value_memberIf {key : String} {x : Option (List UInt8)} (h : ∀ v ∈ x, Value c v) :
    ∀ m ∈ memberIf key x, Value c m := by
  intro m hm
  unfold memberIf at hm
  rw [Option.mem_toList, Option.map_eq_some_iff] at hm
  obtain ⟨v, hv, rfl⟩ := hm
  exact value_member hc key (h v hv)

theorem value_objectText {key : String} {x : List UInt8} {rest : List (List UInt8)}
    (hKey : (escaped (utf8 key) ++ [34]).head? ≠ some c) (hFirst : Value c x)
    (hRest : ∀ m ∈ rest, Value c m) : Value c (objectText (member key x) rest) := by
  have hMember := value_member hc key hFirst
  constructor
  · exact level_objectText hMember.level fun m hm => (hRest m hm).level
  · exact clear_objectText hc hKey hMember.clear fun m hm => (hRest m hm).clear

end Values

end FrameScope.Verified.JsonText
