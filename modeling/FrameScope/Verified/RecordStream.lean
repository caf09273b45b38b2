import Mathlib

/-!
# Streams of records that may be torn

A writer appends records one after another, with separators between them; a
write that fails leaves an initial part of its record in the stream and the
next one goes on from there.  When every record starts with an opening that
occurs nowhere else in it, ends with a byte of its own and is not a proper
initial part of another, the records that can be read out of the bytes, at any
offset, are exactly those that were written whole.
-/

namespace FrameScope.Verified.RecordStream

/-- How records are laid out in bytes. -/
structure RecordFormat (ρ β : Type) where
  text : ρ → List β
  /-- The first byte of the opening, and the rest of it. -/
  head : β
  tail : List β
  last : β
  separator : β
  starts : ∀ r, head :: tail <+: text r
  ends : ∀ r, (text r).getLast? = some last
  once : ∀ r p, 0 < p → ¬ head :: tail <+: (text r).drop p
  closed : ∀ r s, text r <+: text s → text r = text s
  head_tail : head ∉ tail
  last_opening : last ∉ head :: tail
  separator_opening : separator ∉ head :: tail
  separator_last : separator ≠ last

variable {ρ β : Type} {F : RecordFormat ρ β}

/-- What one write leaves: a whole record, part of one, or a separator. -/
inductive RecordFormat.Leaves (F : RecordFormat ρ β) : Option ρ → List β → Prop
  | whole (r : ρ) : F.Leaves (some r) (F.text r)
  | torn {x : List β} (r : ρ) (hPart : x <+: F.text r) (hRest : x ≠ F.text r) : F.Leaves none x
  | separator : F.Leaves none [F.separator]

/-- The bytes of a stream. -/
def content (chunks : List (Option ρ × List β)) : List β := chunks.flatMap (·.2)

theorem content_append (xs ys : List (Option ρ × List β)) :
    content (xs ++ ys) = content xs ++ content ys := List.flatMap_append

/-- Every chunk was left by a write. -/
def RecordFormat.Stream (F : RecordFormat ρ β) (chunks : List (Option ρ × List β)) : Prop :=
  ∀ c ∈ chunks, F.Leaves c.1 c.2

theorem text_ne_nil (r : ρ) : F.text r ≠ [] := by
  intro hNil
  have hStarts := F.starts r
  rw [hNil] at hStarts
  simpa using List.eq_nil_of_prefix_nil hStarts

/-- A chunk is a separator or an initial part of a record. -/
theorem RecordFormat.Leaves.part {o : Option ρ} {x : List β} (h : F.Leaves o x) :
    x = [F.separator] ∨ ∃ r, x <+: F.text r := by
  cases h with
  | whole r => exact .inr ⟨r, List.prefix_refl _⟩
  | torn r hPart _ => exact .inr ⟨r, hPart⟩
  | separator => exact .inl rfl

/-- The bytes that follow a chunk start with a separator or an opening. -/
theorem content_head {chunks : List (Option ρ × List β)} (h : F.Stream chunks) :
    ∀ b ∈ (content chunks).head?, b = F.separator ∨ b = F.head := by
  induction chunks with
  | nil =>
      intro b hb
      cases hb
  | cons c chunks ih =>
      have hRest := ih fun d hd => h d (List.mem_cons_of_mem c hd)
      have hHere := (h c (List.mem_cons_self ..)).part
      intro b hb
      have hSplit : content (c :: chunks) = c.2 ++ content chunks := rfl
      rw [hSplit] at hb
      rcases hHere with hSeparator | ⟨r, hPart⟩
      · rw [hSeparator] at hb
        cases hb
        exact .inl rfl
      · cases hChunk : c.2 with
        | nil =>
            rw [hChunk, List.nil_append] at hb
            exact hRest b hb
        | cons d x =>
            rw [hChunk, List.cons_append, List.head?_cons, Option.mem_some_iff] at hb
            rw [hChunk] at hPart
            have hOpening := F.starts r
            obtain ⟨after, hText⟩ := hPart
            rw [← hText, List.cons_append, List.cons_prefix_cons] at hOpening
            right
            rw [← hb, hOpening.1]

/-- An initial part of `x ++ y` is one of `x`, or goes on into `y`. -/
theorem prefix_append_cases {x y z : List β} (h : z <+: x ++ y) :
    z <+: x ∨ ∃ rest, rest ≠ [] ∧ z = x ++ rest ∧ rest <+: y := by
  rcases List.prefix_or_prefix_of_prefix h (List.prefix_append x y) with hInside | ⟨rest, hRest⟩
  · exact .inl hInside
  · by_cases hNil : rest = []
    · left
      rw [← hRest, hNil, List.append_nil]
    · right
      rw [← hRest, List.prefix_append_right_inj] at h
      exact ⟨rest, hNil, hRest.symm, h⟩

/-- What begins what follows a chunk is not inside an opening. -/
theorem head_not_mem_tail {chunks : List (Option ρ × List β)} (h : F.Stream chunks)
    {z : List β} (hSome : z ≠ []) (hNext : z <+: content chunks) : ¬ z ⊆ F.tail := by
  obtain ⟨b, rest, rfl⟩ := List.exists_cons_of_ne_nil hSome
  obtain ⟨after, hAfter⟩ := hNext
  have hHead := content_head h b (by rw [← hAfter]; rfl)
  intro hInside
  have hMem := hInside (List.mem_cons_self ..)
  rcases hHead with hSeparator | hOpening
  · rw [hSeparator] at hMem
    exact F.separator_opening (List.mem_cons_of_mem _ hMem)
  · rw [hOpening] at hMem
    exact F.head_tail hMem

/-- An opening that starts in a chunk starts with it. -/
theorem opening_at {o : Option ρ} {x : List β} {chunks : List (Option ρ × List β)}
    (hChunk : F.Leaves o x) (h : F.Stream chunks) {p : Nat} (hp : p < x.length)
    (hOpens : F.head :: F.tail <+: (x ++ content chunks).drop p) :
    p = 0 ∧ ∃ r, x <+: F.text r := by
  rw [List.drop_append_of_le_length (Nat.le_of_lt hp)] at hOpens
  rcases hChunk.part with hSeparator | ⟨r, hPart⟩
  · exfalso
    rw [hSeparator, List.length_singleton, Nat.lt_one_iff] at hp
    rw [hSeparator, hp, List.drop_zero, List.singleton_append, List.cons_prefix_cons] at hOpens
    have hMem : F.separator ∈ F.head :: F.tail := by
      rw [hOpens.1]
      exact List.mem_cons_self ..
    exact F.separator_opening hMem
  · refine ⟨?_, r, hPart⟩
    by_contra hPos
    have hOnce := F.once r p (Nat.pos_of_ne_zero hPos)
    obtain ⟨after, hText⟩ := hPart
    rw [← hText, List.drop_append_of_le_length (Nat.le_of_lt hp)] at hOnce
    rcases prefix_append_cases hOpens with hInside | ⟨rest, hSome, hSplit, hNext⟩
    · exact hOnce (hInside.trans (List.prefix_append _ _))
    · -- The opening would go on into the next chunk.
      rw [List.drop_eq_getElem_cons hp, List.cons_append, List.cons.injEq] at hSplit
      apply head_not_mem_tail h hSome hNext
      rw [hSplit.2]
      exact List.subset_append_right _ _

theorem separator_not_last {z : List β} (h : z <+: [F.separator])
    (hLast : z.getLast? = some F.last) : False := by
  rcases List.prefix_concat_iff.1 (show z <+: [] ++ [F.separator] from h) with hAll | hNil
  · rw [hAll] at hLast
    exact F.separator_last (Option.some.inj hLast)
  · rw [List.eq_nil_of_prefix_nil hNil] at hLast
    cases hLast

/-- Bytes that start at a chunk and end like a record contain an opening. -/
theorem opening_of_last {chunks : List (Option ρ × List β)} (h : F.Stream chunks) :
    ∀ {y : List β}, y <+: content chunks → y.getLast? = some F.last →
      ∃ k, F.head :: F.tail <+: y.drop k := by
  induction chunks with
  | nil =>
      intro y hy hLast
      rw [show y = [] from List.eq_nil_of_prefix_nil hy] at hLast
      cases hLast
  | cons c chunks ih =>
      intro y hy hLast
      have hSplit : content (c :: chunks) = c.2 ++ content chunks := rfl
      rw [hSplit] at hy
      rcases prefix_append_cases hy with hInside | ⟨rest, hSome, hEq, hRest⟩
      · rcases (h c (List.mem_cons_self ..)).part with hSeparator | ⟨r, hPart⟩
        · rw [hSeparator] at hInside
          exact (separator_not_last hInside hLast).elim
        · -- The part is no longer than the opening, or contains it.
          refine ⟨0, ?_⟩
          rw [List.drop_zero]
          rcases List.prefix_or_prefix_of_prefix (hInside.trans hPart) (F.starts r) with
            hShort | hOpens
          · have hMem := hShort.subset (List.mem_of_getLast? hLast)
            exact (F.last_opening hMem).elim
          · exact hOpens
      · have hRestLast : rest.getLast? = some F.last := by
          rw [hEq, List.getLast?_append_of_ne_nil _ hSome] at hLast
          exact hLast
        obtain ⟨k, hOpens⟩ := ih (fun d hd => h d (List.mem_cons_of_mem c hd)) hRest hRestLast
        refine ⟨c.2.length + k, ?_⟩
        rwa [hEq, List.drop_length_add_append]

/-- **Reading a stream.**  A record that can be read at an offset of the bytes
was written whole there. -/
theorem record_at {chunks : List (Option ρ × List β)} (h : F.Stream chunks) {r : ρ} :
    ∀ {p : Nat}, F.text r <+: (content chunks).drop p →
      ∃ pre s post, chunks = pre ++ (some s, F.text s) :: post ∧ p = (content pre).length ∧
        F.text r = F.text s := by
  induction chunks with
  | nil =>
      intro p hAt
      have hNil : (content ([] : List (Option ρ × List β))).drop p = [] := List.drop_nil
      rw [hNil] at hAt
      exact absurd (List.eq_nil_of_prefix_nil hAt) (text_ne_nil r)
  | cons c chunks ih =>
      have hRest : F.Stream chunks := fun d hd => h d (List.mem_cons_of_mem c hd)
      have hSplit : content (c :: chunks) = c.2 ++ content chunks := rfl
      intro p hAt
      rw [hSplit] at hAt
      by_cases hBeyond : c.2.length ≤ p
      · rw [List.drop_append, List.drop_eq_nil_of_le hBeyond, List.nil_append] at hAt
        obtain ⟨pre, s, post, rfl, hp, hText⟩ := ih hRest hAt
        refine ⟨c :: pre, s, post, rfl, ?_, hText⟩
        show p = (c.2 ++ content pre).length
        rw [List.length_append]
        omega
      · have hHere := h c (List.mem_cons_self ..)
        have hp : p < c.2.length := by omega
        obtain ⟨rfl, -⟩ := opening_at hHere hRest hp ((F.starts r).trans hAt)
        rw [List.drop_zero] at hAt
        obtain ⟨o, x⟩ := c
        cases hHere with
        | whole s =>
            refine ⟨[], s, chunks, rfl, rfl, ?_⟩
            rcases List.prefix_or_prefix_of_prefix hAt (List.prefix_append _ _) with hIn | hIn
            · exact F.closed r s hIn
            · exact (F.closed s r hIn).symm
        | torn s hPart hNe =>
            exfalso
            rcases prefix_append_cases hAt with hIn | ⟨rest, hSome, hEq, hNext⟩
            · have hSame := F.closed r s (hIn.trans hPart)
              rw [hSame] at hIn
              exact hNe (hPart.eq_of_length_le hIn.length_le)
            · -- The record would contain the opening of a later one.
              have hLast := F.ends r
              rw [hEq, List.getLast?_append_of_ne_nil _ hSome] at hLast
              obtain ⟨k, hOpens⟩ := opening_of_last hRest hNext hLast
              apply F.once r (x.length + k) (Nat.lt_of_lt_of_le hp (Nat.le_add_right _ _))
              rwa [hEq, List.drop_length_add_append]
        | separator =>
            exfalso
            have hOpens := (F.starts r).trans hAt
            rw [List.singleton_append, List.cons_prefix_cons] at hOpens
            have hMem : F.separator ∈ F.head :: F.tail := by
              rw [hOpens.1]
              exact List.mem_cons_self ..
            exact F.separator_opening hMem

/-- A record of the kind `K` can be read at offset `p`. -/
def RecordFormat.ReadAt (F : RecordFormat ρ β) (K : ρ → Prop) (bytes : List β) (p : Nat) : Prop :=
  ∃ r, K r ∧ F.text r <+: bytes.drop p

/-- A whole record of the kind `K`. -/
def Whole (K : ρ → Prop) (c : Option ρ × List β) : Prop := ∃ r, c.1 = some r ∧ K r

/-- The offset of a chunk. -/
def offset (chunks : List (Option ρ × List β)) (i : Nat) : Nat :=
  (content (chunks.take i)).length

theorem offset_mono (chunks : List (Option ρ × List β)) {i j : Nat} (h : i ≤ j) :
    offset chunks i ≤ offset chunks j := by
  unfold offset
  have hPrefix : chunks.take i <+: chunks.take j := List.take_prefix_take_left h
  obtain ⟨rest, hRest⟩ := hPrefix
  rw [← hRest, content_append, List.length_append]
  omega

theorem offset_succ (chunks : List (Option ρ × List β)) {i : Nat} (h : i < chunks.length) :
    offset chunks (i + 1) = offset chunks i + chunks[i].2.length := by
  unfold offset
  rw [← List.take_append_getElem h, content_append, List.length_append]
  simp [content]

/-- A whole chunk holds the bytes of its record. -/
theorem text_of_whole {o : Option ρ} {x : List β} {r : ρ} (h : F.Leaves o x) (hr : o = some r) :
    x = F.text r := by
  cases h with
  | whole s =>
      cases hr
      rfl
  | torn s hPart hRest => cases hr
  | separator => cases hr

theorem readAt_iff {K : ρ → Prop} {chunks : List (Option ρ × List β)} (h : F.Stream chunks)
    (hK : ∀ r s, F.text r = F.text s → K r → K s) (p : Nat) :
    F.ReadAt K (content chunks) p ↔
      ∃ i, ∃ hi : i < chunks.length, Whole K chunks[i] ∧ p = offset chunks i := by
  constructor
  · rintro ⟨r, hr, hAt⟩
    obtain ⟨pre, s, post, hSplit, hp, hText⟩ := record_at h hAt
    have hLen : pre.length < chunks.length := by
      rw [hSplit, List.length_append, List.length_cons]
      omega
    have hGet : chunks[pre.length] = (some s, F.text s) := by
      simp [hSplit]
    refine ⟨pre.length, hLen, ?_, ?_⟩
    · rw [hGet]
      exact ⟨s, rfl, hK r s hText hr⟩
    · rw [hp, offset, hSplit, List.take_left]
  · rintro ⟨i, hi, ⟨r, hWhole, hr⟩, rfl⟩
    refine ⟨r, hr, ?_⟩
    have hText := text_of_whole (h _ (List.getElem_mem hi)) hWhole
    have hAll : content chunks =
        content (chunks.take i) ++ (chunks[i].2 ++ content (chunks.drop (i + 1))) := by
      conv_lhs => rw [← List.take_append_drop i chunks, content_append, List.drop_eq_getElem_cons hi]
      rfl
    rw [hAll, offset, List.drop_left, hText]
    exact List.prefix_append _ _

/-- **Order in the bytes and order of the writes.**  No record of the kind `L`
can be read after one of the kind `K` exactly when none was written after one. -/
theorem none_after_iff {K L : ρ → Prop} {chunks : List (Option ρ × List β)}
    (h : F.Stream chunks) (hK : ∀ r s, F.text r = F.text s → K r → K s)
    (hL : ∀ r s, F.text r = F.text s → L r → L s) :
    (∀ p q, p < q → F.ReadAt K (content chunks) p → ¬ F.ReadAt L (content chunks) q) ↔
      chunks.Pairwise fun a b => Whole K a → ¬ Whole L b := by
  rw [List.pairwise_iff_getElem]
  constructor
  · intro hBytes i j hi hj hLt hWhole hLater
    have hNonempty : 0 < chunks[i].2.length := by
      obtain ⟨r, hr, -⟩ := hWhole
      rw [text_of_whole (h _ (List.getElem_mem hi)) hr]
      exact List.length_pos_iff.2 (text_ne_nil r)
    have hOffsets : offset chunks i < offset chunks j := by
      have hNext := offset_mono chunks (show i + 1 ≤ j from hLt)
      rw [offset_succ chunks hi] at hNext
      omega
    exact hBytes _ _ hOffsets ((readAt_iff h hK _).2 ⟨i, hi, hWhole, rfl⟩)
      ((readAt_iff h hL _).2 ⟨j, hj, hLater, rfl⟩)
  · intro hWrites p q hLt hFirst hSecond
    obtain ⟨i, hi, hWhole, rfl⟩ := (readAt_iff h hK _).1 hFirst
    obtain ⟨j, hj, hLater, rfl⟩ := (readAt_iff h hL _).1 hSecond
    have hOrder : i < j := by
      by_contra hNot
      have hMono := offset_mono chunks (Nat.not_lt.1 hNot)
      omega
    exact hWrites i j hi hj hOrder hWhole hLater

end FrameScope.Verified.RecordStream
