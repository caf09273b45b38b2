import FrameScope.Ports.BatchAlignment

/-!
# A batch that nothing stops

The session reads `S` without a fault and the batch is never cancelled.  Then
nothing but a mismatch with the index ends the alignment or the loop, so a run
of frames that carries the metadata of the rows is followed to its end.
-/

namespace FrameScope.Ports.BatchFaultless

open FrameScope.Verified.Fallible
open FrameScope.Ports.Core
open FrameScope.Ports.Decoder
open FrameScope.Ports.FrameIndexModel
open FrameScope.Ports.SourceBinding
open FrameScope.Ports.FrameIndexStore
open FrameScope.Ports.IndexingCall
open FrameScope.Ports.CompleteIndex
open FrameScope.Ports.FrameCache
open FrameScope.Ports.Extraction
open FrameScope.Ports.BatchExtraction
open FrameScope.Ports.BatchAlignment

/-- The flag that is never raised. -/
def neverCancelled : Nat → Bool := fun _ => false

variable {σ : Type}

/-- A poll of that flag only counts. -/
theorem ensureNotCancelled_never {Q : Unit → BatchState σ → Prop}
    {Fail : BatchExtractionFailure → BatchState σ → Prop} {s : BatchState σ}
    (h : Q () { s with polls := s.polls + 1 }) :
    wp (ensureNotCancelled neverCancelled) Q Fail s := by
  unfold ensureNotCancelled
  rw [wp_bind, wp_get, wp_bind, wp_set, if_neg (by simp [neverCancelled])]
  exact h

/-- One read without a fault. -/
theorem nextDecoded_faultless {S : List DecodedRgbaFrame} {p : Nat} {f : DecodedRgbaFrame}
    {decoder : VideoDecoder} {s : BatchState σ}
    {Q : DecodedRgbaFrame × VideoDecoder → BatchState σ → Prop}
    {Fail : BatchExtractionFailure → BatchState σ → Prop}
    (hScript : decoder.script = faultlessScript S p) (hFrame : S[p]? = some f)
    (hCount : s.decodedFrames + 1 < 2 ^ 64)
    (hRead : ∀ decoder' s', decoder'.script = faultlessScript S (p + 1) → Quiet s s' →
      s'.decodedFrames = s.decodedFrames + 1 → Q (f, decoder') s') :
    wp (nextDecoded neverCancelled decoder) Q Fail s := by
  have hNext : decoder.nextFrame = (.ok (some f.frame),
      { decoder with current := some ⟨p, f, none⟩, script := faultlessScript S (p + 1) }) := by
    unfold VideoDecoder.nextFrame
    rw [hScript, faultlessScript_pending hFrame]
    rfl
  unfold nextDecoded
  rw [wp_bind]
  refine ensureNotCancelled_never ?_
  rw [hNext]
  dsimp only
  rw [wp_bind, wp_ofExcept]
  have hSnapshot : VideoDecoder.snapshotCurrentFrameRgba
      { decoder with current := some ⟨p, f, none⟩, script := faultlessScript S (p + 1) }
      f.frame = .ok f := by
    simp [VideoDecoder.snapshotCurrentFrameRgba]
  rw [hSnapshot]
  refine ⟨?_, nofun⟩
  intro rgba hRgba
  cases hRgba
  rw [wp_bind, wp_get, wp_bind, okOr_eq_ok.2 (checkedAddU64_eq_some.2 ⟨hCount, rfl⟩), wp_ofExcept_ok]
  rw [wp_bind, wp_set, wp_pure]
  exact hRead _ _ rfl ⟨rfl, rfl⟩ rfl

/-! ## Following a run of matching frames -/

/-- The frame of position `m + (c - a)` is in hand for identity `c`, and the
session goes on from there without a fault. -/
structure Faultless (S : List DecodedRgbaFrame) (m a c : Nat) (decoded : DecodedRgbaFrame)
    (decoder : VideoDecoder) (s : BatchState σ) : Prop where
  le : a ≤ c
  frame : S[m + (c - a)]? = some decoded
  script : decoder.script = faultlessScript S (m + (c - a) + 1)
  count : s.decodedFrames ≤ m + (c - a) + 1

theorem nextFrameId_of_lt {c : Nat} (h : c + 1 < 2 ^ 64) : nextFrameId c = .ok (c + 1) :=
  okOr_eq_ok.2 (checkedAddU64_eq_some.2 ⟨h, rfl⟩)

section Run

variable [ContentHash] {S : List DecodedRgbaFrame} {index : FrameIndex} {m a c n : Nat}
  {decoded : DecodedRgbaFrame} {decoder : VideoDecoder} {s : BatchState σ}

theorem requireEntry_of_row (hIndex : IndexOf S index) {i : Nat} {row : FrameIndexEntry}
    {missing : BatchExtractionFailure} (hRow : (timeline S)[i]? = some row) :
    requireEntry index i missing = .ok row := by
  have hLt : i < S.length := by
    obtain ⟨f, hFrame, -⟩ := row_spec hRow
    exact (List.getElem?_eq_some_iff.1 hFrame).1
  unfold requireEntry
  rw [hIndex.entry (by have := hIndex.bounded; omega), hRow]
  rfl

/-- The frame in hand matches its row. -/
theorem Faultless.matched (h : Faultless S m a c decoded decoder s) (hIndex : IndexOf S index)
    (hShifted : Shifted S m a n) (hc : c - a < n) :
    ∃ row, (timeline S)[c]? = some row ∧ requireMatchingEntry index c decoded = .ok row := by
  obtain ⟨f, row, hFrame, hRow, hMatches⟩ := hShifted (c - a) hc
  rw [show a + (c - a) = c by have := h.le; omega] at hRow
  rw [h.frame, Option.some.injEq] at hFrame
  subst hFrame
  refine ⟨row, hRow, ?_⟩
  unfold requireMatchingEntry
  rw [requireEntry_of_row hIndex hRow]
  exact bind_eq_ok.2 ⟨row, rfl, bind_eq_ok.2 ⟨(), ensure_eq_ok.2 hMatches, rfl⟩⟩

/-- The next frame can be read when it belongs to the run. -/
theorem Faultless.next (h : Faultless S m a c decoded decoder s) (hIndex : IndexOf S index)
    (hShifted : Shifted S m a n) (hc : c + 1 - a < n)
    {Q : DecodedRgbaFrame × VideoDecoder → BatchState σ → Prop}
    {Fail : BatchExtractionFailure → BatchState σ → Prop}
    (hRead : ∀ decoded' decoder' s', Faultless S m a (c + 1) decoded' decoder' s' → Quiet s s' →
      Q (decoded', decoder') s') :
    wp (nextDecoded neverCancelled decoder) Q Fail s := by
  have hLe := h.le
  have hStep : m + (c - a) + 1 = m + (c + 1 - a) := by omega
  obtain ⟨f, -, hFrame, -⟩ := hShifted (c + 1 - a) hc
  have hLt : m + (c + 1 - a) < S.length := (List.getElem?_eq_some_iff.1 hFrame).1
  have hBound := hIndex.bounded
  have hCount := h.count
  refine nextDecoded_faultless (p := m + (c + 1 - a)) (by rw [h.script, hStep]) hFrame
    (by omega) ?_
  intro decoder' s' hScript hQuiet hDecoded
  exact hRead f decoder' s' ⟨by omega, hFrame, hScript, by omega⟩ hQuiet

/-- Alignment follows the run to `first`. -/
theorem alignOnward_faultless (hIndex : IndexOf S index) {first : Nat}
    (hShifted : Shifted S m a (first - a + 1))
    {Q : DecodedRgbaFrame × VideoDecoder → BatchState σ → Prop}
    {Fail : BatchExtractionFailure → BatchState σ → Prop} (rounds : Nat) :
    ∀ {c decoded decoder} {s : BatchState σ}, Faultless S m a c decoded decoder s →
      c ≤ first → first - c ≤ rounds →
      (∀ decoded' decoder' s', Faultless S m a first decoded' decoder' s' → Quiet s s' →
        Q (decoded', decoder') s') →
      wp (alignOnward neverCancelled index first rounds c decoded decoder) Q Fail s := by
  have hBound := hIndex.bounded
  induction rounds with
  | zero =>
      intro c decoded decoder s hHere hLe hRounds hQ
      obtain rfl : c = first := by omega
      obtain ⟨row, -, hMatch⟩ := hHere.matched hIndex hShifted (by omega)
      unfold alignOnward
      rw [wp_bind, hMatch, wp_ofExcept_ok]
      rw [if_pos rfl, wp_pure]
      exact hQ decoded decoder s hHere (Quiet.refl s)
  | succ rounds ih =>
      intro c decoded decoder s hHere hLe hRounds hQ
      obtain ⟨row, hRow, hMatch⟩ := hHere.matched hIndex hShifted (by omega)
      unfold alignOnward
      rw [wp_bind, hMatch, wp_ofExcept_ok]
      by_cases hReached : c = first
      · rw [if_pos hReached, wp_pure]
        subst hReached
        exact hQ decoded decoder s hHere (Quiet.refl s)
      · have hLt : c < S.length := by
          obtain ⟨f, hFrame, -⟩ := row_spec hRow
          exact (List.getElem?_eq_some_iff.1 hFrame).1
        have hLeA := hHere.le
        rw [if_neg hReached, wp_bind, nextFrameId_of_lt (by omega), wp_ofExcept_ok]
        rw [wp_bind]
        refine hHere.next hIndex hShifted (by omega) ?_
        intro decoded' decoder' s' hThere hQuiet
        exact ih hThere (by omega) (by omega)
          fun decoded'' decoder'' s'' hEnd hQuiet' => hQ decoded'' decoder'' s'' hEnd
            (hQuiet.trans hQuiet')

/-- A seek that lands where the run begins is aligned at once. -/
theorem alignFromSeek_faultless (hIndex : IndexOf S index) {first : Nat} (ha : a ≤ first)
    (hShifted : Shifted S m a (first - a + 1)) (hScript : decoder.script = faultlessScript S m)
    (hCount : s.decodedFrames = 0) {Q : DecodedRgbaFrame × VideoDecoder → BatchState σ → Prop}
    {Fail : BatchExtractionFailure → BatchState σ → Prop}
    (hQ : ∀ decoded' decoder' s', Faultless S m a first decoded' decoder' s' → Quiet s s' →
      Q (decoded', decoder') s') :
    wp (alignFromSeek neverCancelled index decoder a first) Q Fail s := by
  obtain ⟨f, row, hFrame, hRow, hMatches⟩ := hShifted 0 (Nat.succ_pos _)
  rw [Nat.add_zero] at hFrame hRow
  unfold alignFromSeek
  rw [wp_bind, requireEntry_of_row hIndex hRow, wp_ofExcept_ok]
  rw [wp_bind]
  unfold scanToAnchor
  rw [wp_bind]
  refine nextDecoded_faultless hScript hFrame (by omega) ?_
  intro decoder' s' hScript' hQuiet hDecoded
  dsimp only
  rw [if_pos hMatches, wp_pure]
  dsimp only
  have hHere : Faultless S m a a f decoder' s' := by
    refine ⟨Nat.le_refl a, ?_, ?_, ?_⟩
    · rwa [Nat.sub_self]
    · rwa [Nat.sub_self]
    · omega
  refine alignOnward_faultless hIndex hShifted _ hHere ha ?_ ?_
  · -- The frames left reach at least as far as the run.
    obtain ⟨last, -, hLast, -⟩ := hShifted (first - a) (by omega)
    have hLt := (List.getElem?_eq_some_iff.1 hLast).1
    rw [hScript', faultlessScript_length]
    omega
  · intro decoded'' decoder'' s'' hEnd hQuiet'
    exact hQ decoded'' decoder'' s'' hEnd (hQuiet.trans hQuiet')

/-! ## The loop -/

variable {E : Type} {plan : ExtractionPlan} {visitor : Visitor E σ}

/-- The visitor answers every planned frame before `i`; `V c n` holds of its
state when identity `c` comes next and `n` frames have been handed over. -/
structure Accepts (S : List DecodedRgbaFrame) (plan : ExtractionPlan) (visitor : Visitor E σ)
    (i : Nat) (V : Nat → Nat → σ → Prop) : Prop where
  skip : ∀ {c n v}, c < i → plan.contains c = false → V c n v → V (c + 1) n v
  take : ∀ {c n v entry}, c < i → plan.contains c = true → V c n v →
    (timeline S)[c]? = some entry → ∀ pixels, ∃ v',
      visitor ⟨⟨c, n + 1, plan.selectedCount⟩, entry, pixels⟩ v = .ok () v' ∧ V (c + 1) (n + 1) v'

omit [ContentHash] in
/-- A visit of a frame that matches its row and, when it is planned, has an
owned copy. -/
theorem visitCurrent_faultless {entry : FrameIndexEntry}
    {Q : Nat → BatchState σ → Prop} {Fail : BatchExtractionError E → BatchState σ → Prop}
    (hEntry : requireMatchingEntry index c decoded = .ok entry) (hn : n + 1 < 2 ^ 64)
    (hPass : plan.contains c = false → Q n s)
    (hVisit : plan.contains c = true → ∃ pixels, ownedRgba decoded = .ok pixels ∧
      wp (runVisitor visitor ⟨⟨c, n + 1, plan.selectedCount⟩, entry, pixels⟩)
        (fun _ => Q (n + 1)) Fail { s with polls := s.polls + 1 }) :
    wp (visitCurrent neverCancelled index plan visitor c n decoded) Q Fail s := by
  unfold visitCurrent
  rw [wp_bind, hEntry, wp_ofExcept_ok]
  by_cases hPlanned : plan.contains c = true
  · obtain ⟨pixels, hPixels, hRun⟩ := hVisit hPlanned
    rw [if_pos hPlanned]
    unfold deliver
    rw [wp_bind, wp_adaptExcept]
    refine ensureNotCancelled_never ?_
    rw [wp_bind, okOr_eq_ok.2 (checkedAddU64_eq_some.2 ⟨hn, rfl⟩), wp_ofExcept_ok]
    rw [wp_bind, hPixels, wp_ofExcept_ok]
    rw [wp_bind]
    exact hRun
  · rw [if_neg hPlanned, wp_pure]
    exact hPass (Bool.eq_false_iff.2 hPlanned)

/-- After the visit of a frame before the last one, the loop reads the next
frame of the run and goes on. -/
theorem extractOnward_advance (hIndex : IndexOf S index) {lastSelected rounds bound : Nat}
    (hShifted : Shifted S m a bound) (hMore : c < lastSelected) (hc : c + 1 - a < bound)
    {V : Nat → σ → Prop} {Q : Nat → BatchState σ → Prop}
    {Fail : BatchExtractionError E → BatchState σ → Prop}
    (hVisit : wp (visitCurrent neverCancelled index plan visitor c n decoded)
      (fun n' s' => Faultless S m a c decoded decoder s' ∧ n' ≤ c + 1 ∧ V n' s'.visitor) Fail s)
    (hRest : ∀ n' decoded' decoder' s', Faultless S m a (c + 1) decoded' decoder' s' →
      n' ≤ c + 1 → V n' s'.visitor →
      wp (extractOnward neverCancelled index plan visitor lastSelected rounds (c + 1) n' decoded'
        decoder') Q Fail s') :
    wp (extractOnward neverCancelled index plan visitor lastSelected (rounds + 1) c n decoded
      decoder) Q Fail s := by
  have hBound := hIndex.bounded
  unfold extractOnward
  rw [wp_bind]
  refine wp_mono hVisit ?_ (fun _ _ h => h)
  intro n' s' hMid
  obtain ⟨f, row, -, hRow, -⟩ := hShifted (c + 1 - a) hc
  have hRowLt : a + (c + 1 - a) < S.length := by
    obtain ⟨f', hFrame', -⟩ := row_spec hRow
    exact (List.getElem?_eq_some_iff.1 hFrame').1
  rw [if_neg (by omega), wp_bind, nextFrameId_of_lt (by omega), wp_ofExcept_ok, wp_bind,
    wp_adaptExcept]
  refine hMid.1.next hIndex hShifted hc ?_
  intro decoded' decoder' s'' hNext hQuiet
  refine hRest n' decoded' decoder' s'' hNext hMid.2.1 ?_
  rw [hQuiet.2]
  exact hMid.2.2

/-- The loop comes to identity `i` when the run of matching frames does, the
planned frames before it have owned copies, and the visitor takes them. -/
theorem extractOnward_faultless (hIndex : IndexOf S index) {i lastSelected : Nat}
    (hShifted : Shifted S m a (i - a + 1)) (hLast : i ≤ lastSelected)
    (hReady : ∀ i' < i, plan.contains i' = true → ∃ pixels, IsFrameAt S (m + (i' - a)) pixels)
    {V : Nat → Nat → σ → Prop} (hAccepts : Accepts S plan visitor i V)
    {Q : Nat → BatchState σ → Prop} {Fail : BatchExtractionError E → BatchState σ → Prop}
    (hThere : ∀ rounds n decoded decoder s, Faultless S m a i decoded decoder s → n ≤ i →
      V i n s.visitor →
      wp (extractOnward neverCancelled index plan visitor lastSelected rounds i n decoded decoder)
        Q Fail s) (rounds : Nat) :
    ∀ {c n decoded decoder} {s : BatchState σ}, Faultless S m a c decoded decoder s → n ≤ c →
      V c n s.visitor → c ≤ i → i - c ≤ rounds →
      wp (extractOnward neverCancelled index plan visitor lastSelected rounds c n decoded decoder)
        Q Fail s := by
  have hBound := hIndex.bounded
  induction rounds with
  | zero =>
      intro c n decoded decoder s hHere hn hV hLe hRounds
      obtain rfl : c = i := by omega
      exact hThere 0 n decoded decoder s hHere hn hV
  | succ rounds ih =>
      intro c n decoded decoder s hHere hn hV hLe hRounds
      by_cases hReached : c = i
      · subst hReached
        exact hThere _ n decoded decoder s hHere hn hV
      · have hLeA := hHere.le
        obtain ⟨entry, hRow, hEntry⟩ := hHere.matched hIndex hShifted (by omega)
        have hLt : c < S.length := by
          obtain ⟨f, hFrame, -⟩ := row_spec hRow
          exact (List.getElem?_eq_some_iff.1 hFrame).1
        refine extractOnward_advance hIndex hShifted (by omega) (by omega) ?_
          (fun n' decoded' decoder' s' hNext hn' hV' =>
            ih hNext hn' hV' (by omega) (by omega))
        refine visitCurrent_faultless hEntry (by omega) ?_ ?_
        · intro hSkip
          exact ⟨hHere, by omega, hAccepts.skip (by omega) hSkip hV⟩
        · intro hPlanned
          obtain ⟨pixels, f, hFrame, hPixels⟩ := hReady c (by omega) hPlanned
          rw [hHere.frame, Option.some.injEq] at hFrame
          subst hFrame
          refine ⟨pixels, hPixels, ?_⟩
          obtain ⟨v', hVisitor, hV'⟩ := hAccepts.take (by omega) hPlanned hV hRow pixels
          unfold wp runVisitor
          dsimp only
          rw [hVisitor]
          exact ⟨⟨hHere.le, hHere.frame, hHere.script, hHere.count⟩, by omega, hV'⟩

/-- A planned frame that the loop comes to is handed over.  What the visitor
makes of it stays, when the visitor itself and the steps between its calls
keep it. -/
theorem extractOnward_hands (hIndex : IndexOf S index) {i lastSelected rounds : Nat}
    {pixels : OwnedRgbaFrame} (hShifted : Shifted S m a (i - a + 1))
    (hHere : Faultless S m a i decoded decoder s) (hn : n ≤ i) (hPlanned : plan.contains i = true)
    (hPixels : IsFrameAt S (m + (i - a)) pixels) {P : BatchState σ → Prop}
    (hVisit : ∀ entry s', (timeline S)[i]? = some entry → Quiet s s' →
      wp (runVisitor visitor ⟨⟨i, n + 1, plan.selectedCount⟩, entry, pixels⟩)
        (fun _ => P) (fun _ => P) s')
    (hKeeps : ∀ frame s, P s → wp (runVisitor visitor frame) (fun _ => P) (fun _ => P) s)
    (hQuiet : ∀ s s', P s → Quiet s s' → P s') :
    wp (extractOnward neverCancelled index plan visitor lastSelected rounds i n decoded decoder)
      (fun _ => P) (fun _ => P) s := by
  have hBound := hIndex.bounded
  obtain ⟨entry, hRow, hEntry⟩ := hHere.matched hIndex hShifted (by omega)
  have hLt : i < S.length := by
    obtain ⟨f, hFrame, -⟩ := row_spec hRow
    exact (List.getElem?_eq_some_iff.1 hFrame).1
  have hRule : LoopRule neverCancelled index plan visitor lastSelected
      (fun c n' decoded' _ s' => (c = i ∧ n' = n ∧ decoded' = decoded ∧ s' = s) ∨ P s')
      (fun _ _ _ _ s' => P s') (fun _ s' => P s') := by
    constructor
    · rintro c n' decoded' decoder' s' (⟨rfl, rfl, rfl, rfl⟩ | hP)
      · refine visitCurrent_faultless hEntry (by omega) ?_ ?_
        · intro hSkip
          rw [hPlanned] at hSkip
          cases hSkip
        · intro _
          obtain ⟨f, hFrame, hOwned⟩ := hPixels
          rw [hHere.frame, Option.some.injEq] at hFrame
          subst hFrame
          exact ⟨pixels, hOwned, hVisit entry _ hRow ⟨rfl, rfl⟩⟩
      · refine visitCurrent_wp (fun e s'' h => hQuiet s' s'' hP h) (fun _ _ _ => hP) ?_
        intro entry' pixels' s'' _ _ _ h
        exact hKeeps _ s'' (hQuiet s' s'' hP h)
    · intro c n' decoded' decoder' s' frame decoder'' rgba s'' hP _ _ _ h
      exact .inr (hQuiet s' s'' hP h)
    · intro c n' decoded' decoder' s' e s'' hP _ h
      exact hQuiet s' s'' hP h
  refine wp_mono (extractOnward_rule hRule rounds (.inl ⟨rfl, rfl, rfl, rfl⟩)) ?_ (fun _ _ h => h)
  rintro n' s' ⟨_, _, hP⟩
  exact hP

/-! ## The whole batch -/

/-- A factory whose sessions read `S` without a fault and land at `m` on every
seek. -/
def landingAt (S : List DecodedRgbaFrame) (index : FrameIndex) (m : Nat) : Opener :=
  fun _ => .ok (faultlessDecoder S index.streamIdentity.toStream fun _ => m)

omit [ContentHash] in
theorem landingAt_conforming (h : m ≤ S.length) : OpensConforming S (landingAt S index m) := by
  intro k d hOpen
  cases hOpen
  exact faultlessDecoder_conforms S _ _ fun _ => h

/-- The seek takes position `m` for the anchor when the run from `m` matches. -/
theorem alignFirst_faultless (hIndex : IndexOf S index) {firstEntry : FrameIndexEntry}
    {first : Nat} {us : Int} (hAnchor : anchorSeek firstEntry.anchor = some (a, us))
    (ha : a ≤ first) (hShifted : Shifted S m a (first - a + 1)) (hCount : s.decodedFrames = 0)
    {Q : Aligned → BatchState σ → Prop} {Fail : BatchExtractionFailure → BatchState σ → Prop}
    (hQ : ∀ aligned s', Faultless S m a first aligned.decoded aligned.decoder s' → Quiet s s' →
      Q aligned s') :
    wp (alignFirst neverCancelled index (landingAt S index m) firstEntry first) Q Fail s := by
  have hOpen : openCheckedDecoder index (landingAt S index m) 0 =
      .ok (faultlessDecoder S index.streamIdentity.toStream fun _ => m) := by
    refine bind_eq_ok.2 ⟨_, rfl, bind_eq_ok.2 ⟨index.streamIdentity, rfl, ?_⟩⟩
    exact bind_eq_ok.2 ⟨(), ensure_eq_ok.2 rfl, rfl⟩
  unfold alignFirst
  rw [wp_bind, hOpen, wp_ofExcept_ok]
  rw [hAnchor]
  dsimp only
  rw [wp_bind, wp_ofExcept]
  refine ⟨?_, nofun⟩
  intro sought hSought
  cases hSought
  rw [wp_tryCatch, wp_bind]
  refine alignFromSeek_faultless hIndex ha hShifted rfl hCount ?_
  intro decoded' decoder' s' hHere hQuiet
  exact hQ _ s' hHere hQuiet

/-- The batch comes to identity `i` when the run from `m` does; whatever holds
of every state it may then end in holds of its final state. -/
theorem extractRgbaPlan_faultless (hIndex : IndexOf S index) {i lastSelected : Nat}
    (hPlan : validatePlan index plan = .ok lastSelected) {row : FrameIndexEntry} {us : Int}
    (hRow : (timeline S)[plan.firstFrame]? = some row)
    (hAnchor : anchorSeek row.anchor = some (a, us)) (ha : a ≤ plan.firstFrame)
    (hFirst : plan.firstFrame ≤ i) (hLast : i ≤ lastSelected)
    (hShifted : Shifted S m a (i - a + 1))
    (hReady : ∀ i' < i, plan.contains i' = true → ∃ pixels, IsFrameAt S (m + (i' - a)) pixels)
    {V : Nat → Nat → σ → Prop} (hAccepts : Accepts S plan visitor i V) {v : σ}
    (hV : V plan.firstFrame 0 v) {P : BatchState σ → Prop}
    (hThere : ∀ rounds n decoded decoder s, Faultless S m a i decoded decoder s → n ≤ i →
      V i n s.visitor →
      wp (extractOnward neverCancelled index plan visitor lastSelected rounds i n decoded decoder)
        (fun _ => P) (fun _ => P) s) :
    wp (extractRgbaPlan neverCancelled index plan visitor (landingAt S index m))
      (fun _ => P) (fun _ => P) (BatchState.start v) := by
  unfold extractRgbaPlan
  rw [wp_bind, hPlan, wp_ofExcept_ok]
  rw [wp_bind, requireEntry_of_row hIndex hRow, wp_ofExcept_ok]
  rw [wp_bind, wp_adaptExcept]
  refine alignFirst_faultless hIndex hAnchor ha (fun j hj => hShifted j (by omega)) rfl ?_
  intro aligned s' hHere hQuiet
  rw [wp_bind]
  have hRounds : i - plan.firstFrame ≤ aligned.decoder.script.pending.length := by
    obtain ⟨f, -, hFrame, -⟩ := hShifted (i - a) (by omega)
    have hLt := (List.getElem?_eq_some_iff.1 hFrame).1
    rw [hHere.script, faultlessScript_length]
    omega
  refine wp_mono (extractOnward_faultless hIndex hShifted hLast hReady hAccepts hThere _ hHere
    (Nat.zero_le _) (hQuiet.2 ▸ hV) hFirst hRounds) ?_ (fun _ _ h => h)
  intro n s'' hP
  split
  · exact hP
  · exact hP

end Run

end FrameScope.Ports.BatchFaultless
