import FrameScope.Ports.CompleteIndex
import FrameScope.Ports.BatchExtraction

/-!
# What a batch reads

Two kinds of facts about the parts of a batch.  `Quiet` facts hold for every
decoder: reading and aligning neither call the visitor nor touch its state.
Position facts hold for decoders that emit `S`: they say at which position the
session stands.  After a seek that position is not known to be the one of the
identity asked for.  What is known is that the frames passed so far carry the
metadata of the rows they were compared with, which `Shifted` says.
-/

namespace FrameScope.Ports.BatchAlignment

open FrameScope.Verified.Fallible
open FrameScope.Ports.Core
open FrameScope.Ports.Decoder
open FrameScope.Ports.FrameIndexModel
open FrameScope.Ports.SourceBinding
open FrameScope.Ports.FrameIndexStore
open FrameScope.Ports.IndexingCall
open FrameScope.Ports.CompleteIndex
open FrameScope.Ports.FrameCache
open FrameScope.Ports.Extraction
open FrameScope.Ports.BatchExtraction

variable {σ : Type} {cancelled : Nat → Bool}

/-! ## Steps that do not reach the visitor -/

/-- Nothing was handed to the visitor. -/
def Quiet (s s' : BatchState σ) : Prop := s'.handed = s.handed ∧ s'.visitor = s.visitor

theorem Quiet.refl (s : BatchState σ) : Quiet s s := ⟨rfl, rfl⟩

theorem Quiet.trans {s₁ s₂ s₃ : BatchState σ} (h : Quiet s₁ s₂) (h' : Quiet s₂ s₃) :
    Quiet s₁ s₃ := ⟨h'.1.trans h.1, h'.2.trans h.2⟩

/-- A poll is counted, and either stops the batch or does nothing else. -/
theorem ensureNotCancelled_wp {Q : Unit → BatchState σ → Prop}
    {E : BatchExtractionFailure → BatchState σ → Prop} {s : BatchState σ}
    (hActive : Q () { s with polls := s.polls + 1 })
    (hStopped : E .cancelled { s with polls := s.polls + 1 }) :
    wp (ensureNotCancelled cancelled) Q E s := by
  unfold ensureNotCancelled
  rw [wp_bind, wp_get, wp_bind, wp_set]
  split
  · exact hStopped
  · exact hActive

/-- One read, for every decoder: quiet, and a frame that is returned is the
decoder's next one. -/
theorem nextDecoded_wp {decoder : VideoDecoder} {s : BatchState σ}
    {Q : DecodedRgbaFrame × VideoDecoder → BatchState σ → Prop}
    {E : BatchExtractionFailure → BatchState σ → Prop}
    (hRead : ∀ frame decoder' rgba s', decoder.nextFrame = (.ok (some frame), decoder') →
      decoder'.snapshotCurrentFrameRgba frame = .ok rgba → Quiet s s' → Q (rgba, decoder') s')
    (hError : ∀ e s', Quiet s s' → E e s') :
    wp (nextDecoded cancelled decoder) Q E s := by
  unfold nextDecoded
  rw [wp_bind]
  refine ensureNotCancelled_wp ?_ (hError _ _ ⟨rfl, rfl⟩)
  · split
    · exact hError _ _ ⟨rfl, rfl⟩
    · exact hError _ _ ⟨rfl, rfl⟩
    · rename_i frame decoder' hNext
      rw [wp_bind, wp_ofExcept]
      refine ⟨?_, fun e _ => hError _ _ ⟨rfl, rfl⟩⟩
      intro rgba hSnapshot
      rw [wp_bind, wp_get, wp_bind, wp_ofExcept]
      refine ⟨?_, fun e _ => hError _ _ ⟨rfl, rfl⟩⟩
      intro count _
      rw [wp_bind, wp_set, wp_pure]
      exact hRead frame decoder' rgba _ hNext hSnapshot ⟨rfl, rfl⟩

theorem nextFrameId_ok {current next : Nat} (h : nextFrameId current = .ok next) :
    next = current + 1 := by
  rw [nextFrameId, okOr_eq_ok, checkedAddU64_eq_some] at h
  exact h.2

/-! ## Alignment -/

section Alignment

variable {index : FrameIndex}

/-- The frame in hand for identity `c`, as a property of the frame and of the
session, is carried along by a read. -/
def CarriedBy (index : FrameIndex) (P : Nat → DecodedRgbaFrame → VideoDecoder → Prop) : Prop :=
  ∀ c decoded decoder entry frame decoder' rgba, P c decoded decoder →
    requireMatchingEntry index c decoded = .ok entry →
    decoder.nextFrame = (.ok (some frame), decoder') →
    decoder'.snapshotCurrentFrameRgba frame = .ok rgba → P (c + 1) rgba decoder'

/-- Where an alignment may end: at `first`, with `P` of the frame in hand. -/
def EndsAt (P : Nat → DecodedRgbaFrame → VideoDecoder → Prop) (first : Nat) (s : BatchState σ)
    (x : Batch σ (DecodedRgbaFrame × VideoDecoder)) : Prop :=
  wp x (fun r s' => Quiet s s' ∧ P first r.1 r.2) (fun _ s' => Quiet s s') s

/-- What follows a quiet step ends where the whole ends. -/
theorem EndsAt.after {P : Nat → DecodedRgbaFrame → VideoDecoder → Prop} {first : Nat}
    {s s' : BatchState σ} {x : Batch σ (DecodedRgbaFrame × VideoDecoder)}
    (h : EndsAt P first s' x) (hQuiet : Quiet s s') :
    wp x (fun r s'' => Quiet s s'' ∧ P first r.1 r.2) (fun _ s'' => Quiet s s'') s' :=
  wp_mono h (fun _ _ h => ⟨hQuiet.trans h.1, h.2⟩) (fun _ _ h => hQuiet.trans h)

/-- One round of the loop that ends every alignment. -/
theorem alignOnward_round {P : Nat → DecodedRgbaFrame → VideoDecoder → Prop}
    (hCarried : CarriedBy index P) {first rounds c : Nat} {decoded : DecodedRgbaFrame}
    {decoder : VideoDecoder} {s : BatchState σ} (hP : P c decoded decoder)
    (hRest : ∀ r, rounds = r + 1 → ∀ decoded' decoder' (s' : BatchState σ),
      P (c + 1) decoded' decoder' →
      EndsAt P first s' (alignOnward cancelled index first r (c + 1) decoded' decoder')) :
    EndsAt P first s (alignOnward cancelled index first rounds c decoded decoder) := by
  unfold EndsAt alignOnward
  rw [wp_bind, wp_ofExcept]
  refine ⟨?_, fun e _ => Quiet.refl s⟩
  intro entry hEntry
  split
  · rename_i hReached
    rw [wp_pure, ← hReached]
    exact ⟨Quiet.refl s, hP⟩
  · rw [wp_bind, wp_ofExcept]
    refine ⟨?_, fun e _ => Quiet.refl s⟩
    intro next hNext
    rw [wp_bind]
    refine nextDecoded_wp ?_ (fun e s' hQuiet => hQuiet)
    intro frame decoder' rgba s' hRead hSnapshot hQuiet
    rw [nextFrameId_ok hNext]
    cases rounds with
    | zero => exact hQuiet
    | succ r =>
        have hNextP :=
          hCarried c decoded decoder entry frame decoder' rgba hP hEntry hRead hSnapshot
        exact (hRest r rfl rgba decoder' s' hNextP).after hQuiet

/-- The loop that ends every alignment. -/
theorem alignOnward_rule {P : Nat → DecodedRgbaFrame → VideoDecoder → Prop}
    (hCarried : CarriedBy index P) {first : Nat} (rounds : Nat) :
    ∀ {c : Nat} {decoded : DecodedRgbaFrame} {decoder : VideoDecoder} {s : BatchState σ},
      P c decoded decoder →
      EndsAt P first s (alignOnward cancelled index first rounds c decoded decoder) := by
  induction rounds with
  | zero =>
      intro c decoded decoder s hP
      refine alignOnward_round hCarried hP ?_
      intro r hRounds
      cases hRounds
  | succ rounds ih =>
      intro c decoded decoder s hP
      refine alignOnward_round hCarried hP ?_
      intro r hRounds decoded' decoder' s' hP'
      cases hRounds
      exact ih hP'

/-- The scan for the anchor, when every frame that can be read next has `P`
should it match the anchor's row. -/
theorem scanToAnchor_rule {P : DecodedRgbaFrame → VideoDecoder → Prop}
    {Before : VideoDecoder → Prop} {anchorEntry : FrameIndexEntry}
    (hRead : ∀ decoder frame decoder' rgba, Before decoder →
      decoder.nextFrame = (.ok (some frame), decoder') →
      decoder'.snapshotCurrentFrameRgba frame = .ok rgba →
      Before decoder' ∧ (matchesIndexEntry rgba.frame anchorEntry = true → P rgba decoder'))
    (rounds : Nat) :
    ∀ {decoder : VideoDecoder} {s : BatchState σ}, Before decoder →
      wp (scanToAnchor cancelled anchorEntry rounds decoder)
        (fun r s' => Quiet s s' ∧ P r.1 r.2) (fun _ s' => Quiet s s') s := by
  induction rounds with
  | zero =>
      intro decoder s hBefore
      unfold scanToAnchor
      rw [wp_bind]
      refine nextDecoded_wp ?_ (fun e s' hQuiet => hQuiet)
      intro frame decoder' rgba s' hNext hSnapshot hQuiet
      obtain ⟨-, hMatch⟩ := hRead decoder frame decoder' rgba hBefore hNext hSnapshot
      dsimp only
      split
      · rename_i hMatches
        exact ⟨hQuiet, hMatch hMatches⟩
      · exact hQuiet
  | succ rounds ih =>
      intro decoder s hBefore
      unfold scanToAnchor
      rw [wp_bind]
      refine nextDecoded_wp ?_ (fun e s' hQuiet => hQuiet)
      intro frame decoder' rgba s' hNext hSnapshot hQuiet
      obtain ⟨hBefore', hMatch⟩ := hRead decoder frame decoder' rgba hBefore hNext hSnapshot
      dsimp only
      split
      · rename_i hMatches
        exact ⟨hQuiet, hMatch hMatches⟩
      · exact wp_mono (ih hBefore') (fun _ _ h => ⟨hQuiet.trans h.1, h.2⟩)
          (fun _ _ h => hQuiet.trans h)

/-- Alignment from a session whose first frame has `P 0`. -/
theorem alignFromStart_rule {P : Nat → DecodedRgbaFrame → VideoDecoder → Prop}
    (hCarried : CarriedBy index P) {first : Nat} {decoder : VideoDecoder} {s : BatchState σ}
    (hStart : ∀ frame decoder' rgba, decoder.nextFrame = (.ok (some frame), decoder') →
      decoder'.snapshotCurrentFrameRgba frame = .ok rgba → P 0 rgba decoder') :
    EndsAt P first s (alignFromStart cancelled index decoder first) := by
  unfold EndsAt alignFromStart
  rw [wp_bind]
  refine nextDecoded_wp ?_ (fun e s' hQuiet => hQuiet)
  intro frame decoder' rgba s' hNext hSnapshot hQuiet
  exact (alignOnward_rule hCarried _ (hStart frame decoder' rgba hNext hSnapshot)).after hQuiet

/-- Alignment after a seek, when every frame that can be read next has `P` at the
anchor should it match the anchor's row. -/
theorem alignFromSeek_rule {P : Nat → DecodedRgbaFrame → VideoDecoder → Prop}
    (hCarried : CarriedBy index P) {anchor first : Nat} (Before : VideoDecoder → Prop)
    {decoder : VideoDecoder} {s : BatchState σ} (hBefore : Before decoder)
    (hRead : ∀ anchorEntry decoder frame decoder' rgba,
      requireEntry index anchor (.timelineMismatch anchor) = .ok anchorEntry →
      Before decoder → decoder.nextFrame = (.ok (some frame), decoder') →
      decoder'.snapshotCurrentFrameRgba frame = .ok rgba →
      Before decoder' ∧
        (matchesIndexEntry rgba.frame anchorEntry = true → P anchor rgba decoder')) :
    EndsAt P first s (alignFromSeek cancelled index decoder anchor first) := by
  unfold EndsAt alignFromSeek
  rw [wp_bind, wp_ofExcept]
  refine ⟨?_, fun e _ => Quiet.refl s⟩
  intro anchorEntry hEntry
  rw [wp_bind]
  refine wp_mono (scanToAnchor_rule (P := P anchor)
    (fun decoder frame decoder' rgba => hRead anchorEntry decoder frame decoder' rgba hEntry)
    _ hBefore) ?_ (fun _ _ h => h)
  intro r s' h
  exact (alignOnward_rule hCarried _ h.2).after h.1

theorem EndsAt.mono {P P' : Nat → DecodedRgbaFrame → VideoDecoder → Prop} {first : Nat}
    {s : BatchState σ} {x : Batch σ (DecodedRgbaFrame × VideoDecoder)}
    (h : EndsAt P first s x) (hP : ∀ decoded decoder, P first decoded decoder →
      P' first decoded decoder) : EndsAt P' first s x :=
  wp_mono h (fun r _ h => ⟨h.1, hP r.1 r.2 h.2⟩) (fun _ _ h => h)

/-- Reaching the first frame, when each of the two ways ends with `P`. -/
theorem alignFirst_rule (P : Nat → DecodedRgbaFrame → VideoDecoder → Prop) {opens : Opener}
    {firstEntry : FrameIndexEntry} {first : Nat} {s : BatchState σ}
    (hStart : ∀ n decoder (s : BatchState σ), openCheckedDecoder index opens n = .ok decoder →
      EndsAt P first s (alignFromStart cancelled index decoder first))
    (hSeek : ∀ decoder decoder' a us (s : BatchState σ),
      openCheckedDecoder index opens 0 = .ok decoder →
      anchorSeek firstEntry.anchor = some (a, us) →
      decoder.seekToTimestampUs us = .ok decoder' →
      EndsAt P first s (alignFromSeek cancelled index decoder' a first)) :
    wp (alignFirst cancelled index opens firstEntry first)
      (fun r s' => Quiet s s' ∧ P first r.decoded r.decoder) (fun _ s' => Quiet s s') s := by
  unfold alignFirst
  rw [wp_bind, wp_ofExcept]
  refine ⟨?_, fun e _ => Quiet.refl s⟩
  intro decoder hOpen
  split
  · rw [wp_bind]
    exact hStart 0 decoder s hOpen
  · rename_i a us hAnchor
    rw [wp_bind, wp_ofExcept]
    refine ⟨?_, fun e _ => Quiet.refl s⟩
    intro decoder' hSought
    rw [wp_tryCatch, wp_bind]
    -- A failed seek has left the visitor alone, so the fresh start may follow.
    have hAfter : ∀ s' fallback, Quiet s s' → openCheckedDecoder index opens 1 = .ok fallback →
        wp (alignFromStart cancelled index fallback first)
          (fun r s'' => Quiet s s'' ∧ P first r.1 r.2) (fun _ s'' => Quiet s s'') s' := by
      intro s' fallback hQuiet hReopen
      exact (hStart 1 fallback s' hReopen).after hQuiet
    refine wp_mono (hSeek decoder decoder' a us s hOpen hAnchor hSought)
      (fun r s' h => h) ?_
    intro e s' hQuiet
    split
    · rw [wp_bind, wp_ofExcept]
      refine ⟨fun fallback hReopen => ?_, fun _ _ => hQuiet⟩
      rw [wp_bind]
      exact hAfter s' fallback hQuiet hReopen
    · rw [wp_bind, wp_ofExcept]
      refine ⟨fun fallback hReopen => ?_, fun _ _ => hQuiet⟩
      rw [wp_bind]
      exact hAfter s' fallback hQuiet hReopen
    · exact hQuiet

/-- Reaching the first frame never calls the visitor. -/
theorem alignFirst_quiet {opens : Opener} {firstEntry : FrameIndexEntry} {first : Nat}
    {s : BatchState σ} :
    wp (alignFirst cancelled index opens firstEntry first)
      (fun _ s' => Quiet s s') (fun _ s' => Quiet s s') s := by
  have hCarried : CarriedBy index fun _ _ _ => True :=
    fun _ _ _ _ _ _ _ _ _ _ _ => trivial
  refine wp_mono (alignFirst_rule (fun _ _ _ => True) ?_ ?_) (fun _ _ h => h.1) (fun _ _ h => h)
  · intro n decoder s _
    exact alignFromStart_rule hCarried fun _ _ _ _ _ => trivial
  · intro decoder decoder' a us s _ _ _
    exact alignFromSeek_rule hCarried (fun _ => True) trivial
      fun _ _ _ _ _ _ _ _ _ => ⟨trivial, fun _ => trivial⟩

/-! ## The main loop -/

variable {E : Type} {plan : ExtractionPlan} {visitor : Visitor E σ}

/-- The visitor is given the frame, whatever it answers. -/
theorem runVisitor_handed {frame : ExtractedRgbaFrame} {s : BatchState σ} :
    wp (runVisitor visitor frame) (fun _ s' => s'.handed = s.handed ++ [frame])
      (fun _ s' => s'.handed = s.handed ++ [frame]) s := by
  unfold wp runVisitor
  dsimp only
  cases visitor frame s.visitor with
  | ok u v => rfl
  | error e v => rfl

/-- The call of the visitor, as a program on the visitor's own state. -/
theorem runVisitor_wp {frame : ExtractedRgbaFrame} {s : BatchState σ}
    {Q : Unit → BatchState σ → Prop} {Fail : BatchExtractionError E → BatchState σ → Prop}
    (h : wp (visitor frame)
      (fun u v => Q u { s with handed := s.handed ++ [frame], visitor := v })
      (fun e v => Fail (.visitor e) { s with handed := s.handed ++ [frame], visitor := v })
      s.visitor) :
    wp (runVisitor visitor frame) Q Fail s := by
  unfold wp at h
  unfold wp runVisitor
  dsimp only
  cases hCall : visitor frame s.visitor with
  | ok u v =>
      rw [hCall] at h
      exact h
  | error e v =>
      rw [hCall] at h
      exact h

/-- Visiting the frame of `c`: it matches its row, and when the plan selects it
the visitor is called with the owned copy. -/
theorem visitCurrent_wp {c n : Nat} {decoded : DecodedRgbaFrame} {s : BatchState σ}
    {Q : Nat → BatchState σ → Prop} {Fail : BatchExtractionError E → BatchState σ → Prop}
    (hStop : ∀ e s', Quiet s s' → Fail (.failure e) s')
    (hPass : ∀ entry, requireMatchingEntry index c decoded = .ok entry →
      plan.contains c = false → Q n s)
    (hVisit : ∀ entry pixels s', requireMatchingEntry index c decoded = .ok entry →
      plan.contains c = true → ownedRgba decoded = .ok pixels → Quiet s s' →
      wp (runVisitor visitor ⟨⟨c, n + 1, plan.selectedCount⟩, entry, pixels⟩)
        (fun _ s'' => Q (n + 1) s'') Fail s') :
    wp (visitCurrent cancelled index plan visitor c n decoded) Q Fail s := by
  unfold visitCurrent
  rw [wp_bind, wp_ofExcept]
  refine ⟨?_, fun e _ => hStop e s (Quiet.refl s)⟩
  intro entry hEntry
  split
  · rename_i hContains
    unfold deliver
    rw [wp_bind, wp_adaptExcept]
    refine ensureNotCancelled_wp ?_ (hStop _ _ ⟨rfl, rfl⟩)
    rw [wp_bind, wp_ofExcept]
    refine ⟨?_, fun e _ => hStop e _ ⟨rfl, rfl⟩⟩
    intro ordinal hOrdinal
    rw [okOr_eq_ok, checkedAddU64_eq_some] at hOrdinal
    rw [hOrdinal.2, wp_bind, wp_ofExcept]
    refine ⟨?_, fun e _ => hStop _ _ ⟨rfl, rfl⟩⟩
    intro pixels hPixels
    rw [wp_bind]
    exact hVisit entry pixels _ hEntry hContains hPixels ⟨rfl, rfl⟩
  · rename_i hContains
    exact hPass entry hEntry (Bool.eq_false_iff.2 hContains)

/-- The main loop.  `Inv` holds with the frame of `c` in hand, `Mid` once that
frame has been visited, `Fail` wherever the loop fails. -/
structure LoopRule (cancelled : Nat → Bool) (index : FrameIndex) (plan : ExtractionPlan)
    (visitor : Visitor E σ) (lastSelected : Nat)
    (Inv Mid : Nat → Nat → DecodedRgbaFrame → VideoDecoder → BatchState σ → Prop)
    (Fail : BatchExtractionError E → BatchState σ → Prop) : Prop where
  visit : ∀ {c n decoded decoder s}, Inv c n decoded decoder s →
    wp (visitCurrent cancelled index plan visitor c n decoded)
      (fun n' s' => Mid c n' decoded decoder s') Fail s
  read : ∀ {c n decoded decoder s frame decoder' rgba s'}, Mid c n decoded decoder s →
    c ≠ lastSelected → decoder.nextFrame = (.ok (some frame), decoder') →
    decoder'.snapshotCurrentFrameRgba frame = .ok rgba → Quiet s s' →
    Inv (c + 1) n rgba decoder' s'
  stop : ∀ {c n decoded decoder s e s'}, Mid c n decoded decoder s → c ≠ lastSelected →
    Quiet s s' → Fail (.failure e) s'

theorem extractOnward_round {lastSelected : Nat}
    {Inv Mid : Nat → Nat → DecodedRgbaFrame → VideoDecoder → BatchState σ → Prop}
    {Fail : BatchExtractionError E → BatchState σ → Prop}
    (hRule : LoopRule cancelled index plan visitor lastSelected Inv Mid Fail)
    {rounds c n : Nat} {decoded : DecodedRgbaFrame} {decoder : VideoDecoder} {s : BatchState σ}
    (hInv : Inv c n decoded decoder s)
    (hRest : ∀ r, rounds = r + 1 → ∀ n decoded' decoder' s', Inv (c + 1) n decoded' decoder' s' →
      wp (extractOnward cancelled index plan visitor lastSelected r (c + 1) n decoded' decoder')
        (fun n' s' => ∃ decoded decoder, Mid lastSelected n' decoded decoder s') Fail s') :
    wp (extractOnward cancelled index plan visitor lastSelected rounds c n decoded decoder)
      (fun n' s' => ∃ decoded decoder, Mid lastSelected n' decoded decoder s') Fail s := by
  unfold extractOnward
  rw [wp_bind]
  refine wp_mono (hRule.visit hInv) ?_ (fun _ _ h => h)
  intro n' s' hMid
  split
  · rename_i hLast
    rw [wp_pure]
    exact ⟨decoded, decoder, hLast ▸ hMid⟩
  · rename_i hMore
    rw [wp_bind, wp_ofExcept]
    refine ⟨?_, fun e _ => hRule.stop hMid hMore (Quiet.refl s')⟩
    intro next hNext
    rw [nextFrameId_ok hNext, wp_bind, wp_adaptExcept]
    refine nextDecoded_wp ?_ (fun e s'' hQuiet => hRule.stop hMid hMore hQuiet)
    intro frame decoder' rgba s'' hRead hSnapshot hQuiet
    cases rounds with
    | zero => exact hRule.stop hMid hMore hQuiet
    | succ r =>
        exact hRest r rfl n' rgba decoder' s''
          (hRule.read hMid hMore hRead hSnapshot hQuiet)

/-- **The whole loop.** -/
theorem extractOnward_rule {lastSelected : Nat}
    {Inv Mid : Nat → Nat → DecodedRgbaFrame → VideoDecoder → BatchState σ → Prop}
    {Fail : BatchExtractionError E → BatchState σ → Prop}
    (hRule : LoopRule cancelled index plan visitor lastSelected Inv Mid Fail) (rounds : Nat) :
    ∀ {c n : Nat} {decoded : DecodedRgbaFrame} {decoder : VideoDecoder} {s : BatchState σ},
      Inv c n decoded decoder s →
      wp (extractOnward cancelled index plan visitor lastSelected rounds c n decoded decoder)
        (fun n' s' => ∃ decoded decoder, Mid lastSelected n' decoded decoder s') Fail s := by
  induction rounds with
  | zero =>
      intro c n decoded decoder s hInv
      refine extractOnward_round hRule hInv ?_
      intro r hRounds
      cases hRounds
  | succ rounds ih =>
      intro c n decoded decoder s hInv
      refine extractOnward_round hRule hInv ?_
      intro r hRounds n' decoded' decoder' s' hInv'
      cases hRounds
      exact ih hInv'

end Alignment

/-! ## Positions -/

/-- The `n` frames from position `m` on carry the metadata of the rows from `a`
on. -/
def Shifted (S : List DecodedRgbaFrame) (m a n : Nat) : Prop :=
  ∀ j < n, ∃ f row, S[m + j]? = some f ∧ (timeline S)[a + j]? = some row ∧
    matchesIndexEntry f.frame row = true

theorem Shifted.succ {S : List DecodedRgbaFrame} {m a n : Nat} (h : Shifted S m a n)
    {f : DecodedRgbaFrame} {row : FrameIndexEntry} (hFrame : S[m + n]? = some f)
    (hRow : (timeline S)[a + n]? = some row) (hMatches : matchesIndexEntry f.frame row = true) :
    Shifted S m a (n + 1) := by
  intro j hj
  rcases Nat.lt_succ_iff_lt_or_eq.1 hj with hLt | rfl
  · exact h j hLt
  · exact ⟨f, row, hFrame, hRow, hMatches⟩

/-- The frame in hand for identity `c` is the one at position `m + (c - a)`, and
the frames since position `m` matched the rows since `a`. -/
structure At (S : List DecodedRgbaFrame) (m a c : Nat) (decoded : DecodedRgbaFrame)
    (decoder : VideoDecoder) : Prop where
  le : a ≤ c
  stands : StandsAt S (m + (c - a)) decoder
  frame : S[m + (c - a)]? = some decoded
  shifted : Shifted S m a (c - a)

/-- A copied frame is the one the session stands at. -/
theorem frame_of_read {S : List DecodedRgbaFrame} {p : Nat} {decoder decoder' : VideoDecoder}
    {frame : DecodedFrame} {rgba : DecodedRgbaFrame} (hEmits : decoder.script.Emits S p)
    (hNext : decoder.nextFrame = (.ok (some frame), decoder'))
    (hSnapshot : decoder'.snapshotCurrentFrameRgba frame = .ok rgba) :
    StandsAt S p decoder' ∧ S[p]? = some rgba := by
  obtain ⟨hStands, -⟩ := nextFrame_standsAt hEmits hNext
  obtain ⟨e, hCurrent, -, hFrame⟩ := hStands.current
  rw [snapshot_ok hCurrent hSnapshot]
  exact ⟨hStands, hFrame⟩

theorem at_of_read {S : List DecodedRgbaFrame} {m a : Nat} {decoder decoder' : VideoDecoder}
    {frame : DecodedFrame} {rgba : DecodedRgbaFrame} (hEmits : decoder.script.Emits S m)
    (hNext : decoder.nextFrame = (.ok (some frame), decoder'))
    (hSnapshot : decoder'.snapshotCurrentFrameRgba frame = .ok rgba) :
    At S m a a rgba decoder' := by
  obtain ⟨hStands, hFrame⟩ := frame_of_read hEmits hNext hSnapshot
  refine ⟨Nat.le_refl a, ?_, ?_, ?_⟩
  · rwa [Nat.sub_self]
  · rwa [Nat.sub_self]
  · rw [Nat.sub_self]
    exact fun j hj => absurd hj (Nat.not_lt_zero j)

/-- The next frame is in hand. -/
theorem At.next {S : List DecodedRgbaFrame} {m a c : Nat} {decoded : DecodedRgbaFrame}
    {decoder : VideoDecoder} (h : At S m a c decoded decoder) (hShifted : Shifted S m a (c - a + 1))
    {frame : DecodedFrame} {decoder' : VideoDecoder} {rgba : DecodedRgbaFrame}
    (hNext : decoder.nextFrame = (.ok (some frame), decoder'))
    (hSnapshot : decoder'.snapshotCurrentFrameRgba frame = .ok rgba) :
    At S m a (c + 1) rgba decoder' := by
  have hLe := h.le
  have hStep : c + 1 - a = c - a + 1 := by omega
  obtain ⟨hStands, hFrame⟩ := frame_of_read h.stands.onward hNext hSnapshot
  refine ⟨by omega, ?_, ?_, ?_⟩
  · rwa [hStep]
  · rwa [hStep]
  · rwa [hStep]

section Positions

variable [ContentHash] {S : List DecodedRgbaFrame} {index : FrameIndex} {m a c : Nat}
  {decoded : DecodedRgbaFrame} {decoder : VideoDecoder}

theorem requireEntry_ok (hIndex : IndexOf S index) {i : Nat} {missing : BatchExtractionFailure}
    {row : FrameIndexEntry} (h : requireEntry index i missing = .ok row) :
    (timeline S)[i]? = some row := by
  obtain ⟨found, hEntry, h⟩ := bind_eq_ok.1 h
  rw [okOr_eq_ok] at h
  rw [h] at hEntry
  exact hIndex.entry_some (mapError_eq_ok.1 hEntry)

theorem requireMatchingEntry_ok (hIndex : IndexOf S index) {entry : FrameIndexEntry}
    (h : requireMatchingEntry index c decoded = .ok entry) :
    (timeline S)[c]? = some entry ∧ matchesIndexEntry decoded.frame entry = true := by
  obtain ⟨row, hRow, h⟩ := bind_eq_ok.1 h
  obtain ⟨u, hMatches, h⟩ := bind_eq_ok.1 h
  cases h
  exact ⟨requireEntry_ok hIndex hRow, ensure_eq_ok.1 hMatches⟩

/-- The frame in hand has matched too. -/
theorem At.matched (h : At S m a c decoded decoder) (hIndex : IndexOf S index)
    {entry : FrameIndexEntry} (hEntry : requireMatchingEntry index c decoded = .ok entry) :
    Shifted S m a (c - a + 1) := by
  obtain ⟨hRow, hMatches⟩ := requireMatchingEntry_ok hIndex hEntry
  refine h.shifted.succ h.frame ?_ hMatches
  rwa [show a + (c - a) = c by have := h.le; omega]

theorem at_carried (hIndex : IndexOf S index) : CarriedBy index (At S m a) := by
  intro c decoded decoder entry frame decoder' rgba hAt hEntry hNext hSnapshot
  exact hAt.next (hAt.matched hIndex hEntry) hNext hSnapshot

end Positions

end FrameScope.Ports.BatchAlignment
