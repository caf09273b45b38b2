import FrameScope.Ports.FramePreparation

/-!
# Runs of frame preparations

The registration of a session is that of its newest preparation, and holds the
tokens this preparation works with; a preparation that has lost its
registration has its tokens cancelled (`Sound`).  Tokens belong to one session
(`Owned`), so a cancellation reaches no other.
-/

namespace FrameScope.Ports.FramePreparationLaw

open FrameScope.Verified.Runs
open FrameScope.Ports.Core
open FrameScope.Ports.OperationTokens (CancellationTokens)
open FrameScope.Ports.OperationTokens.CancellationTokens
open FrameScope.Ports.FramePreparation

/-! ## Tokens and generations -/

/-- The token was made for the session. -/
def Belongs (s : PreparationState) (sessionId : Int) (token : Nat) : Prop :=
  token < s.preparations.tokens.next ∧ s.owner token = sessionId

structure Owned (s : PreparationState) : Prop where
  owns : ∀ call preparation, s.calls call = .live preparation →
    ∀ token ∈ preparation.tokens, Belongs s preparation.guard.sessionId token
  owns_checked : ∀ call preparation, s.calls call = .live preparation →
    ∀ work, preparation.checked = some work → Belongs s preparation.guard.sessionId work
  owns_decoder : ∀ sessionId token, s.decoderCursor sessionId = some token →
    Belongs s sessionId token
  numbered : ∀ call preparation, s.calls call = .live preparation →
    preparation.guard.generation ≤ s.preparations.registry.nextGeneration
  distinct : ∀ call other preparation otherPreparation, s.calls call = .live preparation →
    s.calls other = .live otherPreparation →
    preparation.guard.generation = otherPreparation.guard.generation → call = other

/-- What becomes of a preparation in a step: it keeps its guard, and its tokens
are among those it had or had looked at. -/
structure Descends (before after : LivePreparation) : Prop where
  guard : after.guard = before.guard
  tokens : ∀ token ∈ after.tokens, token ∈ before.tokens ∨ before.checked = some token
  disturbed : after.disturbed = false → before.disturbed = false

theorem Descends.refl (preparation : LivePreparation) : Descends preparation preparation :=
  ⟨rfl, fun _ h => Or.inl h, fun h => h⟩

/-- A step in which no preparation begins. -/
structure Follows (s next : PreparationState) : Prop where
  next_le : s.preparations.tokens.next ≤ next.preparations.tokens.next
  generation_eq :
    next.preparations.registry.nextGeneration = s.preparations.registry.nextGeneration
  owner_eq : next.owner = s.owner
  live : ∀ call preparation, next.calls call = .live preparation →
    ∃ before, s.calls call = .live before ∧ Descends before preparation ∧
      ∀ work, preparation.checked = some work →
        before.checked = some work ∨ Belongs s before.guard.sessionId work
  decoder : ∀ sessionId token, next.decoderCursor sessionId = some token →
    Belongs s sessionId token

section Owned

variable {s next : PreparationState} {call : Nat} {sessionId : Int} {token : Nat}
  {preparation : LivePreparation}

theorem Follows.belongs (h : Follows s next) (hBelongs : Belongs s sessionId token) :
    Belongs next sessionId token := by
  constructor
  · exact hBelongs.1.trans_le h.next_le
  · rw [h.owner_eq]
    exact hBelongs.2

theorem Owned.follows (h : Owned s) (hFollows : Follows s next) : Owned next := by
  constructor
  · intro call preparation hCall token hToken
    obtain ⟨before, hBefore, hDescends, -⟩ := hFollows.live call preparation hCall
    apply hFollows.belongs
    rw [hDescends.guard]
    rcases hDescends.tokens token hToken with hOld | hChecked
    · exact h.owns call before hBefore token hOld
    · exact h.owns_checked call before hBefore token hChecked
  · intro call preparation hCall work hWork
    obtain ⟨before, hBefore, hDescends, hChecked⟩ := hFollows.live call preparation hCall
    apply hFollows.belongs
    rw [hDescends.guard]
    rcases hChecked work hWork with hOld | hBelongs
    · exact h.owns_checked call before hBefore work hOld
    · exact hBelongs
  · intro sessionId token hToken
    exact hFollows.belongs (hFollows.decoder sessionId token hToken)
  · intro call preparation hCall
    obtain ⟨before, hBefore, hDescends, -⟩ := hFollows.live call preparation hCall
    rw [hDescends.guard, hFollows.generation_eq]
    exact h.numbered call before hBefore
  · intro call other preparation otherPreparation hCall hOther hSame
    obtain ⟨before, hBefore, hDescends, -⟩ := hFollows.live call preparation hCall
    obtain ⟨otherBefore, hOtherBefore, hOtherDescends, -⟩ :=
      hFollows.live other otherPreparation hOther
    rw [hDescends.guard, hOtherDescends.guard] at hSame
    exact h.distinct call other before otherBefore hBefore hOtherBefore hSame

/-- Who is alive once the phase of `call` is set. -/
theorem live_setCall {phase : PreparationPhase} {other : Nat}
    (h : (s.setCall call phase).calls other = .live preparation) :
    other = call ∧ phase = .live preparation ∨ other ≠ call ∧ s.calls other = .live preparation := by
  by_cases hOther : other = call
  · subst hOther
    left
    simpa [PreparationState.setCall] using h
  · right
    simpa [PreparationState.setCall, hOther] using h

/-- A preparation of the session is disturbed, the others are as they were. -/
theorem live_disturb (h : (s.disturb sessionId).calls call = .live preparation) :
    ∃ before, s.calls call = .live before ∧ preparation =
      { before with disturbed := before.disturbed || before.guard.sessionId == sessionId } := by
  unfold PreparationState.disturb at h
  cases hCall : s.calls call with
  | idle => simp [hCall] at h
  | ended => simp [hCall] at h
  | live before =>
      simp only [hCall, PreparationPhase.live.injEq] at h
      exact ⟨before, rfl, h.symm⟩

end Owned

/-! ## Registrations -/

/-- The preparation still has its registration. -/
def Registered (s : PreparationState) (guard : FramePreparationGuard) : Prop :=
  ∃ active, s.preparations.registry.active guard.sessionId = some active ∧
    active.generation = guard.generation

structure Sound (s : PreparationState) : Prop extends Owned s where
  registered : ∀ sessionId active, s.preparations.registry.active sessionId = some active →
    ∃ call preparation, s.newest sessionId = some call ∧ s.calls call = .live preparation ∧
      preparation.guard = ⟨sessionId, active.generation, active.requestCancellation⟩ ∧
      active.workCancellation = preparation.adopted.getD active.requestCancellation
  unregistered : ∀ call preparation, s.calls call = .live preparation →
    ¬ Registered s preparation.guard → ∀ token ∈ preparation.tokens,
      s.preparations.tokens.isCancelled token = true
  warm : ∀ call preparation, s.calls call = .live preparation →
    preparation.disturbed = false → Registered s preparation.guard ∧
      (∀ token ∈ preparation.tokens, s.preparations.tokens.isCancelled token = false) ∧
      ∀ work, preparation.checked = some work → s.preparations.tokens.isCancelled work = false

section Sound

variable {s : PreparationState} {call : Nat} {sessionId : Int} {preparation : LivePreparation}
  {active : ActiveFramePreparation}

theorem sound_initial : Sound .initial where
  owns := fun _ _ h => by cases h
  owns_checked := fun _ _ h => by cases h
  owns_decoder := fun _ _ h => by cases h
  numbered := fun _ _ h => by cases h
  distinct := fun _ _ _ _ h => by cases h
  registered := fun _ _ h => by cases h
  unregistered := fun _ _ h => by cases h
  warm := fun _ _ h => by cases h

/-- The tokens of a registration belong to its session. -/
theorem Sound.active_belongs (h : Sound s)
    (hActive : s.preparations.registry.active sessionId = some active) :
    Belongs s sessionId active.requestCancellation ∧
      Belongs s sessionId active.workCancellation := by
  obtain ⟨call, preparation, -, hCall, hGuard, hWork⟩ := h.registered sessionId active hActive
  have hOwns := h.owns call preparation hCall
  rw [hGuard] at hOwns
  have hRequest : Belongs s sessionId active.requestCancellation :=
    hOwns _ (by simp [LivePreparation.tokens, hGuard])
  refine ⟨hRequest, ?_⟩
  rw [hWork]
  cases hAdopted : preparation.adopted with
  | none => exact hRequest
  | some work => exact hOwns work (by simp [LivePreparation.tokens, hAdopted])

/-- A registered preparation is the newest of its session, and the registration
holds its tokens. -/
theorem Sound.of_registered (h : Sound s) (hCall : s.calls call = .live preparation)
    (hActive : s.preparations.registry.active preparation.guard.sessionId = some active)
    (hGeneration : active.generation = preparation.guard.generation) :
    s.newest preparation.guard.sessionId = some call ∧
      active.requestCancellation = preparation.guard.requestCancellation ∧
      active.workCancellation =
        preparation.adopted.getD preparation.guard.requestCancellation := by
  obtain ⟨other, otherPreparation, hNewest, hOther, hGuard, hWork⟩ := h.registered _ active hActive
  have hSame : other = call := by
    apply h.distinct _ _ _ _ hOther hCall
    rw [hGuard]
    exact hGeneration
  subst hSame
  rw [hCall] at hOther
  cases hOther
  have hRequest : active.requestCancellation = preparation.guard.requestCancellation := by
    rw [hGuard]
  rw [← hRequest]
  exact ⟨hNewest, rfl, hWork⟩

/-- A preparation that looks at a token, or adopts none. -/
theorem Sound.setChecked (h : Sound s) (hCall : s.calls call = .live preparation)
    (checked : Option Nat)
    (hChecked : ∀ work, checked = some work → Belongs s preparation.guard.sessionId work ∧
      s.preparations.tokens.isCancelled work = false) :
    Sound (s.setCall call (.live { preparation with checked := checked })) := by
  have hFollows : Follows s (s.setCall call (.live { preparation with checked := checked })) := by
    refine ⟨le_rfl, rfl, rfl, ?_, h.owns_decoder⟩
    intro other otherPreparation hOther
    rcases live_setCall hOther with ⟨rfl, hPhase⟩ | ⟨-, hBefore⟩
    · cases hPhase
      exact ⟨preparation, hCall, ⟨rfl, fun _ h => Or.inl h, fun h => h⟩,
        fun work hWork => Or.inr (hChecked work hWork).1⟩
    · exact ⟨otherPreparation, hBefore, .refl _, fun _ h => Or.inl h⟩
  refine ⟨h.toOwned.follows hFollows, ?_, ?_, ?_⟩
  · intro sessionId active hActive
    obtain ⟨other, otherPreparation, hNewest, hOther, hGuard, hWork⟩ :=
      h.registered sessionId active hActive
    by_cases hSame : other = call
    · subst hSame
      rw [hCall] at hOther
      cases hOther
      exact ⟨other, _, hNewest, Function.update_self .., hGuard, hWork⟩
    · refine ⟨other, otherPreparation, hNewest, ?_, hGuard, hWork⟩
      rw [← hOther]
      exact Function.update_of_ne hSame ..
  · intro other otherPreparation hOther hNot
    rcases live_setCall hOther with ⟨rfl, hPhase⟩ | ⟨-, hBefore⟩
    · cases hPhase
      exact h.unregistered other preparation hCall hNot
    · exact h.unregistered other otherPreparation hBefore hNot
  · intro other otherPreparation hOther hCalm
    rcases live_setCall hOther with ⟨rfl, hPhase⟩ | ⟨-, hBefore⟩
    · cases hPhase
      obtain ⟨hRegistered, hTokens, -⟩ := h.warm other preparation hCall hCalm
      exact ⟨hRegistered, hTokens, fun work hWork => (hChecked work hWork).2⟩
    · exact h.warm other otherPreparation hBefore hCalm

theorem Sound.check (h : Sound s) (source : WorkSource) : Sound (s.check call source) := by
  unfold PreparationState.check
  cases hCall : s.calls call with
  | idle => exact h
  | ended => exact h
  | live preparation =>
      apply h.setChecked hCall
      intro work hWork
      rw [Option.filter_eq_some_iff] at hWork
      obtain ⟨hSource, hMay⟩ := hWork
      constructor
      · cases source with
        | retained => exact h.owns_decoder _ work hSource
        | opened =>
            cases hSource
            exact h.owns call preparation hCall _ (List.mem_cons_self ..)
      · unfold FramePreparations.mayAdopt at hMay
        simp only [Bool.not_eq_true', Bool.or_eq_false_iff] at hMay
        exact hMay.2

/-- A registered preparation makes the token it has looked at its work. -/
theorem Sound.setWork (h : Sound s) (hCall : s.calls call = .live preparation) {work : Nat}
    (hChecked : preparation.checked = some work)
    (hActive : s.preparations.registry.active preparation.guard.sessionId = some active)
    (hGeneration : active.generation = preparation.guard.generation) :
    Sound { s.setCall call (.live { preparation with adopted := some work, checked := none }) with
      preparations := s.preparations.setActive preparation.guard.sessionId
        (some { active with workCancellation := work }) } := by
  have hFollows : Follows s { s.setCall call
      (.live { preparation with adopted := some work, checked := none }) with
      preparations := s.preparations.setActive preparation.guard.sessionId
        (some { active with workCancellation := work }) } := by
    refine ⟨le_rfl, rfl, rfl, ?_, h.owns_decoder⟩
    intro other otherPreparation hOther
    rcases live_setCall hOther with ⟨rfl, hPhase⟩ | ⟨-, hBefore⟩
    · cases hPhase
      refine ⟨preparation, hCall, ⟨rfl, ?_, fun h => h⟩, fun _ h => by cases h⟩
      intro token hToken
      rcases List.mem_cons.1 hToken with rfl | hWork
      · exact Or.inl (List.mem_cons_self ..)
      · rw [Option.toList_some, List.mem_singleton] at hWork
        rw [hWork]
        exact Or.inr hChecked
    · exact ⟨otherPreparation, hBefore, .refl _, fun _ h => Or.inl h⟩
  have hSame : ∀ guard, Registered s guard ↔ Registered
      { s.setCall call (.live { preparation with adopted := some work, checked := none }) with
        preparations := s.preparations.setActive preparation.guard.sessionId
          (some { active with workCancellation := work }) } guard := by
    intro guard
    unfold Registered
    show _ ↔ ∃ found, Function.update s.preparations.registry.active _ _ guard.sessionId = _ ∧ _
    by_cases hSession : guard.sessionId = preparation.guard.sessionId
    · rw [hSession, Function.update_self, hActive]
      simp
    · rw [Function.update_of_ne hSession]
  refine ⟨h.toOwned.follows hFollows, ?_, ?_, ?_⟩
  · intro sessionId found hFound
    have hNewest := h.of_registered hCall hActive hGeneration
    by_cases hSession : sessionId = preparation.guard.sessionId
    · subst hSession
      simp only [FramePreparations.setActive, Function.update_self, Option.some.injEq] at hFound
      subst hFound
      refine ⟨call, _, hNewest.1, Function.update_self .., ?_, rfl⟩
      show preparation.guard = ⟨_, active.generation, active.requestCancellation⟩
      rw [hGeneration, hNewest.2.1]
    · simp only [FramePreparations.setActive, Function.update_of_ne hSession] at hFound
      obtain ⟨other, otherPreparation, hOtherNewest, hOther, hGuard, hWork⟩ :=
        h.registered sessionId found hFound
      refine ⟨other, otherPreparation, hOtherNewest, ?_, hGuard, hWork⟩
      rw [← hOther]
      apply Function.update_of_ne
      rintro rfl
      rw [hCall] at hOther
      cases hOther
      exact hSession (by rw [hGuard])
  · intro other otherPreparation hOther hNot
    rw [← hSame] at hNot
    rcases live_setCall hOther with ⟨rfl, hPhase⟩ | ⟨-, hBefore⟩
    · cases hPhase
      exact absurd ⟨active, hActive, hGeneration⟩ hNot
    · exact h.unregistered other otherPreparation hBefore hNot
  · intro other otherPreparation hOther hCalm
    rw [← hSame]
    rcases live_setCall hOther with ⟨rfl, hPhase⟩ | ⟨-, hBefore⟩
    · cases hPhase
      obtain ⟨hRegistered, hTokens, hLooked⟩ := h.warm other preparation hCall hCalm
      refine ⟨hRegistered, ?_, fun _ h => by cases h⟩
      intro token hToken
      rcases List.mem_cons.1 hToken with rfl | hWork
      · exact hTokens _ (List.mem_cons_self ..)
      · rw [Option.toList_some, List.mem_singleton] at hWork
        rw [hWork]
        exact hLooked work hChecked
    · exact h.warm other otherPreparation hBefore hCalm

theorem Sound.adopt (h : Sound s) : Sound (s.adopt call) := by
  unfold PreparationState.adopt
  cases hCall : s.calls call with
  | idle => exact h
  | ended => exact h
  | live preparation =>
      cases hChecked : preparation.checked with
      | none =>
          simp only [hChecked]
          exact h
      | some work =>
          simp only [hChecked]
          unfold FramePreparations.adoptLocked
          have hRefused := h.setChecked hCall none fun _ h => by cases h
          cases hActive : s.preparations.registry.active preparation.guard.sessionId with
          | none => exact hRefused
          | some active =>
              by_cases hNot : (active.generation ≠ preparation.guard.generation ||
                  s.preparations.tokens.isCancelled active.requestCancellation) = true
              · simp only [hNot, if_true]
                exact hRefused
              · simp only [hNot, Bool.false_eq_true, if_false]
                apply h.setWork hCall hChecked hActive
                simp only [ne_eq, decide_not, Bool.or_eq_true, Bool.not_eq_true',
                  decide_eq_false_iff_not, not_or, not_not] at hNot
                exact hNot.1

/-- The session retains a decoder of its own, or none. -/
theorem Sound.setDecoder (h : Sound s) (cursor : Option Nat)
    (hCursor : ∀ token, cursor = some token → Belongs s sessionId token) :
    Sound { s with decoderCursor := Function.update s.decoderCursor sessionId cursor } := by
  refine ⟨h.toOwned.follows ⟨le_rfl, rfl, rfl, ?_, ?_⟩, h.registered, h.unregistered, h.warm⟩
  · exact fun call preparation hCall => ⟨preparation, hCall, .refl _, fun _ h => Or.inl h⟩
  · intro other token hToken
    by_cases hOther : other = sessionId
    · subst hOther
      exact hCursor token (by simpa using hToken)
    · exact h.owns_decoder other token (by simpa [hOther] using hToken)

theorem Sound.retainDecoder (h : Sound s) : Sound (s.retainDecoder call) := by
  unfold PreparationState.retainDecoder
  cases hCall : s.calls call with
  | idle => exact h
  | ended => exact h
  | live preparation =>
      apply h.setDecoder
      intro token hToken
      cases hToken
      exact h.owns call preparation hCall _ (List.mem_cons_self ..)

/-- A step of its session disturbs a preparation and leaves it registered. -/
theorem Sound.disturb (h : Sound s) : Sound (s.disturb sessionId) := by
  have hFollows : Follows s (s.disturb sessionId) := by
    refine ⟨le_rfl, rfl, rfl, ?_, h.owns_decoder⟩
    intro call preparation hCall
    obtain ⟨before, hBefore, rfl⟩ := live_disturb hCall
    refine ⟨before, hBefore, ⟨rfl, fun _ h => Or.inl h, ?_⟩, fun _ h => Or.inl h⟩
    intro hCalm
    simp only [Bool.or_eq_false_iff] at hCalm
    exact hCalm.1
  refine ⟨h.toOwned.follows hFollows, ?_, ?_, ?_⟩
  · intro other active hActive
    obtain ⟨call, preparation, hNewest, hCall, hGuard, hWork⟩ := h.registered other active hActive
    refine ⟨call, { preparation with
      disturbed := preparation.disturbed || preparation.guard.sessionId == sessionId }, hNewest,
      ?_, hGuard, hWork⟩
    simp only [PreparationState.disturb, hCall]
  · intro call preparation hCall
    obtain ⟨before, hBefore, rfl⟩ := live_disturb hCall
    exact h.unregistered call before hBefore
  · intro call preparation hCall hCalm
    obtain ⟨before, hBefore, rfl⟩ := live_disturb hCall
    simp only [Bool.or_eq_false_iff] at hCalm
    exact h.warm call before hBefore hCalm.1

/-- The preparations of the session have all been disturbed. -/
def Disturbed (s : PreparationState) (sessionId : Int) : Prop :=
  ∀ call preparation, s.calls call = .live preparation →
    preparation.guard.sessionId = sessionId → preparation.disturbed = true

theorem disturbed_disturb : Disturbed (s.disturb sessionId) sessionId := by
  intro call preparation hCall hSession
  obtain ⟨before, -, rfl⟩ := live_disturb hCall
  simp only [Bool.or_eq_true, beq_iff_eq]
  exact Or.inr hSession

/-- Cancelling the tokens of a session cancels nothing of another one. -/
theorem isCancelled_cancelBoth_of_ne {p : FramePreparations} {token : Nat}
    (hRequest : token ≠ active.requestCancellation) (hWork : token ≠ active.workCancellation) :
    (p.cancelBoth active).tokens.isCancelled token = p.tokens.isCancelled token := by
  show ((p.tokens.cancel _).cancel _).isCancelled token = _
  rw [isCancelled_cancel_of_ne hWork, isCancelled_cancel_of_ne hRequest]

theorem isCancelled_cancelBoth {p : FramePreparations} {token : Nat}
    (h : token = active.requestCancellation ∨ token = active.workCancellation ∨
      p.tokens.isCancelled token = true) :
    (p.cancelBoth active).tokens.isCancelled token = true := by
  show ((p.tokens.cancel _).cancel _).isCancelled token = true
  rcases h with rfl | rfl | hBefore
  · exact isCancelled_cancel isCancelled_cancel_self
  · exact isCancelled_cancel_self
  · exact isCancelled_cancel (isCancelled_cancel hBefore)

/-- The registration of a disturbed session is cancelled. -/
theorem Sound.cancelBoth (h : Sound s) (hDisturbed : Disturbed s sessionId)
    (hActive : s.preparations.registry.active sessionId = some active) :
    Sound { s with preparations := s.preparations.cancelBoth active } := by
  obtain ⟨hRequest, hWork⟩ := h.active_belongs hActive
  have hElsewhere : ∀ other token, other ≠ sessionId → Belongs s other token →
      (s.preparations.cancelBoth active).tokens.isCancelled token =
        s.preparations.tokens.isCancelled token := by
    intro other token hOther hBelongs
    apply isCancelled_cancelBoth_of_ne
    · rintro rfl
      exact hOther (hBelongs.2.symm.trans hRequest.2)
    · rintro rfl
      exact hOther (hBelongs.2.symm.trans hWork.2)
  refine ⟨h.toOwned.follows ⟨le_rfl, rfl, rfl, ?_, h.owns_decoder⟩, h.registered, ?_, ?_⟩
  · exact fun call preparation hCall => ⟨preparation, hCall, .refl _, fun _ h => Or.inl h⟩
  · intro call preparation hCall hNot token hToken
    exact isCancelled_cancelBoth
      (Or.inr (Or.inr (h.unregistered call preparation hCall hNot token hToken)))
  · intro call preparation hCall hCalm
    have hOther : preparation.guard.sessionId ≠ sessionId := by
      intro hSame
      rw [hDisturbed call preparation hCall hSame] at hCalm
      cases hCalm
    obtain ⟨hRegistered, hTokens, hLooked⟩ := h.warm call preparation hCall hCalm
    refine ⟨hRegistered, ?_, ?_⟩
    · intro token hToken
      rw [← hTokens token hToken]
      exact hElsewhere _ token hOther (h.owns call preparation hCall token hToken)
    · intro work hWork
      rw [← hLooked work hWork]
      exact hElsewhere _ work hOther (h.owns_checked call preparation hCall work hWork)

theorem Sound.cancelActive (h : Sound s) : Sound (s.cancelActive sessionId) := by
  unfold PreparationState.cancelActive FramePreparations.cancelActiveFramePreparation
  by_cases hId : sessionId ≤ 0
  · simp only [hId, if_true]
    exact h.disturb
  · simp only [hId, if_false]
    cases hActive : s.preparations.registry.active sessionId with
    | none => exact h.disturb
    | some active => exact h.disturb.cancelBoth disturbed_disturb hActive

/-- A disturbed session whose registration is cancelled loses it. -/
theorem Sound.unregister (h : Sound s) (hDisturbed : Disturbed s sessionId)
    (hCancelled : ∀ active, s.preparations.registry.active sessionId = some active →
      s.preparations.tokens.isCancelled active.requestCancellation = true ∧
        s.preparations.tokens.isCancelled active.workCancellation = true) :
    Sound { s with preparations := s.preparations.setActive sessionId none } := by
  have hElsewhere : ∀ guard, guard.sessionId ≠ sessionId → (Registered s guard ↔
      Registered { s with preparations := s.preparations.setActive sessionId none } guard) := by
    intro guard hGuard
    unfold Registered
    show _ ↔ ∃ found, Function.update s.preparations.registry.active sessionId none _ = _ ∧ _
    rw [Function.update_of_ne hGuard]
  refine ⟨h.toOwned.follows ⟨le_rfl, rfl, rfl, ?_, h.owns_decoder⟩, ?_, ?_, ?_⟩
  · exact fun call preparation hCall => ⟨preparation, hCall, .refl _, fun _ h => Or.inl h⟩
  · intro other active hActive
    by_cases hOther : other = sessionId
    · subst hOther
      simp [FramePreparations.setActive] at hActive
    · exact h.registered other active (by simpa [FramePreparations.setActive, hOther] using hActive)
  · intro call preparation hCall hNot token hToken
    by_cases hRegistered : Registered s preparation.guard
    · have hSession : preparation.guard.sessionId = sessionId := by
        by_contra hOther
        exact hNot ((hElsewhere _ hOther).1 hRegistered)
      obtain ⟨active, hActive, hGeneration⟩ := hRegistered
      obtain ⟨-, hRequest, hWork⟩ := h.of_registered hCall hActive hGeneration
      rw [hSession] at hActive
      obtain ⟨hRequestOver, hWorkOver⟩ := hCancelled active hActive
      rcases List.mem_cons.1 hToken with rfl | hAdopted
      · rwa [hRequest] at hRequestOver
      · rw [Option.mem_toList] at hAdopted
        rw [hWork, hAdopted] at hWorkOver
        exact hWorkOver
    · exact h.unregistered call preparation hCall hRegistered token hToken
  · intro call preparation hCall hCalm
    have hOther : preparation.guard.sessionId ≠ sessionId := by
      intro hSame
      rw [hDisturbed call preparation hCall hSame] at hCalm
      cases hCalm
    obtain ⟨hRegistered, hRest⟩ := h.warm call preparation hCall hCalm
    exact ⟨(hElsewhere _ hOther).1 hRegistered, hRest⟩

/-! ## A call begins or ends -/

/-- A call that is not alive is over. -/
theorem Sound.setEnded (h : Sound s) (hCall : ∀ preparation, s.calls call ≠ .live preparation) :
    Sound (s.setCall call .ended) := by
  have hLive : ∀ other preparation, (s.setCall call .ended).calls other = .live preparation →
      s.calls other = .live preparation := by
    intro other preparation hOther
    rcases live_setCall hOther with ⟨-, hPhase⟩ | ⟨-, hBefore⟩
    · cases hPhase
    · exact hBefore
  refine ⟨h.toOwned.follows ⟨le_rfl, rfl, rfl, ?_, h.owns_decoder⟩, ?_, ?_, ?_⟩
  · exact fun other preparation hOther =>
      ⟨preparation, hLive other preparation hOther, .refl _, fun _ h => Or.inl h⟩
  · intro sessionId active hActive
    obtain ⟨other, preparation, hNewest, hOther, hGuard, hWork⟩ :=
      h.registered sessionId active hActive
    refine ⟨other, preparation, hNewest, ?_, hGuard, hWork⟩
    rw [← hOther]
    apply Function.update_of_ne
    rintro rfl
    exact hCall preparation hOther
  · exact fun other preparation hOther => h.unregistered other preparation (hLive _ _ hOther)
  · exact fun other preparation hOther => h.warm other preparation (hLive _ _ hOther)

/-- A drop takes the registration out that has the guard's generation. -/
theorem active_dropGuard {p : FramePreparations} {guard : FramePreparationGuard} :
    (p.dropGuard guard).registry.active sessionId = some active ↔
      p.registry.active sessionId = some active ∧
        ¬ (sessionId = guard.sessionId ∧ active.generation = guard.generation) := by
  unfold FramePreparations.dropGuard
  cases hFound : p.registry.active guard.sessionId with
  | none =>
      have hOther : p.registry.active sessionId = some active → sessionId ≠ guard.sessionId := by
        rintro hActive rfl
        rw [hFound] at hActive
        cases hActive
      exact ⟨fun hActive => ⟨hActive, fun hSame => hOther hActive hSame.1⟩, fun hActive => hActive.1⟩
  | some found =>
      by_cases hSession : sessionId = guard.sessionId
      · subst hSession
        by_cases hGeneration : found.generation = guard.generation
        · simp only [hGeneration, if_true, FramePreparations.setActive, Function.update_self, hFound,
            Option.some.injEq]
          constructor
          · intro h
            cases h
          · rintro ⟨rfl, hNot⟩
            exact absurd ⟨trivial, hGeneration⟩ hNot
        · simp only [hGeneration, if_false, hFound, Option.some.injEq]
          constructor
          · rintro rfl
            exact ⟨rfl, fun hSame => hGeneration hSame.2⟩
          · exact fun h => h.1
      · by_cases hGeneration : found.generation = guard.generation
        · simp [hGeneration, FramePreparations.setActive, hSession]
        · simp [hGeneration, hSession]

theorem tokens_dropGuard (p : FramePreparations) (guard : FramePreparationGuard) :
    (p.dropGuard guard).tokens = p.tokens := by
  unfold FramePreparations.dropGuard
  cases p.registry.active guard.sessionId with
  | none => rfl
  | some active =>
      by_cases h : active.generation = guard.generation
      · simp [h, FramePreparations.setActive]
      · simp [h]

theorem nextGeneration_dropGuard (p : FramePreparations) (guard : FramePreparationGuard) :
    (p.dropGuard guard).registry.nextGeneration = p.registry.nextGeneration := by
  unfold FramePreparations.dropGuard
  cases p.registry.active guard.sessionId with
  | none => rfl
  | some active =>
      by_cases h : active.generation = guard.generation
      · simp [h, FramePreparations.setActive]
      · simp [h]

theorem Sound.finish (h : Sound s) : Sound (s.finish call) := by
  unfold PreparationState.finish
  cases hCall : s.calls call with
  | idle => exact h
  | ended => exact h
  | live preparation =>
      have hLive : ∀ other otherPreparation,
          (s.setCall call .ended).calls other = .live otherPreparation →
          other ≠ call ∧ s.calls other = .live otherPreparation := by
        intro other otherPreparation hOther
        rcases live_setCall hOther with ⟨-, hPhase⟩ | hBefore
        · cases hPhase
        · exact hBefore
      have hSame : ∀ other otherPreparation, other ≠ call →
          s.calls other = .live otherPreparation → (Registered s otherPreparation.guard ↔
            Registered { s.setCall call .ended with
              preparations := s.preparations.dropGuard preparation.guard }
              otherPreparation.guard) := by
        intro other otherPreparation hNe hOther
        unfold Registered
        show _ ↔ ∃ found, (s.preparations.dropGuard preparation.guard).registry.active _ = _ ∧ _
        simp only [active_dropGuard]
        constructor
        · rintro ⟨active, hActive, hGeneration⟩
          refine ⟨active, ⟨hActive, fun hMine => hNe ?_⟩, hGeneration⟩
          exact h.distinct _ _ _ _ hOther hCall (hGeneration.symm.trans hMine.2)
        · rintro ⟨active, ⟨hActive, -⟩, hGeneration⟩
          exact ⟨active, hActive, hGeneration⟩
      have hFollows : Follows s { s.setCall call .ended with
          preparations := s.preparations.dropGuard preparation.guard } := by
        refine ⟨?_, nextGeneration_dropGuard _ _, rfl, ?_, h.owns_decoder⟩
        · show s.preparations.tokens.next ≤ (s.preparations.dropGuard _).tokens.next
          rw [tokens_dropGuard]
        · exact fun other otherPreparation hOther =>
            ⟨otherPreparation, (hLive _ _ hOther).2, .refl _, fun _ h => Or.inl h⟩
      refine ⟨h.toOwned.follows hFollows, ?_, ?_, ?_⟩
      · intro sessionId active hActive
        obtain ⟨hBefore, hNot⟩ := active_dropGuard.1 hActive
        obtain ⟨other, otherPreparation, hNewest, hOther, hGuard, hWork⟩ :=
          h.registered sessionId active hBefore
        refine ⟨other, otherPreparation, hNewest, ?_, hGuard, hWork⟩
        rw [← hOther]
        apply Function.update_of_ne
        rintro rfl
        rw [hCall] at hOther
        cases hOther
        rw [hGuard] at hNot
        exact hNot ⟨rfl, rfl⟩
      · intro other otherPreparation hOther hNot token hToken
        obtain ⟨hNe, hBefore⟩ := hLive other otherPreparation hOther
        show (s.preparations.dropGuard _).tokens.isCancelled token = true
        rw [tokens_dropGuard]
        exact h.unregistered other otherPreparation hBefore
          (fun hRegistered => hNot ((hSame other _ hNe hBefore).1 hRegistered)) token hToken
      · intro other otherPreparation hOther hCalm
        obtain ⟨hNe, hBefore⟩ := hLive other otherPreparation hOther
        obtain ⟨hRegistered, hRest⟩ := h.warm other otherPreparation hBefore hCalm
        refine ⟨(hSame other _ hNe hBefore).1 hRegistered, ?_⟩
        show (∀ token ∈ _, (s.preparations.dropGuard _).tokens.isCancelled token = false) ∧
          ∀ work, _ → (s.preparations.dropGuard _).tokens.isCancelled work = false
        rw [tokens_dropGuard]
        exact hRest

/-- The state in which a call has begun. -/
def begun (s : PreparationState) (call : Nat) (sessionId generation : Int) : PreparationState :=
  { s.setCall call (.live ⟨(s.preparations.register sessionId generation).1, none, none, false⟩)
    with
    preparations := (s.preparations.register sessionId generation).2
    newest := Function.update s.newest sessionId (some call)
    owner := Function.update s.owner s.preparations.tokens.next sessionId }

theorem Belongs.begun {other generation : Int} {token : Nat} (h : Belongs s other token) :
    Belongs (begun s call sessionId generation) other token := by
  obtain ⟨hLt, hOwner⟩ := h
  constructor
  · show token < s.preparations.tokens.next + 1
    omega
  · show Function.update s.owner s.preparations.tokens.next sessionId token = other
    rwa [Function.update_of_ne (by omega)]

/-- A session without a registration gets one with a new token. -/
theorem Sound.register {generation : Int} (h : Sound s) (hIdle : s.calls call = .idle)
    (hNone : s.preparations.registry.active sessionId = none)
    (hGeneration : s.preparations.registry.nextGeneration < generation) :
    Sound (begun s call sessionId generation) := by
  have hLive : ∀ other preparation,
      (begun s call sessionId generation).calls other = .live preparation →
      other = call ∧ preparation =
          ⟨⟨sessionId, generation, s.preparations.tokens.next⟩, none, none, false⟩ ∨
        other ≠ call ∧ s.calls other = .live preparation := by
    intro other preparation hOther
    rcases live_setCall hOther with ⟨hSame, hPhase⟩ | hBefore
    · cases hPhase
      exact Or.inl ⟨hSame, rfl⟩
    · exact Or.inr hBefore
  have hActive : ∀ other, other ≠ sessionId →
      (begun s call sessionId generation).preparations.registry.active other =
        s.preparations.registry.active other := by
    intro other hOther
    exact Function.update_of_ne hOther ..
  have hElsewhere : ∀ guard, guard.sessionId ≠ sessionId →
      (Registered s guard ↔ Registered (begun s call sessionId generation) guard) := by
    intro guard hGuard
    unfold Registered
    rw [hActive _ hGuard]
  have hNew : Registered (begun s call sessionId generation)
      ⟨sessionId, generation, s.preparations.tokens.next⟩ :=
    ⟨⟨generation, s.preparations.tokens.next, s.preparations.tokens.next⟩,
      Function.update_self .., rfl⟩
  have hOld : ∀ other preparation, s.calls other = .live preparation → ∀ token,
      Belongs s preparation.guard.sessionId token →
      (begun s call sessionId generation).preparations.tokens.isCancelled token =
        s.preparations.tokens.isCancelled token :=
    fun _ _ _ token hBelongs => isCancelled_new hBelongs.1
  constructor
  · constructor
    · intro other preparation hOther token hToken
      rcases hLive other preparation hOther with ⟨-, rfl⟩ | ⟨-, hBefore⟩
      · rw [LivePreparation.tokens, Option.toList_none, List.mem_singleton] at hToken
        subst hToken
        exact ⟨Nat.lt_succ_self _, Function.update_self ..⟩
      · exact (h.owns other preparation hBefore token hToken).begun
    · intro other preparation hOther work hWork
      rcases hLive other preparation hOther with ⟨-, rfl⟩ | ⟨-, hBefore⟩
      · cases hWork
      · exact (h.owns_checked other preparation hBefore work hWork).begun
    · exact fun other token hToken => (h.owns_decoder other token hToken).begun
    · intro other preparation hOther
      show preparation.guard.generation ≤ generation
      rcases hLive other preparation hOther with ⟨-, rfl⟩ | ⟨-, hBefore⟩
      · exact le_rfl
      · have := h.numbered other preparation hBefore
        omega
    · intro first second firstPreparation secondPreparation hFirst hSecond hSame
      rcases hLive first _ hFirst with ⟨rfl, rfl⟩ | ⟨-, hFirstBefore⟩
      · rcases hLive second _ hSecond with ⟨rfl, -⟩ | ⟨-, hSecondBefore⟩
        · rfl
        · have := h.numbered second _ hSecondBefore
          have : generation = secondPreparation.guard.generation := hSame
          omega
      · rcases hLive second _ hSecond with ⟨rfl, rfl⟩ | ⟨-, hSecondBefore⟩
        · have := h.numbered first _ hFirstBefore
          have : firstPreparation.guard.generation = generation := hSame
          omega
        · exact h.distinct first second _ _ hFirstBefore hSecondBefore hSame
  · intro other active hOther
    by_cases hSession : other = sessionId
    · subst hSession
      have hIs : active = ⟨generation, s.preparations.tokens.next, s.preparations.tokens.next⟩ := by
        simpa [FrameScope.Ports.FramePreparationLaw.begun, FramePreparations.register] using
          hOther.symm
      subst hIs
      exact ⟨call, _, Function.update_self .., Function.update_self .., rfl, rfl⟩
    · rw [hActive other hSession] at hOther
      obtain ⟨first, preparation, hNewest, hFirst, hGuard, hWork⟩ :=
        h.registered other active hOther
      refine ⟨first, preparation, ?_, ?_, hGuard, hWork⟩
      · rw [← hNewest]
        exact Function.update_of_ne hSession ..
      · rw [← hFirst]
        apply Function.update_of_ne
        rintro rfl
        rw [hIdle] at hFirst
        cases hFirst
  · intro other preparation hOther hNot token hToken
    rcases hLive other preparation hOther with ⟨-, rfl⟩ | ⟨-, hBefore⟩
    · exact absurd hNew hNot
    · rw [hOld other preparation hBefore token (h.owns other preparation hBefore token hToken)]
      apply h.unregistered other preparation hBefore _ token hToken
      intro hRegistered
      by_cases hSession : preparation.guard.sessionId = sessionId
      · obtain ⟨active, hFound, -⟩ := hRegistered
        rw [hSession, hNone] at hFound
        cases hFound
      · exact hNot ((hElsewhere _ hSession).1 hRegistered)
  · intro other preparation hOther hCalm
    rcases hLive other preparation hOther with ⟨-, rfl⟩ | ⟨-, hBefore⟩
    · refine ⟨hNew, ?_, fun _ h => by cases h⟩
      intro token hToken
      rw [LivePreparation.tokens, Option.toList_none, List.mem_singleton] at hToken
      subst hToken
      exact isCancelled_new_self
    · obtain ⟨hRegistered, hTokens, hLooked⟩ := h.warm other preparation hBefore hCalm
      have hSession : preparation.guard.sessionId ≠ sessionId := by
        intro hSame
        obtain ⟨active, hFound, -⟩ := hRegistered
        rw [hSame, hNone] at hFound
        cases hFound
      refine ⟨(hElsewhere _ hSession).1 hRegistered, ?_, ?_⟩
      · intro token hToken
        rw [hOld other preparation hBefore token (h.owns other preparation hBefore token hToken)]
        exact hTokens token hToken
      · intro work hWork
        rw [hOld other preparation hBefore work (h.owns_checked other preparation hBefore work hWork)]
        exact hLooked work hWork

theorem nextPositiveI64_gt {current next : Int} (h : nextPositiveI64 current = some next) :
    current < next := by
  unfold nextPositiveI64 at h
  by_cases hFits : InI64 (current + 1) ∧ 0 < current + 1
  · rw [if_pos hFits, Option.some.injEq] at h
    omega
  · rw [if_neg hFits] at h
    cases h

/-- Whatever was registered for the session is cancelled and taken out. -/
theorem Sound.supersede (h : Sound s) (sessionId : Int) :
    Sound { s.disturb sessionId with preparations := s.preparations.supersede sessionId } := by
  unfold FramePreparations.supersede
  cases hActive : s.preparations.registry.active sessionId with
  | none => exact h.disturb
  | some previous =>
      have hCancelled := h.disturb.cancelBoth (disturbed_disturb (s := s)) hActive
      refine hCancelled.unregister (disturbed_disturb (s := s)) ?_
      intro active hFound
      have hIs : previous = active := Option.some.inj (hActive.symm.trans hFound)
      subst hIs
      exact ⟨isCancelled_cancelBoth (Or.inl rfl), isCancelled_cancelBoth (Or.inr (Or.inl rfl))⟩

theorem active_supersede (p : FramePreparations) (sessionId : Int) :
    (p.supersede sessionId).registry.active sessionId = none := by
  unfold FramePreparations.supersede
  cases hActive : p.registry.active sessionId with
  | none => exact hActive
  | some previous => exact Function.update_self ..

theorem calls_disturb (h : s.calls call = .idle) (sessionId : Int) :
    (s.disturb sessionId).calls call = .idle := by
  simp only [PreparationState.disturb, h]

theorem Sound.start (h : Sound s) : Sound (s.start call sessionId) := by
  unfold PreparationState.start
  cases hCall : s.calls call with
  | live preparation => exact h
  | ended => exact h
  | idle =>
      have hIdle := calls_disturb hCall sessionId
      have hNotLive : ∀ preparation, (s.disturb sessionId).calls call ≠ .live preparation := by
        intro preparation hLive
        rw [hIdle] at hLive
        cases hLive
      unfold FramePreparations.beginFramePreparation
      by_cases hId : sessionId ≤ 0
      · simp only [hId, if_true]
        exact h.disturb.setEnded hNotLive
      · simp only [hId, if_false]
        have hOver := h.supersede sessionId
        cases hNext : nextPositiveI64 (s.preparations.supersede sessionId).registry.nextGeneration with
        | none => exact hOver.setEnded hNotLive
        | some generation =>
            exact hOver.register hIdle (active_supersede _ _) (nextPositiveI64_gt hNext)

theorem Sound.apply (event : PreparationEvent) (h : Sound s) : Sound (applyEvent s event) := by
  cases event with
  | start call sessionId => exact h.start
  | check call source => exact h.check source
  | adopt call => exact h.adopt
  | retainDecoder call => exact h.retainDecoder
  | releaseDecoder sessionId => exact h.setDecoder none fun _ h => by cases h
  | cancelActive sessionId => exact h.cancelActive
  | finish call => exact h.finish

/-! ## What is claimed -/

/-- A preparation that is not the newest of its session has lost its registration. -/
theorem Sound.superseded_unregistered (h : Sound s) (hOld : Superseded s call preparation) :
    ¬ Registered s preparation.guard := by
  rintro ⟨active, hActive, hGeneration⟩
  exact hOld.2 (h.of_registered hOld.1 hActive hGeneration).1

theorem adoptLocked_of_unregistered {work : Nat} (h : ¬ Registered s preparation.guard) :
    s.preparations.adoptLocked preparation.guard work = (false, s.preparations) := by
  unfold FramePreparations.adoptLocked
  cases hActive : s.preparations.registry.active preparation.guard.sessionId with
  | none => rfl
  | some active =>
      have hGeneration : active.generation ≠ preparation.guard.generation :=
        fun hSame => h ⟨active, hActive, hSame⟩
      simp [hGeneration]

theorem dropGuard_of_unregistered (h : ¬ Registered s preparation.guard) :
    s.preparations.dropGuard preparation.guard = s.preparations := by
  unfold FramePreparations.dropGuard
  cases hActive : s.preparations.registry.active preparation.guard.sessionId with
  | none => rfl
  | some active =>
      have hGeneration : active.generation ≠ preparation.guard.generation :=
        fun hSame => h ⟨active, hActive, hSame⟩
      simp [hGeneration]

theorem tokens_adoptLocked (p : FramePreparations) (guard : FramePreparationGuard) (work : Nat) :
    (p.adoptLocked guard work).2.tokens = p.tokens := by
  unfold FramePreparations.adoptLocked
  cases p.registry.active guard.sessionId with
  | none => rfl
  | some active =>
      by_cases hNot : (active.generation ≠ guard.generation ||
          p.tokens.isCancelled active.requestCancellation) = true
      · simp only [hNot, if_true]
      · simp only [hNot, Bool.false_eq_true, if_false]
        rfl

theorem tokens_adopt : (s.adopt call).preparations.tokens = s.preparations.tokens := by
  unfold PreparationState.adopt
  cases s.calls call with
  | idle => rfl
  | ended => rfl
  | live preparation =>
      cases hChecked : preparation.checked with
      | none => simp only [hChecked]
      | some work =>
          have hTokens := tokens_adoptLocked s.preparations preparation.guard work
          simp only [hChecked]
          cases hAdopt : s.preparations.adoptLocked preparation.guard work with
          | mk adopted preparations =>
              rw [hAdopt] at hTokens
              cases adopted with
              | false => rfl
              | true => exact hTokens

/-- An event of one session cancels no token of another. -/
theorem Sound.others_untouched (h : Sound s) (event : PreparationEvent) {token : Nat}
    (hToken : token < s.preparations.tokens.next)
    (hOther : s.sessionOf event ≠ some (s.owner token)) :
    (applyEvent s event).preparations.tokens.isCancelled token =
      s.preparations.tokens.isCancelled token := by
  have hBoth : ∀ sessionId active, sessionId ≠ s.owner token →
      s.preparations.registry.active sessionId = some active →
      (s.preparations.cancelBoth active).tokens.isCancelled token =
        s.preparations.tokens.isCancelled token := by
    intro sessionId active hSession hActive
    obtain ⟨hRequest, hWork⟩ := h.active_belongs hActive
    apply isCancelled_cancelBoth_of_ne
    · rintro rfl
      exact hSession hRequest.2.symm
    · rintro rfl
      exact hSession hWork.2.symm
  cases event with
  | start call sessionId =>
      have hSession : sessionId ≠ s.owner token := fun hSame => hOther (congrArg some hSame)
      have hOver : (s.preparations.supersede sessionId).tokens.isCancelled token =
          s.preparations.tokens.isCancelled token ∧
            token < (s.preparations.supersede sessionId).tokens.next := by
        unfold FramePreparations.supersede
        cases hActive : s.preparations.registry.active sessionId with
        | none => exact ⟨rfl, hToken⟩
        | some previous => exact ⟨hBoth sessionId previous hSession hActive, hToken⟩
      show (s.start call sessionId).preparations.tokens.isCancelled token = _
      unfold PreparationState.start
      cases s.calls call with
      | live preparation => rfl
      | ended => rfl
      | idle =>
          unfold FramePreparations.beginFramePreparation
          by_cases hId : sessionId ≤ 0
          · simp only [hId, if_true]
          · simp only [hId, if_false]
            cases nextPositiveI64 (s.preparations.supersede sessionId).registry.nextGeneration with
            | none => exact hOver.1
            | some generation => exact (isCancelled_new hOver.2).trans hOver.1
  | cancelActive sessionId =>
      have hSession : sessionId ≠ s.owner token := fun hSame => hOther (congrArg some hSame)
      show (s.preparations.cancelActiveFramePreparation sessionId).2.tokens.isCancelled token = _
      unfold FramePreparations.cancelActiveFramePreparation
      by_cases hId : sessionId ≤ 0
      · rw [if_pos hId]
      · rw [if_neg hId]
        cases hActive : s.preparations.registry.active sessionId with
        | none => rfl
        | some active => exact hBoth sessionId active hSession hActive
  | finish call =>
      show (s.finish call).preparations.tokens.isCancelled token = _
      unfold PreparationState.finish
      cases s.calls call with
      | idle => rfl
      | ended => rfl
      | live preparation =>
          show (s.preparations.dropGuard _).tokens.isCancelled token = _
          rw [tokens_dropGuard]
  | adopt call =>
      show (s.adopt call).preparations.tokens.isCancelled token = _
      rw [tokens_adopt]
  | check call source =>
      show (s.check call source).preparations.tokens.isCancelled token = _
      unfold PreparationState.check
      cases s.calls call with
      | idle => rfl
      | ended => rfl
      | live preparation => rfl
  | retainDecoder call =>
      show (s.retainDecoder call).preparations.tokens.isCancelled token = _
      unfold PreparationState.retainDecoder
      cases s.calls call with
      | idle => rfl
      | ended => rfl
      | live preparation => rfl
  | releaseDecoder sessionId => rfl

theorem Sound.law (h : Sound s) : PreparationLaw s where
  superseded_cancelled := fun call preparation hOld =>
    h.unregistered call preparation hOld.1 (h.superseded_unregistered hOld)
  superseded_adopts_nothing := by
    intro call preparation hOld work
    have hNot := h.superseded_unregistered hOld
    have hRequest := h.unregistered call preparation hOld.1 hNot
      preparation.guard.requestCancellation (List.mem_cons_self ..)
    constructor
    · unfold FramePreparations.adoptWorkCancellation FramePreparations.mayAdopt
      simp [hRequest]
    · exact adoptLocked_of_unregistered hNot
  superseded_drop := fun _ _ hOld => dropGuard_of_unregistered (h.superseded_unregistered hOld)
  others_untouched := fun event _ hToken hOther => h.others_untouched event hToken hOther
  owns_work := fun call preparation hCall token hToken =>
    (h.owns call preparation hCall token hToken).2
  owns_decoder := fun sessionId token hToken => (h.toOwned.owns_decoder sessionId token hToken).2
  completes_warm := by
    intro call preparation hCall hCalm token hToken
    show (s.finish call).preparations.tokens.isCancelled token = false
    unfold PreparationState.finish
    rw [hCall]
    show (s.preparations.dropGuard _).tokens.isCancelled token = false
    rw [tokens_dropGuard]
    exact (h.warm call preparation hCall hCalm).2.1 token hToken

end Sound

/-- In every state that preparations, adoptions, cancellations and drops lead
to, over any sessions, supersession reaches exactly the older work of its
session. -/
theorem frame_preparation_supersession (events : List PreparationEvent) :
    PreparationLaw (events.foldl applyEvent .initial) :=
  (run_invariant_of_step (fun _ event => Sound.apply event) sound_initial events).law

end FrameScope.Ports.FramePreparationLaw
