import FrameScope.Verified.KeyedTable
import FrameScope.Ports.PreviewCancellation

/-!
# Runs of previews and exact navigations

A registration belongs to a live guard, and no two guards have one generation
(`Sound`).  The count of a session is the number of its live guards as long as
it does not saturate, and behind a positive count the registered preview is
cancelled (`Counted`).
-/

namespace FrameScope.Ports.PreviewCancellationLaw

open FrameScope.Verified.KeyedTable (eraseIdx_split)
open FrameScope.Verified.Runs
open FrameScope.Ports.Core
open FrameScope.Ports.OperationTokens (CancellationTokens)
open FrameScope.Ports.OperationTokens.CancellationTokens
open FrameScope.Ports.PreviewCancellation

/-! ## What the sections do -/

section Sections

variable {p : PreviewCancellations} {sessionId other : Int} {cancellation : Nat}
  {operation : ActivePreviewOperation}

@[simp] theorem registry_cancelActive : (p.cancelActive sessionId).registry = p.registry := by
  unfold PreviewCancellations.cancelActive
  cases p.registry.active sessionId with
  | none => rfl
  | some operation => rfl

@[simp] theorem next_cancelActive : (p.cancelActive sessionId).tokens.next = p.tokens.next := by
  unfold PreviewCancellations.cancelActive
  cases p.registry.active sessionId with
  | none => rfl
  | some operation => rfl

/-- The registered preview ends up cancelled, and nothing is revived. -/
theorem isCancelled_cancelActive {token : Nat}
    (h : p.tokens.isCancelled token = true ∨
      ∃ operation, p.registry.active sessionId = some operation ∧
        operation.cancellation = token) :
    (p.cancelActive sessionId).tokens.isCancelled token = true := by
  unfold PreviewCancellations.cancelActive
  cases hActive : p.registry.active sessionId with
  | none =>
      rcases h with hBefore | ⟨operation, hIs, -⟩
      · exact hBefore
      · rw [hActive] at hIs
        cases hIs
  | some operation =>
      rcases h with hBefore | ⟨found, hIs, rfl⟩
      · exact isCancelled_cancel hBefore
      · rw [hActive, Option.some.injEq] at hIs
        subst hIs
        exact isCancelled_cancel_self

theorem active_removeActive :
    (p.removeActive sessionId).registry.active other = some operation ↔
      other ≠ sessionId ∧ p.registry.active other = some operation := by
  show Function.update (p.cancelActive sessionId).registry.active sessionId none other = _ ↔ _
  rw [registry_cancelActive]
  by_cases h : other = sessionId
  · simp [h]
  · simp [h]

/-- A drop takes the registration out that has the guard's generation. -/
theorem active_dropPreview {guard : PreviewOperationGuard} :
    (p.dropPreview guard).registry.active sessionId = some operation ↔
      p.registry.active sessionId = some operation ∧
        ¬ (sessionId = guard.sessionId ∧ operation.generation = guard.generation) := by
  unfold PreviewCancellations.dropPreview
  cases hFound : p.registry.active guard.sessionId with
  | none =>
      have hOther : p.registry.active sessionId = some operation → sessionId ≠ guard.sessionId := by
        rintro hActive rfl
        rw [hFound] at hActive
        cases hActive
      exact ⟨fun hActive => ⟨hActive, fun hSame => hOther hActive hSame.1⟩, fun hActive => hActive.1⟩
  | some found =>
      by_cases hSession : sessionId = guard.sessionId
      · subst hSession
        by_cases hGeneration : found.generation = guard.generation
        · simp only [hGeneration, if_true, PreviewCancellations.setActive, Function.update_self,
            hFound, Option.some.injEq]
          constructor
          · intro h
            cases h
          · rintro ⟨rfl, hNot⟩
            exact absurd ⟨trivial, hGeneration⟩ hNot
        · simp only [hGeneration, if_false, hFound, Option.some.injEq]
          constructor
          · rintro rfl
            exact ⟨rfl, fun hSame => hGeneration hSame.2⟩
          · exact fun h => h.1
      · by_cases hGeneration : found.generation = guard.generation
        · simp [hGeneration, PreviewCancellations.setActive, hSession]
        · simp [hGeneration, hSession]

@[simp] theorem tokens_dropPreview {guard : PreviewOperationGuard} :
    (p.dropPreview guard).tokens = p.tokens := by
  unfold PreviewCancellations.dropPreview
  cases p.registry.active guard.sessionId with
  | none => rfl
  | some operation =>
      by_cases h : operation.generation = guard.generation
      · simp [h, PreviewCancellations.setActive]
      · simp [h]

@[simp] theorem nextGeneration_dropPreview {guard : PreviewOperationGuard} :
    (p.dropPreview guard).registry.nextGeneration = p.registry.nextGeneration := by
  unfold PreviewCancellations.dropPreview
  cases p.registry.active guard.sessionId with
  | none => rfl
  | some operation =>
      by_cases h : operation.generation = guard.generation
      · simp [h, PreviewCancellations.setActive]
      · simp [h]

@[simp] theorem exactInFlight_dropPreview {guard : PreviewOperationGuard} :
    (p.dropPreview guard).registry.exactInFlight = p.registry.exactInFlight := by
  unfold PreviewCancellations.dropPreview
  cases p.registry.active guard.sessionId with
  | none => rfl
  | some operation =>
      by_cases h : operation.generation = guard.generation
      · simp [h, PreviewCancellations.setActive]
      · simp [h]

/-- What a begin does under the lock: it is kept out, or the registered preview
ends and the new one is registered if a generation is left. -/
theorem beginPreviewLocked_cases (p : PreviewCancellations) (sessionId : Int)
    (cancellation : Nat) :
    (p.exactNavigationInFlight sessionId = true ∧
        ∃ failure, p.beginPreviewLocked sessionId cancellation = (.error failure, p)) ∨
      p.exactNavigationInFlight sessionId = false ∧
        ((2 ^ 64 ≤ p.registry.nextGeneration + 1 ∧
            ∃ failure, p.beginPreviewLocked sessionId cancellation =
              (.error failure, p.removeActive sessionId)) ∨
          p.beginPreviewLocked sessionId cancellation =
            (.ok ⟨sessionId, p.registry.nextGeneration + 1⟩,
              { p.removeActive sessionId with registry :=
                { (p.removeActive sessionId).registry with
                  nextGeneration := p.registry.nextGeneration + 1
                  active := Function.update (p.removeActive sessionId).registry.active sessionId
                    (some ⟨p.registry.nextGeneration + 1, cancellation⟩) } })) := by
  unfold PreviewCancellations.beginPreviewLocked
  by_cases hExact : p.exactNavigationInFlight sessionId = true
  · left
    exact ⟨hExact, _, if_pos hExact⟩
  · right
    rw [if_neg hExact]
    refine ⟨by simpa using hExact, ?_⟩
    have hGeneration : (p.removeActive sessionId).registry.nextGeneration =
        p.registry.nextGeneration := by
      show (p.cancelActive sessionId).registry.nextGeneration = _
      rw [registry_cancelActive]
    unfold PreviewCancellations.register
    rw [hGeneration]
    cases hNext : checkedAddU64 p.registry.nextGeneration 1 with
    | none =>
        left
        refine ⟨?_, _, rfl⟩
        simpa [checkedAddU64] using hNext
    | some generation =>
        right
        obtain ⟨-, rfl⟩ := checkedAddU64_eq_some.1 hNext
        rfl

end Sections

/-! ## Registrations and guards -/

structure Sound (s : BarrierState) : Prop where
  made_begins : ∀ pending ∈ s.begins, pending.cancellation < s.previews.tokens.next
  made_active : ∀ sessionId operation,
    s.previews.registry.active sessionId = some operation →
    operation.cancellation < s.previews.tokens.next
  guarded : ∀ sessionId operation, s.previews.registry.active sessionId = some operation →
    ⟨sessionId, operation.generation⟩ ∈ s.previewGuards
  numbered : ∀ guard ∈ s.previewGuards, guard.generation ≤ s.previews.registry.nextGeneration
  distinct : (s.previewGuards.map (·.generation)).Nodup
  registered : ∀ guard ∈ s.exactGuards, guard.registered = decide (0 < guard.sessionId)

section Sound

variable {s : BarrierState} {i : Nat} {sessionId : Int} {cancellation : Nat}

theorem sound_initial : Sound .initial where
  made_begins := fun _ h => by cases h
  made_active := fun _ _ h => by cases h
  guarded := fun _ _ h => by cases h
  numbered := fun _ h => by cases h
  distinct := List.nodup_nil
  registered := fun _ h => by cases h

/-- A step that leaves the guards of previews alone, and keeps or removes
registrations. -/
theorem Sound.shrink (h : Sound s) {previews : PreviewCancellations} {begins : List PendingBegin}
    (hNext : s.previews.tokens.next ≤ previews.tokens.next)
    (hBegins : ∀ pending ∈ begins, pending.cancellation < previews.tokens.next)
    (hActive : ∀ sessionId operation, previews.registry.active sessionId = some operation →
      s.previews.registry.active sessionId = some operation)
    (hGeneration : previews.registry.nextGeneration = s.previews.registry.nextGeneration) :
    Sound { s with previews := previews, begins := begins } where
  made_begins := hBegins
  made_active := fun sessionId operation hFound =>
    (h.made_active sessionId operation (hActive sessionId operation hFound)).trans_le hNext
  guarded := fun sessionId operation hFound =>
    h.guarded sessionId operation (hActive sessionId operation hFound)
  numbered := by
    intro guard hGuard
    show guard.generation ≤ previews.registry.nextGeneration
    rw [hGeneration]
    exact h.numbered guard hGuard
  distinct := h.distinct
  registered := h.registered

theorem Sound.newToken (h : Sound s) : Sound s.newToken :=
  h.shrink (Nat.le_succ _) (fun pending hPending => (h.made_begins pending hPending).trans
    (Nat.lt_succ_self _)) (fun _ _ hActive => hActive) rfl

theorem Sound.cancelActive (h : Sound s) :
    Sound { s with previews := s.previews.cancelActive sessionId } := by
  apply h.shrink
  · rw [next_cancelActive]
  · rw [next_cancelActive]
    exact h.made_begins
  · rw [registry_cancelActive]
    exact fun _ _ hActive => hActive
  · rw [registry_cancelActive]

theorem Sound.beginPreview (h : Sound s) : Sound (s.beginPreview sessionId cancellation) := by
  unfold BarrierState.beginPreview
  by_cases hRefused : (s.previews.tokens.next ≤ cancellation ||
      s.previews.tokens.isCancelled cancellation) = true
  · rwa [if_pos hRefused]
  · rw [if_neg hRefused]
    simp only [Bool.or_eq_true, decide_eq_true_eq, not_or] at hRefused
    refine h.shrink le_rfl ?_ (fun _ _ hActive => hActive) rfl
    intro pending hPending
    rcases List.mem_append.1 hPending with hOld | hNew
    · exact h.made_begins pending hOld
    · rw [List.mem_singleton] at hNew
      rw [hNew]
      show cancellation < s.previews.tokens.next
      omega

/-- A new registration comes with a new guard. -/
theorem Sound.register (h : Sound s) (sessionId : Int) (cancellation : Nat)
    (begins : List PendingBegin)
    (hBegins : ∀ pending ∈ begins, pending.cancellation < s.previews.tokens.next)
    (hCancellation : cancellation < s.previews.tokens.next) :
    Sound { s with
      previews := { s.previews with registry := { s.previews.registry with
        nextGeneration := s.previews.registry.nextGeneration + 1
        active := Function.update s.previews.registry.active sessionId
          (some ⟨s.previews.registry.nextGeneration + 1, cancellation⟩) } }
      begins := begins
      previewGuards :=
        s.previewGuards ++ [⟨sessionId, s.previews.registry.nextGeneration + 1⟩] } := by
  have hNow : ∀ other operation, Function.update s.previews.registry.active sessionId
      (some ⟨s.previews.registry.nextGeneration + 1, cancellation⟩) other = some operation →
      other = sessionId ∧ operation = ⟨s.previews.registry.nextGeneration + 1, cancellation⟩ ∨
        s.previews.registry.active other = some operation := by
    intro other operation hFound
    by_cases hOther : other = sessionId
    · left
      rw [hOther, Function.update_self, Option.some.injEq] at hFound
      exact ⟨hOther, hFound.symm⟩
    · right
      rwa [Function.update_of_ne hOther] at hFound
  constructor
  · exact hBegins
  · intro other operation hFound
    rcases hNow other operation hFound with ⟨-, rfl⟩ | hBefore
    · exact hCancellation
    · exact h.made_active other operation hBefore
  · intro other operation hFound
    show _ ∈ s.previewGuards ++ [_]
    rcases hNow other operation hFound with ⟨rfl, rfl⟩ | hBefore
    · simp
    · exact List.mem_append_left _ (h.guarded other operation hBefore)
  · intro guard hGuard
    show guard.generation ≤ s.previews.registry.nextGeneration + 1
    rcases List.mem_append.1 hGuard with hOld | hNew
    · have := h.numbered guard hOld
      omega
    · rw [List.mem_singleton] at hNew
      rw [hNew]
  · rw [List.map_append, List.map_cons, List.map_nil]
    apply List.Nodup.append h.distinct (List.nodup_singleton _)
    intro generation hOld hNew
    rw [List.mem_singleton] at hNew
    obtain ⟨guard, hGuard, rfl⟩ := List.mem_map.1 hOld
    have hBound := h.numbered guard hGuard
    rw [show guard.generation = s.previews.registry.nextGeneration + 1 from hNew] at hBound
    omega
  · exact h.registered

theorem Sound.lockPreview (h : Sound s) : Sound (s.lockPreview i) := by
  unfold BarrierState.lockPreview
  cases hPending : s.begins[i]? with
  | none => exact h
  | some pending =>
      have hBegins : ∀ other ∈ s.begins.eraseIdx i, other.cancellation < s.previews.tokens.next :=
        fun other hOther => h.made_begins other (List.mem_of_mem_eraseIdx hOther)
      have hToken := h.made_begins pending (List.mem_of_getElem? hPending)
      have hRemoved : Sound { s with
          previews := s.previews.removeActive pending.sessionId
          begins := s.begins.eraseIdx i } := by
        apply h.shrink
        · exact le_of_eq next_cancelActive.symm
        · show ∀ other ∈ s.begins.eraseIdx i, _ < (s.previews.cancelActive _).tokens.next
          rw [next_cancelActive]
          exact hBegins
        · exact fun other operation hActive => (active_removeActive.1 hActive).2
        · show (s.previews.cancelActive _).registry.nextGeneration = _
          rw [registry_cancelActive]
      rcases beginPreviewLocked_cases s.previews pending.sessionId pending.cancellation with
        ⟨-, failure, hBegin⟩ | ⟨-, ⟨-, failure, hBegin⟩ | hBegin⟩
      · simp only [hBegin]
        exact h.shrink le_rfl hBegins (fun _ _ hActive => hActive) rfl
      · simp only [hBegin]
        exact hRemoved
      · simp only [hBegin]
        have hRegistry : (s.previews.removeActive pending.sessionId).registry.nextGeneration =
            s.previews.registry.nextGeneration := by
          show (s.previews.cancelActive _).registry.nextGeneration = _
          rw [registry_cancelActive]
        have hTokens : (s.previews.removeActive pending.sessionId).tokens.next =
            s.previews.tokens.next := next_cancelActive
        have hRegistered := hRemoved.register pending.sessionId pending.cancellation (s.begins.eraseIdx i)
          (by rw [hTokens]; exact hBegins) (by rw [hTokens]; exact hToken)
        simp only [hRegistry] at hRegistered
        exact hRegistered

theorem Sound.beginExact (h : Sound s) : Sound (s.beginExact sessionId) := by
  have hBefore : ∀ previews : PreviewCancellations, previews.tokens.next = s.previews.tokens.next →
      previews.registry.active = s.previews.registry.active →
      previews.registry.nextGeneration = s.previews.registry.nextGeneration →
      ∀ guard : ExactNavigationGuard, guard.registered = decide (0 < guard.sessionId) →
      Sound { s with previews := previews, exactGuards := s.exactGuards ++ [guard] } := by
    intro previews hNext hActive hGeneration guard hGuard
    have hShrunk : Sound { s with previews := previews, begins := s.begins } := by
      apply h.shrink (le_of_eq hNext.symm) _ _ hGeneration
      · rw [hNext]
        exact h.made_begins
      · rw [hActive]
        exact fun _ _ hFound => hFound
    refine ⟨hShrunk.made_begins, hShrunk.made_active, hShrunk.guarded, hShrunk.numbered,
      hShrunk.distinct, ?_⟩
    intro other hOther
    rcases List.mem_append.1 hOther with hOld | hNew
    · exact h.registered other hOld
    · rw [List.mem_singleton] at hNew
      rw [hNew, hGuard]
  unfold BarrierState.beginExact PreviewCancellations.beginExactNavigation
  by_cases hId : sessionId ≤ 0
  · simp only [hId, if_true]
    apply hBefore _ rfl rfl rfl
    simp [hId]
  · simp only [hId, if_false]
    apply hBefore
    · exact next_cancelActive
    · rw [registry_cancelActive]
      rfl
    · rw [registry_cancelActive]
      rfl
    · have hPos : 0 < sessionId := by omega
      simp [hPos]

/-- The guard at a position is the only one with its generation. -/
theorem Sound.generation_ne (h : Sound s) {j : Nat} {guard other : PreviewOperationGuard}
    (hNe : i ≠ j) (hGuard : s.previewGuards[i]? = some guard)
    (hOther : s.previewGuards[j]? = some other) : other.generation ≠ guard.generation := by
  intro hSame
  have hAt : (s.previewGuards.map (·.generation))[i]? = some guard.generation := by
    rw [List.getElem?_map, hGuard]
    rfl
  have hOtherAt : (s.previewGuards.map (·.generation))[j]? = some guard.generation := by
    rw [List.getElem?_map, hOther, ← hSame]
    rfl
  have hBound := (List.getElem?_eq_some_iff.1 hAt).1
  exact hNe ((List.getElem?_inj hBound h.distinct).1 (hAt.trans hOtherAt.symm))

theorem Sound.dropPreview (h : Sound s) : Sound (s.dropPreview i) := by
  unfold BarrierState.dropPreview
  cases hGuard : s.previewGuards[i]? with
  | none => exact h
  | some guard =>
      constructor
      · show ∀ pending ∈ s.begins, _ < (s.previews.dropPreview guard).tokens.next
        rw [tokens_dropPreview]
        exact h.made_begins
      · intro sessionId operation hActive
        show _ < (s.previews.dropPreview guard).tokens.next
        rw [tokens_dropPreview]
        exact h.made_active sessionId operation (active_dropPreview.1 hActive).1
      · intro sessionId operation hActive
        obtain ⟨hFound, hNot⟩ := active_dropPreview.1 hActive
        obtain ⟨j, hj⟩ := List.mem_iff_getElem?.1 (h.guarded sessionId operation hFound)
        have hNe : j ≠ i := by
          rintro rfl
          rw [hGuard, Option.some.injEq] at hj
          exact hNot (by simp [hj])
        exact List.mem_eraseIdx_iff_getElem?.2 ⟨j, hNe, hj⟩
      · intro other hOther
        show other.generation ≤ (s.previews.dropPreview guard).registry.nextGeneration
        rw [nextGeneration_dropPreview]
        exact h.numbered other (List.mem_of_mem_eraseIdx hOther)
      · exact h.distinct.sublist ((List.eraseIdx_sublist ..).map _)
      · exact h.registered

theorem Sound.dropExact (h : Sound s) : Sound (s.dropExact i) := by
  unfold BarrierState.dropExact
  cases hGuard : s.exactGuards[i]? with
  | none => exact h
  | some guard =>
      have hSame : (s.previews.dropExact guard).tokens = s.previews.tokens ∧
          (s.previews.dropExact guard).registry.active = s.previews.registry.active ∧
          (s.previews.dropExact guard).registry.nextGeneration =
            s.previews.registry.nextGeneration := by
        unfold PreviewCancellations.dropExact
        cases guard.registered with
        | false => exact ⟨rfl, rfl, rfl⟩
        | true =>
            cases s.previews.registry.exactInFlight guard.sessionId with
            | none => exact ⟨rfl, rfl, rfl⟩
            | some count =>
                by_cases hLast : count ≤ 1
                · simp [hLast, PreviewCancellations.setExactInFlight]
                · simp [hLast, PreviewCancellations.setExactInFlight]
      obtain ⟨hTokens, hActive, hGeneration⟩ := hSame
      have hShrunk : Sound { s with previews := s.previews.dropExact guard, begins := s.begins } := by
        apply h.shrink _ _ _ hGeneration
        · rw [hTokens]
        · rw [hTokens]
          exact h.made_begins
        · rw [hActive]
          exact fun _ _ hFound => hFound
      refine ⟨hShrunk.made_begins, hShrunk.made_active, hShrunk.guarded, hShrunk.numbered,
        hShrunk.distinct, ?_⟩
      exact fun other hOther => h.registered other (List.mem_of_mem_eraseIdx hOther)

theorem Sound.apply (event : BarrierEvent) (h : Sound s) : Sound (applyEvent s event) := by
  cases event with
  | newToken => exact h.newToken
  | beginPreview sessionId cancellation => exact h.beginPreview
  | lockPreview i => exact h.lockPreview
  | beginExact sessionId => exact h.beginExact
  | cancelPreview sessionId =>
      show Sound { s with previews := (s.previews.cancelSessionPreview sessionId).2 }
      unfold PreviewCancellations.cancelSessionPreview
      by_cases hId : sessionId ≤ 0
      · rwa [if_pos hId]
      · rw [if_neg hId]
        exact h.cancelActive
  | dropPreview i => exact h.dropPreview
  | dropExact i => exact h.dropExact

end Sound

/-! ## The count of one session -/

/-- The count is the number of live guards, with no entry for none of them. -/
structure Counted (sessionId : Int) (s : BarrierState) : Prop where
  counted : s.previews.registry.exactInFlight sessionId =
    if s.liveExact sessionId = 0 then none else some (s.liveExact sessionId)
  cancelled : 0 < s.liveExact sessionId →
    ∀ operation, s.previews.registry.active sessionId = some operation →
      s.previews.tokens.isCancelled operation.cancellation = true

section Counted

variable {s : BarrierState} {i : Nat} {sessionId other : Int} {cancellation : Nat}

theorem counted_initial : Counted sessionId .initial where
  counted := rfl
  cancelled := fun h => absurd h (lt_irrefl 0)

theorem Counted.inFlight (h : Counted sessionId s) :
    s.previews.exactNavigationInFlight sessionId = decide (0 < s.liveExact sessionId) := by
  unfold PreviewCancellations.exactNavigationInFlight
  rw [h.counted]
  by_cases hLive : s.liveExact sessionId = 0
  · simp [hLive]
  · simp [hLive, Nat.pos_of_ne_zero hLive]

/-- A step that leaves the count of the session alone, revives no token and
registers nothing for the session. -/
theorem Counted.mono (h : Counted sessionId s) {next : BarrierState}
    (hLive : next.liveExact sessionId = s.liveExact sessionId)
    (hCount : next.previews.registry.exactInFlight sessionId =
      s.previews.registry.exactInFlight sessionId)
    (hActive : ∀ operation, next.previews.registry.active sessionId = some operation →
      s.previews.registry.active sessionId = some operation)
    (hTokens : ∀ operation, s.previews.registry.active sessionId = some operation →
      s.previews.tokens.isCancelled operation.cancellation = true →
      next.previews.tokens.isCancelled operation.cancellation = true) :
    Counted sessionId next := by
  constructor
  · rw [hCount, hLive]
    exact h.counted
  · rw [hLive]
    intro hPos operation hFound
    have hBefore := hActive operation hFound
    exact hTokens operation hBefore (h.cancelled hPos operation hBefore)

theorem Counted.newToken (h : Counted sessionId s) (hSound : Sound s) :
    Counted sessionId s.newToken := by
  refine h.mono rfl rfl (fun _ hActive => hActive) ?_
  intro operation hFound hCancelled
  have hMade := hSound.made_active sessionId operation hFound
  show s.previews.tokens.new.isCancelled _ = true
  rwa [isCancelled_new hMade]

theorem Counted.beginPreview (h : Counted sessionId s) :
    Counted sessionId (s.beginPreview other cancellation) := by
  unfold BarrierState.beginPreview
  by_cases hRefused : (s.previews.tokens.next ≤ cancellation ||
      s.previews.tokens.isCancelled cancellation) = true
  · rwa [if_pos hRefused]
  · rw [if_neg hRefused]
    exact h.mono rfl rfl (fun _ hActive => hActive) fun _ _ hCancelled => hCancelled

/-- A preview registers only where the count is zero. -/
theorem Counted.lockPreview (h : Counted sessionId s) : Counted sessionId (s.lockPreview i) := by
  unfold BarrierState.lockPreview
  cases hPending : s.begins[i]? with
  | none => exact h
  | some pending =>
      have hExact : (s.previews.removeActive pending.sessionId).registry.exactInFlight =
          s.previews.registry.exactInFlight := by
        show (s.previews.cancelActive _).registry.exactInFlight = _
        rw [registry_cancelActive]
      have hTokens : ∀ token, s.previews.tokens.isCancelled token = true →
          (s.previews.removeActive pending.sessionId).tokens.isCancelled token = true :=
        fun token hCancelled => isCancelled_cancelActive (Or.inl hCancelled)
      rcases beginPreviewLocked_cases s.previews pending.sessionId pending.cancellation with
        ⟨-, failure, hBegin⟩ | ⟨hFree, ⟨-, failure, hBegin⟩ | hBegin⟩
      · simp only [hBegin]
        exact h.mono rfl rfl (fun _ hActive => hActive) fun _ _ hCancelled => hCancelled
      · simp only [hBegin]
        refine h.mono rfl ?_ ?_ ?_
        · exact congrFun hExact sessionId
        · exact fun operation hActive => (active_removeActive.1 hActive).2
        · exact fun operation _ => hTokens operation.cancellation
      · simp only [hBegin]
        by_cases hSession : sessionId = pending.sessionId
        · subst hSession
          rw [h.inFlight, decide_eq_false_iff_not] at hFree
          constructor
          · show (s.previews.removeActive pending.sessionId).registry.exactInFlight
              pending.sessionId = _
            rw [hExact]
            exact h.counted
          · exact fun hPos => absurd hPos hFree
        · refine h.mono rfl ?_ ?_ ?_
          · exact congrFun hExact sessionId
          · intro operation hActive
            have hBefore : (s.previews.removeActive pending.sessionId).registry.active sessionId =
                some operation := by
              rw [← hActive]
              exact (Function.update_of_ne hSession ..).symm
            exact (active_removeActive.1 hBefore).2
          · exact fun operation _ => hTokens operation.cancellation

theorem liveExact_append (guard : ExactNavigationGuard) (previews : PreviewCancellations) :
    ({ s with previews := previews, exactGuards := s.exactGuards ++ [guard] } :
      BarrierState).liveExact sessionId =
        s.liveExact sessionId + if guard.sessionId = sessionId then 1 else 0 := by
  show (s.exactGuards ++ [guard]).countP _ = _
  rw [List.countP_append, List.countP_singleton]
  simp [BarrierState.liveExact]

/-- An exact navigation adds one to the count and cancels the preview. -/
theorem Counted.beginExact (h : Counted sessionId s) (hId : 0 < sessionId)
    (hRoom : HasRoom sessionId s (.beginExact other)) :
    Counted sessionId (s.beginExact other) := by
  unfold BarrierState.beginExact PreviewCancellations.beginExactNavigation
  by_cases hOther : other ≤ 0
  · simp only [hOther, if_true]
    have hNe : other ≠ sessionId := by omega
    refine h.mono ?_ rfl (fun _ hActive => hActive) fun _ _ hCancelled => hCancelled
    rw [liveExact_append, if_neg hNe, Nat.add_zero]
  · simp only [hOther, if_false]
    by_cases hSame : other = sessionId
    · subst hSame
      have hLive := hRoom rfl
      constructor
      · rw [liveExact_append, if_pos rfl]
        show ((s.previews.setExactInFlight other _).cancelActive other).registry.exactInFlight other =
          if s.liveExact other + 1 = 0 then none else some (s.liveExact other + 1)
        rw [registry_cancelActive, if_neg (by omega), h.counted]
        show Function.update s.previews.registry.exactInFlight other _ other = _
        rw [Function.update_self, Option.some.injEq]
        unfold saturatingAddU32
        by_cases hNone : s.liveExact other = 0
        · simp [hNone]
        · simp only [hNone, if_false, Option.getD_some]
          omega
      · intro _ operation hActive
        rw [registry_cancelActive] at hActive
        exact isCancelled_cancelActive (Or.inr ⟨operation, hActive, rfl⟩)
    · apply h.mono
      · rw [liveExact_append, if_neg hSame, Nat.add_zero]
      · rw [registry_cancelActive]
        exact Function.update_of_ne (Ne.symm hSame) ..
      · rw [registry_cancelActive]
        exact fun _ hActive => hActive
      · exact fun operation _ hCancelled => isCancelled_cancelActive (Or.inl hCancelled)

theorem Counted.cancelPreview (h : Counted sessionId s) :
    Counted sessionId (s.cancelPreview other) := by
  unfold BarrierState.cancelPreview PreviewCancellations.cancelSessionPreview
  by_cases hOther : other ≤ 0
  · rwa [if_pos hOther]
  · rw [if_neg hOther]
    refine h.mono rfl ?_ ?_ ?_
    · rw [registry_cancelActive]
    · rw [registry_cancelActive]
      exact fun _ hActive => hActive
    · exact fun operation _ hCancelled => isCancelled_cancelActive (Or.inl hCancelled)

theorem Counted.dropPreview (h : Counted sessionId s) : Counted sessionId (s.dropPreview i) := by
  unfold BarrierState.dropPreview
  cases s.previewGuards[i]? with
  | none => exact h
  | some guard =>
      refine h.mono rfl ?_ ?_ ?_
      · rw [exactInFlight_dropPreview]
      · exact fun operation hActive => (active_dropPreview.1 hActive).1
      · intro operation _ hCancelled
        rwa [tokens_dropPreview]

/-- The drop of a guard takes one from the count, and the entry with the last. -/
theorem Counted.dropExact (h : Counted sessionId s) (hId : 0 < sessionId) (hSound : Sound s) :
    Counted sessionId (s.dropExact i) := by
  unfold BarrierState.dropExact
  cases hGuard : s.exactGuards[i]? with
  | none => exact h
  | some guard =>
      obtain ⟨before, after, hSplit, hErase, -⟩ := eraseIdx_split hGuard
      have hRegistered := hSound.registered guard (List.mem_of_getElem? hGuard)
      have hLive : s.liveExact sessionId =
          (s.exactGuards.eraseIdx i).countP (·.sessionId = sessionId) +
            if guard.sessionId = sessionId then 1 else 0 := by
        unfold BarrierState.liveExact
        rw [hSplit, ← hSplit, hErase, hSplit, List.countP_append, List.countP_append,
          List.countP_cons]
        simp only [decide_eq_true_eq]
        omega
      by_cases hSame : guard.sessionId = sessionId
      · have hPos : guard.registered = true := by
          rw [hRegistered, hSame]
          exact decide_eq_true hId
        rw [if_pos hSame] at hLive
        have hCount := h.counted
        rw [if_neg (by omega)] at hCount
        unfold PreviewCancellations.dropExact
        simp only [hPos, hSame, hCount, Bool.not_true, Bool.false_eq_true, if_false]
        by_cases hLast : s.liveExact sessionId ≤ 1
        · simp only [hLast, if_true]
          constructor
          · show Function.update s.previews.registry.exactInFlight sessionId none sessionId =
              if (s.exactGuards.eraseIdx i).countP _ = 0 then none else _
            rw [Function.update_self, if_pos (by omega)]
          · intro hSome
            have : 0 < (s.exactGuards.eraseIdx i).countP (·.sessionId = sessionId) := hSome
            omega
        · simp only [hLast, if_false]
          constructor
          · show Function.update s.previews.registry.exactInFlight sessionId _ sessionId =
              if (s.exactGuards.eraseIdx i).countP _ = 0 then none
                else some ((s.exactGuards.eraseIdx i).countP _)
            rw [Function.update_self, if_neg (by omega), Option.some.injEq]
            omega
          · exact fun _ operation hActive => h.cancelled (by omega) operation hActive
      · rw [if_neg hSame, Nat.add_zero] at hLive
        have hRest : (s.previews.dropExact guard).tokens = s.previews.tokens ∧
            (s.previews.dropExact guard).registry.active = s.previews.registry.active ∧
            (s.previews.dropExact guard).registry.exactInFlight sessionId =
              s.previews.registry.exactInFlight sessionId := by
          unfold PreviewCancellations.dropExact
          cases guard.registered with
          | false => exact ⟨rfl, rfl, rfl⟩
          | true =>
              cases s.previews.registry.exactInFlight guard.sessionId with
              | none => exact ⟨rfl, rfl, rfl⟩
              | some count =>
                  by_cases hLast : count ≤ 1
                  · simp [hLast, PreviewCancellations.setExactInFlight, Ne.symm hSame]
                  · simp [hLast, PreviewCancellations.setExactInFlight, Ne.symm hSame]
        obtain ⟨hTokens, hActive, hCount⟩ := hRest
        refine h.mono hLive.symm hCount ?_ ?_
        · rw [hActive]
          exact fun _ hFound => hFound
        · rw [hTokens]
          exact fun _ _ hCancelled => hCancelled

theorem Counted.apply (event : BarrierEvent) (h : Counted sessionId s) (hId : 0 < sessionId)
    (hSound : Sound s) (hRoom : HasRoom sessionId s event) :
    Counted sessionId (applyEvent s event) := by
  cases event with
  | newToken => exact h.newToken hSound
  | beginPreview other cancellation => exact h.beginPreview
  | lockPreview i => exact h.lockPreview
  | beginExact other => exact h.beginExact hId hRoom
  | cancelPreview other => exact h.cancelPreview
  | dropPreview i => exact h.dropPreview
  | dropExact i => exact h.dropExact hId hSound

/-- Behind a positive count both halves of a begin fail. -/
theorem Counted.refused (h : Counted sessionId s) (hPos : 0 < s.liveExact sessionId) :
    ∃ failure, (s.previews.beginPreviewLocked sessionId cancellation).1 = .error failure := by
  unfold PreviewCancellations.beginPreviewLocked
  rw [if_pos (h.inFlight.trans (decide_eq_true hPos))]
  exact ⟨_, rfl⟩

theorem Counted.law (h : Counted sessionId s) (hSound : Sound s) : BarrierLaw s sessionId where
  counted := by
    rw [h.counted]
    by_cases hLive : s.liveExact sessionId = 0
    · simp [hLive]
    · simp [hLive]
  refused := by
    intro hPos cancellation
    refine ⟨?_, h.refused hPos⟩
    unfold PreviewCancellations.beginPreviewOperationWithToken
    by_cases hCancelled : s.previews.tokens.isCancelled cancellation = true
    · rw [if_pos hCancelled]
      exact ⟨_, rfl⟩
    · rw [if_neg hCancelled]
      exact h.refused hPos
  cancelled := h.cancelled
  kept := by
    intro i j guard newer hNe hGuard hNewer operation hActive hIs
    rw [active_dropPreview]
    refine ⟨hActive, fun hMine => ?_⟩
    exact hSound.generation_ne hNe hGuard hNewer (hIs.symm.trans hMine.2)
  emptied := by
    intro hNoPreview hNoExact
    constructor
    · cases hActive : s.previews.registry.active sessionId with
      | none => rfl
      | some operation =>
          exact absurd rfl (hNoPreview _ (hSound.guarded sessionId operation hActive))
    · rw [h.counted, if_pos hNoExact]

end Counted

/-- As long as the count of a session does not saturate, its barrier holds in
every state that begins, cancellations and drops lead to. -/
theorem exact_navigation_barrier {sessionId : Int} (hId : 0 < sessionId)
    (events : List BarrierEvent) (h : Meets applyEvent (HasRoom sessionId) .initial events) :
    BarrierLaw (events.foldl applyEvent .initial) sessionId := by
  have hStep : ∀ (s : BarrierState) (event : BarrierEvent), Sound s ∧ Counted sessionId s →
      HasRoom sessionId s event →
      Sound (applyEvent s event) ∧ Counted sessionId (applyEvent s event) := by
    intro s event hInv hRoom
    exact ⟨hInv.1.apply event, hInv.2.apply event hId hInv.1 hRoom⟩
  obtain ⟨hSound, hCounted⟩ := run_invariant hStep ⟨sound_initial, counted_initial⟩ h
  exact hCounted.law hSound

/-- Two nested exact navigations, a preview between them and one after. -/
def nestedNavigations : List BarrierEvent :=
  [.newToken, .beginPreview 7 0, .lockPreview 0, .beginExact 7, .beginExact 7, .dropExact 0,
    .dropPreview 0, .dropExact 0]

theorem exact_navigation_barrier_nested :
    BarrierLaw (nestedNavigations.foldl applyEvent .initial) 7 := by
  apply exact_navigation_barrier (by decide)
  refine ⟨trivial, trivial, trivial, fun _ => ?_, fun _ => ?_, trivial, trivial, trivial, trivial⟩
  · decide
  · decide

/-! ## A count that saturates -/

/-- The count stops at the largest `u32`, the guards do not. -/
theorem beginExact_replicate (n : Nat) :
    ((List.replicate (n + 1) (.beginExact 1)).foldl applyEvent .initial).previews.registry.exactInFlight
        1 = some (min (n + 1) (2 ^ 32 - 1)) ∧
      ((List.replicate (n + 1) (.beginExact 1)).foldl applyEvent .initial).liveExact 1 = n + 1 := by
  have hStep : ∀ (s : BarrierState) (count live : Nat),
      (s.previews.registry.exactInFlight 1).getD 0 = count → s.liveExact 1 = live →
      (s.beginExact 1).previews.registry.exactInFlight 1 = some (min (count + 1) (2 ^ 32 - 1)) ∧
        (s.beginExact 1).liveExact 1 = live + 1 := by
    intro s count live hCount hLive
    constructor
    · show ((s.previews.setExactInFlight 1 _).cancelActive 1).registry.exactInFlight 1 = _
      rw [registry_cancelActive, hCount]
      exact Function.update_self 1 _ s.previews.registry.exactInFlight
    · show (s.exactGuards ++ [_]).countP _ = _
      rw [List.countP_append, ← hLive]
      rfl
  induction n with
  | zero => exact hStep .initial 0 0 rfl rfl
  | succ n ih =>
      rw [List.replicate_succ', List.foldl_append]
      obtain ⟨hCount, hLive⟩ := ih
      have hNext := hStep ((List.replicate (n + 1) (.beginExact 1)).foldl applyEvent .initial)
        (min (n + 1) (2 ^ 32 - 1)) (n + 1) (by rw [hCount]; rfl) hLive
      refine ⟨?_, hNext.2⟩
      refine hNext.1.trans ?_
      rw [Option.some.injEq]
      omega

/-- With `2 ^ 32` exact navigations of one session in flight the count is one
too low. -/
theorem exactInFlight_saturates :
    ¬ BarrierLaw ((List.replicate (2 ^ 32) (.beginExact 1)).foldl applyEvent .initial) 1 := by
  intro h
  obtain ⟨hCount, hLive⟩ := beginExact_replicate (2 ^ 32 - 1)
  have hCounted := h.counted
  rw [show (2 : Nat) ^ 32 = 2 ^ 32 - 1 + 1 by norm_num] at hCounted
  rw [hCount, hLive, Option.getD_some] at hCounted
  omega

end FrameScope.Ports.PreviewCancellationLaw
