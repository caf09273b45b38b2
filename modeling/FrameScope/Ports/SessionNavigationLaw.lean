import FrameScope.Ports.SessionLifetimesLaw

/-!
# When the controller and the native session agree

A navigation that a newer one supersedes has moved the native session all the
same, and its result is dropped.  The two agree as long as whoever leaves the
native session elsewhere is followed by the newest request: `Due` says which
frame the requests in flight will leave on show.
-/

namespace FrameScope.Ports.SessionNavigationLaw

open FrameScope.Verified.Runs
open FrameScope.Ports.SessionController
open FrameScope.Ports.SessionLifetimesLaw

/-- The snapshot's current frame is the native session's. -/
def Agrees (s : ControllerState) : Prop :=
  ∀ session, s.snapshot = some session →
    s.native.current session.sessionId = some session.currentFrame

/-- The steps of `step`, `jumpToFrame` and `jumpToTimestamp`. -/
def IsNavigation : ControllerEvent → Prop
  | .start _ .navigate => True
  | .advance _ => True
  | .navigationReturns _ _ => True
  | _ => False

/-- What the request with the given revision is about to do: `some none` while
its native call has not answered, then the frame that it will show. -/
def pending (revision : Int) : CallPhase → Option (Option (Option Int))
  | .navigating _ own => if own = revision then some none else none
  | .navigated sessionId own (.success session _) =>
      if own = revision ∧ session.sessionId = sessionId then some (some session.currentFrame)
      else none
  | _ => none

/-- `frame` is what the newest request or, without one, the snapshot shows, or the
native call of the newest request has not answered. -/
def Due (s : ControllerState) (frame : Option Int) : Prop :=
  (∃ k, pending s.revision (s.calls k) = some none) ∨
  (∃ k, pending s.revision (s.calls k) = some (some frame)) ∨
    (∀ k, pending s.revision (s.calls k) = none) ∧ s.snapshot.map (·.currentFrame) = some frame

/-- The frame to which the answer moves the session, if it does. -/
def movedTo (sessionId : Int) : NativeMicroscope → Option (Option Int)
  | .success session _ =>
      if session.sessionId = sessionId then some session.currentFrame else none
  | .failure _ _ _ => none

/-- A native call moves the session for the newest request or to the frame that is
due, and the newest request fails only while the two agree. -/
def InStep (s : ControllerState) : ControllerEvent → Prop
  | .navigationReturns k answer => ∀ sessionId revision,
      s.calls k = .navigating sessionId revision →
        match movedTo sessionId answer with
        | some frame => revision = s.revision ∨ Due s frame
        | none => revision = s.revision → Agrees s
  | _ => True

variable {s t : ControllerState} {k : Nat} {p : CallPhase} {target : Int}

/-- The phases of a navigation of session `target`. -/
inductive Navigates (target : Int) : CallPhase → Prop
  | idle : Navigates target .idle
  | refused (refusal : Refusal) : Navigates target (.refused false refusal)
  | targeted : Navigates target (.targeted target)
  | navigating (revision : Int) : Navigates target (.navigating target revision)
  | navigated (revision : Int) (result : NativeMicroscope) :
      Navigates target (.navigated target revision result)
  | returned (result : CallResult) : Navigates target (.returned result)

/-- What holds in every state of a run of navigations of session `target`. -/
structure Navigable (target : Int) (s : ControllerState) : Prop where
  revisions : Revisions s
  phases : ∀ k, Navigates target (s.calls k)
  shown : s.shownSession = some target
  covered : ∃ frame, s.native.current target = some frame ∧ Due s frame

/-- A request with something pending holds the current revision. -/
theorem held_of_pending {revision : Int} {what : Option (Option Int)}
    (h : pending revision p = some what) : p.heldRevision = some revision := by
  cases p with
  | navigating sessionId own =>
      by_cases hOwn : own = revision
      · rw [hOwn]
        rfl
      · simp [pending, hOwn] at h
  | navigated sessionId own result =>
      cases result with
      | failure code message engine => cases h
      | success session engine =>
          by_cases hOwn : own = revision
          · rw [hOwn]
            rfl
          · simp [pending, hOwn] at h
  | _ => cases h

/-- The one request that holds the current revision decides what is pending. -/
theorem pending_none_of_held (hRevisions : Revisions s)
    (hHeld : (s.calls k).heldRevision = some s.revision) {j : Nat} (hj : j ≠ k) :
    pending s.revision (s.calls j) = none := by
  cases hPending : pending s.revision (s.calls j) with
  | none => rfl
  | some what => exact absurd (hRevisions.distinct j k _ (held_of_pending hPending) hHeld) hj

theorem Due.update {frame : Option Int} (h : Due s frame)
    (hCalls : t.calls = Function.update s.calls k p) (hRevision : t.revision = s.revision)
    (hSnapshot : t.snapshot = s.snapshot)
    (hPending : pending s.revision p = pending s.revision (s.calls k)) : Due t frame := by
  have hSame : ∀ i, pending t.revision (t.calls i) = pending s.revision (s.calls i) := by
    intro i
    rw [hRevision, hCalls]
    by_cases hi : i = k
    · rw [hi, Function.update_self, hPending]
    · rw [Function.update_of_ne hi]
  unfold Due
  simp only [hSame, hSnapshot]
  exact h

theorem navigates_update (h : ∀ i, Navigates target (s.calls i)) (hPhase : Navigates target p)
    (i : Nat) : Navigates target (Function.update s.calls k p i) := by
  by_cases hi : i = k
  · rw [hi, Function.update_self]
    exact hPhase
  · rw [Function.update_of_ne hi]
    exact h i

/-- A call goes on without a new revision and with the same thing pending. -/
theorem Navigable.keep (h : Navigable target s) (hPhase : Navigates target p)
    (hHeld : ∀ revision, p.heldRevision = some revision →
      (s.calls k).heldRevision = some revision)
    (hPending : pending s.revision p = pending s.revision (s.calls k)) :
    Navigable target (s.setCall k p) := by
  obtain ⟨frame, hNative, hDue⟩ := h.covered
  exact ⟨h.revisions.keep rfl hHeld rfl, navigates_update h.phases hPhase, h.shown, frame, hNative,
    hDue.update rfl rfl rfl hPending⟩

theorem Navigable.startNavigate (h : Navigable target s) (hIdle : s.calls k = .idle) :
    Navigable target (s.startNavigate k) := by
  unfold ControllerState.startNavigate
  have hShown := h.shown
  unfold ControllerState.shownSession at hShown
  cases hSnapshot : s.snapshot with
  | none =>
      rw [hSnapshot] at hShown
      cases hShown
  | some session =>
      rw [hSnapshot] at hShown
      cases hShown
      exact h.keep .targeted (fun _ hHeld => by cases hHeld) (by rw [hIdle]; rfl)

theorem Navigable.takeRevision (h : Navigable target s) (hTargeted : s.calls k = .targeted target) :
    Navigable target (s.takeRevision k false (.navigating target)) := by
  unfold ControllerState.takeRevision
  cases hNext : nextRevision s.revision with
  | none =>
      exact h.keep (.refused _) (fun _ hHeld => by cases hHeld) (by rw [hTargeted]; rfl)
  | some next =>
      obtain ⟨frame, hNative, -⟩ := h.covered
      refine ⟨h.revisions.takes hNext rfl, navigates_update h.phases (.navigating next), h.shown,
        frame, hNative, .inl ⟨k, ?_⟩⟩
      show pending next (Function.update s.calls k _ k) = some none
      rw [Function.update_self]
      exact if_pos rfl

/-- While the two agree, the shown frame is due once nothing is pending. -/
theorem due_of_agrees (h : Navigable target s) (hAgrees : Agrees s) {frame : Option Int}
    (hNative : s.native.current target = some frame) :
    s.snapshot.map (·.currentFrame) = some frame := by
  have hShown := h.shown
  unfold ControllerState.shownSession at hShown
  cases hSnapshot : s.snapshot with
  | none =>
      rw [hSnapshot] at hShown
      cases hShown
  | some session =>
      rw [hSnapshot] at hShown
      cases hShown
      have hCurrent := hAgrees session hSnapshot
      rw [hNative] at hCurrent
      rw [Option.some.inj hCurrent]
      rfl

/-- A native call that answers without moving the session. -/
theorem Navigable.stays (h : Navigable target s) {revision : Int} {result : NativeMicroscope}
    (hNavigating : s.calls k = .navigating target revision)
    (hStays : movedTo target result = none) (hInStep : revision = s.revision → Agrees s) :
    Navigable target (s.setCall k (.navigated target revision result)) := by
  have hAfter : pending s.revision (.navigated target revision result) = none := by
    cases result with
    | failure code message engine => rfl
    | success session engine =>
        by_cases hSame : session.sessionId = target
        · simp [movedTo, hSame] at hStays
        · simp [pending, hSame]
  have hHeld : ∀ own, CallPhase.heldRevision (.navigated target revision result) = some own →
      (s.calls k).heldRevision = some own := by
    rw [hNavigating]
    exact fun _ => id
  by_cases hNewest : revision = s.revision
  · obtain ⟨frame, hNative, -⟩ := h.covered
    have hFrame := due_of_agrees h (hInStep hNewest) hNative
    refine ⟨h.revisions.keep rfl hHeld rfl, navigates_update h.phases (.navigated revision result),
      h.shown, frame, hNative, .inr (.inr ⟨?_, hFrame⟩)⟩
    intro i
    show pending s.revision (Function.update s.calls k _ i) = none
    by_cases hi : i = k
    · rw [hi, Function.update_self, hAfter]
    · rw [Function.update_of_ne hi]
      exact pending_none_of_held h.revisions (by rw [hNavigating, hNewest]; rfl) hi
  · refine h.keep (.navigated revision result) hHeld ?_
    rw [hAfter, hNavigating]
    simp [pending, hNewest]

/-- A native call that moves the session. -/
theorem Navigable.moves (h : Navigable target s) {revision : Int}
    {session : MicroscopeSessionSnapshot} {engine : String}
    (hNavigating : s.calls k = .navigating target revision) (hSession : session.sessionId = target)
    (hInStep : revision = s.revision ∨ Due s session.currentFrame) :
    Navigable target ({ s with native := s.native.move target session.currentFrame }.setCall k
      (.navigated target revision (.success session engine))) := by
  have hHeld : ∀ own,
      CallPhase.heldRevision (.navigated target revision (.success session engine)) = some own →
      (s.calls k).heldRevision = some own := by
    rw [hNavigating]
    exact fun _ => id
  refine ⟨h.revisions.keep rfl hHeld rfl, navigates_update h.phases (.navigated revision _),
    h.shown, session.currentFrame, ?_, ?_⟩
  · exact Function.update_self ..
  · by_cases hNewest : revision = s.revision
    · right; left
      refine ⟨k, ?_⟩
      show pending s.revision (Function.update s.calls k _ k) = _
      rw [Function.update_self]
      exact if_pos ⟨hNewest, hSession⟩
    · refine (hInStep.resolve_left hNewest).update rfl rfl rfl ?_
      rw [hNavigating]
      simp [pending, hNewest]

theorem Navigable.navigationReturns (h : Navigable target s) {revision : Int}
    (hNavigating : s.calls k = .navigating target revision) (answer : NativeMicroscope)
    (hInStep : InStep s (.navigationReturns k answer)) :
    Navigable target (s.navigationReturns k target revision answer) := by
  have hCondition := hInStep target revision hNavigating
  cases answer with
  | failure code message engine => exact h.stays hNavigating rfl hCondition
  | success session engine =>
      show Navigable target (if session.sessionId ≠ target then _ else if _ then _ else _)
      by_cases hSame : session.sessionId = target
      · simp only [movedTo, hSame, if_true] at hCondition
        obtain ⟨frame, hNative, -⟩ := h.covered
        rw [if_neg (not_not.2 hSame), if_pos (by rw [hNative]; rfl)]
        exact h.moves hNavigating hSame hCondition
      · simp only [movedTo, hSame, if_false] at hCondition
        rw [if_pos hSame]
        exact h.stays hNavigating (by simp [movedTo, hSame]) hCondition

/-- A result is shown: what was pending is now the snapshot. -/
theorem Navigable.shows (h : Navigable target s) {session : MicroscopeSessionSnapshot}
    {engine : String}
    (hNavigated : s.calls k = .navigated target s.revision (.success session engine))
    (hSession : session.sessionId = target) (result : CallResult) :
    Navigable target ((s.publish k session engine).setCall k (.returned result)) := by
  have hHeld : (s.calls k).heldRevision = some s.revision := by rw [hNavigated]; rfl
  have hPending : pending s.revision (s.calls k) = some (some session.currentFrame) := by
    rw [hNavigated]
    exact if_pos ⟨rfl, hSession⟩
  obtain ⟨frame, hNative, hDue⟩ := h.covered
  -- only call `k` has something pending, so its frame is the native one
  have hOnly : ∀ j what, pending s.revision (s.calls j) = some what →
      what = some session.currentFrame := by
    intro j what hOther
    by_cases hj : j = k
    · rw [hj, hPending] at hOther
      exact (Option.some.inj hOther).symm
    · rw [pending_none_of_held h.revisions hHeld hj] at hOther
      cases hOther
  have hFrame : frame = session.currentFrame := by
    rcases hDue with ⟨j, hWaits⟩ | ⟨j, hShows⟩ | ⟨hNone, -⟩
    · cases hOnly j none hWaits
    · exact Option.some.inj (hOnly j (some frame) hShows)
    · rw [hNone k] at hPending
      cases hPending
  refine ⟨h.revisions.keep rfl (fun _ hNo => by cases hNo) rfl,
    navigates_update h.phases (.returned result), ?_, frame, hNative, .inr (.inr ⟨?_, ?_⟩)⟩
  · show some session.sessionId = some target
    rw [hSession]
  · intro i
    show pending s.revision (Function.update s.calls k _ i) = none
    by_cases hi : i = k
    · rw [hi, Function.update_self]
      rfl
    · rw [Function.update_of_ne hi]
      exact pending_none_of_held h.revisions hHeld hi
  · show some session.currentFrame = some frame
    rw [hFrame]

theorem Navigable.concludeNavigation (h : Navigable target s) {revision : Int}
    {result : NativeMicroscope} (hNavigated : s.calls k = .navigated target revision result) :
    Navigable target (s.concludeNavigation k target revision result) := by
  have hReturns : ∀ returned, pending s.revision (s.calls k) = none →
      Navigable target (s.setCall k (.returned returned)) := fun returned hNone =>
    h.keep (.returned returned) (fun _ hHeld => by cases hHeld) hNone.symm
  cases result with
  | failure code message engine => exact hReturns _ (by rw [hNavigated]; rfl)
  | success session engine =>
      show Navigable target (if session.sessionId ≠ target then _ else if _ then _ else _)
      by_cases hSame : session.sessionId = target
      · rw [if_neg (not_not.2 hSame)]
        by_cases hNewest : s.revision = revision
        · rw [if_neg (by simp [hNewest, h.shown])]
          rw [← hNewest] at hNavigated
          exact h.shows hNavigated hSame _
        · rw [if_pos (.inl hNewest)]
          apply hReturns
          rw [hNavigated]
          exact if_neg (fun hIs => hNewest hIs.1.symm)
      · rw [if_pos hSame]
        apply hReturns
        rw [hNavigated]
        exact if_neg (fun hIs => hSame hIs.2)

theorem Navigable.apply (h : Navigable target s) {event : ControllerEvent}
    (hNavigation : IsNavigation event) (hInStep : InStep s event) :
    Navigable target (applyEvent s event) := by
  cases event with
  | start k call =>
      cases call with
      | navigate =>
          show Navigable target (s.start k .navigate)
          unfold ControllerState.start
          cases hPhase : s.calls k with
          | idle => exact h.startNavigate hPhase
          | _ => exact h
      | _ => cases hNavigation
  | advance k =>
      show Navigable target (s.advance k)
      unfold ControllerState.advance
      have hNavigates := h.phases k
      cases hPhase : s.calls k <;> rw [hPhase] at hNavigates <;> cases hNavigates
      · exact h
      · refine h.keep (.returned _) (fun _ hHeld => by cases hHeld) ?_
        rw [hPhase]
        rfl
      · exact h.takeRevision hPhase
      · exact h
      · exact h.concludeNavigation hPhase
      · exact h
  | navigationReturns k answer =>
      have hNavigates := h.phases k
      unfold applyEvent
      dsimp only
      cases hPhase : s.calls k with
      | navigating sessionId revision =>
          rw [hPhase] at hNavigates
          cases hNavigates
          exact h.navigationReturns hPhase answer hInStep
      | _ => exact h
  | _ => cases hNavigation

theorem Navigable.quiet (h : Navigable target s) (hQuiet : s.Quiet) : Agrees s := by
  obtain ⟨frame, hNative, hDue⟩ := h.covered
  have hNone : ∀ k, pending s.revision (s.calls k) = none := by
    intro k
    rcases hQuiet k with hIdle | ⟨result, hReturned⟩
    · rw [hIdle]
      rfl
    · rw [hReturned]
      rfl
  intro session hSnapshot
  have hShown := h.shown
  unfold ControllerState.shownSession at hShown
  rw [hSnapshot] at hShown
  cases hShown
  rcases hDue with ⟨k, hWaits⟩ | ⟨k, hShows⟩ | ⟨-, hFrame⟩
  · rw [hNone k] at hWaits
    cases hWaits
  · rw [hNone k] at hShows
    cases hShows
  · rw [hSnapshot] at hFrame
    rw [hNative, ← hFrame]
    rfl

/-- Before any navigation is in flight nothing is pending. -/
theorem navigable_of_quiet {session : MicroscopeSessionSnapshot} (hQuiet : s.Quiet)
    (hSession : s.snapshot = some session) (hAgrees : Agrees s) :
    Navigable session.sessionId s := by
  have hHeld : ∀ k, (s.calls k).heldRevision = none := by
    intro k
    rcases hQuiet k with hIdle | ⟨result, hReturned⟩
    · rw [hIdle]
      rfl
    · rw [hReturned]
      rfl
  refine ⟨⟨?_, ?_⟩, ?_, ?_, session.currentFrame, hAgrees session hSession, .inr (.inr ⟨?_, ?_⟩)⟩
  · intro k revision hTaken
    rw [hHeld k] at hTaken
    cases hTaken
  · intro j k revision hTaken
    rw [hHeld j] at hTaken
    cases hTaken
  · intro k
    rcases hQuiet k with hIdle | ⟨result, hReturned⟩
    · rw [hIdle]
      exact .idle
    · rw [hReturned]
      exact .returned result
  · simp [ControllerState.shownSession, hSession]
  · intro k
    cases hPending : pending s.revision (s.calls k) with
    | none => rfl
    | some what =>
        have hSome := held_of_pending hPending
        rw [hHeld k] at hSome
        cases hSome
  · rw [hSession]
    rfl

/-- In a run of navigations on the open session whose native calls keep in step,
the controller and the native session agree whenever no call is in flight. -/
theorem navigations_agree {s : ControllerState} {session : MicroscopeSessionSnapshot}
    (hQuiet : s.Quiet) (hSession : s.snapshot = some session) (hAgrees : Agrees s)
    (events : List ControllerEvent) (hNavigations : ∀ event ∈ events, IsNavigation event)
    (hInStep : Meets applyEvent InStep s events)
    (hDone : (events.foldl applyEvent s).Quiet) : Agrees (events.foldl applyEvent s) := by
  have hStart := navigable_of_quiet hQuiet hSession hAgrees
  have hEnd : Navigable session.sessionId (events.foldl applyEvent s) := by
    clear hQuiet hSession hAgrees hDone
    induction events generalizing s with
    | nil => exact hStart
    | cons event events ih =>
        have hHead := hStart.apply (hNavigations event (List.mem_cons_self ..)) hInStep.1
        exact ih (fun other hOther => hNavigations other (List.mem_cons_of_mem _ hOther))
          hInStep.2 hHead
  exact hEnd.quiet hDone

/-- A session is open at frame 0. -/
def openedAtZero : List ControllerEvent :=
  [.start 0 .openSession, .advance 0, .openReturns 0 (.built (some 0) "engine"), .advance 0,
    .advance 0, .advance 0]

/-- A jump to frame 3 and then a step to frame 4. -/
def jumpThenStep : List ControllerEvent :=
  [.start 1 .navigate, .advance 1, .navigationReturns 1 (.success ⟨1, some 3⟩ "engine"), .advance 1,
    .start 2 .navigate, .advance 2, .navigationReturns 2 (.success ⟨1, some 4⟩ "engine"), .advance 2]

theorem jumpThenStep_quiet : (jumpThenStep.foldl applyEvent (reached openedAtZero)).Quiet
  | 0 => .inr ⟨.microscope (.success ⟨1, some 0⟩ "engine"), by decide⟩
  | 1 => .inr ⟨.microscope (.success ⟨1, some 3⟩ "engine"), by decide⟩
  | 2 => .inr ⟨.microscope (.success ⟨1, some 4⟩ "engine"), by decide⟩
  | _ + 3 => .inl rfl

theorem openedAtZero_quiet : (reached openedAtZero).Quiet
  | 0 => .inr ⟨.microscope (.success ⟨1, some 0⟩ "engine"), by decide⟩
  | _ + 1 => .inl rfl

theorem openedAtZero_agrees : Agrees (reached openedAtZero) := by
  intro session hSnapshot
  have hShown : (reached openedAtZero).snapshot = some ⟨1, some 0⟩ := by decide
  rw [hShown] at hSnapshot
  cases hSnapshot
  decide

theorem navigations_agree_jumpThenStep :
    Agrees (jumpThenStep.foldl applyEvent (reached openedAtZero)) := by
  have hShown : (reached openedAtZero).snapshot = some ⟨1, some 0⟩ := by decide
  refine navigations_agree openedAtZero_quiet hShown openedAtZero_agrees jumpThenStep ?_ ?_
    jumpThenStep_quiet
  · intro event hMem
    fin_cases hMem <;> trivial
  · refine ⟨trivial, trivial, ?_, trivial, trivial, trivial, ?_, trivial, trivial⟩
    · intro sessionId revision hNavigating
      have hIs : (([.start 1 .navigate, .advance 1].foldl applyEvent
          (reached openedAtZero)).calls 1) = .navigating 1 2 := by decide
      cases hIs.symm.trans hNavigating
      exact .inl (by decide)
    · intro sessionId revision hNavigating
      have hIs : (((jumpThenStep.take 6).foldl applyEvent
          (reached openedAtZero)).calls 2) = .navigating 1 3 := by decide
      cases hIs.symm.trans hNavigating
      exact .inl (by decide)

/-- Two navigations overlap: the newer one reaches the native session first, the
older one moves it again and is dropped. -/
def overlappingNavigations : List ControllerEvent :=
  [.start 1 .navigate, .advance 1, .start 2 .navigate, .advance 2,
    .navigationReturns 2 (.success ⟨1, some 4⟩ "engine"),
    .navigationReturns 1 (.success ⟨1, some 3⟩ "engine"), .advance 2, .advance 1]

theorem overlappingNavigations_quiet :
    (overlappingNavigations.foldl applyEvent (reached openedAtZero)).Quiet
  | 0 => .inr ⟨.microscope (.success ⟨1, some 0⟩ "engine"), by decide⟩
  | 1 => .inr ⟨.microscope (staleFailure (some "engine")), by decide⟩
  | 2 => .inr ⟨.microscope (.success ⟨1, some 4⟩ "engine"), by decide⟩
  | _ + 3 => .inl rfl

/-- The snapshot shows frame 4 and the native session is at frame 3. -/
theorem overlappingNavigations_disagree :
    ¬ ∀ events : List ControllerEvent, (∀ event ∈ events, IsNavigation event) →
      (events.foldl applyEvent (reached openedAtZero)).Quiet →
        Agrees (events.foldl applyEvent (reached openedAtZero)) := by
  intro h
  have hNavigations : ∀ event ∈ overlappingNavigations, IsNavigation event := by
    intro event hMem
    fin_cases hMem <;> trivial
  have hAgrees := h overlappingNavigations hNavigations overlappingNavigations_quiet
  have hShown : (overlappingNavigations.foldl applyEvent (reached openedAtZero)).snapshot =
      some ⟨1, some 4⟩ := by decide
  have hNative : (overlappingNavigations.foldl applyEvent (reached openedAtZero)).native.current 1 =
      some (some 3) := by decide
  have hFrame := hAgrees ⟨1, some 4⟩ hShown
  rw [hNative] at hFrame
  cases hFrame

end FrameScope.Ports.SessionNavigationLaw
