import FrameScope.Ports.MicroscopeSession

/-!
# The pixels that are handed over are the current frame's

The generation, the current frame and the prepared pixels change in different
operations.  A navigation that changes the frame takes a new generation and
drops the pixels, so a generation that a preparation has answered with stands
for one frame from then on.  The generation runs out after as many navigations
as it has values; a run with fewer never sees that.
-/

namespace FrameScope.Ports.MicroscopeSessionLaw

open FrameScope.Verified.Fallible
open FrameScope.Ports.Core
open FrameScope.Ports.FrameIndexStore
open FrameScope.Ports.FrameCache
open FrameScope.Ports.Navigation (NavigationError CachedNavigationResult)
open FrameScope.Ports.FramePreparation (MicroscopeFailure nextPositiveI64)
open FrameScope.Ports.IndexingCall (timeline sampleSequence)
open FrameScope.Ports.CompleteIndex (sampleIndex)
open FrameScope.Ports.Microscope
open FrameScope.Ports.MicroscopeSession

/-! ## What the operations do -/

section Operations

variable (sessionId : Int) {s : NavigationSession}

/-- A session after a navigation to a frame. -/
def moved (s : NavigationSession) (frameId : Nat) : NavigationSession :=
  if s.current = some frameId then s
  else { s with
    current := some frameId
    currentPresentation := none
    presentationGeneration := s.presentationGeneration + 1 }

/-- There is a generation left. -/
def HasGeneration (s : NavigationSession) : Prop :=
  0 ≤ s.presentationGeneration ∧ s.presentationGeneration < 2 ^ 63 - 1

theorem nextPresentationGeneration_ok (h : HasGeneration s) :
    nextPresentationGeneration s.presentationGeneration =
      .ok (s.presentationGeneration + 1) := by
  obtain ⟨hPos, hLt⟩ := h
  unfold nextPresentationGeneration nextPositiveI64
  rw [if_pos]
  · rfl
  · unfold InI64
    omega

theorem setCurrentFrame_wp (h : HasGeneration s) (frameId : Nat) :
    wp (setCurrentFrame frameId) (fun _ s' => s' = moved s frameId) (fun _ _ => False) s := by
  unfold setCurrentFrame moved
  by_cases hSame : s.current = some frameId
  · simp [hSame]
  · simp [hSame, nextPresentationGeneration_ok h]

theorem moved_index (s : NavigationSession) (frameId : Nat) : (moved s frameId).index = s.index := by
  unfold moved
  by_cases hSame : s.current = some frameId
  · rw [if_pos hSame]
  · rw [if_neg hSame]

theorem moved_current (s : NavigationSession) (frameId : Nat) :
    (moved s frameId).current = some frameId := by
  unfold moved
  by_cases hSame : s.current = some frameId
  · rw [if_pos hSame, hSame]
  · rw [if_neg hSame]

/-- The snapshot reads the row that the navigation has just found. -/
theorem snapshot_wp {frameId : Nat} {target : MicroscopeTarget} (hCurrent : s.current = some frameId)
    (hTarget : microscopeTarget s.index frameId = .ok target) :
    wp (snapshot sessionId) (fun _ s' => s' = s) (fun _ _ => False) s := by
  have hFound : currentTarget s = .ok (some target) := by
    unfold currentTarget
    rw [hCurrent]
    simp only [hTarget]
    rfl
  unfold snapshot
  simp only [wp_bind, wp_get, hFound, wp_ofExcept_ok, wp_pure]

theorem moveTo_wp (h : HasGeneration s) {target : MicroscopeTarget}
    (hTarget : microscopeTarget s.index target.frameId = .ok target) :
    wp (moveTo sessionId target) (fun _ s' => s' = moved s target.frameId) (fun _ _ => False) s := by
  unfold moveTo
  rw [wp_bind]
  refine wp_mono (setCurrentFrame_wp h target.frameId) ?_ (fun _ _ => id)
  rintro - s' rfl
  exact snapshot_wp sessionId (moved_current s _) (by rwa [moved_index])

/-- A navigation moves the session or fails and leaves it alone. -/
theorem navigate_wp (h : HasGeneration s) (request : NavigationRequest) :
    wp (navigate sessionId request) (fun _ s' => ∃ frameId, s' = moved s frameId)
      (fun _ s' => s' = s) s := by
  have hMoves : ∀ target, microscopeTarget s.index target.frameId = .ok target →
      wp (moveTo sessionId target) (fun _ s' => ∃ frameId, s' = moved s frameId)
        (fun _ s' => s' = s) s := fun target hTarget =>
    wp_mono (moveTo_wp sessionId h hTarget) (fun _ _ hMoved => ⟨_, hMoved⟩) (fun _ _ => False.elim)
  cases request with
  | step delta =>
      show wp (stepSession sessionId delta) _ _ s
      unfold stepSession
      simp only [wp_bind, wp_ofExcept, wp_get]
      refine ⟨fun step hStep => ⟨fun current hCurrent => ⟨fun target hTarget => ?_, ?_⟩, ?_⟩, ?_⟩
      · exact hMoves target (microscopeStep_target hTarget)
      all_goals intros; trivial
  | jumpToFrame frameId =>
      show wp (jumpToFrame sessionId frameId) _ _ s
      unfold jumpToFrame
      simp only [wp_bind, wp_ofExcept, wp_get]
      refine ⟨fun _ _ => ⟨fun target hTarget => ?_, ?_⟩, ?_⟩
      · apply hMoves target
        rwa [microscopeTarget_frameId hTarget]
      all_goals intros; trivial
  | jumpToTimestamp timestampUs selection =>
      show wp (jumpToTimestamp sessionId timestampUs selection) _ _ s
      unfold jumpToTimestamp
      simp only [wp_bind, wp_ofExcept, wp_get]
      refine ⟨fun selection hSelection => ⟨fun target hTarget => ?_, ?_⟩, ?_⟩
      · exact hMoves target (microscopeTimestampUs_target hTarget)
      all_goals intros; trivial

/-- A preparation leaves the pixels of the current frame and answers with its
id, under the generation of the session, or changes nothing. -/
theorem prepareCurrentFrame_wp (preparation : Preparation) :
    wp (prepareCurrentFrame sessionId preparation)
      (fun details s' => s.current = some details.frameId ∧
        details.generation = s.presentationGeneration ∧
        ∃ presentation navigation, preparation.navigate details.frameId = .ok navigation ∧
          presentation.frameId = details.frameId ∧ presentation.pixels = navigation.pixels ∧
          s' = { s with
            exactNavigation := details.navigation
            currentPresentation := some presentation })
      (fun _ s' => s' = s) s := by
  unfold prepareCurrentFrame notCancelled
  simp only [wp_bind, wp_ofExcept, wp_get, wp_set, wp_pure]
  refine ⟨fun _ _ => ⟨fun _ _ => ⟨fun _ _ => ⟨fun frameId hCurrent => ⟨fun _ _ =>
    ⟨fun presentation hPresents => ⟨fun _ _ => ⟨fun _ _ => ?_, ?_⟩, ?_⟩, ?_⟩, ?_⟩, ?_⟩, ?_⟩, ?_⟩, ?_⟩
  · obtain ⟨hFrame, navigation, hNavigation, hPixels⟩ := presentMicroscopeFrame_ok hPresents
    rw [okOr_eq_ok] at hCurrent
    refine ⟨by rw [hCurrent, hFrame], trivial, presentation, navigation, ?_, rfl, hPixels, rfl⟩
    rwa [hFrame]
  all_goals intros; trivial

/-- A copy reads the prepared pixels of the current frame. -/
theorem copyPreparedFrame_wp (generation : Int) (destination : List UInt8) :
    wp (copyPreparedFrame generation destination)
      (fun copied s' => s' = s ∧ generation = s.presentationGeneration ∧
        ∃ presentation, s.currentPresentation = some presentation ∧
          s.current = some presentation.frameId ∧
          copied.1 = presentation.pixels.pixels.length ∧
          copied.2 = presentation.pixels.pixels ++ destination.drop copied.1)
      (fun _ s' => s' = s) s := by
  unfold copyPreparedFrame
  simp only [wp_bind, wp_ofExcept, wp_get, wp_pure]
  refine ⟨fun _ _ => ⟨fun _ hGeneration => ⟨fun presentation hPresentation =>
    ⟨fun _ hCurrent => ⟨fun _ _ => ?_, ?_⟩, ?_⟩, ?_⟩, ?_⟩, ?_⟩
  · rw [ensure_eq_ok] at hGeneration hCurrent
    rw [okOr_eq_ok] at hPresentation
    exact ⟨trivial, hGeneration, presentation, hPresentation, hCurrent, rfl, rfl⟩
  all_goals intros; trivial

end Operations

/-! ## Runs -/

/-- The navigation of a preparation returns the pixels of the frame that it is
asked for. -/
def Presents (pixels : Nat → OwnedRgbaFrame) : HandoffEvent → Prop
  | .prepare preparation => ∀ frameId navigation,
      preparation.navigate frameId = .ok navigation → navigation.pixels = pixels frameId
  | .exportPrepare _ _ preparation => ∀ frameId navigation,
      preparation.navigate frameId = .ok navigation → navigation.pixels = pixels frameId
  | _ => True

def isNavigation : HandoffEvent → Bool
  | .navigate _ => true
  | _ => false

section Runs

variable (sessionId : Int) (index : FrameIndex) (frameCount : Nat)

/-- The state that the operations leave on a session that was just opened. -/
def reached (events : List HandoffEvent) : HandoffState :=
  events.foldl (applyEvent sessionId) (.opened index frameCount)

/-- What is claimed of the run of `events`. -/
structure PixelHandoff (pixels : Nat → OwnedRgbaFrame) (events : List HandoffEvent) : Prop where
  copied : ∀ generation destination copy session,
    copyPreparedFrame generation destination (reached sessionId index frameCount events).session =
        .ok copy session →
      ∃ frameId, (reached sessionId index frameCount events).session.current = some frameId ∧
        copy.1 = (pixels frameId).pixels.length ∧
        copy.2 = (pixels frameId).pixels ++ destination.drop copy.1 ∧
        ∀ response ∈ (reached sessionId index frameCount events).responses,
          response.generation = generation → response.frameId = frameId
  single : ∀ response ∈ (reached sessionId index frameCount events).responses,
    ∀ other ∈ (reached sessionId index frameCount events).responses,
      response.generation = other.generation → response.frameId = other.frameId
  failed : ∀ before request after, events = before ++ .navigate request :: after →
    ∀ error session,
      navigate sessionId request (reached sessionId index frameCount before).session =
          .error error session →
        session = (reached sessionId index frameCount before).session
  repeated : ∀ before request after, events = before ++ .navigate request :: after →
    ∀ snapshot session,
      navigate sessionId request (reached sessionId index frameCount before).session =
          .ok snapshot session →
        session.current = (reached sessionId index frameCount before).session.current →
          session = (reached sessionId index frameCount before).session

end Runs

/-- What holds after `count` navigations. -/
structure Exact (pixels : Nat → OwnedRgbaFrame) (count : Nat) (s : HandoffState) : Prop where
  generation : 0 ≤ s.session.presentationGeneration ∧ s.session.presentationGeneration ≤ 1 + count
  presented : ∀ presentation, s.session.currentPresentation = some presentation →
    presentation.pixels = pixels presentation.frameId
  bounded : ∀ response ∈ s.responses, response.generation ≤ s.session.presentationGeneration
  current : ∀ response ∈ s.responses, response.generation = s.session.presentationGeneration →
    s.session.current = some response.frameId
  single : ∀ response ∈ s.responses, ∀ other ∈ s.responses,
    response.generation = other.generation → response.frameId = other.frameId

section Steps

variable {sessionId : Int} {pixels : Nat → OwnedRgbaFrame} {count : Nat} {s : HandoffState}

theorem exact_opened (index : FrameIndex) (frameCount : Nat) :
    Exact pixels 0 (.opened index frameCount) where
  generation := by
    show 0 ≤ (if 0 < frameCount then (1 : Int) else 0) ∧
      (if 0 < frameCount then (1 : Int) else 0) ≤ 1 + ((0 : Nat) : Int)
    by_cases hFrames : 0 < frameCount
    · simp [hFrames]
    · simp [hFrames]
  presented := fun _ h => by cases h
  bounded := fun _ h => by cases h
  current := fun _ h => by cases h
  single := fun _ h => by cases h

theorem Exact.hasGeneration (h : Exact pixels count s) (hCount : count + 1 < 2 ^ 63 - 1) :
    HasGeneration s.session := by
  obtain ⟨hPos, hBound⟩ := h.generation
  exact ⟨hPos, by omega⟩

theorem Exact.moved (h : Exact pixels count s) (frameId : Nat) :
    Exact pixels (count + 1) { s with session := moved s.session frameId } := by
  obtain ⟨hPos, hBound⟩ := h.generation
  unfold MicroscopeSessionLaw.moved
  by_cases hSame : s.session.current = some frameId
  · rw [if_pos hSame]
    exact ⟨⟨hPos, by show s.session.presentationGeneration ≤ _; omega⟩, h.presented, h.bounded,
      h.current, h.single⟩
  · rw [if_neg hSame]
    refine ⟨⟨?_, ?_⟩, (fun _ hNone => by cases hNone), ?_, ?_, h.single⟩
    · show 0 ≤ s.session.presentationGeneration + 1
      omega
    · show s.session.presentationGeneration + 1 ≤ 1 + ((count + 1 : Nat) : Int)
      omega
    · intro response hMem
      have hOld := h.bounded response hMem
      show response.generation ≤ s.session.presentationGeneration + 1
      omega
    · intro response hMem hNew
      have hOld := h.bounded response hMem
      rw [show response.generation = s.session.presentationGeneration + 1 from hNew] at hOld
      omega

theorem Exact.navigate (h : Exact pixels count s) (hCount : count + 1 < 2 ^ 63 - 1)
    (request : NavigationRequest) :
    Exact pixels (count + 1) (s.perform (navigate sessionId request)) := by
  have hRun := navigate_wp sessionId (h.hasGeneration hCount) request
  unfold HandoffState.perform
  cases hResult : MicroscopeSession.navigate sessionId request s.session with
  | ok snapshot session =>
      obtain ⟨frameId, hMoved⟩ := wp_ok hRun hResult
      rw [show finalState (.ok snapshot session) = session from rfl, hMoved]
      exact h.moved frameId
  | error error session =>
      have hSame := wp_error hRun hResult
      rw [show finalState (.error error session) = session from rfl, hSame]
      exact ⟨⟨h.generation.1, by have := h.generation.2; push_cast; omega⟩, h.presented, h.bounded,
        h.current, h.single⟩

theorem prepare_error {preparation : Preparation} {error : MicroscopeFailure}
    {session : NavigationSession}
    (h : prepareCurrentFrame sessionId preparation s.session = .error error session) :
    s.prepare sessionId preparation = (.error error, { s with session := session }) := by
  simp [HandoffState.prepare, HandoffState.perform, h, outcome, finalState]

theorem prepare_ok {preparation : Preparation} {details : PreparedFrameDetails}
    {session : NavigationSession}
    (h : prepareCurrentFrame sessionId preparation s.session = .ok details session) :
    s.prepare sessionId preparation =
      (.ok details, { s with session := session, responses := details :: s.responses }) := by
  simp [HandoffState.prepare, HandoffState.perform, h, outcome, finalState]

/-- The presented pixels are kept with the id of the current frame. -/
theorem Exact.prepare (h : Exact pixels count s) {preparation : Preparation}
    (hPresents : ∀ frameId navigation, preparation.navigate frameId = .ok navigation →
      navigation.pixels = pixels frameId) :
    Exact pixels count (s.prepare sessionId preparation).2 := by
  have hRun := prepareCurrentFrame_wp sessionId (s := s.session) preparation
  cases hResult : prepareCurrentFrame sessionId preparation s.session with
  | error error session =>
      have hSame := wp_error hRun hResult
      rw [prepare_error hResult, hSame]
      exact h
  | ok details session =>
      obtain ⟨hCurrent, hGeneration, presentation, navigation, hNavigation, hFrame, hPixels, hSession⟩ :=
        wp_ok hRun hResult
      rw [prepare_ok hResult, hSession]
      refine ⟨h.generation, ?_, ?_, ?_, ?_⟩
      · intro shown hShown
        cases hShown
        rw [hPixels, hPresents _ _ hNavigation, hFrame]
      · intro response hMem
        rcases List.mem_cons.1 hMem with rfl | hOld
        · exact hGeneration.le
        · exact h.bounded response hOld
      · intro response hMem hSame
        rcases List.mem_cons.1 hMem with rfl | hOld
        · exact hCurrent
        · exact h.current response hOld hSame
      · intro response hMem other hOther hSame
        have hAgree : ∀ old ∈ s.responses, old.generation = details.generation →
            old.frameId = details.frameId := by
          intro old hOld hGen
          have hWas := h.current old hOld (hGen.trans hGeneration)
          rw [hCurrent] at hWas
          exact (Option.some.inj hWas).symm
        rcases List.mem_cons.1 hMem with rfl | hOld <;> rcases List.mem_cons.1 hOther with rfl | hOld'
        · rfl
        · exact (hAgree other hOld' hSame.symm).symm
        · exact hAgree response hOld hSame
        · exact h.single response hOld other hOld' hSame

theorem Exact.setExport (h : Exact pixels count s) (e : Nat) (phase : ExportPhase) :
    Exact pixels count (s.setExport e phase) :=
  ⟨h.generation, h.presented, h.bounded, h.current, h.single⟩

theorem Exact.copy (h : Exact pixels count s) (generation : Int) (destination : List UInt8) :
    Exact pixels count (s.perform (copyPreparedFrame generation destination)) := by
  have hRun := copyPreparedFrame_wp (s := s.session) generation destination
  unfold HandoffState.perform
  cases hResult : copyPreparedFrame generation destination s.session with
  | ok copied session =>
      rw [show finalState (.ok copied session) = session from rfl, (wp_ok hRun hResult).1]
      exact h
  | error error session =>
      rw [show finalState (.error error session) = session from rfl, wp_error hRun hResult]
      exact h

theorem Exact.exportPrepare (h : Exact pixels count s) (e : Nat) (request : ExportRequest)
    {preparation : Preparation}
    (hPresents : ∀ frameId navigation, preparation.navigate frameId = .ok navigation →
      navigation.pixels = pixels frameId) :
    Exact pixels count (s.exportPrepare sessionId e request preparation) := by
  unfold HandoffState.exportPrepare
  cases s.exports e with
  | idle =>
      cases beginExport sessionId request with
      | error error => exact h.setExport e _
      | ok format =>
          have hPrepared : Exact pixels count (s.prepare sessionId preparation).2 :=
            h.prepare hPresents
          cases hAccepted : acceptPrepared sessionId request (s.prepare sessionId preparation).1 with
          | error error =>
              simp only [hAccepted]
              exact hPrepared.setExport e _
          | ok details =>
              simp only [hAccepted]
              exact hPrepared.setExport e _
  | _ => exact h

theorem Exact.exportCopy (h : Exact pixels count s) (e : Nat) :
    Exact pixels count (s.exportCopy e) := by
  unfold HandoffState.exportCopy
  cases s.exports e with
  | prepared request format details =>
      dsimp only
      cases hAccepted : acceptCopied request details (outcome (copyPreparedFrame details.generation
          (List.replicate details.byteLen 0) s.session)) with
      | error error => exact h.setExport e _
      | ok frame => exact h.setExport e _
  | _ => exact h

theorem Exact.exportEncode (h : Exact pixels count s) (e : Nat)
    (report : Except ExportFailure ExtractionImage.EncodedImageReport) :
    Exact pixels count (s.exportEncode sessionId e report) := by
  unfold HandoffState.exportEncode
  cases s.exports e with
  | encoding format details frame => exact h.setExport e _
  | _ => exact h

/-- Each event but a navigation leaves the count as it is. -/
theorem Exact.apply (h : Exact pixels count s) {event : HandoffEvent}
    (hPresents : Presents pixels event) (hNavigation : isNavigation event = false) :
    Exact pixels count (applyEvent sessionId s event) := by
  cases event with
  | navigate request => cases hNavigation
  | prepare preparation => exact h.prepare hPresents
  | copy generation destination => exact h.copy generation destination
  | exportPrepare e request preparation => exact h.exportPrepare e request hPresents
  | exportCopy e => exact h.exportCopy e
  | exportEncode e report => exact h.exportEncode e report

/-- What a copy returns is the current frame, the only one of its generation. -/
theorem Exact.copied (h : Exact pixels count s) {generation : Int} {destination : List UInt8}
    {copy : Nat × List UInt8} {session : NavigationSession}
    (hCopy : copyPreparedFrame generation destination s.session = .ok copy session) :
    ∃ frameId, s.session.current = some frameId ∧ copy.1 = (pixels frameId).pixels.length ∧
      copy.2 = (pixels frameId).pixels ++ destination.drop copy.1 ∧
      ∀ response ∈ s.responses, response.generation = generation → response.frameId = frameId := by
  obtain ⟨-, hGeneration, presentation, hPresentation, hCurrent, hLength, hBytes⟩ :=
    wp_ok (copyPreparedFrame_wp generation destination) hCopy
  rw [h.presented presentation hPresentation] at hLength hBytes
  refine ⟨presentation.frameId, hCurrent, hLength, hBytes, ?_⟩
  intro response hMem hSame
  have hNow := h.current response hMem (hSame.trans hGeneration)
  rw [hCurrent] at hNow
  exact (Option.some.inj hNow).symm

end Steps

section Handoff

variable {sessionId : Int} {index : FrameIndex} {frameCount : Nat} {pixels : Nat → OwnedRgbaFrame}

theorem reached_concat (events : List HandoffEvent) (event : HandoffEvent) :
    reached sessionId index frameCount (events ++ [event]) =
      applyEvent sessionId (reached sessionId index frameCount events) event := by
  simp [reached, List.foldl_append]

theorem exact_reached {events : List HandoffEvent} (hPresents : ∀ event ∈ events, Presents pixels event)
    (hCount : events.countP isNavigation < 2 ^ 63 - 1) :
    Exact pixels (events.countP isNavigation) (reached sessionId index frameCount events) := by
  induction events using List.reverseRecOn with
  | nil => exact exact_opened index frameCount
  | append_singleton events event ih =>
      have hBefore : ∀ other ∈ events, Presents pixels other := fun other hOther =>
        hPresents other (List.mem_append_left _ hOther)
      rw [List.countP_append, List.countP_singleton] at hCount ⊢
      have hExact := ih hBefore (by omega)
      rw [reached_concat]
      cases hNavigation : isNavigation event with
      | false =>
          have hLast := hPresents event (List.mem_append_right _ (List.mem_singleton_self _))
          have hApplied : Exact pixels (events.countP isNavigation) (applyEvent sessionId _ event) :=
            hExact.apply hLast hNavigation
          simpa using hApplied
      | true =>
          cases event with
          | navigate request =>
              rw [hNavigation] at hCount
              exact hExact.navigate (by simpa using hCount) request
          | _ => cases hNavigation

/-- A prefix of a run has fewer navigations than the run with one more. -/
theorem countP_before {before after events : List HandoffEvent} {request : NavigationRequest}
    (hEvents : events = before ++ .navigate request :: after)
    (hCount : events.countP isNavigation < 2 ^ 63 - 1) :
    before.countP isNavigation + 1 < 2 ^ 63 - 1 := by
  rw [hEvents, List.countP_append, List.countP_cons_of_pos rfl] at hCount
  omega

/-- In a run with fewer navigations than generations, what a copy hands over is
the current frame and the only frame of its generation, a navigation that fails
changes nothing, and neither does one to the current frame. -/
theorem pixel_handoff (sessionId : Int) (index : FrameIndex) (frameCount : Nat)
    (pixels : Nat → OwnedRgbaFrame) (events : List HandoffEvent)
    (hPresents : ∀ event ∈ events, Presents pixels event)
    (hCount : events.countP isNavigation < 2 ^ 63 - 1) :
    PixelHandoff sessionId index frameCount pixels events := by
  have hNavigates : ∀ before request after, events = before ++ .navigate request :: after →
      wp (navigate sessionId request)
        (fun _ s' => ∃ frameId,
          s' = moved (reached sessionId index frameCount before).session frameId)
        (fun _ s' => s' = (reached sessionId index frameCount before).session)
        (reached sessionId index frameCount before).session := by
    intro before request after hEvents
    have hBefore := countP_before hEvents hCount
    have hExact : Exact pixels (before.countP isNavigation)
        (reached sessionId index frameCount before) := by
      refine exact_reached (fun event hMem => hPresents event ?_) (by omega)
      rw [hEvents]
      exact List.mem_append_left _ hMem
    exact navigate_wp sessionId (hExact.hasGeneration hBefore) request
  have hExact : Exact pixels (events.countP isNavigation)
      (reached sessionId index frameCount events) := exact_reached hPresents hCount
  constructor
  · exact fun generation destination copy session hCopy => hExact.copied hCopy
  · exact hExact.single
  · intro before request after hEvents error session hFailed
    have hSame := wp_error (hNavigates before request after hEvents) hFailed
    exact hSame
  · intro before request after hEvents snapshot session hOk hCurrent
    obtain ⟨frameId, hMoved⟩ := wp_ok (hNavigates before request after hEvents) hOk
    rw [hMoved, moved_current] at hCurrent
    rw [hMoved]
    exact if_pos hCurrent.symm

end Handoff

def onePixel : OwnedRgbaFrame := ⟨1, 1, 4, [9, 9, 9, 255], Nat.one_pos, Nat.one_pos,
  stride_onePixel, rfl⟩

/-- A preparation that meets no cancellation and finds one picture in every frame. -/
def samplePreparation : Preparation where
  registration := .ok ()
  cancelledBefore := false
  cancelledInside := false
  adopted := true
  navigate := fun frameId =>
    match (timeline sampleSequence)[frameId]? with
    | none => .error .frameNotIndexed
    | some entry => .ok ⟨frameId, entry, onePixel, .decoded, 1, false, false, none⟩
  decoderReopens := 1
  cancelledAfter := false

/-- The first frame is prepared, a step leads to the second, which is prepared and
copied. -/
def sampleHandoff : List HandoffEvent :=
  [.prepare samplePreparation, .navigate (.step 1), .prepare samplePreparation,
    .copy 2 [0, 0, 0, 0]]

theorem pixel_handoff_sample :
    PixelHandoff 7 sampleIndex 2 (fun _ => onePixel) sampleHandoff := by
  refine pixel_handoff 7 sampleIndex 2 (fun _ => onePixel) sampleHandoff ?_ (by decide)
  have hNavigates : ∀ frameId navigation, samplePreparation.navigate frameId = .ok navigation →
      navigation.pixels = onePixel := by
    intro frameId navigation hOk
    simp only [samplePreparation] at hOk
    cases hEntry : (timeline sampleSequence)[frameId]? with
    | none =>
        rw [hEntry] at hOk
        cases hOk
    | some entry =>
        rw [hEntry] at hOk
        cases hOk
        rfl
  intro event hMem
  fin_cases hMem
  · exact hNavigates
  · trivial
  · exact hNavigates
  · trivial

/-- The copy of the run succeeds, with the generation of the step. -/
example : (outcome (copyPreparedFrame 2 [0, 0, 0, 0]
    (reached 7 sampleIndex 2 (sampleHandoff.take 3)).session)).toOption =
      some (4, [9, 9, 9, 255]) := by decide +kernel

end FrameScope.Ports.MicroscopeSessionLaw
