import FrameScope.Verified.Runs
import FrameScope.Ports.Core

/-!
# The live scrub gate

Port of `LiveScrubRequestGate.kt`: one request in flight, one pending slot that
newer requests replace, an epoch that `invalidate` moves on, and the id of the
request that may be published.  `Long` is `Int`, with the check that `increment`
makes; the clock readings are the caller's.

A submission for the target of a pending or running request returns that
request.  A running one keeps the epoch it was submitted in, which is what the
last section is about: after an `invalidate` it is returned as the newest request
and can no longer be published.
-/

namespace FrameScope.Ports.LiveScrubGate

open FrameScope.Verified.Runs
open FrameScope.Ports.Core

inductive LiveScrubTarget where
  | timestamp (timestampUs : Int)
  | frame (frameId : Int)
  deriving DecidableEq, Repr

structure LiveScrubRequest where
  requestId : Int
  epoch : Int
  sessionId : Int
  target : LiveScrubTarget
  submittedAtNanos : Int
  deriving DecidableEq, Repr

structure LiveScrubCancellation where
  sessionId : Int
  requestId : Int
  deriving DecidableEq, Repr

structure LiveScrubRequestGate where
  nextRequestId : Int
  epoch : Int
  latestRequestId : Int
  inFlight : Option LiveScrubRequest
  pending : Option LiveScrubRequest
  deriving DecidableEq, Repr

inductive LiveScrubGateError where
  | sessionNotPositive
  | frameNegative
  | spaceExhausted (label : String)
  deriving DecidableEq, Repr

def LiveScrubGateError.toText : LiveScrubGateError → String
  | .sessionNotPositive => "Live scrub requires a positive microscope session id."
  | .frameNegative => "Live scrub frame id must be non-negative."
  | .spaceExhausted label => label ++ " space exhausted"

def increment (value : Int) (label : String) : Except LiveScrubGateError Int :=
  if value < 2 ^ 63 - 1 then .ok (value + 1) else .error (.spaceExhausted label)

/-- What `submit` requires of a target. -/
def LiveScrubTarget.isValid : LiveScrubTarget → Bool
  | .frame frameId => 0 ≤ frameId
  | .timestamp _ => true

/-- The request asks for this target of this session. -/
def LiveScrubRequest.isFor (request : LiveScrubRequest) (sessionId : Int)
    (target : LiveScrubTarget) : Bool :=
  request.sessionId = sessionId && request.target = target

namespace LiveScrubRequestGate

/-- A gate as it is constructed. -/
def initial : LiveScrubRequestGate := ⟨1, 1, 0, none, none⟩

variable (gate : LiveScrubRequestGate)

def submit (sessionId : Int) (target : LiveScrubTarget) (nanoTime : Int) :
    Except LiveScrubGateError (LiveScrubRequest × LiveScrubRequestGate) := do
  ensure (0 < sessionId) .sessionNotPositive
  ensure (target.isValid = true) .frameNegative
  match gate.pending.filter (·.isFor sessionId target) with
  | some existing => .ok (existing, gate)
  | none =>
      match gate.inFlight.filter (·.isFor sessionId target) with
      | some existing =>
          .ok (existing, { gate with pending := none, latestRequestId := existing.requestId })
      | none => do
          let request : LiveScrubRequest :=
            { requestId := gate.nextRequestId
              epoch := gate.epoch
              sessionId
              target
              submittedAtNanos := max nanoTime 0 }
          let nextRequestId ← increment gate.nextRequestId "live scrub request id"
          .ok (request, { gate with
            nextRequestId
            latestRequestId := request.requestId
            pending := some request })

def beginNext : Option LiveScrubRequest × LiveScrubRequestGate :=
  match gate.inFlight, gate.pending with
  | none, some request => (some request, { gate with pending := none, inFlight := some request })
  | _, _ => (none, gate)

def finish (request : LiveScrubRequest) : Bool × LiveScrubRequestGate :=
  if gate.inFlight.map (·.requestId) ≠ some request.requestId then (false, gate)
  else
    (request.epoch = gate.epoch && request.requestId = gate.latestRequestId,
      { gate with inFlight := none })

def invalidate :
    Except LiveScrubGateError (Option LiveScrubCancellation × LiveScrubRequestGate) := do
  let cancellation := gate.inFlight.map fun active => ⟨active.sessionId, active.requestId⟩
  let epoch ← increment gate.epoch "live scrub epoch"
  .ok (cancellation, { gate with epoch, latestRequestId := 0, pending := none })

end LiveScrubRequestGate

/-! ## Runs -/

/-- A gate with what its callers know: the requests that `submit` has returned,
the last of them unless an `invalidate` came after it, and the ids of those whose
`finish` returned true. -/
structure GateHistory where
  gate : LiveScrubRequestGate
  issued : List LiveScrubRequest
  submitted : Option LiveScrubRequest
  published : List Int
  deriving DecidableEq, Repr

inductive GateOp where
  | submit (sessionId : Int) (target : LiveScrubTarget) (nanoTime : Int)
  | beginNext
  | finish (request : LiveScrubRequest)
  | invalidate
  deriving DecidableEq, Repr

def GateHistory.initial : GateHistory := ⟨.initial, [], none, []⟩

/-- `submit` returned `request` and left `gate`. -/
def GateHistory.submits (s : GateHistory) (request : LiveScrubRequest)
    (gate : LiveScrubRequestGate) : GateHistory :=
  { s with gate, issued := request :: s.issued, submitted := some request }

/-- `finish` was called with `request`. -/
def GateHistory.finishes (s : GateHistory) (request : LiveScrubRequest) : GateHistory :=
  { s with
    gate := (s.gate.finish request).2
    published := if (s.gate.finish request).1 then request.requestId :: s.published
      else s.published }

/-- One call.  A call that throws changes nothing, and `finish` is called with a
request that `submit` returned. -/
def applyOp (s : GateHistory) : GateOp → GateHistory
  | .submit sessionId target nanoTime =>
      match s.gate.submit sessionId target nanoTime with
      | .error _ => s
      | .ok result => s.submits result.1 result.2
  | .beginNext => { s with gate := s.gate.beginNext.2 }
  | .finish request => if request ∈ s.issued then s.finishes request else s
  | .invalidate =>
      match s.gate.invalidate with
      | .error _ => s
      | .ok result => { s with gate := result.2, submitted := none }

/-! ## The law -/

/-- The request is in flight and its `finish` would return true, or it is pending,
and once nothing is in flight `beginNext` starts it and its `finish` returns
true. -/
def Kept (gate : LiveScrubRequestGate) (request : LiveScrubRequest) : Prop :=
  gate.inFlight = some request ∧ (gate.finish request).1 = true ∨
    gate.pending = some request ∧ (gate.inFlight = none →
      gate.beginNext.1 = some request ∧ (gate.beginNext.2.finish request).1 = true)

/-- `finish` returns true at most once for a request, and only for the one that
the last `submit` returned, with no `invalidate` since; that one is kept until it
has. -/
structure GateLaw (s : GateHistory) : Prop where
  newest : ∀ request ∈ s.issued, (s.gate.finish request).1 = true → s.submitted = some request
  once : ∀ request ∈ s.issued, (s.gate.finish request).1 = true →
    request.requestId ∉ s.published
  kept : ∀ request, s.submitted = some request → request.requestId ∉ s.published →
    Kept s.gate request

/-- A valid submission that returns the request in flight finds it in the current
epoch. -/
def InEpoch (s : GateHistory) : GateOp → Prop
  | .submit sessionId target _ =>
      0 < sessionId → target.isValid = true →
        s.gate.pending.filter (·.isFor sessionId target) = none →
          ∀ active, s.gate.inFlight = some active → active.isFor sessionId target = true →
            active.epoch = s.gate.epoch
  | _ => True

/-! ## Calls -/

/-- What a submission returns: the pending request, the one in flight in place of
the pending one, or a new one that replaces it. -/
inductive Submits (gate : LiveScrubRequestGate) (sessionId : Int) (target : LiveScrubTarget) :
    LiveScrubRequest → LiveScrubRequestGate → Prop where
  | pending {request : LiveScrubRequest} (hPending : gate.pending = some request) :
      Submits gate sessionId target request gate
  | inFlight {request : LiveScrubRequest} (hSession : 0 < sessionId)
      (hTarget : target.isValid = true)
      (hNone : gate.pending.filter (·.isFor sessionId target) = none)
      (hActive : gate.inFlight = some request) (hFor : request.isFor sessionId target = true) :
      Submits gate sessionId target request
        { gate with pending := none, latestRequestId := request.requestId }
  | fresh {request : LiveScrubRequest} (hId : request.requestId = gate.nextRequestId)
      (hEpoch : request.epoch = gate.epoch) :
      Submits gate sessionId target request
        { gate with
          nextRequestId := gate.nextRequestId + 1
          latestRequestId := request.requestId
          pending := some request }

theorem submit_ok {gate gate' : LiveScrubRequestGate} {sessionId : Int} {target : LiveScrubTarget}
    {nanoTime : Int} {request : LiveScrubRequest}
    (h : gate.submit sessionId target nanoTime = .ok (request, gate')) :
    Submits gate sessionId target request gate' := by
  unfold LiveScrubRequestGate.submit at h
  obtain ⟨_, hSession, h⟩ := bind_eq_ok.1 h
  obtain ⟨_, hTarget, h⟩ := bind_eq_ok.1 h
  rw [ensure_eq_ok] at hSession hTarget
  cases hPending : gate.pending.filter (·.isFor sessionId target) with
  | some existing =>
      simp only [hPending] at h
      cases h
      exact .pending (Option.filter_eq_some_iff.1 hPending).1
  | none =>
      cases hActive : gate.inFlight.filter (·.isFor sessionId target) with
      | some existing =>
          simp only [hPending, hActive] at h
          cases h
          obtain ⟨hIs, hFor⟩ := Option.filter_eq_some_iff.1 hActive
          exact .inFlight hSession hTarget hPending hIs hFor
      | none =>
          simp only [hPending, hActive] at h
          obtain ⟨next, hNext, h⟩ := bind_eq_ok.1 h
          cases h
          unfold increment at hNext
          split_ifs at hNext
          cases hNext
          exact .fresh rfl rfl

theorem beginNext_eq {gate : LiveScrubRequestGate} {request : LiveScrubRequest}
    (hIdle : gate.inFlight = none) (hPending : gate.pending = some request) :
    gate.beginNext = (some request, { gate with pending := none, inFlight := some request }) := by
  unfold LiveScrubRequestGate.beginNext
  rw [hIdle, hPending]

/-- A result is publishable for the request in flight, in the current epoch, when
it is the latest one. -/
theorem finish_true_iff {gate : LiveScrubRequestGate} {request : LiveScrubRequest} :
    (gate.finish request).1 = true ↔ gate.inFlight.map (·.requestId) = some request.requestId ∧
      request.epoch = gate.epoch ∧ request.requestId = gate.latestRequestId := by
  unfold LiveScrubRequestGate.finish
  by_cases hActive : gate.inFlight.map (·.requestId) = some request.requestId
  · rw [if_neg (not_not.2 hActive), and_iff_right hActive]
    simp
  · rw [if_pos hActive]
    simp [hActive]

/-! ## Fences -/

/-- What the gate keeps in every run: ids are never reused, the pending request is
the newest one and of the current epoch, and neither slot holds a published
request. -/
structure Fenced (s : GateHistory) : Prop where
  ids : ∀ r ∈ s.issued, 1 ≤ r.requestId ∧ r.requestId < s.gate.nextRequestId
  next : 1 ≤ s.gate.nextRequestId
  unique : ∀ r ∈ s.issued, ∀ r' ∈ s.issued, r.requestId = r'.requestId → r = r'
  publishedIds : ∀ id ∈ s.published, id < s.gate.nextRequestId
  submitted : ∀ r, s.submitted = some r → r ∈ s.issued
  latest : s.gate.latestRequestId = (s.submitted.map (·.requestId)).getD 0
  pending : ∀ r, s.gate.pending = some r →
    s.submitted = some r ∧ r.epoch = s.gate.epoch ∧ r.requestId ∉ s.published
  active : ∀ r, s.gate.inFlight = some r → r ∈ s.issued ∧ r.requestId ∉ s.published
  apart : ∀ r, s.gate.pending = some r → s.gate.inFlight ≠ some r

/-- The newest request waits in a slot, in the current epoch, until it is
published. -/
def Waiting (s : GateHistory) : Prop :=
  ∀ r, s.submitted = some r → r.requestId ∉ s.published →
    s.gate.pending = some r ∨ s.gate.inFlight = some r ∧ r.epoch = s.gate.epoch

variable {s : GateHistory}

theorem fenced_initial : Fenced .initial := by
  constructor <;> simp [GateHistory.initial, LiveScrubRequestGate.initial]

theorem waiting_initial : Waiting .initial := by
  intro r hSubmitted
  cases hSubmitted

theorem Fenced.latest_of (h : Fenced s) {r : LiveScrubRequest} (hSubmitted : s.submitted = some r) :
    s.gate.latestRequestId = r.requestId := by
  rw [h.latest, hSubmitted]
  rfl

/-- A publishable result is that of the newest request, and the first one. -/
theorem Fenced.publishes (h : Fenced s) {r : LiveScrubRequest} (hIssued : r ∈ s.issued)
    (hTrue : (s.gate.finish r).1 = true) :
    s.submitted = some r ∧ r.requestId ∉ s.published := by
  obtain ⟨hActive, -, hLatest⟩ := finish_true_iff.1 hTrue
  obtain ⟨f, hFlight, hId⟩ := Option.map_eq_some_iff.1 hActive
  have hPositive := (h.ids r hIssued).1
  constructor
  · have hIs := h.latest
    cases hSubmitted : s.submitted with
    | none =>
        rw [hSubmitted] at hIs
        simp only [Option.map_none, Option.getD_none] at hIs
        omega
    | some newest =>
        rw [hSubmitted] at hIs
        simp only [Option.map_some, Option.getD_some] at hIs
        have hNewest := h.submitted newest hSubmitted
        rw [h.unique newest hNewest r hIssued (by omega)]
  · rw [← hId]
    exact (h.active f hFlight).2

/-- The newest request is kept as long as it waits. -/
theorem Fenced.kept (h : Fenced s) (hWaiting : Waiting s) {r : LiveScrubRequest}
    (hSubmitted : s.submitted = some r) (hOpen : r.requestId ∉ s.published) : Kept s.gate r := by
  have hLatest := h.latest_of hSubmitted
  rcases hWaiting r hSubmitted hOpen with hPending | ⟨hActive, hEpoch⟩
  · refine .inr ⟨hPending, fun hIdle => ?_⟩
    rw [beginNext_eq hIdle hPending]
    exact ⟨rfl, finish_true_iff.2 ⟨rfl, (h.pending r hPending).2.1, hLatest.symm⟩⟩
  · refine .inl ⟨hActive, finish_true_iff.2 ⟨?_, hEpoch, hLatest.symm⟩⟩
    rw [hActive]
    rfl

theorem gateLaw_of (h : Fenced s) (hWaiting : Waiting s) : GateLaw s where
  newest := fun _ hIssued hTrue => (h.publishes hIssued hTrue).1
  once := fun _ hIssued hTrue => (h.publishes hIssued hTrue).2
  kept := fun _ hSubmitted hOpen => h.kept hWaiting hSubmitted hOpen

/-! ### One call -/

section Submit

variable {sessionId : Int} {target : LiveScrubTarget} {nanoTime : Int}
  {request : LiveScrubRequest} {gate : LiveScrubRequestGate}

theorem Fenced.again (h : Fenced s) (hIssued : request ∈ s.issued)
    (hNext : gate.nextRequestId = s.gate.nextRequestId)
    (hLatest : gate.latestRequestId = request.requestId)
    (hActive : gate.inFlight = s.gate.inFlight)
    (hPending : gate.pending = none ∨
      gate.pending = some request ∧ s.gate.pending = some request ∧ gate.epoch = s.gate.epoch) :
    Fenced (s.submits request gate) := by
  have hAll : ∀ r, r ∈ request :: s.issued → r ∈ s.issued := by
    intro r hr
    rcases List.mem_cons.1 hr with rfl | hr
    · exact hIssued
    · exact hr
  constructor
  · intro r hr
    show 1 ≤ r.requestId ∧ r.requestId < gate.nextRequestId
    rw [hNext]
    exact h.ids r (hAll r hr)
  · show 1 ≤ gate.nextRequestId
    rw [hNext]
    exact h.next
  · exact fun r hr r' hr' => h.unique r (hAll r hr) r' (hAll r' hr')
  · show ∀ id ∈ s.published, id < gate.nextRequestId
    rw [hNext]
    exact h.publishedIds
  · intro r hr
    cases hr
    exact List.mem_cons_self ..
  · exact hLatest
  · intro r hr
    rcases hPending with hNone | ⟨hSome, hBefore, hEpoch⟩
    · rw [show (s.submits request gate).gate.pending = gate.pending from rfl, hNone] at hr
      cases hr
    · rw [show (s.submits request gate).gate.pending = gate.pending from rfl, hSome] at hr
      cases hr
      obtain ⟨-, hIn, hOpen⟩ := h.pending request hBefore
      exact ⟨rfl, hIn.trans hEpoch.symm, hOpen⟩
  · intro r hr
    rw [show (s.submits request gate).gate.inFlight = gate.inFlight from rfl, hActive] at hr
    obtain ⟨hMem, hOpen⟩ := h.active r hr
    exact ⟨List.mem_cons_of_mem _ hMem, hOpen⟩
  · intro r hr
    show gate.inFlight ≠ some r
    rw [hActive]
    rcases hPending with hNone | ⟨hSome, hBefore, -⟩
    · rw [show (s.submits request gate).gate.pending = gate.pending from rfl, hNone] at hr
      cases hr
    · rw [show (s.submits request gate).gate.pending = gate.pending from rfl, hSome] at hr
      cases hr
      exact h.apart request hBefore

/-- A request with a new id takes the pending slot. -/
theorem Fenced.fresh (h : Fenced s) (hId : request.requestId = s.gate.nextRequestId)
    (hEpoch : request.epoch = s.gate.epoch) :
    Fenced (s.submits request { s.gate with
      nextRequestId := s.gate.nextRequestId + 1
      latestRequestId := request.requestId
      pending := some request }) := by
  have hNext := h.next
  have hNew : ∀ r ∈ s.issued, r.requestId ≠ request.requestId := by
    intro r hr
    have hBelow := (h.ids r hr).2
    omega
  constructor
  · intro r hr
    show 1 ≤ r.requestId ∧ r.requestId < s.gate.nextRequestId + 1
    rcases List.mem_cons.1 hr with rfl | hr
    · omega
    · have hOld := h.ids r hr
      omega
  · show 1 ≤ s.gate.nextRequestId + 1
    omega
  · intro r hr r' hr' hSame
    rcases List.mem_cons.1 hr with hIs | hOld
    · rcases List.mem_cons.1 hr' with hIs' | hOld'
      · rw [hIs, hIs']
      · exact absurd (by rw [← hSame, hIs]) (hNew r' hOld')
    · rcases List.mem_cons.1 hr' with hIs' | hOld'
      · exact absurd (by rw [hSame, hIs']) (hNew r hOld)
      · exact h.unique r hOld r' hOld' hSame
  · intro id hid
    have hBelow := h.publishedIds id hid
    show id < s.gate.nextRequestId + 1
    omega
  · intro r hr
    cases hr
    exact List.mem_cons_self ..
  · rfl
  · intro r hr
    cases hr
    refine ⟨rfl, hEpoch, fun hPublished => ?_⟩
    have hBelow := h.publishedIds _ hPublished
    omega
  · intro r hr
    obtain ⟨hMem, hOpen⟩ := h.active r hr
    exact ⟨List.mem_cons_of_mem _ hMem, hOpen⟩
  · intro r hr hActive
    cases hr
    exact hNew request (h.active request hActive).1 rfl

theorem Fenced.submit (h : Fenced s)
    (hSubmits : Submits s.gate sessionId target request gate) :
    Fenced (s.submits request gate) := by
  cases hSubmits with
  | pending hPending =>
      have hSubmitted := (h.pending request hPending).1
      exact h.again (h.submitted request hSubmitted) rfl (h.latest_of hSubmitted) rfl
        (.inr ⟨hPending, hPending, rfl⟩)
  | inFlight _ _ hNone hActive hFor => exact h.again (h.active request hActive).1 rfl rfl rfl (.inl rfl)
  | fresh hId hEpoch => exact h.fresh hId hEpoch

/-- The newest request waits, unless it is in flight since an earlier epoch. -/
theorem waiting_submit (hInEpoch : InEpoch s (.submit sessionId target nanoTime))
    (hSubmits : Submits s.gate sessionId target request gate) :
    Waiting (s.submits request gate) := by
  intro r hr _
  cases hr
  cases hSubmits with
  | pending hPending => exact .inl hPending
  | inFlight hSession hTarget hNone hActive hFor =>
      exact .inr ⟨hActive, hInEpoch hSession hTarget hNone request hActive hFor⟩
  | fresh hId hEpoch => exact .inl rfl

end Submit

theorem Fenced.beginNext (h : Fenced s) : Fenced { s with gate := s.gate.beginNext.2 } := by
  cases hActive : s.gate.inFlight with
  | some f =>
      have hSame : s.gate.beginNext.2 = s.gate := by
        unfold LiveScrubRequestGate.beginNext
        rw [hActive]
      rw [hSame]
      exact h
  | none =>
      cases hPending : s.gate.pending with
      | none =>
          have hSame : s.gate.beginNext.2 = s.gate := by
            unfold LiveScrubRequestGate.beginNext
            rw [hActive, hPending]
          rw [hSame]
          exact h
      | some p =>
          rw [beginNext_eq hActive hPending]
          obtain ⟨hSubmitted, -, hOpen⟩ := h.pending p hPending
          refine ⟨h.ids, h.next, h.unique, h.publishedIds, h.submitted, h.latest, ?_, ?_, ?_⟩
          · intro r hr
            cases hr
          · intro r hr
            cases hr
            exact ⟨h.submitted p hSubmitted, hOpen⟩
          · intro r hr
            cases hr

theorem Fenced.waiting_beginNext (h : Fenced s) (hWaiting : Waiting s) :
    Waiting { s with gate := s.gate.beginNext.2 } := by
  intro r hSubmitted hOpen
  have hNow := hWaiting r hSubmitted hOpen
  show s.gate.beginNext.2.pending = some r ∨
    s.gate.beginNext.2.inFlight = some r ∧ r.epoch = s.gate.beginNext.2.epoch
  unfold LiveScrubRequestGate.beginNext
  cases hActive : s.gate.inFlight with
  | some f =>
      rw [hActive] at hNow
      simpa [hActive] using hNow
  | none =>
      cases hPending : s.gate.pending with
      | none =>
          rw [hActive, hPending] at hNow
          simp at hNow
      | some p =>
          rw [hActive, hPending] at hNow
          rcases hNow with hIs | ⟨hIs, -⟩
          · have hEpoch := (h.pending p hPending).2.1
            cases hIs
            exact .inr ⟨rfl, hEpoch⟩
          · cases hIs

section Finish

variable {request : LiveScrubRequest}

/-- A `finish` of anything but the request in flight changes nothing. -/
theorem finishes_other
    (hOther : s.gate.inFlight.map (·.requestId) ≠ some request.requestId) :
    s.finishes request = s := by
  unfold GateHistory.finishes LiveScrubRequestGate.finish
  rw [if_pos hOther]
  rfl

/-- A `finish` of the request in flight frees its slot. -/
theorem finishes_active
    (hActive : s.gate.inFlight.map (·.requestId) = some request.requestId) :
    (s.finishes request).gate = { s.gate with inFlight := none } := by
  unfold GateHistory.finishes LiveScrubRequestGate.finish
  rw [if_neg (not_not.2 hActive)]

theorem mem_published_finishes {id : Int} : id ∈ (s.finishes request).published ↔
    ((s.gate.finish request).1 = true ∧ id = request.requestId) ∨ id ∈ s.published := by
  show id ∈ (if (s.gate.finish request).1 then request.requestId :: s.published
    else s.published) ↔ _
  cases (s.gate.finish request).1 <;> simp

theorem Fenced.finish (h : Fenced s) (hIssued : request ∈ s.issued) :
    Fenced (s.finishes request) := by
  by_cases hActive : s.gate.inFlight.map (·.requestId) = some request.requestId
  · have hGate := finishes_active hActive
    obtain ⟨f, hFlight, hId⟩ := Option.map_eq_some_iff.1 hActive
    constructor
    · rw [hGate]
      exact h.ids
    · rw [hGate]
      exact h.next
    · exact h.unique
    · intro id hid
      rw [hGate]
      rcases mem_published_finishes.1 hid with ⟨-, rfl⟩ | hOld
      · exact (h.ids request hIssued).2
      · exact h.publishedIds id hOld
    · exact h.submitted
    · rw [hGate]
      exact h.latest
    · intro r hr
      rw [hGate] at hr ⊢
      obtain ⟨hSubmitted, hEpoch, hOpen⟩ := h.pending r hr
      refine ⟨hSubmitted, hEpoch, fun hPublished => ?_⟩
      rcases mem_published_finishes.1 hPublished with ⟨-, hSame⟩ | hOld
      · have hIs := h.unique r (h.submitted r hSubmitted) f (h.active f hFlight).1
          (hSame.trans hId.symm)
        rw [← hIs] at hFlight
        exact h.apart r hr hFlight
      · exact hOpen hOld
    · intro r hr
      rw [hGate] at hr
      cases hr
    · intro r _ hFlight'
      rw [hGate] at hFlight'
      cases hFlight'
  · rw [finishes_other hActive]
    exact h

theorem Fenced.waiting_finish (h : Fenced s) (hWaiting : Waiting s) (hIssued : request ∈ s.issued) :
    Waiting (s.finishes request) := by
  by_cases hActive : s.gate.inFlight.map (·.requestId) = some request.requestId
  · intro r hSubmitted hOpen
    change s.submitted = some r at hSubmitted
    have hOpenBefore : r.requestId ∉ s.published := fun hOld =>
      hOpen (mem_published_finishes.2 (.inr hOld))
    rw [finishes_active hActive]
    rcases hWaiting r hSubmitted hOpenBefore with hPending | ⟨hFlight, hEpoch⟩
    · exact .inl hPending
    · -- the newest request was in flight, so this call publishes it
      rw [hFlight, Option.map_some, Option.some.injEq] at hActive
      have hSame := h.unique r (h.submitted r hSubmitted) request hIssued hActive
      subst hSame
      have hTrue : (s.gate.finish r).1 = true := by
        rw [finish_true_iff, hFlight]
        exact ⟨rfl, hEpoch, (h.latest_of hSubmitted).symm⟩
      exact absurd (mem_published_finishes.2 (.inl ⟨hTrue, rfl⟩)) hOpen
  · rw [finishes_other hActive]
    exact hWaiting

end Finish

theorem Fenced.invalidate (h : Fenced s) {gate : LiveScrubRequestGate}
    {cancellation : Option LiveScrubCancellation}
    (hOk : s.gate.invalidate = .ok (cancellation, gate)) :
    Fenced { s with gate, submitted := none } := by
  unfold LiveScrubRequestGate.invalidate at hOk
  obtain ⟨epoch, hEpoch, hOk⟩ := bind_eq_ok.1 hOk
  cases hOk
  refine ⟨h.ids, h.next, h.unique, h.publishedIds, ?_, rfl, ?_, h.active, ?_⟩
  · intro r hr
    cases hr
  · intro r hr
    cases hr
  · intro r hr
    cases hr

theorem Fenced.apply (h : Fenced s) (op : GateOp) : Fenced (applyOp s op) := by
  cases op with
  | submit sessionId target nanoTime =>
      simp only [applyOp]
      cases hOk : s.gate.submit sessionId target nanoTime with
      | error error => exact h
      | ok result => exact h.submit (submit_ok hOk)
  | beginNext => exact h.beginNext
  | finish request =>
      show Fenced (if request ∈ s.issued then s.finishes request else s)
      by_cases hIssued : request ∈ s.issued
      · rw [if_pos hIssued]
        exact h.finish hIssued
      · rw [if_neg hIssued]
        exact h
  | invalidate =>
      simp only [applyOp]
      cases hOk : s.gate.invalidate with
      | error error => exact h
      | ok result => exact h.invalidate hOk

theorem Fenced.waiting_apply (h : Fenced s) (hWaiting : Waiting s) {op : GateOp}
    (hInEpoch : InEpoch s op) : Waiting (applyOp s op) := by
  cases op with
  | submit sessionId target nanoTime =>
      simp only [applyOp]
      cases hOk : s.gate.submit sessionId target nanoTime with
      | error error => exact hWaiting
      | ok result => exact waiting_submit hInEpoch (submit_ok hOk)
  | beginNext => exact h.waiting_beginNext hWaiting
  | finish request =>
      show Waiting (if request ∈ s.issued then s.finishes request else s)
      by_cases hIssued : request ∈ s.issued
      · rw [if_pos hIssued]
        exact h.waiting_finish hWaiting hIssued
      · rw [if_neg hIssued]
        exact hWaiting
  | invalidate =>
      simp only [applyOp]
      cases hOk : s.gate.invalidate with
      | error error => exact hWaiting
      | ok result =>
          intro r hSubmitted
          cases hSubmitted

/-- A submission that keeps the newest request met the condition. -/
theorem Fenced.inEpoch_of_law (h : Fenced s) {op : GateOp} (hLaw : GateLaw (applyOp s op)) :
    InEpoch s op := by
  cases op with
  | submit sessionId target nanoTime =>
      intro hSession hTarget hNone active hActive hFor
      have hFlight : s.gate.inFlight.filter (·.isFor sessionId target) = some active := by
        rw [hActive, Option.filter_some, if_pos hFor]
      have hOk : s.gate.submit sessionId target nanoTime = .ok (active,
          { s.gate with pending := none, latestRequestId := active.requestId }) := by
        simp only [LiveScrubRequestGate.submit, ensure_true hSession, ensure_true hTarget, ok_bind,
          hNone, hFlight]
      simp only [applyOp, hOk] at hLaw
      rcases hLaw.kept active rfl (h.active active hActive).2 with ⟨-, hTrue⟩ | ⟨hPending, -⟩
      · exact (finish_true_iff.1 hTrue).2.1
      · cases hPending
  | _ => trivial

/-- **The newest request is never lost, exactly when.**  In every run of a gate a
result is published at most once and only for the newest request, and the newest
request is kept, if and only if no submission returns a request in flight from an
epoch that an `invalidate` has ended. -/
theorem newest_request_kept_iff (ops : List GateOp) :
    (∀ k, GateLaw ((ops.take k).foldl applyOp .initial)) ↔
      Meets applyOp InEpoch .initial ops := by
  have hKeep : ∀ s op, Fenced s ∧ Waiting s → InEpoch s op →
      Fenced (applyOp s op) ∧ Waiting (applyOp s op) :=
    fun s op h hInEpoch => ⟨h.1.apply op, h.1.waiting_apply h.2 hInEpoch⟩
  refine always_iff_meets hKeep ?_ ?_ ⟨fenced_initial, waiting_initial⟩ ops
  · exact fun s h => gateLaw_of h.1 h.2
  · exact fun s op h hLaw => h.1.inEpoch_of_law hLaw

/-- Whatever the calls, no result but the newest request's is ever published, and
none twice. -/
theorem published_newest_once (ops : List GateOp) {request : LiveScrubRequest}
    (hIssued : request ∈ (ops.foldl applyOp .initial).issued)
    (hTrue : ((ops.foldl applyOp .initial).gate.finish request).1 = true) :
    (ops.foldl applyOp .initial).submitted = some request ∧
      request.requestId ∉ (ops.foldl applyOp .initial).published := by
  have hKeep : ∀ s op, Fenced s → Fenced (applyOp s op) := fun _ op h => h.apply op
  have hFenced := run_invariant_of_step hKeep fenced_initial ops
  exact hFenced.publishes hIssued hTrue

/-- The scrub is released while its request is in flight, and comes back to the
same frame. -/
def backToTheFrame : List GateOp :=
  [.submit 41 (.frame 8) 0, .beginNext, .invalidate, .submit 41 (.frame 8) 0]

/-- The second submission returns the request in flight, which cannot be published
any more. -/
theorem backToTheFrame_lost :
    (backToTheFrame.foldl applyOp .initial).submitted = some ⟨1, 1, 41, .frame 8, 0⟩ ∧
      (backToTheFrame.foldl applyOp .initial).gate =
        ⟨2, 2, 1, some ⟨1, 1, 41, .frame 8, 0⟩, none⟩ ∧
      ((backToTheFrame.foldl applyOp .initial).gate.finish ⟨1, 1, 41, .frame 8, 0⟩).1 = false ∧
      ¬∀ k, GateLaw ((backToTheFrame.take k).foldl applyOp .initial) := by
  refine ⟨by decide, by decide, by decide, fun hAlways => ?_⟩
  rcases (hAlways 4).kept ⟨1, 1, 41, .frame 8, 0⟩ (by decide) (by decide) with
    ⟨-, hTrue⟩ | ⟨hPending, -⟩
  · revert hTrue
    decide
  · revert hPending
    decide

end FrameScope.Ports.LiveScrubGate
