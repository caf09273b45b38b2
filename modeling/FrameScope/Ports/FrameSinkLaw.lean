import FrameScope.Ports.FrameSink
import FrameScope.Verified.Runs

/-!
# Which frame documents remain

A commit is a flag on the document, set before the document is closed.  When
closing the descriptor throws after that, the document keeps its flag and is not
deleted, yet `commitFrame` answers that the frame was not written.  A commit with
a byte length that is not positive leaves the document open.  Apart from these
two the sink keeps what it promises over every run.
-/

namespace FrameScope.Ports.FrameSinkLaw

open FrameScope.Verified.Runs
open FrameScope.Ports.FrameSink

/-! ## What the native side observes -/

/-- The sink, with the documents of the frames it reported as written, and those
of the frames it reported as not written or was told to abort. -/
structure Observed (τ : Type) where
  sink : BatchSafFrameSink τ
  accepted : Nat → Bool
  rejected : Nat → Bool

section Observe

variable {τ : Type}

def initial : Observed τ := ⟨.initial, fun _ => false, fun _ => false⟩

/-- The open frame, if a commit names it. -/
def named (sink : BatchSafFrameSink τ) (fileName : String) (frameId ordinal total : Int) :
    Option Pending :=
  sink.pending.filter fun value => value.Names fileName frameId ordinal total

def mark (flags : Nat → Bool) (value : Option Pending) : Nat → Bool :=
  match value with
  | none => flags
  | some value => Function.update flags value.document true

/-- A failed `openFrame` reports the documents made in it as not written. -/
def opened (o : Observed τ) (result : Int × BatchSafFrameSink τ) : Observed τ :=
  { o with
    sink := result.2
    rejected := fun uri => o.rejected uri || (decide (result.1 = invalidFd) &&
      decide (o.sink.documents.next ≤ uri) && decide (uri < result.2.documents.next)) }

/-- The answer of `commitFrame` is about the frame that it names. -/
def answered (o : Observed τ) (result : Bool × BatchSafFrameSink τ) (frame : Option Pending) :
    Observed τ :=
  if result.1 = true then { o with sink := result.2, accepted := mark o.accepted frame }
  else { o with sink := result.2, rejected := mark o.rejected frame }

def step (o : Observed τ) : SinkCall τ → Observed τ
  | .openFrame fileName mimeType frameId ordinal total outcome =>
      opened o (o.sink.openFrame fileName mimeType frameId ordinal total outcome)
  | .commitFrame fileName frameId ordinal total byteLength closeDescriptor =>
      answered o (o.sink.commitFrame fileName frameId ordinal total byteLength closeDescriptor)
        (named o.sink fileName frameId ordinal total)
  | .abortFrame fileName closeDescriptor =>
      { o with
        sink := o.sink.abortFrame fileName closeDescriptor
        rejected := mark o.rejected (o.sink.pending.filter fun value => value.fileName = fileName) }
  | .close closeDescriptor => { o with sink := o.sink.close closeDescriptor }

/-- One document at most is open; nothing is left of a frame that was rejected; and
a closed sink leaves the documents of the accepted frames and no others. -/
structure SinkKept (o : Observed τ) : Prop where
  one_open : ∀ u v d d', o.sink.documents.objects u = some d → o.sink.documents.objects v = some d' →
    d.closed = false → d'.closed = false → u = v
  rejected_gone : ∀ u, o.rejected u = true → o.sink.documents.existing u = false
  closed_exact : o.sink.closed = true →
    ∀ u, o.sink.documents.existing u = true ↔ o.accepted u = true

/-- A commit of the open frame is not empty, and closing the descriptor does not throw. -/
def Completes (o : Observed τ) : SinkCall τ → Prop
  | .commitFrame fileName frameId ordinal total byteLength closeDescriptor =>
      ∀ value, named o.sink fileName frameId ordinal total = some value →
        0 < byteLength ∧ closeDescriptor = none
  | _ => True

/-! ## The invariant -/

/-- Everything that exists is accepted or open, and only the open document is not closed. -/
structure SinkInv (documents : Documents) (pending : Option Pending) (accepted rejected : Nat → Bool) :
    Prop where
  open_object : ∀ value, pending = some value →
    documents.objects value.document = some ⟨false, false⟩ ∧ value.document < documents.next ∧
      documents.existing value.document = true ∧ accepted value.document = false
  others_closed : ∀ u d, documents.objects u = some d → d.closed = false →
    ∃ value, pending = some value ∧ value.document = u
  existing_iff : ∀ u, documents.existing u = true ↔
    accepted u = true ∨ ∃ value, pending = some value ∧ value.document = u
  rejected_gone : ∀ u, rejected u = true → documents.existing u = false ∧ u < documents.next
  fresh : ∀ u, documents.next ≤ u → documents.objects u = none ∧ accepted u = false

structure Inv (o : Observed τ) : Prop where
  documents : SinkInv o.sink.documents o.sink.pending o.accepted o.rejected
  closed : o.sink.closed = true → o.sink.pending = none

theorem inv_initial : Inv (initial : Observed τ) := by
  refine ⟨⟨?_, ?_, ?_, ?_, ?_⟩, fun _ => rfl⟩
  · intro value hPending
    cases hPending
  · intro u d hObject
    cases hObject
  · intro u
    simp [initial, BatchSafFrameSink.initial, Documents.none]
  · intro u hRejected
    cases hRejected
  · exact fun _ _ => ⟨rfl, rfl⟩

/-- The invariant gives what the sink promises. -/
theorem sinkKept_of_inv (o : Observed τ) (h : Inv o) : SinkKept o where
  one_open := by
    intro u v d d' hu hv hOpen hOpen'
    obtain ⟨value, hPending, hSame⟩ := h.documents.others_closed u d hu hOpen
    obtain ⟨value', hPending', hSame'⟩ := h.documents.others_closed v d' hv hOpen'
    rw [hPending] at hPending'
    cases hPending'
    rw [← hSame, hSame']
  rejected_gone := fun u hRejected => (h.documents.rejected_gone u hRejected).1
  closed_exact := by
    intro hClosed u
    rw [h.documents.existing_iff, h.closed hClosed]
    simp

/-! ## The document that is open -/

variable {documents : Documents} {pending : Option Pending}
  {accepted rejected rejected' : Nat → Bool}

/-- An uncommitted document is deleted when it is closed, even if that throws. -/
theorem close_uncommitted {uri : Nat} (hOpen : documents.objects uri = some ⟨false, false⟩)
    (closeDescriptor : Option τ) :
    documents.close uri closeDescriptor =
      (closeDescriptor.map .provider, (documents.setObject uri ⟨false, true⟩).delete uri) := by
  simp [Documents.close, hOpen]

/-- Aborting the open document leaves none, and may be put down to its frame. -/
theorem SinkInv.abort {value : Pending} (h : SinkInv documents (some value) accepted rejected)
    (hRejected : rejected' = rejected ∨ rejected' = Function.update rejected value.document true) :
    SinkInv ((documents.setObject value.document ⟨false, true⟩).delete value.document) none accepted
      rejected' := by
  obtain ⟨hObject, hKnown, hExists, hAccepted⟩ := h.open_object value rfl
  constructor
  · intro other hPending
    cases hPending
  · intro u d hu hOpen
    by_cases hSame : u = value.document
    · have hIs : (⟨false, true⟩ : AndroidExportDocument) = d := by
        simpa [Documents.setObject, Documents.delete, hSame] using hu
      rw [← hIs] at hOpen
      cases hOpen
    · have hBefore : documents.objects u = some d := by
        simpa [Documents.setObject, Documents.delete, hSame] using hu
      obtain ⟨other, hPending, hDocument⟩ := h.others_closed u d hBefore hOpen
      cases hPending
      exact absurd hDocument.symm hSame
  · intro u
    by_cases hSame : u = value.document
    · simp [Documents.setObject, Documents.delete, hSame, hAccepted]
    · have hBefore := h.existing_iff u
      simpa [Documents.setObject, Documents.delete, hSame, Ne.symm hSame] using hBefore
  · intro u hu
    by_cases hSame : u = value.document
    · rw [hSame]
      exact ⟨by simp [Documents.setObject, Documents.delete], hKnown⟩
    · have hBefore : rejected u = true := by
        rcases hRejected with hIs | hIs
        · rwa [hIs] at hu
        · rwa [hIs, Function.update_of_ne hSame] at hu
      have hGone := h.rejected_gone u hBefore
      simpa [Documents.setObject, Documents.delete, hSame] using hGone
  · intro u hu
    have hPast : documents.next ≤ u := hu
    have hNe : u ≠ value.document := by omega
    simpa [Documents.setObject, Documents.delete, hNe] using h.fresh u hPast

/-- A committed document that is closed stays, and is accepted. -/
theorem SinkInv.accept {value : Pending} (h : SinkInv documents (some value) accepted rejected) :
    SinkInv (documents.setObject value.document ⟨true, true⟩) none
      (Function.update accepted value.document true) rejected := by
  obtain ⟨hObject, hKnown, hExists, hAccepted⟩ := h.open_object value rfl
  constructor
  · intro other hPending
    cases hPending
  · intro u d hu hOpen
    by_cases hSame : u = value.document
    · have hIs : (⟨true, true⟩ : AndroidExportDocument) = d := by
        simpa [Documents.setObject, hSame] using hu
      rw [← hIs] at hOpen
      cases hOpen
    · have hBefore : documents.objects u = some d := by
        simpa [Documents.setObject, hSame] using hu
      obtain ⟨other, hPending, hDocument⟩ := h.others_closed u d hBefore hOpen
      cases hPending
      exact absurd hDocument.symm hSame
  · intro u
    by_cases hSame : u = value.document
    · simp [Documents.setObject, hSame, hExists]
    · have hBefore := h.existing_iff u
      simpa [Documents.setObject, hSame, Ne.symm hSame] using hBefore
  · exact h.rejected_gone
  · intro u hu
    have hPast : documents.next ≤ u := hu
    have hNe : u ≠ value.document := by omega
    simpa [Documents.setObject, hNe] using h.fresh u hPast

/-- A new document is the open one. -/
theorem SinkInv.create (h : SinkInv documents none accepted rejected) (value : Pending)
    (hValue : value.document = documents.next) :
    SinkInv
      { next := documents.next + 1
        existing := Function.update documents.existing documents.next true
        objects := Function.update documents.objects documents.next (some ⟨false, false⟩) }
      (some value) accepted rejected := by
  obtain ⟨hNoObject, hNotAccepted⟩ := h.fresh documents.next (Nat.le_refl _)
  constructor
  · intro other hPending
    cases hPending
    rw [hValue]
    exact ⟨Function.update_self .., Nat.lt_succ_self _, Function.update_self .., hNotAccepted⟩
  · intro u d hu hOpen
    by_cases hSame : u = documents.next
    · exact ⟨value, rfl, by rw [hValue, hSame]⟩
    · have hBefore : documents.objects u = some d := by simpa [hSame] using hu
      obtain ⟨other, hPending, -⟩ := h.others_closed u d hBefore hOpen
      cases hPending
  · intro u
    by_cases hSame : u = documents.next
    · simp [hSame, hValue]
    · have hBefore := h.existing_iff u
      simpa [hSame, Ne.symm hSame, hValue] using hBefore
  · intro u hu
    obtain ⟨hGone, hKnown⟩ := h.rejected_gone u hu
    have hNe : u ≠ documents.next := by omega
    refine ⟨?_, ?_⟩
    · simpa [hNe] using hGone
    · show u < documents.next + 1
      omega
  · intro u hu
    have hPast : documents.next + 1 ≤ u := hu
    have hNe : u ≠ documents.next := by omega
    simpa [hNe] using h.fresh u (by omega)

/-- A document that was deleted at once leaves no trace but its number. -/
theorem SinkInv.skip (h : SinkInv documents none accepted rejected) :
    SinkInv { documents with next := documents.next + 1 } none accepted
      (Function.update rejected documents.next true) := by
  constructor
  · intro value hPending
    cases hPending
  · exact h.others_closed
  · exact h.existing_iff
  · intro u hu
    by_cases hSame : u = documents.next
    · rw [hSame]
      refine ⟨?_, Nat.lt_succ_self _⟩
      have hNot := (h.fresh documents.next (Nat.le_refl _)).2
      have hGone : ¬ documents.existing documents.next = true := by
        rw [h.existing_iff, hNot]
        simp
      simpa using hGone
    · rw [Function.update_of_ne hSame] at hu
      obtain ⟨hGone, hKnown⟩ := h.rejected_gone u hu
      exact ⟨hGone, Nat.lt_succ_of_lt hKnown⟩
  · intro u hu
    have hPast : documents.next + 1 ≤ u := hu
    exact h.fresh u (by omega)

/-! ## What is recorded besides -/

section Records

variable (s : BatchSafFrameSink τ) (error : Throwable τ) (errors : Option (Throwable τ))

@[simp] theorem recordFailure_documents : (s.recordFailure error).documents = s.documents := by
  unfold BatchSafFrameSink.recordFailure
  cases s.firstFailure <;> rfl

@[simp] theorem recordFailure_pending : (s.recordFailure error).pending = s.pending := by
  unfold BatchSafFrameSink.recordFailure
  cases s.firstFailure <;> rfl

@[simp] theorem recordFailure_closed : (s.recordFailure error).closed = s.closed := by
  unfold BatchSafFrameSink.recordFailure
  cases s.firstFailure <;> rfl

@[simp] theorem recordFailures_documents : (s.recordFailures errors).documents = s.documents := by
  cases errors with
  | none => rfl
  | some error => exact recordFailure_documents s error

@[simp] theorem recordFailures_pending : (s.recordFailures errors).pending = s.pending := by
  cases errors with
  | none => rfl
  | some error => exact recordFailure_pending s error

@[simp] theorem recordFailures_closed : (s.recordFailures errors).closed = s.closed := by
  cases errors with
  | none => rfl
  | some error => exact recordFailure_closed s error

end Records

/-- Aborting the open frame. -/
theorem abortPending_open {s : BatchSafFrameSink τ} {value : Pending}
    (hPending : s.pending = some value)
    (hOpen : s.documents.objects value.document = some ⟨false, false⟩) (closeDescriptor : Option τ) :
    (s.abortPending value closeDescriptor).documents =
        (s.documents.setObject value.document ⟨false, true⟩).delete value.document ∧
      (s.abortPending value closeDescriptor).pending = none ∧
        (s.abortPending value closeDescriptor).closed = s.closed := by
  unfold BatchSafFrameSink.abortPending
  simp [close_uncommitted hOpen, hPending]

/-! ## One call -/

theorem rejected_nothing (rejected : Nat → Bool) (failed : Bool) (n : Nat) :
    (fun u => rejected u || (failed && decide (n ≤ u) && decide (u < n))) = rejected := by
  funext u
  have hEmpty : (failed && decide (n ≤ u) && decide (u < n)) = false := by
    simp only [Bool.and_eq_false_iff, decide_eq_false_iff_not]
    omega
  rw [hEmpty, Bool.or_false]

theorem rejected_one (rejected : Nat → Bool) (n : Nat) :
    (fun u => rejected u || (true && decide (n ≤ u) && decide (u < n + 1))) =
      Function.update rejected n true := by
  funext u
  by_cases hSame : u = n
  · simp [hSame]
  · have hNot : ¬ (n ≤ u ∧ u < n + 1) := by omega
    have hNone : (decide (n ≤ u) && decide (u < n + 1)) = false := by simpa using hNot
    simp only [Bool.true_and, hNone, Bool.or_false, Function.update_of_ne hSame]

/-- A call that made no document. -/
theorem Inv.opened_same (o : Observed τ) (h : Inv o) {sink : BatchSafFrameSink τ} (fd : Int)
    (hDocuments : sink.documents = o.sink.documents) (hPending : sink.pending = o.sink.pending)
    (hClosed : sink.closed = o.sink.closed) : Inv (opened o (fd, sink)) := by
  constructor
  · show SinkInv sink.documents sink.pending o.accepted _
    simp only [opened, hDocuments, hPending, rejected_nothing]
    exact h.documents
  · show sink.closed = true → sink.pending = none
    rw [hClosed, hPending]
    exact h.closed

theorem Inv.openFrame (o : Observed τ) (h : Inv o) (fileName mimeType : String)
    (frameId ordinal total : Int) (outcome : OpenOutcome τ) :
    Inv (step o (.openFrame fileName mimeType frameId ordinal total outcome)) := by
  show Inv (opened o (o.sink.openFrame fileName mimeType frameId ordinal total outcome))
  unfold BatchSafFrameSink.openFrame
  by_cases hBusy : o.sink.closed = true ∨ o.sink.pending.isSome = true
  · rw [if_pos hBusy]
    exact h.opened_same o _ rfl rfl rfl
  rw [if_neg hBusy]
  by_cases hRefused : frameAccepted fileName mimeType frameId ordinal total = false
  · rw [if_pos hRefused]
    exact h.opened_same o _ rfl rfl rfl
  rw [if_neg hRefused]
  have hOpen : ¬ o.sink.closed = true := fun hClosed => hBusy (.inl hClosed)
  have hFree : o.sink.pending = none := by
    cases hPending : o.sink.pending with
    | none => rfl
    | some value => exact absurd (.inr (by rw [hPending]; rfl)) hBusy
  have hInv := h.documents
  rw [hFree] at hInv
  cases hCreate : outcome.create with
  | refused error =>
      simp only [Documents.create]
      exact h.opened_same o _ (by simp) (by simp) (by simp)
  | undescribed error =>
      simp only [Documents.create]
      constructor
      · simp only [opened, recordFailure_documents, recordFailure_pending, hFree, decide_true,
          rejected_one]
        exact hInv.skip
      · intro _
        simp [opened, hFree]
  | opened =>
      have hCreated := hInv.create ⟨fileName, frameId, ordinal, total, o.sink.documents.next⟩ rfl
      simp only [Documents.create]
      -- every failure from here on aborts the document
      have hAbort : ∀ s : BatchSafFrameSink τ,
          s.documents = ⟨o.sink.documents.next + 1,
            Function.update o.sink.documents.existing o.sink.documents.next true,
            Function.update o.sink.documents.objects o.sink.documents.next (some ⟨false, false⟩)⟩ →
          s.pending = some ⟨fileName, frameId, ordinal, total, o.sink.documents.next⟩ →
          Inv (FrameSinkLaw.opened o (invalidFd, s.abortPending
            ⟨fileName, frameId, ordinal, total, o.sink.documents.next⟩ outcome.closeDescriptor)) := by
        intro s hDocuments hPending
        have hObject : s.documents.objects o.sink.documents.next = some ⟨false, false⟩ := by
          rw [hDocuments]
          exact Function.update_self ..
        obtain ⟨hDocuments', hPending', hClosed'⟩ :=
          abortPending_open hPending hObject outcome.closeDescriptor
        have hNext : (s.abortPending ⟨fileName, frameId, ordinal, total, o.sink.documents.next⟩
            outcome.closeDescriptor).documents.next = o.sink.documents.next + 1 := by
          rw [hDocuments', hDocuments]
          rfl
        constructor
        · simp only [FrameSinkLaw.opened, hNext, decide_true, rejected_one]
          rw [hPending', hDocuments', hDocuments]
          exact hCreated.abort (.inr rfl)
        · exact fun _ => hPending'
      cases outcome.onProgress with
      | some error => exact hAbort _ (by simp) (by simp)
      | none =>
          have hFd : Documents.fd (⟨o.sink.documents.next + 1,
              Function.update o.sink.documents.existing o.sink.documents.next true,
              Function.update o.sink.documents.objects o.sink.documents.next
                (some ⟨false, false⟩)⟩ : Documents) o.sink.documents.next outcome.descriptor =
              outcome.descriptor.mapError .provider := by
            simp [Documents.fd]
          rw [hFd]
          cases outcome.descriptor with
          | error error => exact hAbort _ (by simp) (by simp)
          | ok fd =>
              simp only [Except.mapError]
              by_cases hValid : 0 ≤ fd
              · rw [if_pos hValid]
                have hNot : ¬ fd = invalidFd := by
                  show ¬ fd = -1
                  omega
                constructor
                · simp only [FrameSinkLaw.opened, hNot, decide_false, Bool.false_and, Bool.or_false]
                  exact hCreated
                · exact fun hClosed => absurd hClosed hOpen
              · rw [if_neg hValid]
                exact hAbort _ rfl rfl

theorem named_eq_some {sink : BatchSafFrameSink τ} {fileName : String} {frameId ordinal total : Int}
    {value : Pending} : named sink fileName frameId ordinal total = some value ↔
      sink.pending = some value ∧ value.Names fileName frameId ordinal total := by
  unfold named
  simp [Option.filter_eq_some_iff]

/-- A commit of the open frame: it is reported as written exactly when it has a
positive length and its descriptor closes, and otherwise its document remains. -/
theorem commitFrame_named (o : Observed τ) (h : Inv o) {fileName : String}
    {frameId ordinal total byteLength : Int} {closeDescriptor : Option τ} {value : Pending}
    (hNamed : named o.sink fileName frameId ordinal total = some value) :
    (0 < byteLength ∧ closeDescriptor = none →
        o.sink.commitFrame fileName frameId ordinal total byteLength closeDescriptor =
          (true, { o.sink with
            pending := none
            documents := o.sink.documents.setObject value.document ⟨true, true⟩ })) ∧
      (¬ (0 < byteLength ∧ closeDescriptor = none) →
        (o.sink.commitFrame fileName frameId ordinal total byteLength closeDescriptor).1 = false ∧
          (o.sink.commitFrame fileName frameId ordinal total byteLength
            closeDescriptor).2.documents.existing value.document = true) := by
  obtain ⟨hPending, hNames⟩ := named_eq_some.1 hNamed
  have hOpen : ¬ o.sink.closed = true := by
    intro hClosed
    rw [h.closed hClosed] at hPending
    cases hPending
  obtain ⟨hObject, -, hExists, -⟩ := h.documents.open_object value hPending
  have hCommit : (o.sink.documents.commit value.document : Except (Throwable τ) Documents) =
      .ok (o.sink.documents.setObject value.document ⟨true, false⟩) := by
    simp [Documents.commit, hObject]
  have hClose : ∀ error : Option τ,
      (o.sink.documents.setObject value.document ⟨true, false⟩).close value.document error =
        (error.map .provider, o.sink.documents.setObject value.document ⟨true, true⟩) := by
    intro error
    simp [Documents.close, Documents.setObject]
  unfold BatchSafFrameSink.commitFrame
  by_cases hLength : byteLength ≤ 0
  · constructor
    · intro hBoth
      omega
    · intro _
      rw [if_pos (.inr hLength)]
      exact ⟨rfl, hExists⟩
  · have hGo : ¬ (o.sink.closed = true ∨ byteLength ≤ 0) := by
      rintro (hClosed | hShort)
      · exact hOpen hClosed
      · exact hLength hShort
    simp only [if_neg hGo, hPending, if_pos hNames, BatchSafFrameSink.commitPending, hCommit, hClose]
    cases closeDescriptor with
    | none =>
        constructor
        · exact fun _ => rfl
        · intro hNot
          exact absurd ⟨by omega, rfl⟩ hNot
    | some error =>
        constructor
        · intro hBoth
          cases hBoth.2
        · intro _
          refine ⟨rfl, ?_⟩
          simp [Documents.close, Documents.setObject, hExists]

/-- A commit that does not name the open frame changes nothing. -/
theorem commitFrame_unnamed (o : Observed τ) {fileName : String}
    {frameId ordinal total byteLength : Int} {closeDescriptor : Option τ}
    (hNamed : named o.sink fileName frameId ordinal total = none) :
    o.sink.commitFrame fileName frameId ordinal total byteLength closeDescriptor =
      (false, o.sink) := by
  unfold BatchSafFrameSink.commitFrame
  by_cases hStop : o.sink.closed = true ∨ byteLength ≤ 0
  · rw [if_pos hStop]
  · rw [if_neg hStop]
    cases hPending : o.sink.pending with
    | none => rfl
    | some value =>
        have hNot : ¬ value.Names fileName frameId ordinal total := by
          intro hNames
          rw [named_eq_some.2 ⟨hPending, hNames⟩] at hNamed
          cases hNamed
        simp only [if_neg hNot]

theorem Inv.commitFrame (o : Observed τ) (h : Inv o) (fileName : String)
    (frameId ordinal total byteLength : Int) (closeDescriptor : Option τ)
    (hCompletes : Completes o
      (.commitFrame fileName frameId ordinal total byteLength closeDescriptor)) :
    Inv (step o (.commitFrame fileName frameId ordinal total byteLength closeDescriptor)) := by
  show Inv (answered o _ _)
  cases hNamed : named o.sink fileName frameId ordinal total with
  | none =>
      rw [commitFrame_unnamed o hNamed]
      exact ⟨h.documents, h.closed⟩
  | some value =>
      have hPending := (named_eq_some.1 hNamed).1
      have hInv := h.documents
      rw [hPending] at hInv
      rw [(commitFrame_named o h hNamed).1 (hCompletes value hNamed)]
      exact ⟨hInv.accept, fun _ => rfl⟩

/-- A commit of the open frame that does not complete breaks the promise. -/
theorem completes_of_sinkKept (o : Observed τ) (call : SinkCall τ) (h : Inv o)
    (hKept : SinkKept (step o call)) : Completes o call := by
  cases call with
  | openFrame fileName mimeType frameId ordinal total outcome => trivial
  | abortFrame fileName closeDescriptor => trivial
  | close closeDescriptor => trivial
  | commitFrame fileName frameId ordinal total byteLength closeDescriptor =>
      intro value hNamed
      by_contra hNot
      obtain ⟨hFalse, hExists⟩ := (commitFrame_named o h hNamed).2 hNot
      have hStep : step o (.commitFrame fileName frameId ordinal total byteLength closeDescriptor) =
          { o with
            sink := (o.sink.commitFrame fileName frameId ordinal total byteLength closeDescriptor).2
            rejected := Function.update o.rejected value.document true } := by
        simp only [step, answered, hFalse, hNamed, mark, Bool.false_eq_true, if_false]
      rw [hStep] at hKept
      have hGone := hKept.rejected_gone value.document (Function.update_self ..)
      rw [hExists] at hGone
      cases hGone

theorem Inv.abortFrame (o : Observed τ) (h : Inv o) (fileName : String)
    (closeDescriptor : Option τ) : Inv (step o (.abortFrame fileName closeDescriptor)) := by
  unfold step BatchSafFrameSink.abortFrame
  cases hPending : o.sink.pending with
  | none =>
      simp only [Option.filter_none, mark]
      have hInv := h.documents
      rw [hPending] at hInv
      exact ⟨by rw [hPending]; exact hInv, h.closed⟩
  | some value =>
      have hInv := h.documents
      rw [hPending] at hInv
      by_cases hName : value.fileName = fileName
      · obtain ⟨hDocuments, hAfter, -⟩ := abortPending_open hPending (hInv.open_object value rfl).1
          closeDescriptor
        simp only [Option.filter_some, hName, decide_true, if_true, mark]
        constructor
        · simp only [hDocuments, hAfter]
          exact hInv.abort (.inr rfl)
        · exact fun _ => hAfter
      · simp only [Option.filter_some, hName, decide_false, mark]
        exact ⟨h.documents, h.closed⟩

theorem Inv.close (o : Observed τ) (h : Inv o) (closeDescriptor : Option τ) :
    Inv (step o (.close closeDescriptor)) := by
  show Inv { o with sink := o.sink.close closeDescriptor }
  unfold BatchSafFrameSink.close
  by_cases hClosed : o.sink.closed = true
  · rw [if_pos hClosed]
    exact h
  rw [if_neg hClosed]
  cases hPending : o.sink.pending with
  | none =>
      have hInv := h.documents
      rw [hPending] at hInv
      exact ⟨hInv, fun _ => rfl⟩
  | some value =>
      have hInv := h.documents
      rw [hPending] at hInv
      have hObject := (hInv.open_object value rfl).1
      obtain ⟨hDocuments, hAfter, -⟩ := abortPending_open
        (s := ⟨o.sink.documents, some value, true, o.sink.firstFailure⟩) rfl hObject closeDescriptor
      constructor
      · simp only [hDocuments, hAfter]
        exact hInv.abort (.inl rfl)
      · exact fun _ => hAfter

theorem Inv.step (o : Observed τ) (call : SinkCall τ) (h : Inv o) (hCompletes : Completes o call) :
    Inv (FrameSinkLaw.step o call) := by
  cases call with
  | openFrame fileName mimeType frameId ordinal total outcome =>
      exact h.openFrame o fileName mimeType frameId ordinal total outcome
  | commitFrame fileName frameId ordinal total byteLength closeDescriptor =>
      exact h.commitFrame o fileName frameId ordinal total byteLength closeDescriptor hCompletes
  | abortFrame fileName closeDescriptor => exact h.abortFrame o fileName closeDescriptor
  | close closeDescriptor => exact h.close o closeDescriptor

/-- **The sink keeps committed frames and only those**, throughout a run, exactly
when every commit of the open frame has a positive length and finds its
descriptor closing without a failure. -/
theorem sink_kept_iff_completes (calls : List (SinkCall τ)) :
    (∀ k, SinkKept ((calls.take k).foldl step initial)) ↔
      Meets step Completes (initial : Observed τ) calls :=
  always_iff_meets (fun o call h hCompletes => h.step o call hCompletes) sinkKept_of_inv
    completes_of_sinkKept inv_initial calls

end Observe

section Samples

/-- An environment in which nothing fails. -/
def openedFd : OpenOutcome String := ⟨.opened, none, .ok 41, none⟩

/-- The commit of a frame whose descriptor reports at closing that the disk is full. -/
def fullAtClose : List (SinkCall String) :=
  [.openFrame "frame_1.png" "image/png" 1 1 2 openedFd,
    .commitFrame "frame_1.png" 1 1 2 128 (some "No space left on device"), .close none]

/-- The sink says that the frame was not written, and leaves its document for good. -/
theorem full_at_close_remains :
    (fullAtClose.foldl step initial).sink.closed = true ∧
      (fullAtClose.foldl step initial).rejected 0 = true ∧
      (fullAtClose.foldl step initial).accepted 0 = false ∧
      (fullAtClose.foldl step initial).sink.documents.existing 0 = true ∧
      ¬ (∀ k, SinkKept ((fullAtClose.take k).foldl step initial)) := by
  refine ⟨by decide, by decide, by decide, by decide, ?_⟩
  intro hKept
  have hGone := (hKept 3).rejected_gone 0 (by decide)
  revert hGone
  decide

end Samples

end FrameScope.Ports.FrameSinkLaw
