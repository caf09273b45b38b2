import FrameScope.Verified.Runs
import FrameScope.Ports.ManifestText

/-!
# Calls on a manifest writer

Any sequence of calls of `write_frame`, the three `finish` functions and
`flush` on one writer, over an output that may refuse any text, any newline and
any flush.

The writer is marked finished after the flush of its terminal line, not when
the output takes the line.  So a terminal record whose newline or flush fails
stands in the output of a writer that is still open, and what a later call
writes comes after it.  That is the only way in which the bytes of a manifest
can hold a second terminal record, or a frame record after one.
-/

namespace FrameScope.Ports.ManifestCalls

open FrameScope.Verified.Runs
open FrameScope.Verified.Fallible
open FrameScope.Verified.RecordStream
open FrameScope.Ports.Core
open FrameScope.Ports.ExtractionImage
open FrameScope.Ports.Manifest
open FrameScope.Ports.ManifestText

/-! ## Calls -/

inductive ManifestCall where
  | writeFrame (frame : ManifestFrame)
  | finishComplete
  | finishCancelled (message : Option String)
  | finishFailed (code : String) (message : Option String)
  | flush

/-- The record that a call writes, when its own checks pass. -/
def ManifestCall.record (w : ExtractionManifestWriter) : ManifestCall → Option ManifestLine
  | .writeFrame frame =>
      match checkFrame w frame with
      | .ok _ => some (.frame frame.line)
      | .error _ => none
  | .finishComplete =>
      if w.emittedFrames = w.expectedFrames ∧ w.finished = false then
        some (.terminal (w.terminal .complete none none))
      else none
  | .finishCancelled message =>
      if w.finished = false then
        some (.terminal (w.terminal .cancelled (some "cancelled") message))
      else none
  | .finishFailed code message =>
      if isBlank code = false ∧ w.finished = false then
        some (.terminal (w.terminal .failed (some code) message))
      else none
  | .flush => none

section Calls

variable (device : Device)

def ManifestCall.run : ManifestCall → Writing Unit
  | .writeFrame frame => Manifest.writeFrame device frame
  | .finishComplete => Manifest.finishComplete device
  | .finishCancelled message => Manifest.finishCancelled device message
  | .finishFailed code message => Manifest.finishFailed device code message
  | .flush => callOutput device [] [] .io

/-- The writer that a call leaves, whether it succeeds or not. -/
def ManifestCall.step (w : ExtractionManifestWriter) (call : ManifestCall) :
    ExtractionManifestWriter :=
  finalState (call.run device w)

end Calls

/-! ## What one call adds -/

section Steps

variable {device : Device} {w : ExtractionManifestWriter}

/-- What writing `line` adds to the output. -/
def Adds (device : Device) (w : ExtractionManifestWriter) (line : ManifestLine)
    (accepted : List Piece) : Prop :=
  (device w.writer.calls = none ∧
    (accepted = w.writer.accepted ++ [.text line] ∨
      accepted = w.writer.accepted ++ [.text line, .newline])) ∨
  (device w.writer.calls ≠ none ∧ accepted = w.writer.accepted ++ [.torn line])

theorem callOutput_exact {onOk onError : List Piece} {error : String → ManifestError}
    {Q : Unit → ExtractionManifestWriter → Prop}
    {E : ManifestError → ExtractionManifestWriter → Prop}
    (hOk : device w.writer.calls = none →
      Q () { w with writer := ⟨w.writer.accepted ++ onOk, w.writer.calls + 1⟩ })
    (hError : ∀ e, device w.writer.calls ≠ none →
      E e { w with writer := ⟨w.writer.accepted ++ onError, w.writer.calls + 1⟩ }) :
    wp (callOutput device onOk onError error) Q E w := by
  unfold callOutput
  rw [wp_bind, wp_get, wp_bind, wp_set]
  cases hCall : device w.writer.calls with
  | none => exact hOk hCall
  | some detail =>
      apply hError
      rw [hCall]
      simp

/-- A line that is written leaves its text and a newline, and one that is not
leaves its text or a torn part of it. -/
theorem writeJsonLine_adds {line : ManifestLine} {Q : Unit → ExtractionManifestWriter → Prop}
    {E : ManifestError → ExtractionManifestWriter → Prop}
    (hOk : ∀ w', Adds device w line w'.writer.accepted → Q () w')
    (hError : ∀ e w', Adds device w line w'.writer.accepted → E e w') :
    wp (writeJsonLine device line) Q E w := by
  unfold writeJsonLine
  rw [wp_bind]
  apply callOutput_exact
  · intro hText
    apply callOutput_exact
    · intro _
      apply hOk
      left
      refine ⟨hText, .inr ?_⟩
      show w.writer.accepted ++ [.text line] ++ [.newline] = _
      rw [List.append_assoc]
      rfl
    · intro e _
      apply hError
      left
      refine ⟨hText, .inl ?_⟩
      show w.writer.accepted ++ [.text line] ++ [] = _
      rw [List.append_nil]
  · intro e hText
    apply hError
    exact .inr ⟨hText, rfl⟩

/-- What a call leaves of the output `w` holds. -/
def Leaves (device : Device) (w : ExtractionManifestWriter) (record : Option ManifestLine)
    (w' : ExtractionManifestWriter) : Prop :=
  (record = none ∧ w'.writer.accepted = w.writer.accepted) ∨
    ∃ line, record = some line ∧ Adds device w line w'.writer.accepted

theorem finish_leaves (status : ManifestTerminalStatus) (code message : Option String) :
    wp (finish device status code message)
      (fun _ => Leaves device w
        (if w.finished = false then some (.terminal (w.terminal status code message)) else none))
      (fun _ => Leaves device w
        (if w.finished = false then some (.terminal (w.terminal status code message)) else none))
      w := by
  unfold finish
  rw [wp_bind, wp_get, wp_bind, wp_ofExcept]
  unfold ExtractionManifestWriter.ensureOpen
  constructor
  · intro _ hOpen
    have hUnfinished : w.finished = false := ensure_eq_ok.1 hOpen
    rw [if_pos hUnfinished, wp_bind]
    apply writeJsonLine_adds
    · intro w' hAdds
      rw [wp_bind]
      apply callOutput_exact
      · intro _
        rw [wp_modify]
        refine .inr ⟨_, rfl, ?_⟩
        show Adds device w _ (w'.writer.accepted ++ [])
        rw [List.append_nil]
        exact hAdds
      · intro e _
        refine .inr ⟨_, rfl, ?_⟩
        show Adds device w _ (w'.writer.accepted ++ [])
        rw [List.append_nil]
        exact hAdds
    · intro e w' hAdds
      exact .inr ⟨_, rfl, hAdds⟩
  · intro e hClosed
    have hFinished : ¬ w.finished = false := fun hPass => ensure_ne_error hPass hClosed
    rw [if_neg hFinished]
    exact .inl ⟨rfl, rfl⟩

/-- **One call.**  It writes its record when its own checks pass, and otherwise
leaves the output alone. -/
theorem step_leaves (w : ExtractionManifestWriter) (call : ManifestCall) :
    Leaves device w (call.record w) (call.step device w) := by
  have hBoth : wp (call.run device) (fun _ => Leaves device w (call.record w))
      (fun _ => Leaves device w (call.record w)) w := by
    cases call with
    | writeFrame frame =>
        show wp (Manifest.writeFrame device frame) _ _ w
        unfold Manifest.writeFrame
        rw [wp_bind, wp_get, wp_bind, wp_ofExcept]
        constructor
        · intro result hCheck
          have hRecord : ManifestCall.record w (.writeFrame frame) = some (.frame frame.line) := by
            simp [ManifestCall.record, hCheck]
          rw [hRecord]
          dsimp only
          rw [wp_bind]
          apply writeJsonLine_adds
          · intro w' hAdds
            rw [wp_modify]
            exact .inr ⟨_, rfl, hAdds⟩
          · intro e w' hAdds
            exact .inr ⟨_, rfl, hAdds⟩
        · intro e hCheck
          have hRecord : ManifestCall.record w (.writeFrame frame) = none := by
            simp [ManifestCall.record, hCheck]
          rw [hRecord]
          exact .inl ⟨rfl, rfl⟩
    | finishComplete =>
        show wp (Manifest.finishComplete device) _ _ w
        unfold Manifest.finishComplete
        rw [wp_bind, wp_get, wp_bind, wp_ofExcept]
        constructor
        · intro _ hCheck
          have hCount : w.emittedFrames = w.expectedFrames := ensure_eq_ok.1 hCheck
          have hRecord : ManifestCall.record w .finishComplete = if w.finished = false then
              some (.terminal (w.terminal .complete none none)) else none := by
            simp [ManifestCall.record, hCount]
          rw [hRecord]
          exact finish_leaves _ _ _
        · intro e hCheck
          have hCount : ¬ w.emittedFrames = w.expectedFrames := fun hPass => ensure_ne_error hPass hCheck
          have hRecord : ManifestCall.record w .finishComplete = none := by
            simp [ManifestCall.record, hCount]
          rw [hRecord]
          exact .inl ⟨rfl, rfl⟩
    | finishCancelled message => exact finish_leaves _ _ _
    | finishFailed code message =>
        show wp (Manifest.finishFailed device code message) _ _ w
        unfold Manifest.finishFailed
        rw [wp_bind, wp_ofExcept]
        constructor
        · intro _ hCheck
          have hCode : isBlank code = false := ensure_eq_ok.1 hCheck
          have hRecord : ManifestCall.record w (.finishFailed code message) =
              if w.finished = false then
                some (.terminal (w.terminal .failed (some code) message)) else none := by
            simp [ManifestCall.record, hCode]
          rw [hRecord]
          exact finish_leaves _ _ _
        · intro e hCheck
          have hCode : ¬ isBlank code = false := fun hPass => ensure_ne_error hPass hCheck
          have hRecord : ManifestCall.record w (.finishFailed code message) = none := by
            simp [ManifestCall.record, hCode]
          rw [hRecord]
          exact .inl ⟨rfl, rfl⟩
    | flush =>
        show wp (callOutput device [] [] .io) _ _ w
        apply callOutput_exact
        · intro _
          exact .inl ⟨rfl, List.append_nil _⟩
        · intro e _
          exact .inl ⟨rfl, List.append_nil _⟩
  exact wp_finalState hBoth (fun _ _ h => h) (fun _ _ h => h)

/-- A call writes a frame record or a terminal record. -/
theorem record_kind {w : ExtractionManifestWriter} {call : ManifestCall} {line : ManifestLine}
    (h : call.record w = some line) :
    (∃ frame, line = .frame frame) ∨ ∃ terminal, line = .terminal terminal := by
  unfold ManifestCall.record at h
  split at h
  · split at h
    · cases h
      exact .inl ⟨_, rfl⟩
    · cases h
  · split at h
    · cases h
      exact .inr ⟨_, rfl⟩
    · cases h
  · split at h
    · cases h
      exact .inr ⟨_, rfl⟩
    · cases h
  · split at h
    · cases h
      exact .inr ⟨_, rfl⟩
    · cases h
  · cases h

end Steps

/-! ## The records in the bytes -/

def IsTerminal (line : ManifestLine) : Prop := ∃ terminal, line = .terminal terminal

def IsFrame (line : ManifestLine) : Prop := ∃ frame, line = .frame frame

/-- A terminal record starts at offset `p`. -/
def TerminalAt (bytes : List UInt8) (p : Nat) : Prop :=
  ∃ terminal, lineText (.terminal terminal) <+: bytes.drop p

/-- A frame record starts at offset `p`. -/
def FrameAt (bytes : List UInt8) (p : Nat) : Prop :=
  ∃ frame, lineText (.frame frame) <+: bytes.drop p

/-- At most one terminal record, and no frame record after it. -/
def OneTerminalRecord (bytes : List UInt8) : Prop :=
  ∀ p q, TerminalAt bytes p → p < q → ¬ TerminalAt bytes q ∧ ¬ FrameAt bytes q

/-- The bytes that a piece stands for. -/
inductive PieceBytes : Piece → List UInt8 → Prop
  | text (line : ManifestLine) : PieceBytes (.text line) (lineText line)
  | torn (line : ManifestLine) (x : List UInt8) (hPart : x <+: lineText line)
      (hRest : x ≠ lineText line) : PieceBytes (.torn line) x
  | newline : PieceBytes .newline [10]

/-- `bytes` is what the output has accepted, when `pieces` are. -/
def AcceptedBytes (pieces : List Piece) (bytes : List UInt8) : Prop :=
  ∃ parts, List.Forall₂ PieceBytes pieces parts ∧ bytes = parts.flatten

/-- The record that a piece holds whole. -/
def wholeLine : Piece → Option ManifestLine
  | .text line => some line
  | .torn _ | .newline => none

/-- After a terminal record that was taken whole, neither another one nor a
frame record was. -/
def NoneAfterTerminal (pieces : List Piece) : Prop :=
  pieces.Pairwise fun earlier later =>
    (∃ line, wholeLine earlier = some line ∧ IsTerminal line) →
      ¬ ∃ line, wholeLine later = some line ∧ (IsTerminal line ∨ IsFrame line)

/-- The bytes of pieces are a stream of lines. -/
theorem stream_of_pieces {pieces : List Piece} {parts : List (List UInt8)}
    (h : List.Forall₂ PieceBytes pieces parts) :
    ∃ chunks, lineFormat.Stream chunks ∧ content chunks = parts.flatten ∧
      chunks.map (·.1) = pieces.map wholeLine := by
  induction h with
  | nil =>
      refine ⟨[], ?_, rfl, rfl⟩
      intro c hc
      cases hc
  | @cons piece part pieces parts hPiece _ ih =>
      obtain ⟨chunks, hStream, hContent, hLines⟩ := ih
      refine ⟨(wholeLine piece, part) :: chunks, ?_, ?_, ?_⟩
      · intro c hc
        rcases List.mem_cons.1 hc with rfl | hc
        · cases hPiece with
          | text line => exact .whole line
          | torn line x hPart hRest => exact .torn line hPart hRest
          | newline => exact .separator
        · exact hStream c hc
      · show part ++ content chunks = part ++ parts.flatten
        rw [hContent]
      · rw [List.map_cons, List.map_cons, hLines]

theorem kind_of_text {r s : ManifestLine} (h : lineText r = lineText s) :
    kindLetter r = kindLetter s := by
  have hKind := lineText_kind r
  rw [h, lineText_kind s] at hKind
  exact (Option.some.inj hKind).symm

theorem isTerminal_iff (line : ManifestLine) : IsTerminal line ↔ kindLetter line = 116 := by
  unfold IsTerminal
  cases line <;> simp [kindLetter]

theorem isFrame_iff (line : ManifestLine) : IsFrame line ↔ kindLetter line = 102 := by
  unfold IsFrame
  cases line <;> simp [kindLetter]

theorem readAt_terminal (bytes : List UInt8) (p : Nat) :
    lineFormat.ReadAt IsTerminal bytes p ↔ TerminalAt bytes p := by
  constructor
  · rintro ⟨line, ⟨terminal, rfl⟩, hAt⟩
    exact ⟨terminal, hAt⟩
  · rintro ⟨terminal, hAt⟩
    exact ⟨_, ⟨terminal, rfl⟩, hAt⟩

theorem readAt_record (bytes : List UInt8) (p : Nat) :
    lineFormat.ReadAt (fun line => IsTerminal line ∨ IsFrame line) bytes p ↔
      TerminalAt bytes p ∨ FrameAt bytes p := by
  constructor
  · rintro ⟨line, ⟨terminal, rfl⟩ | ⟨frame, rfl⟩, hAt⟩
    · exact .inl ⟨terminal, hAt⟩
    · exact .inr ⟨frame, hAt⟩
  · rintro (⟨terminal, hAt⟩ | ⟨frame, hAt⟩)
    · exact ⟨_, .inl ⟨terminal, rfl⟩, hAt⟩
    · exact ⟨_, .inr ⟨frame, rfl⟩, hAt⟩

/-- **Bytes and pieces.**  Wherever the torn texts were cut, the bytes have at
most one terminal record and no frame record after it exactly when the pieces
do. -/
theorem oneTerminalRecord_iff {pieces : List Piece} {bytes : List UInt8}
    (h : AcceptedBytes pieces bytes) : OneTerminalRecord bytes ↔ NoneAfterTerminal pieces := by
  obtain ⟨parts, hParts, rfl⟩ := h
  obtain ⟨chunks, hStream, hContent, hLines⟩ := stream_of_pieces hParts
  have hTerminal : ∀ r s, lineText r = lineText s → IsTerminal r → IsTerminal s := by
    intro r s hText
    rw [isTerminal_iff, isTerminal_iff, kind_of_text hText]
    exact id
  have hRecord : ∀ r s, lineText r = lineText s → IsTerminal r ∨ IsFrame r →
      IsTerminal s ∨ IsFrame s := by
    intro r s hText
    rw [isTerminal_iff, isTerminal_iff, isFrame_iff, isFrame_iff, kind_of_text hText]
    exact id
  have hOrder := none_after_iff hStream hTerminal hRecord
  have hPairs : (chunks.Pairwise fun a b => Whole IsTerminal a →
      ¬ Whole (fun line => IsTerminal line ∨ IsFrame line) b) ↔ NoneAfterTerminal pieces := by
    unfold NoneAfterTerminal
    rw [← List.pairwise_map (f := wholeLine) (R := fun a b =>
      (∃ line, a = some line ∧ IsTerminal line) →
        ¬ ∃ line, b = some line ∧ (IsTerminal line ∨ IsFrame line)), ← hLines, List.pairwise_map]
    rfl
  rw [← hPairs, ← hOrder, hContent]
  simp only [readAt_terminal, readAt_record, not_or]
  exact ⟨fun h p q hLt hAt => h p q hAt hLt, fun h p q hAt hLt => h p q hLt hAt⟩

/-- A stream always has bytes: the torn texts may be empty. -/
theorem exists_acceptedBytes (pieces : List Piece) : ∃ bytes, AcceptedBytes pieces bytes := by
  have hParts : ∃ parts, List.Forall₂ PieceBytes pieces parts := by
    induction pieces with
    | nil => exact ⟨[], .nil⟩
    | cons piece pieces ih =>
        obtain ⟨parts, hParts⟩ := ih
        cases piece with
        | text line => exact ⟨_, .cons (.text line) hParts⟩
        | torn line =>
            have hSome : lineText line ≠ [] := text_ne_nil (F := lineFormat) line
            exact ⟨_, .cons (.torn line [] List.nil_prefix hSome.symm) hParts⟩
        | newline => exact ⟨_, .cons .newline hParts⟩
  obtain ⟨parts, hParts⟩ := hParts
  exact ⟨_, parts, hParts, rfl⟩

/-! ## Every sequence of calls -/

/-- The output holds a terminal record. -/
def HoldsTerminal (pieces : List Piece) : Prop :=
  ∃ piece ∈ pieces, ∃ line, wholeLine piece = some line ∧ IsTerminal line

/-- Once the output holds a terminal record, it takes no record of a call whose
own checks pass. -/
def RefusedAfterTerminal (device : Device) (w : ExtractionManifestWriter)
    (call : ManifestCall) : Prop :=
  HoldsTerminal w.writer.accepted → call.record w ≠ none → device w.writer.calls ≠ none

section Runs

variable {device : Device}

theorem noneAfterTerminal_append {pieces more : List Piece} :
    NoneAfterTerminal (pieces ++ more) ↔ NoneAfterTerminal pieces ∧ NoneAfterTerminal more ∧
      (HoldsTerminal pieces → ∀ piece ∈ more,
        ¬ ∃ line, wholeLine piece = some line ∧ (IsTerminal line ∨ IsFrame line)) := by
  unfold NoneAfterTerminal HoldsTerminal
  rw [List.pairwise_append]
  refine and_congr_right fun _ => and_congr_right fun _ => ?_
  constructor
  · rintro h ⟨earlier, hEarlier, hTerminal⟩ later hLater
    exact h earlier hEarlier later hLater hTerminal
  · intro h earlier hEarlier later hLater hTerminal
    exact h ⟨earlier, hEarlier, hTerminal⟩ later hLater

/-- Pieces of which at most the first holds a record. -/
theorem noneAfterTerminal_cons {piece : Piece} {more : List Piece}
    (h : ∀ later ∈ more, wholeLine later = none) : NoneAfterTerminal (piece :: more) := by
  have hNo : ∀ later ∈ more, ¬ ∃ line, wholeLine later = some line ∧
      (IsTerminal line ∨ IsFrame line) := by
    rintro later hLater ⟨line, hLine, -⟩
    rw [h later hLater] at hLine
    cases hLine
  unfold NoneAfterTerminal
  rw [List.pairwise_cons]
  refine ⟨fun later hLater _ => hNo later hLater, ?_⟩
  rw [List.pairwise_iff_forall_sublist]
  intro earlier later hSub _
  exact hNo later (hSub.subset (by simp))

/-- A call keeps the records in order when the condition is met. -/
theorem step_keeps (w : ExtractionManifestWriter) (call : ManifestCall)
    (h : NoneAfterTerminal w.writer.accepted) (hMeets : RefusedAfterTerminal device w call) :
    NoneAfterTerminal (call.step device w).writer.accepted := by
  have hLeaves : Leaves device w (call.record w) (call.step device w) := step_leaves w call
  rcases hLeaves with ⟨-, hSame⟩ | ⟨line, hRecord, hAdds⟩
  · rw [hSame]
    exact h
  · have hSome : call.record w ≠ none := by
      rw [hRecord]
      simp
    rcases hAdds with ⟨hTaken, hText⟩ | ⟨-, hTorn⟩
    · have hFirst : ¬ HoldsTerminal w.writer.accepted := fun hHolds => hMeets hHolds hSome hTaken
      rcases hText with hText | hText <;>
        rw [hText, noneAfterTerminal_append]
      · exact ⟨h, noneAfterTerminal_cons (by simp), fun hHolds => (hFirst hHolds).elim⟩
      · exact ⟨h, noneAfterTerminal_cons (by simp [wholeLine]),
          fun hHolds => (hFirst hHolds).elim⟩
    · rw [hTorn, noneAfterTerminal_append]
      exact ⟨h, noneAfterTerminal_cons (by simp), fun _ => by simp [wholeLine]⟩

/-- A call that leaves the records in order has met the condition. -/
theorem step_exact (w : ExtractionManifestWriter) (call : ManifestCall)
    (h : NoneAfterTerminal (call.step device w).writer.accepted) :
    RefusedAfterTerminal device w call := by
  intro hHolds hSome hTaken
  have hLeaves : Leaves device w (call.record w) (call.step device w) := step_leaves w call
  rcases hLeaves with ⟨hNone, -⟩ | ⟨line, hRecord, hAdds⟩
  · exact hSome hNone
  · have hKind : IsTerminal line ∨ IsFrame line := (record_kind hRecord).symm
    rcases hAdds with ⟨-, hText⟩ | ⟨hRefused, -⟩
    · rcases hText with hText | hText <;>
        rw [hText, noneAfterTerminal_append] at h <;>
        exact h.2.2 hHolds (.text line) (by simp) ⟨line, rfl, hKind⟩
    · exact hRefused hTaken

/-- **At most one terminal record.**  Over any output, the bytes it has accepted
hold at most one terminal record and no frame record after it, after every call
of a sequence, exactly when no call has a record taken once a terminal record
is there: that is, when every call after a finish whose newline or flush failed
is rejected by its own checks or refused by the output. -/
theorem manifest_one_terminal_iff (device : Device) (header : ManifestHeader)
    {unopened w : ExtractionManifestWriter} (hEmpty : unopened.writer.accepted = [])
    (hNew : newManifest device header unopened = .ok () w) (calls : List ManifestCall) :
    (∀ k bytes,
        AcceptedBytes ((calls.take k).foldl (ManifestCall.step device) w).writer.accepted bytes →
          OneTerminalRecord bytes) ↔
      Meets (ManifestCall.step device) (RefusedAfterTerminal device) w calls := by
  have hOpened := (wp_ok newManifest_recorded hNew).written
  have hInit : NoneAfterTerminal w.writer.accepted := by
    rw [hOpened, hEmpty]
    exact noneAfterTerminal_cons (by simp [wholeLine])
  have hRuns : (∀ k, NoneAfterTerminal
        ((calls.take k).foldl (ManifestCall.step device) w).writer.accepted) ↔
      Meets (ManifestCall.step device) (RefusedAfterTerminal device) w calls :=
    always_iff_meets (Q := fun w => NoneAfterTerminal w.writer.accepted) step_keeps
      (fun _ h => h) (fun w call _ => step_exact w call) hInit calls
  rw [← hRuns]
  constructor
  · intro hBytes k
    obtain ⟨bytes, hAccepted⟩ := exists_acceptedBytes
      ((calls.take k).foldl (ManifestCall.step device) w).writer.accepted
    exact (oneTerminalRecord_iff hAccepted).1 (hBytes k bytes hAccepted)
  · intro hPieces k bytes hAccepted
    exact (oneTerminalRecord_iff hAccepted).2 (hPieces k)

end Runs

section Samples

def sampleHeader : ManifestHeader := ⟨1, .allFrames 1, .of .png, 1⟩

def unopenedWriter : ExtractionManifestWriter := ⟨⟨[], 0⟩, 0, 0, 0, false⟩

/-- The writer of `sampleHeader`. -/
def openedWriter : ExtractionManifestWriter :=
  ⟨⟨wholeLines [.header sampleHeader], 2⟩, 1, 0, 0, false⟩

def sampleTerminal : ManifestTerminalLine := ⟨.cancelled, 0, 1, 0, some "cancelled", none⟩

/-- An output that takes everything. -/
def soundOutput : Device := fun _ => none

/-- An output whose first flush fails. -/
def unflushedOutput : Device := fun n => if n = 4 then some "no space left" else none

/-- A finish that was repeated needlessly is refused by the writer. -/
theorem manifest_one_terminal_iff_sample :
    newManifest soundOutput sampleHeader unopenedWriter = .ok () openedWriter ∧
      ∀ k bytes, AcceptedBytes (([ManifestCall.finishCancelled none, .finishCancelled none].take
          k).foldl (ManifestCall.step soundOutput) openedWriter).writer.accepted bytes →
        OneTerminalRecord bytes := by
  have hNew : newManifest soundOutput sampleHeader unopenedWriter = .ok () openedWriter := rfl
  refine ⟨hNew, (manifest_one_terminal_iff soundOutput sampleHeader rfl hNew _).2 ?_⟩
  refine ⟨?_, ?_, trivial⟩
  · rintro ⟨piece, hPiece, line, hLine, hTerminal⟩
    have hCases : piece = .text (.header sampleHeader) ∨ piece = .newline := by
      simpa [openedWriter, wholeLines] using hPiece
    rcases hCases with rfl | rfl
    · cases hLine
      obtain ⟨terminal, hSame⟩ := hTerminal
      cases hSame
    · cases hLine
  · intro _ hSome
    exact absurd rfl hSome

/-- A finish whose flush fails leaves its terminal record in the output of a
writer that is still open, and a second finish adds another one. -/
theorem second_terminal_after_failed_flush :
    newManifest unflushedOutput sampleHeader unopenedWriter = .ok () openedWriter ∧
      ∃ bytes, AcceptedBytes ([ManifestCall.finishCancelled none, .finishCancelled none].foldl
          (ManifestCall.step unflushedOutput) openedWriter).writer.accepted bytes ∧
        ¬ OneTerminalRecord bytes := by
  have hPieces : ([ManifestCall.finishCancelled none, .finishCancelled none].foldl
      (ManifestCall.step unflushedOutput) openedWriter).writer.accepted =
        wholeLines [.header sampleHeader, .terminal sampleTerminal] ++
          wholeLines [.terminal sampleTerminal] := rfl
  refine ⟨rfl, ?_⟩
  rw [hPieces]
  obtain ⟨bytes, hAccepted⟩ := exists_acceptedBytes (wholeLines [.header sampleHeader,
    .terminal sampleTerminal] ++ wholeLines [.terminal sampleTerminal])
  refine ⟨bytes, hAccepted, ?_⟩
  rw [oneTerminalRecord_iff hAccepted, noneAfterTerminal_append]
  rintro ⟨-, -, hNone⟩
  have hTerminal : IsTerminal (.terminal sampleTerminal) := ⟨_, rfl⟩
  apply hNone ⟨.text (.terminal sampleTerminal), by simp [wholeLines], _, rfl, hTerminal⟩
    (.text (.terminal sampleTerminal)) (by simp [wholeLines])
  exact ⟨_, rfl, .inl hTerminal⟩

end Samples

end FrameScope.Ports.ManifestCalls
