import FrameScope.Ports.DescriptorInput
import FrameScope.Verified.Runs

/-!
# A descriptor is one stream where it is opened at its start

The position of the shim starts at the offset of the caller's descriptor, FFmpeg's
starts at zero.  The two keep their distance until a seek succeeds and agree from then
on, so FFmpeg reads the file as one stream exactly where the offset is zero.  Whatever
is read or sought, the position stays a file position that fits, and the offset of the
caller stays where the caller left it.
-/

namespace FrameScope.Ports.DescriptorInputLaw

open FrameScope.Ports.Core
open FrameScope.Ports.DescriptorInput
open FrameScope.Verified

/-- An operation as FFmpeg, the kernel and a caller make it. -/
def Possible : Op → Prop
  | .read _ bufferSize kernel =>
      0 < bufferSize ∧ bufferSize < 2 ^ 31 ∧ ∀ granted, kernel = .ok granted → 0 < granted
  | .seek _ offset _ => InI64 offset
  | .callerSeeks offset => 0 ≤ offset ∧ offset < 2 ^ 63

/-- A file that FFmpeg may read at a position of its own. -/
structure Seekable (file : OpenFile) : Prop where
  seekable : file.seekable = true
  length : file.content.length < 2 ^ 63
  offset : 0 ≤ file.offset ∧ file.offset < 2 ^ 63

/-- Where a seek goes. -/
def target (content : List UInt8) (position offset : Int) (whence : BitVec 32) : Option Int :=
  if whence = seekSet then some offset
  else if whence = seekCur then some (position + offset)
  else if whence = seekEnd then some (content.length + offset)
  else none

/-- The answer is the one of a stream of these bytes: a read gives the bytes at FFmpeg's
position, the end is reported where the bytes end, the size is their number, and a
seek goes where it says. -/
def OfStream (content : List UInt8) : Answer → Prop
  | .read position (.ok bytes) =>
      bytes ≠ [] ∧ bytes = (content.drop position.toNat).take bytes.length
  | .read position (.error .eof) => (content.length : Int) ≤ position
  | .read _ (.error _) => True
  | .sought position offset whence (.ok answer) =>
      if whence = avseekSize then answer = content.length
      else target content position offset (whence &&& ~~~avseekForce) = some answer
  | .sought _ _ _ (.error _) => True

/-- The offset that the caller has set. -/
def callerOffset (offset : Int) : Op → Int
  | .callerSeeks offset' => offset'
  | _ => offset

/-- What holds of an opened descriptor, whose position is ahead of FFmpeg's by what the
caller's offset was, until a seek. -/
structure Inv (file : OpenFile) (offset : Int) (s : Presented) : Prop where
  shared : s.file = { file with offset := offset }
  seekable : s.input.seekable = true
  size : s.input.size = (openFd file).size
  ahead : s.input.position = s.avio ∨ s.input.position = s.avio + file.offset
  avio : 0 ≤ s.avio
  position : 0 ≤ s.input.position ∧ s.input.position < 2 ^ 63

/-- FFmpeg and the shim are at the same byte. -/
def InStep (s : Presented) : Prop :=
  s.input.position = s.avio

theorem transfer_length (content : List UInt8) (position : Int) (room granted : Nat)
    (h : transfer content position room granted ≠ []) :
    position.toNat + (transfer content position room granted).length ≤ content.length := by
  have hLength : (transfer content position room granted).length ≤
      content.length - position.toNat := by
    simp [transfer]
  have hSome := List.length_pos_iff.2 h
  omega

theorem transfer_take (content : List UInt8) (position : Int) (room granted : Nat) :
    transfer content position room granted =
      (content.drop position.toNat).take (transfer content position room granted).length := by
  simp [transfer, List.take_eq_take_iff]

theorem transfer_nil {content : List UInt8} {position : Int} {room granted : Nat}
    (hRoom : 0 < room) (hGranted : 0 < granted)
    (h : transfer content position room granted = []) : content.length ≤ position.toNat := by
  have hLength := congrArg List.length h
  simp [transfer] at hLength
  omega

variable {file : OpenFile} {offset : Int} {s : Presented}

/-- The bytes are those at the shim's position, which moves on by their number. -/
theorem Inv.read (hFile : Seekable file) (h : Inv file offset s) {cancelled : Bool}
    {bufferSize : Nat} {kernel : Except Int Nat}
    (hPossible : Possible (.read cancelled bufferSize kernel)) :
    Inv file offset (step s (.read cancelled bufferSize kernel)) ∧
      (InStep s → InStep (step s (.read cancelled bufferSize kernel)) ∧
        ∃ answer, (step s (.read cancelled bufferSize kernel)).answers =
          s.answers ++ [answer] ∧ OfStream file.content answer) := by
  have hAhead := h.ahead
  have hAvio := h.avio
  have hPosition := h.position
  by_cases hCancelled : cancelled = true
  · simp only [step, fsFdRead, if_pos hCancelled, readLength, Int.add_zero]
    exact ⟨⟨h.shared, h.seekable, h.size, hAhead, hAvio, hPosition⟩,
      fun hSame => ⟨hSame, _, rfl, trivial⟩⟩
  · cases kernel with
    | error code =>
        simp only [step, fsFdRead, if_neg hCancelled, readLength, Int.add_zero]
        exact ⟨⟨h.shared, h.seekable, h.size, hAhead, hAvio, hPosition⟩,
          fun hSame => ⟨hSame, _, rfl, trivial⟩⟩
    | ok granted =>
        have hContent : s.file.content = file.content := by rw [h.shared]
        simp only [step, fsFdRead, if_neg hCancelled, h.seekable, if_true, hContent]
        by_cases hNone : transfer file.content s.input.position bufferSize granted = []
        · rw [if_pos hNone]
          have hEnd := transfer_nil hPossible.1 (hPossible.2.2 granted rfl) hNone
          simp only [readLength, Int.add_zero]
          refine ⟨⟨h.shared, h.seekable, h.size, hAhead, hAvio, hPosition⟩,
            fun hSame => ⟨hSame, _, rfl, ?_⟩⟩
          have hSame : s.input.position = s.avio := hSame
          show (file.content.length : Int) ≤ s.avio
          omega
        · rw [if_neg hNone]
          have hLength := transfer_length file.content s.input.position bufferSize granted hNone
          have hFits := hFile.length
          simp only [readLength]
          refine ⟨⟨h.shared, rfl, h.size, by dsimp only; omega, by dsimp only; omega,
            by dsimp only; omega⟩, fun hSame => ?_⟩
          have hSame : s.input.position = s.avio := hSame
          refine ⟨?_, _, rfl, hNone, ?_⟩
          · show s.input.position + _ = s.avio + _
            rw [hSame]
          · rw [← hSame]
            exact transfer_take _ _ _ _

/-- A size that is known is that of the file. -/
theorem Inv.size_known (h : Inv file offset s) (hKnown : 0 ≤ s.input.size) :
    s.input.size = file.content.length := by
  rw [h.size] at hKnown ⊢
  by_cases hRegular : file.regular = true
  · simp [openFd, hRegular]
  · simp [openFd, hRegular] at hKnown

/-- The base of a seek is a file position, and the one that FFmpeg means. -/
theorem Inv.seekBase (hFile : Seekable file) (h : Inv file offset s) {whence : BitVec 32}
    {base : Int} (hBase : seekBase s.input whence = .ok base) :
    (0 ≤ base ∧ base < 2 ^ 63) ∧
      (InStep s → ∀ distance,
        target file.content s.avio distance whence = some (base + distance)) := by
  unfold DescriptorInput.seekBase at hBase
  unfold target
  by_cases hSet : whence = seekSet
  · rw [if_pos hSet] at hBase
    cases hBase
    exact ⟨by omega, fun _ distance => by simp [hSet]⟩
  · rw [if_neg hSet] at hBase
    by_cases hCur : whence = seekCur
    · rw [if_pos hCur] at hBase
      cases hBase
      refine ⟨h.position, fun hSame distance => ?_⟩
      rw [if_neg hSet, if_pos hCur, show s.input.position = s.avio from hSame]
    · rw [if_neg hCur] at hBase
      by_cases hEnd : whence = seekEnd
      · rw [if_pos hEnd] at hBase
        by_cases hUnknown : s.input.size < 0
        · rw [if_pos hUnknown] at hBase
          cases hBase
        · rw [if_neg hUnknown] at hBase
          cases hBase
          have hSize := h.size_known (by omega)
          have hFits := hFile.length
          refine ⟨by omega, fun _ distance => ?_⟩
          rw [if_neg hSet, if_neg hCur, if_pos hEnd, hSize]
      · rw [if_neg hEnd] at hBase
        cases hBase

/-- A seek that succeeds brings the two positions together. -/
theorem Inv.seek (hFile : Seekable file) (h : Inv file offset s) (cancelled : Bool)
    (distance : Int) (whence : BitVec 32) :
    Inv file offset (step s (.seek cancelled distance whence)) ∧
      (InStep s → InStep (step s (.seek cancelled distance whence)) ∧
        ∃ answer, (step s (.seek cancelled distance whence)).answers =
          s.answers ++ [answer] ∧ OfStream file.content answer) := by
  have hStays : ∀ error, fsFdSeek s.input cancelled distance whence = (.error error, s.input) →
      Inv file offset (step s (.seek cancelled distance whence)) ∧
        (InStep s → InStep (step s (.seek cancelled distance whence)) ∧
          ∃ answer, (step s (.seek cancelled distance whence)).answers =
            s.answers ++ [answer] ∧ OfStream file.content answer) := by
    intro error hError
    simp only [step, hError, soughtPosition]
    exact ⟨⟨h.shared, h.seekable, h.size, h.ahead, h.avio, h.position⟩,
      fun hSame => ⟨hSame, _, rfl, trivial⟩⟩
  by_cases hCancelled : cancelled = true
  · exact hStays .exit (by rw [fsFdSeek, if_pos hCancelled])
  · by_cases hAsked : whence = avseekSize
    · by_cases hKnown : 0 ≤ s.input.size
      · have hAnswer : fsFdSeek s.input cancelled distance whence =
            (.ok s.input.size, s.input) := by
          rw [fsFdSeek, if_neg hCancelled, if_pos hAsked, if_pos hKnown]
        simp only [step, hAnswer, soughtPosition, if_pos hAsked]
        refine ⟨⟨h.shared, h.seekable, h.size, h.ahead, h.avio, h.position⟩,
          fun hSame => ⟨hSame, _, rfl, ?_⟩⟩
        rw [OfStream, if_pos hAsked]
        exact h.size_known hKnown
      · exact hStays .notImplemented
          (by rw [fsFdSeek, if_neg hCancelled, if_pos hAsked, if_neg hKnown])
    · have hSeekable : ¬ s.input.seekable = false := by simp [h.seekable]
      cases hBase : DescriptorInput.seekBase s.input (whence &&& ~~~avseekForce) with
      | error error =>
          apply hStays error
          rw [fsFdSeek, if_neg hCancelled, if_neg hAsked, if_neg hSeekable, hBase]
      | ok base =>
          have hUnfold : fsFdSeek s.input cancelled distance whence =
              seekFrom s.input base distance := by
            rw [fsFdSeek, if_neg hCancelled, if_neg hAsked, if_neg hSeekable, hBase]
          rw [seekFrom] at hUnfold
          by_cases hOverflow : (0 < distance ∧ 2 ^ 63 - 1 - distance < base) ∨
              (distance < 0 ∧ base < -2 ^ 63 - distance)
          · exact hStays .overflow (by rw [hUnfold, if_pos hOverflow])
          · rw [if_neg hOverflow] at hUnfold
            by_cases hNegative : base + distance < 0
            · exact hStays .invalid (by rw [hUnfold, if_pos hNegative])
            · rw [if_neg hNegative] at hUnfold
              have hFound := h.seekBase hFile hBase
              have hFits := hFound.1
              simp only [step, hUnfold, soughtPosition, if_neg hAsked]
              refine ⟨⟨h.shared, h.seekable, h.size, Or.inl rfl, by dsimp only; omega,
                by dsimp only; omega⟩, fun hSame => ⟨rfl, _, rfl, ?_⟩⟩
              rw [OfStream, if_neg hAsked]
              exact hFound.2 hSame distance

/-! ## Runs -/

theorem Inv.step (hFile : Seekable file) (h : Inv file offset s) {op : Op}
    (hPossible : Possible op) :
    Inv file (callerOffset offset op) (step s op) ∧
      (InStep s → (∀ answer ∈ s.answers, OfStream file.content answer) →
        InStep (DescriptorInput.step s op) ∧
          ∀ answer ∈ (DescriptorInput.step s op).answers, OfStream file.content answer) := by
  have hAnswers : ∀ answers : List Answer, (∃ answer, answers = s.answers ++ [answer] ∧
      OfStream file.content answer) → (∀ answer ∈ s.answers, OfStream file.content answer) →
      ∀ answer ∈ answers, OfStream file.content answer := by
    intro answers hNew hOld answer hAnswer
    obtain ⟨new, rfl, hStream⟩ := hNew
    cases List.mem_append.1 hAnswer with
    | inl hBefore => exact hOld answer hBefore
    | inr hLast => exact List.mem_singleton.1 hLast ▸ hStream
  cases op with
  | read cancelled bufferSize kernel =>
      have hRead := h.read hFile hPossible
      exact ⟨hRead.1, fun hSame hOld => ⟨(hRead.2 hSame).1, hAnswers _ (hRead.2 hSame).2 hOld⟩⟩
  | seek cancelled distance whence =>
      have hSeek := h.seek hFile cancelled distance whence
      exact ⟨hSeek.1, fun hSame hOld => ⟨(hSeek.2 hSame).1, hAnswers _ (hSeek.2 hSame).2 hOld⟩⟩
  | callerSeeks offset' =>
      have hSeekable : s.file.seekable = true := by
        rw [h.shared]
        exact hFile.seekable
      simp only [DescriptorInput.step, hSeekable, if_true, callerOffset]
      refine ⟨⟨?_, h.seekable, h.size, h.ahead, h.avio, h.position⟩, fun hSame hOld => ⟨hSame, hOld⟩⟩
      simp [h.shared, hFile.seekable]

theorem inv_present (hFile : Seekable file) : Inv file file.offset (present file) := by
  have hOffset := hFile.offset
  have hPosition : (openFd file).position = file.offset := by
    simp [openFd, hFile.seekable]
  refine ⟨rfl, hFile.seekable, rfl, Or.inr ?_, Int.le_refl 0, ?_⟩
  · show (openFd file).position = 0 + file.offset
    rw [hPosition, Int.zero_add]
  · show 0 ≤ (openFd file).position ∧ (openFd file).position < 2 ^ 63
    rw [hPosition]
    exact hOffset

theorem inv_run (hFile : Seekable file) (h : Inv file offset s) {ops : List Op}
    (hPossible : ∀ op ∈ ops, Possible op) :
    Inv file (ops.foldl callerOffset offset) (ops.foldl DescriptorInput.step s) ∧
      (InStep s → (∀ answer ∈ s.answers, OfStream file.content answer) →
        ∀ answer ∈ (ops.foldl DescriptorInput.step s).answers,
          OfStream file.content answer) := by
  induction ops generalizing offset s with
  | nil => exact ⟨h, fun _ hOld => hOld⟩
  | cons op ops ih =>
      have hStep := h.step hFile (hPossible op (List.mem_cons_self ..))
      have hRest := ih hStep.1 (fun op' hOp => hPossible op' (List.mem_cons_of_mem _ hOp))
      exact ⟨hRest.1, fun hSame hOld => hRest.2 (hStep.2 hSame hOld).1 (hStep.2 hSame hOld).2⟩

/-- A relative seek before any other shows where the descriptor was. -/
def tellFirst : List Op :=
  [.seek false 0 seekCur]

/-- In every run on a seekable descriptor the position is a file position that fits, and
the shared offset is the one the caller set last.  FFmpeg's answers are those of the
file's bytes as one stream, in every run, exactly when the descriptor is opened at
offset zero. -/
theorem one_stream_iff (hFile : Seekable file) :
    (∀ ops : List Op, (∀ op ∈ ops, Possible op) →
      let s := ops.foldl DescriptorInput.step (present file)
      (0 ≤ s.input.position ∧ s.input.position < 2 ^ 63) ∧
        s.file.offset = ops.foldl callerOffset file.offset) ∧
    ((∀ ops : List Op, (∀ op ∈ ops, Possible op) →
      ∀ answer ∈ (ops.foldl DescriptorInput.step (present file)).answers,
        OfStream file.content answer) ↔ file.offset = 0) := by
  refine ⟨fun ops hPossible => ?_, fun hAll => ?_, fun hZero ops hPossible => ?_⟩
  · have hRun := (inv_run hFile (inv_present hFile) hPossible).1
    refine ⟨hRun.position, ?_⟩
    rw [hRun.shared]
  · have hTell := hAll tellFirst (by simp [tellFirst, Possible, InI64])
    have hOffset := hFile.offset
    have hAnswer : Answer.sought 0 0 seekCur (.ok file.offset) ∈
        (tellFirst.foldl DescriptorInput.step (present file)).answers := by
      have hNot : ¬ file.offset < 0 := by omega
      simp [tellFirst, DescriptorInput.step, fsFdSeek, DescriptorInput.seekBase, seekFrom, present,
        openFd, hFile.seekable, seekCur, seekSet, avseekSize, avseekForce, hNot]
    have hStream := hTell _ hAnswer
    simp [OfStream, target, seekCur, seekSet, avseekSize, avseekForce] at hStream
    omega
  · have hSame : InStep (present file) := by
      simp [InStep, present, openFd, hZero]
    exact (inv_run hFile (inv_present hFile) hPossible).2 hSame (by simp [present])

theorem one_stream_at_zero :
    (∀ ops : List Op, (∀ op ∈ ops, Possible op) →
      let s := ops.foldl DescriptorInput.step (present ⟨[1, 2, 3], true, true, 0⟩)
      (0 ≤ s.input.position ∧ s.input.position < 2 ^ 63) ∧
        s.file.offset = ops.foldl callerOffset 0) ∧
    ((∀ ops : List Op, (∀ op ∈ ops, Possible op) →
      ∀ answer ∈ (ops.foldl DescriptorInput.step (present ⟨[1, 2, 3], true, true, 0⟩)).answers,
        OfStream [1, 2, 3] answer) ↔ (0 : Int) = 0) :=
  one_stream_iff (⟨rfl, by simp, by simp⟩ : Seekable ⟨[1, 2, 3], true, true, 0⟩)

end FrameScope.Ports.DescriptorInputLaw
