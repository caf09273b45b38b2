import FrameScope.Ports.Core
import FrameScope.Ports.IsoBox

/-!
# Trees of boxes

Files of the ISO base media format as trees.  A box says its size in 32 bits, in
64 bits, or, where it is the last one of its parent, not at all.  `serialise`
writes a forest of boxes with the choices that were made.

The box loops of `inspect_video` find the boxes of a forest again, whatever the
choices: on its bytes they are passes over the list of its boxes
(`Held.boxLoop`).
-/

namespace FrameScope.Ports.BoxTree

open FrameScope.Ports.IsoBox
open FrameScope.Verified
open FrameScope.Verified.ByteCodes
open FrameScope.Verified.RecordWalk

/-- How a box says its size. -/
inductive SizeForm
  | compact
  | extended
  /-- Size zero: the box extends to the end of its parent. -/
  | toEnd
  deriving DecidableEq, Repr

namespace SizeForm

def headerSize : SizeForm → Nat
  | .compact => 8
  | .extended => 16
  | .toEnd => 8

/-- The header of a box around `length` bytes. -/
def header (kind : FourCC) (length : Nat) : SizeForm → List UInt8
  | .compact => beBytes 4 (8 + length) ++ kind.bytes
  | .extended => beBytes 4 1 ++ kind.bytes ++ beBytes 8 (16 + length)
  | .toEnd => beBytes 4 0 ++ kind.bytes

/-- The size can be said in this form. -/
def Fits (length : Nat) : SizeForm → Prop
  | .compact => 8 + length < 2 ^ 32
  | .extended => 16 + length < 2 ^ 64
  | .toEnd => True

end SizeForm

/-- A box around bytes, or around boxes. -/
inductive Box
  | leaf (form : SizeForm) (kind : FourCC) (payload : List UInt8)
  | node (form : SizeForm) (kind : FourCC) (children : List Box)

namespace Box

def form : Box → SizeForm
  | .leaf form _ _ => form
  | .node form _ _ => form

def kind : Box → FourCC
  | .leaf _ kind _ => kind
  | .node _ kind _ => kind

def children : Box → List Box
  | .leaf _ _ _ => []
  | .node _ _ children => children

end Box

mutual

/-- The bytes inside of a box. -/
def Box.payload : Box → List UInt8
  | .leaf _ _ payload => payload
  | .node _ _ children => serialise children

/-- The bytes of a forest. -/
def serialise : List Box → List UInt8
  | [] => []
  | box :: rest => box.form.header box.kind box.payload.length ++ box.payload ++ serialise rest

end

/-- The size of a box with its header. -/
def Box.size (box : Box) : Nat := box.form.headerSize + box.payload.length

/-- Every size is said in a form it fits, and only the last one is left out. -/
def Delimited : List Box → Prop
  | [] => True
  | box :: rest =>
      box.form.Fits box.payload.length ∧ (box.form = .toEnd → rest = []) ∧ Delimited rest

/-- The boxes of `path` are around boxes, each kind within the one before. -/
def WellFormed : List FourCC → List Box → Prop
  | [], boxes => Delimited boxes
  | kind :: inner, boxes =>
      Delimited boxes ∧ ∀ box ∈ boxes, box.kind = kind →
        box.payload = serialise box.children ∧ WellFormed inner box.children

instance (length : Nat) : (form : SizeForm) → Decidable (form.Fits length)
  | .compact => inferInstanceAs (Decidable (8 + length < 2 ^ 32))
  | .extended => inferInstanceAs (Decidable (16 + length < 2 ^ 64))
  | .toEnd => inferInstanceAs (Decidable True)

instance decidableDelimited : (boxes : List Box) → Decidable (Delimited boxes)
  | [] => inferInstanceAs (Decidable True)
  | box :: rest =>
      have : Decidable (Delimited rest) := decidableDelimited rest
      inferInstanceAs (Decidable (box.form.Fits box.payload.length ∧
        (box.form = .toEnd → rest = []) ∧ Delimited rest))

instance decidableWellFormed :
    (path : List FourCC) → (boxes : List Box) → Decidable (WellFormed path boxes)
  | [], boxes => inferInstanceAs (Decidable (Delimited boxes))
  | kind :: inner, boxes =>
      have : ∀ boxes, Decidable (WellFormed inner boxes) := decidableWellFormed inner
      inferInstanceAs (Decidable (Delimited boxes ∧ ∀ box ∈ boxes, box.kind = kind →
        box.payload = serialise box.children ∧ WellFormed inner box.children))

/-- The boxes that are looked into. -/
def containers : List FourCC := [.moov, .trak, .mdia, .minf, .stbl]

/-- A file of boxes. -/
structure IsoFile where
  boxes : List Box
  wellFormed : WellFormed containers boxes
  fits : (serialise boxes).length < 2 ^ 64

/-- The bytes of a file. -/
def IsoFile.bytes (file : IsoFile) : List UInt8 := serialise file.boxes

theorem WellFormed.delimited {path : List FourCC} {boxes : List Box} (h : WellFormed path boxes) :
    Delimited boxes := by
  cases path with
  | nil => exact h
  | cons kind inner => exact h.1

/-! ## Reading boxes back -/

section Reads

variable {bytes part rest : List UInt8} {pos n : Nat}

theorem readExact_of (h : bytes.drop pos = part ++ rest) (hLength : part.length = n)
    (hPos : 0 < n) : readExact bytes pos n = .ok part := by
  have hDrop : bytes.length - pos = part.length + rest.length := by
    rw [← List.length_drop, h, List.length_append]
  unfold readExact
  rw [if_pos (by omega), h, ← hLength, List.take_left]

theorem drop_of (h : bytes.drop pos = part ++ rest) (hLength : part.length = n) :
    bytes.drop (pos + n) = rest := by
  rw [← List.drop_drop, h, ← hLength, List.drop_left]

theorem kind_length (kind : FourCC) : kind.bytes.length = 4 := rfl

theorem header_length (form : SizeForm) (kind : FourCC) (length : Nat) :
    (form.header kind length).length = form.headerSize := by
  cases form with
  | compact => simp [SizeForm.header, SizeForm.headerSize, FourCC.bytes]
  | extended => simp [SizeForm.header, SizeForm.headerSize, FourCC.bytes]
  | toEnd => simp [SizeForm.header, SizeForm.headerSize, FourCC.bytes]

theorem headerSize_ge (form : SizeForm) : 8 ≤ form.headerSize := by
  cases form with
  | compact => exact Nat.le_refl _
  | extended => exact Nat.le_add_right 8 8
  | toEnd => exact Nat.le_refl _

end Reads

theorem serialise_cons_length (box : Box) (rest : List Box) :
    (serialise (box :: rest)).length = box.size + (serialise rest).length := by
  rw [serialise, List.length_append, List.length_append, header_length]
  rfl

/-- The header of a box at a position. -/
def headerAt (pos : Nat) (box : Box) : BoxHeader :=
  ⟨box.kind, pos + box.form.headerSize, pos + box.size⟩

/-- The headers of boxes that lie one after the other. -/
def headersAt : Nat → List Box → List BoxHeader
  | _, [] => []
  | pos, box :: rest => headerAt pos box :: headersAt (pos + box.size) rest

/-- A forest lies at a position of a file, and `after` behind it. -/
structure Held (bytes : List UInt8) (pos : Nat) (boxes : List Box) (after : List UInt8) : Prop where
  text : bytes.drop pos = serialise boxes ++ after
  delimited : Delimited boxes
  fits : bytes.length < 2 ^ 64

/-- The payload of a box lies behind its header, and `after` behind it. -/
structure Placed (bytes : List UInt8) (header : BoxHeader) (payload after : List UInt8) : Prop where
  text : bytes.drop header.dataStart = payload ++ after
  ends : header.endPos = header.dataStart + payload.length
  fits : bytes.length < 2 ^ 64

section Held

variable {bytes after payload : List UInt8} {pos stop : Nat} {box : Box} {rest boxes : List Box}
  {header : BoxHeader}

theorem Held.within (h : Held bytes pos (box :: rest) after) :
    pos + box.size + (serialise rest).length + after.length = bytes.length := by
  have hText := congrArg List.length h.text
  rw [List.length_drop, List.length_append, serialise_cons_length] at hText
  have hSize : 8 ≤ box.size := Nat.le_trans (headerSize_ge box.form) (Nat.le_add_right _ _)
  omega

theorem Held.front (h : Held bytes pos (box :: rest) after) :
    bytes.drop pos = box.form.header box.kind box.payload.length ++
      (box.payload ++ (serialise rest ++ after)) := by
  rw [h.text, serialise, List.append_assoc, List.append_assoc]

/-- The payload of the first box. -/
theorem Held.head (h : Held bytes pos (box :: rest) after) :
    Placed bytes (headerAt pos box) box.payload (serialise rest ++ after) where
  text := drop_of h.front (header_length _ _ _)
  ends := (Nat.add_assoc _ _ _).symm
  fits := h.fits

theorem Held.tail (h : Held bytes pos (box :: rest) after) :
    Held bytes (pos + box.size) rest after where
  text := by
    have hData := drop_of h.front (header_length _ _ _)
    have hRest := drop_of hData rfl
    rw [Nat.add_assoc] at hRest
    exact hRest
  delimited := h.delimited.2.2
  fits := h.fits

/-- The boxes inside of a box. -/
theorem Placed.held (h : Placed bytes header payload after) (hPayload : payload = serialise boxes)
    (hDelimited : Delimited boxes) : Held bytes header.dataStart boxes after where
  text := by rw [h.text, hPayload]
  delimited := hDelimited
  fits := h.fits

/-- The first two fields of a header. -/
theorem reads_front {word : Nat} {kind : FourCC} {more : List UInt8}
    (h : bytes.drop pos = beBytes 4 word ++ (kind.bytes ++ more)) (hWord : word < 2 ^ 32) :
    readU32 bytes pos = .ok word ∧ readKind bytes (pos + 4) = .ok kind := by
  have hKind := drop_of h (beBytes_length 4 word)
  unfold readU32 readKind
  rw [readExact_of h (beBytes_length 4 word) (by omega), readExact_of hKind (kind_length kind) (by omega)]
  constructor
  · show Except.ok (beValue (beBytes 4 word)) = Except.ok word
    rw [beValue_beBytes hWord]
  · rfl

/-- The size that a header says. -/
theorem Held.boxSize (h : Held bytes pos (box :: rest) after)
    (hStop : stop = pos + (serialise (box :: rest)).length) :
    ∃ size32, readU32 bytes pos = .ok size32 ∧ readKind bytes (pos + 4) = .ok box.kind ∧
      readBoxHeader.boxSize bytes pos stop size32 = .ok (box.size, box.form.headerSize) := by
  have hFront := h.front
  have hFits := h.delimited.1
  rw [serialise_cons_length] at hStop
  unfold Box.size at hStop ⊢
  cases hForm : box.form with
  | compact =>
      rw [hForm] at hFront hFits
      unfold SizeForm.header at hFront
      unfold SizeForm.Fits at hFits
      rw [List.append_assoc] at hFront
      obtain ⟨hSize32, hKind⟩ := reads_front hFront hFits
      refine ⟨8 + box.payload.length, hSize32, hKind, ?_⟩
      unfold readBoxHeader.boxSize
      rw [if_neg (by omega), if_neg (by omega)]
      rfl
  | extended =>
      rw [hForm] at hFront hFits hStop
      unfold SizeForm.header at hFront
      unfold SizeForm.Fits at hFits
      rw [List.append_assoc, List.append_assoc] at hFront
      obtain ⟨hSize32, hKind⟩ := reads_front hFront (by decide)
      have hLong := drop_of (drop_of hFront (beBytes_length 4 1)) (kind_length box.kind)
      rw [Nat.add_assoc] at hLong
      have hRoom : 16 ≤ stop - pos := by
        rw [hStop]
        show 16 ≤ pos + (16 + box.payload.length + (serialise rest).length) - pos
        omega
      refine ⟨1, hSize32, hKind, ?_⟩
      unfold readBoxHeader.boxSize readU64
      rw [if_neg (by decide), if_pos rfl, if_neg (by omega),
        readExact_of hLong (beBytes_length 8 _) (by omega)]
      show Except.ok (beValue (beBytes 8 (16 + box.payload.length)), 16) = _
      rw [beValue_beBytes hFits]
      rfl
  | toEnd =>
      have hLast := h.delimited.2.1 hForm
      rw [hForm] at hFront hStop
      unfold SizeForm.header at hFront
      rw [List.append_assoc] at hFront
      obtain ⟨hSize32, hKind⟩ := reads_front hFront (by decide)
      have hRest : (serialise rest).length = 0 := by
        rw [hLast]
        rfl
      refine ⟨0, hSize32, hKind, ?_⟩
      unfold readBoxHeader.boxSize
      rw [if_pos rfl, Checked.sub_of (by omega), hStop, hRest, Nat.add_zero, Nat.add_sub_cancel_left]
      rfl

/-- The header of the first box is found again. -/
theorem Held.readBoxHeader (h : Held bytes pos (box :: rest) after)
    (hStop : stop = pos + (serialise (box :: rest)).length) :
    readBoxHeader bytes pos stop = .ok (headerAt pos box) := by
  obtain ⟨size32, hSize32, hKind, hBox⟩ := h.boxSize hStop
  have hWithin := h.within
  have hFits := h.fits
  have hHeader := headerSize_ge box.form
  have hSize : box.size = box.form.headerSize + box.payload.length := rfl
  rw [serialise_cons_length] at hStop
  have hEnd : pos + box.size < 2 ^ 64 := by omega
  have hStart : pos + box.form.headerSize < 2 ^ 64 := by omega
  unfold IsoBox.readBoxHeader
  rw [if_neg (by omega), hSize32, Core.ok_bind, hKind, Core.ok_bind, hBox, Core.ok_bind]
  simp only
  rw [if_neg (by omega), Checked.add_of hEnd]
  simp only
  rw [if_neg (by omega), Checked.add_of hStart]
  rfl

/-- The boxes of a forest are laid out in its bytes. -/
theorem Held.laidOut (h : Held bytes pos boxes after)
    (hStop : stop = pos + (serialise boxes).length) :
    LaidOut (fun pos => IsoBox.readBoxHeader bytes pos stop) BoxHeader.endPos stop pos
      (headersAt pos boxes) := by
  induction boxes generalizing pos with
  | nil =>
      have hEq : stop = pos := hStop
      rw [hEq]
      exact LaidOut.nil
  | cons box rest ih =>
      have hLength := serialise_cons_length box rest
      have hHeader := headerSize_ge box.form
      have hSize : box.size = box.form.headerSize + box.payload.length := rfl
      exact LaidOut.cons (by omega) (h.readBoxHeader hStop) (ih h.tail (by
        show stop = pos + box.size + (serialise rest).length
        omega))

theorem headersAt_length_le (pos : Nat) (boxes : List Box) :
    (headersAt pos boxes).length ≤ (serialise boxes).length := by
  induction boxes generalizing pos with
  | nil => exact Nat.le_refl _
  | cons box rest ih =>
      have hRest := ih (pos + box.size)
      have hHeader := headerSize_ge box.form
      have hSize : box.size = box.form.headerSize + box.payload.length := rfl
      rw [headersAt, List.length_cons, serialise_cons_length]
      omega

/-- The loop over a forest is a pass over its boxes. -/
theorem Held.boxLoop {σ : Type} {visit : σ → BoxHeader → Parse (Flow σ)} {s : σ}
    (h : Held bytes pos boxes after) (hStop : stop = pos + (serialise boxes).length) :
    boxLoop bytes pos stop visit s = visitAll visit (headersAt pos boxes) s := by
  apply walk_laidOut (h.laidOut hStop)
  have hLength := headersAt_length_le pos boxes
  omega

end Held

end FrameScope.Ports.BoxTree
