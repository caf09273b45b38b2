import FrameScope.Ports.BoxTree

/-!
# Fields of boxes

What the payloads of the field boxes say, as functions of the payload alone,
with the offsets of the format.  Each parser of `inspect_video` computes it for
a box that lies in a file.

One parser reads beyond its box: `parse_tkhd` takes the version from the first
byte behind the header before it checks that the box has one.  The result for a
`tkhd` box without a payload depends on that byte (`emptyHeaderError`).
-/

namespace FrameScope.Ports.BoxFields

open FrameScope.Ports.IsoBox
open FrameScope.Ports.BoxTree
open FrameScope.Verified
open FrameScope.Verified.ByteCodes

/-- A box that is too short. -/
def truncated (kind : FourCC) : InspectError := .malformedContainer (.box kind "is truncated")

section Meanings

variable (payload : List UInt8)

/-- The number in the `width` bytes at an offset. -/
def fieldAt (offset width : Nat) : Nat := beValue ((payload.drop offset).take width)

/-- The duration and the time scale of a `mvhd` or `mdhd` box. -/
def timesOf (kind : FourCC) : Parse (Nat × Nat) :=
  if payload.length < 20 then .error (truncated kind)
  else if fieldAt payload 0 1 = 0 then .ok (fieldAt payload 16 4, fieldAt payload 12 4)
  else if fieldAt payload 0 1 = 1 then
    if payload.length < 32 then .error (truncated kind)
    else .ok (fieldAt payload 24 8, fieldAt payload 20 4)
  else .error (.malformedContainer
    (.text ("unsupported mvhd version " ++ toString (fieldAt payload 0 1))))

/-- Whether a `hdlr` box says that the track is a video. -/
def handlerOf : Parse Bool :=
  if payload.length < 12 then .error (truncated .hdlr)
  else .ok (FourCC.ofBytes ((payload.drop 8).take 4) == .vide)

/-- The width, the height and the rotation of a `tkhd` box whose matrix and width
are at these offsets. -/
def trackHeaderAt (matrixOffset widthOffset required : Nat) : Parse (Nat × Nat × Int) :=
  if payload.length < required then .error (truncated .tkhd)
  else match matrixRotation (asI32 (fieldAt payload matrixOffset 4))
      (asI32 (fieldAt payload (matrixOffset + 4) 4))
      (asI32 (fieldAt payload (matrixOffset + 12) 4))
      (asI32 (fieldAt payload (matrixOffset + 16) 4)) with
    | none => .error (.invalidMetadata "video track uses an unsupported transform matrix")
    | some rotation =>
        .ok (fieldAt payload widthOffset 4 / 2 ^ 16, fieldAt payload (widthOffset + 4) 4 / 2 ^ 16,
          rotation)

/-- The width, the height and the rotation of a `tkhd` box. -/
def trackHeaderOf : Parse (Nat × Nat × Int) :=
  if payload = [] then .error (truncated .tkhd)
  else if fieldAt payload 0 1 = 0 then trackHeaderAt payload 40 76 84
  else if fieldAt payload 0 1 = 1 then trackHeaderAt payload 52 88 96
  else .error (.malformedContainer
    (.text ("unsupported tkhd version " ++ toString (fieldAt payload 0 1))))

/-- The number of samples of a `stts` box. -/
def sampleTotalOf : Parse Nat :=
  if payload.length < 8 then .error (truncated .stts)
  else if maxSttsEntries < fieldAt payload 4 4 then
    .error (.malformedContainer (.text
      ("stts entry count " ++ toString (fieldAt payload 4 4) ++ " exceeds safety bound")))
  else if payload.length < 8 + fieldAt payload 4 4 * 8 then .error (truncated .stts)
  else .ok ((List.range (fieldAt payload 4 4)).map fun entry =>
    fieldAt payload (8 + entry * 8) 4).sum

end Meanings

/-- What `parse_tkhd` says of a box without a payload, before this byte. -/
def emptyHeaderError : Option UInt8 → InspectError
  | none => .io "failed to fill whole buffer"
  | some byte =>
      if byte.toNat ≤ 1 then truncated .tkhd
      else .malformedContainer (.text ("unsupported tkhd version " ++ toString byte.toNat))

/-! ## The parsers -/

section Parsers

variable {bytes payload after : List UInt8} {header : BoxHeader} {pos offset width : Nat}

theorem placed_inFile (h : Placed bytes header payload after) (hPayload : 0 < payload.length) :
    header.dataStart + payload.length ≤ bytes.length := by
  have hText := congrArg List.length h.text
  rw [List.length_drop, List.length_append] at hText
  omega

theorem placed_readExact (h : Placed bytes header payload after)
    (hPos : pos = header.dataStart + offset) (hWidth : 0 < width)
    (hOffset : offset + width ≤ payload.length) :
    readExact bytes pos width = .ok ((payload.drop offset).take width) := by
  have hSplit : payload = payload.take offset ++
      ((payload.drop offset).take width ++ (payload.drop offset).drop width) := by
    rw [List.take_append_drop, List.take_append_drop]
  have hText := h.text
  rw [hSplit, List.append_assoc, List.append_assoc] at hText
  have hField := drop_of hText (n := offset) (by
    rw [List.length_take]
    omega)
  rw [hPos]
  apply readExact_of hField _ hWidth
  rw [List.length_take, List.length_drop]
  omega

theorem placed_readU8 (h : Placed bytes header payload after)
    (hPos : pos = header.dataStart + offset) (hOffset : offset + 1 ≤ payload.length) :
    readU8 bytes pos = .ok (fieldAt payload offset 1) := by
  unfold IsoBox.readU8
  rw [placed_readExact h hPos (by omega) hOffset]
  rfl

theorem placed_readU32 (h : Placed bytes header payload after)
    (hPos : pos = header.dataStart + offset) (hOffset : offset + 4 ≤ payload.length) :
    readU32 bytes pos = .ok (fieldAt payload offset 4) := by
  unfold IsoBox.readU32
  rw [placed_readExact h hPos (by omega) hOffset]
  rfl

theorem placed_readU64 (h : Placed bytes header payload after)
    (hPos : pos = header.dataStart + offset) (hOffset : offset + 8 ≤ payload.length) :
    readU64 bytes pos = .ok (fieldAt payload offset 8) := by
  unfold IsoBox.readU64
  rw [placed_readExact h hPos (by omega) hOffset]
  rfl

theorem placed_readI32 (h : Placed bytes header payload after)
    (hPos : pos = header.dataStart + offset) (hOffset : offset + 4 ≤ payload.length) :
    readI32 bytes pos = .ok (asI32 (fieldAt payload offset 4)) := by
  unfold IsoBox.readI32
  rw [placed_readU32 h hPos hOffset]
  rfl

theorem placed_readKind (h : Placed bytes header payload after)
    (hPos : pos = header.dataStart + offset) (hOffset : offset + 4 ≤ payload.length) :
    readKind bytes pos = .ok (FourCC.ofBytes ((payload.drop offset).take 4)) := by
  unfold IsoBox.readKind
  rw [placed_readExact h hPos (by omega) hOffset]
  rfl

/-- A position inside of a payload. -/
theorem placed_position (h : Placed bytes header payload after) (hPayload : 0 < payload.length)
    (hOffset : offset ≤ payload.length) :
    unchecked (Checked.add 64 header.dataStart offset) = .ok (header.dataStart + offset) := by
  have hInFile := placed_inFile h hPayload
  have hFits := h.fits
  have hSum : header.dataStart + offset < 2 ^ 64 := by omega
  rw [Checked.add_of hSum]
  rfl

theorem placed_ensure_short (h : Placed bytes header payload after) {needed : Nat}
    (hShort : payload.length < needed) :
    ensurePayloadLen header needed = .error (truncated header.kind) := by
  have hEnds := h.ends
  unfold ensurePayloadLen
  rw [if_pos (by omega)]
  rfl

theorem placed_ensure_long (h : Placed bytes header payload after) {needed : Nat}
    (hLong : ¬ payload.length < needed) : ensurePayloadLen header needed = .ok () := by
  have hEnds := h.ends
  unfold ensurePayloadLen
  rw [if_neg (by omega)]

theorem fieldAt_lt (payload : List UInt8) (offset : Nat) : fieldAt payload offset 4 < 2 ^ 32 := by
  have hValue := beValue_lt ((payload.drop offset).take 4)
  have hLength : ((payload.drop offset).take 4).length ≤ 4 := List.length_take_le _ _
  exact lt_of_lt_of_le hValue (Nat.pow_le_pow_right (by decide) hLength)

theorem placed_parseMvhd (h : Placed bytes header payload after) :
    parseMvhd bytes header = (timesOf payload header.kind).map some := by
  unfold IsoBox.parseMvhd timesOf
  by_cases hShort : payload.length < 20
  · rw [placed_ensure_short h hShort, if_pos hShort]
    rfl
  · rw [placed_ensure_long h hShort, if_neg hShort, Core.ok_bind,
      placed_readU8 h (Nat.add_zero _).symm (by omega), Core.ok_bind]
    by_cases hZero : fieldAt payload 0 1 = 0
    · rw [if_pos hZero, if_pos hZero, placed_position h (by omega) (by omega), Core.ok_bind,
        placed_readU32 h rfl (by omega), Core.ok_bind, placed_readU32 h (Nat.add_assoc _ _ _) (by omega)]
      rfl
    · rw [if_neg hZero, if_neg hZero]
      by_cases hOne : fieldAt payload 0 1 = 1
      · rw [if_pos hOne, if_pos hOne]
        by_cases hLonger : payload.length < 32
        · rw [placed_ensure_short h hLonger, if_pos hLonger]
          rfl
        · rw [placed_ensure_long h hLonger, if_neg hLonger, Core.ok_bind,
            placed_position h (by omega) (by omega), Core.ok_bind, placed_readU32 h rfl (by omega),
            Core.ok_bind, placed_readU64 h (Nat.add_assoc _ _ _) (by omega)]
          rfl
      · rw [if_neg hOne, if_neg hOne]
        rfl

theorem placed_parseHdlrIsVideo (h : Placed bytes header payload after)
    (hKind : header.kind = .hdlr) : parseHdlrIsVideo bytes header = handlerOf payload := by
  unfold IsoBox.parseHdlrIsVideo handlerOf
  by_cases hShort : payload.length < 12
  · rw [placed_ensure_short h hShort, if_pos hShort, hKind]
    rfl
  · rw [placed_ensure_long h hShort, if_neg hShort, Core.ok_bind, placed_position h (by omega) (by omega),
      Core.ok_bind, placed_readKind h rfl (by omega)]
    rfl

/-- The parser for a version of `tkhd`, when the version is known. -/
theorem placed_trackHeaderAt (h : Placed bytes header payload after) (hKind : header.kind = .tkhd)
    {matrixOffset widthOffset required : Nat} (hMatrix : matrixOffset + 36 ≤ widthOffset)
    (hWidth : widthOffset + 8 ≤ required) :
    (do
      ensurePayloadLen header required
      let pos ← unchecked (Checked.add 64 header.dataStart matrixOffset)
      let a ← readI32 bytes pos
      let b ← readI32 bytes (pos + 4)
      let _u ← readI32 bytes (pos + 8)
      let c ← readI32 bytes (pos + 12)
      let d ← readI32 bytes (pos + 16)
      let _v ← readI32 bytes (pos + 20)
      let _x ← readI32 bytes (pos + 24)
      let _y ← readI32 bytes (pos + 28)
      let _w ← readI32 bytes (pos + 32)
      match matrixRotation a b c d with
      | none => .error (.invalidMetadata "video track uses an unsupported transform matrix")
      | some rotation => do
          let pos ← unchecked (Checked.add 64 header.dataStart widthOffset)
          let widthFixed ← readU32 bytes pos
          let heightFixed ← readU32 bytes (pos + 4)
          .ok (widthFixed / 2 ^ 16, heightFixed / 2 ^ 16, rotation)) =
      trackHeaderAt payload matrixOffset widthOffset required := by
  unfold trackHeaderAt
  by_cases hShort : payload.length < required
  · rw [placed_ensure_short h hShort, if_pos hShort, hKind]
    rfl
  · have hField : ∀ offset, offset ≤ 32 → readI32 bytes (header.dataStart + matrixOffset + offset) =
        .ok (asI32 (fieldAt payload (matrixOffset + offset) 4)) := by
      intro offset hOffset
      exact placed_readI32 h (Nat.add_assoc _ _ _) (by omega)
    rw [placed_ensure_long h hShort, if_neg hShort, Core.ok_bind,
      placed_position h (by omega) (by omega), Core.ok_bind,
      placed_readI32 h rfl (by omega), Core.ok_bind, hField 4 (by omega), Core.ok_bind,
      hField 8 (by omega), Core.ok_bind, hField 12 (by omega), Core.ok_bind,
      hField 16 (by omega), Core.ok_bind, hField 20 (by omega), Core.ok_bind,
      hField 24 (by omega), Core.ok_bind, hField 28 (by omega), Core.ok_bind,
      hField 32 (by omega), Core.ok_bind]
    cases matrixRotation _ _ _ _ with
    | none => rfl
    | some rotation =>
        simp only
        rw [placed_position h (by omega) (by omega), Core.ok_bind, placed_readU32 h rfl (by omega),
          Core.ok_bind, placed_readU32 h (Nat.add_assoc _ _ _) (by omega)]
        rfl

/-- With a payload, the parser reads the payload. -/
theorem placed_parseTkhd (h : Placed bytes header payload after) (hKind : header.kind = .tkhd)
    (hPayload : payload ≠ []) : parseTkhd bytes header = trackHeaderOf payload := by
  have hLength := List.length_pos_of_ne_nil hPayload
  unfold IsoBox.parseTkhd trackHeaderOf tkhdLayout
  rw [if_neg hPayload, placed_readU8 h (Nat.add_zero _).symm (by omega), Core.ok_bind]
  by_cases hZero : fieldAt payload 0 1 = 0
  · rw [if_pos hZero, if_pos hZero, Core.ok_bind]
    exact placed_trackHeaderAt h hKind (by decide) (by decide)
  · rw [if_neg hZero, if_neg hZero]
    by_cases hOne : fieldAt payload 0 1 = 1
    · rw [if_pos hOne, if_pos hOne, Core.ok_bind]
      exact placed_trackHeaderAt h hKind (by decide) (by decide)
    · rw [if_neg hOne, if_neg hOne]
      rfl

/-- Without a payload, the parser reads what is behind the box. -/
theorem placed_parseTkhd_empty (h : Placed bytes header [] after) (hKind : header.kind = .tkhd) :
    parseTkhd bytes header = .error (emptyHeaderError after.head?) := by
  have hText : bytes.drop header.dataStart = after := h.text
  unfold IsoBox.parseTkhd
  cases after with
  | nil =>
      have hLength := congrArg List.length hText
      rw [List.length_drop, List.length_nil] at hLength
      unfold IsoBox.readU8 IsoBox.readExact
      rw [if_neg (by omega)]
      rfl
  | cons byte rest =>
      have hRead : IsoBox.readExact bytes header.dataStart 1 = .ok [byte] :=
        readExact_of hText rfl (by omega)
      have hVersion : IsoBox.readU8 bytes header.dataStart = .ok byte.toNat := by
        unfold IsoBox.readU8
        rw [hRead]
        rfl
      unfold tkhdLayout
      rw [hVersion, Core.ok_bind]
      have hShort : byte.toNat ≤ 1 → emptyHeaderError (some byte) = truncated .tkhd :=
        fun h => if_pos h
      have hUnknown : ¬ byte.toNat ≤ 1 → emptyHeaderError (some byte) = .malformedContainer
          (.text ("unsupported tkhd version " ++ toString byte.toNat)) :=
        fun h => if_neg h
      rw [List.head?_cons]
      by_cases hZero : byte.toNat = 0
      · rw [if_pos hZero, Core.ok_bind, hShort (by omega)]
        exact placed_trackHeaderAt h hKind (by decide) (by decide)
      · rw [if_neg hZero]
        by_cases hOne : byte.toNat = 1
        · rw [if_pos hOne, Core.ok_bind, hShort (by omega)]
          exact placed_trackHeaderAt h hKind (by decide) (by decide)
        · rw [if_neg hOne, hUnknown (by omega)]
          rfl

/-- The loop over the entries adds up their counts. -/
theorem placed_sumSampleCounts (h : Placed bytes header payload after) (entries : Nat)
    {total : Nat} (hPos : pos = header.dataStart + offset)
    (hEntries : offset + entries * 8 ≤ payload.length) (hTotal : total + entries * 2 ^ 32 < 2 ^ 64) :
    sumSampleCounts bytes entries pos total = .ok (total +
      ((List.range entries).map fun entry => fieldAt payload (offset + entry * 8) 4).sum) := by
  induction entries generalizing pos offset total with
  | zero => rfl
  | succ entries ih =>
      have hCount : fieldAt payload offset 4 < 2 ^ 32 := fieldAt_lt payload offset
      have hSum : total + fieldAt payload offset 4 < 2 ^ 64 := by omega
      have hRest : ((List.range entries).map fun entry =>
            fieldAt payload (offset + 8 + entry * 8) 4) =
          (List.range entries).map fun entry => fieldAt payload (offset + (entry + 1) * 8) 4 := by
        apply List.map_congr_left
        intro entry _
        rw [show offset + 8 + entry * 8 = offset + (entry + 1) * 8 by omega]
      unfold sumSampleCounts
      rw [placed_readU32 h hPos (by omega), Core.ok_bind, Checked.add_of hSum]
      simp only
      have hDelta : pos + 4 = header.dataStart + (offset + 4) := by omega
      have hNext : pos + 8 = header.dataStart + (offset + 8) := by omega
      rw [placed_readU32 h hDelta (by omega), Core.ok_bind, ih hNext (by omega) (by omega), hRest,
        List.range_succ_eq_map, List.map_cons, List.sum_cons, List.map_map, Nat.zero_mul,
        Nat.add_zero, Nat.add_assoc]
      rfl

theorem placed_parseSttsSampleCount (h : Placed bytes header payload after)
    (hKind : header.kind = .stts) :
    parseSttsSampleCount bytes header = sampleTotalOf payload := by
  unfold IsoBox.parseSttsSampleCount sampleTotalOf
  by_cases hShort : payload.length < 8
  · rw [placed_ensure_short h hShort, if_pos hShort, hKind]
    rfl
  · rw [placed_ensure_long h hShort, if_neg hShort, Core.ok_bind,
      placed_position h (by omega) (by omega), Core.ok_bind, placed_readU32 h rfl (by omega),
      Core.ok_bind]
    by_cases hMany : maxSttsEntries < fieldAt payload 4 4
    · rw [if_pos hMany, if_pos hMany]
    · have hBound : fieldAt payload 4 4 ≤ 1000000 := Nat.le_of_not_lt hMany
      have hMul : fieldAt payload 4 4 * 8 < 2 ^ 64 := by omega
      have hAdd : 8 + fieldAt payload 4 4 * 8 < 2 ^ 64 := by omega
      have hEntries : unchecked (some (fieldAt payload 4 4 * 8)) =
          .ok (fieldAt payload 4 4 * 8) := rfl
      rw [if_neg hMany, if_neg hMany, Checked.mul_of hMul, hEntries, Core.ok_bind,
        Checked.add_of hAdd]
      dsimp only
      by_cases hTable : payload.length < 8 + fieldAt payload 4 4 * 8
      · rw [placed_ensure_short h hTable, if_pos hTable, hKind]
        rfl
      · rw [placed_ensure_long h hTable, if_neg hTable, Core.ok_bind,
          placed_sumSampleCounts h _ (Nat.add_assoc _ _ _) (by omega) (by omega), Nat.zero_add]

end Parsers

end FrameScope.Ports.BoxFields
