import FrameScope.Ports.MovieWalk

/-!
# The code and the reference walk

`inspect_video` on the bytes of a file is the reference walk of its boxes, with
one exception: where the complaint that comes first is about a `tkhd` box without
a payload, and the byte behind it is not a version that is known.  What follows
the box, and how its size is said, can then decide.
-/

namespace FrameScope.Ports.MovieReference

open FrameScope.Ports.IsoBox
open FrameScope.Ports.BoxTree
open FrameScope.Ports.BoxFields
open FrameScope.Ports.MovieWalk

section Readings

variable {after : List UInt8}

theorem trakReadings_complaint (boxes : List Box) :
    (trakReadings after boxes).findSome? Reading.complaint =
      (boxes.flatMap trakPart).findSome? TrackPart.complaint := by
  induction boxes with
  | nil => rfl
  | cons box rest ih =>
      rw [trakReadings, List.flatMap_cons, List.findSome?_append, List.findSome?_append, ih]
      split_ifs with hBare
      · unfold trakPart
        rw [if_pos hBare.1, hBare.2]
        rfl
      · rw [List.findSome?_map]
        rfl

theorem moovReadings_complaint (boxes : List Box) :
    (moovReadings after boxes).findSome? Reading.complaint =
      (boxes.flatMap moovPart).findSome? MoviePart.complaint := by
  induction boxes with
  | nil => rfl
  | cons box rest ih =>
      rw [moovReadings, List.flatMap_cons, List.findSome?_append, List.findSome?_append, ih]
      unfold moovPart
      by_cases hMvhd : box.kind = .mvhd
      · rw [if_pos hMvhd, if_pos hMvhd]
        rfl
      · rw [if_neg hMvhd, if_neg hMvhd]
        by_cases hTrak : box.kind = .trak
        · rw [if_pos hTrak, if_pos hTrak, trakReadings_complaint, List.findSome?_singleton]
          rfl
        · rw [if_neg hTrak, if_neg hTrak]
          rfl

theorem fileReadings_complaint (boxes : List Box) :
    (fileReadings boxes).findSome? Reading.complaint = firstComplaint boxes := by
  induction boxes with
  | nil => rfl
  | cons box rest ih =>
      unfold fileReadings firstComplaint movieOf
      by_cases hMoov : box.kind = .moov
      · rw [if_pos hMoov, firstOf_cons_of_eq hMoov]
        exact moovReadings_complaint box.children
      · rw [if_neg hMoov, firstOf_cons_of_ne hMoov]
        exact ih

/-- The first reading that something is wrong with. -/
def firstFault (readings : List Reading) : Option Reading :=
  readings.find? fun reading => reading.complaint.isSome

theorem codeComplaint_isSome (reading : Reading) :
    reading.codeComplaint.isSome = reading.complaint.isSome := by
  cases reading with
  | mvhd payload => rfl
  | track part => rfl
  | bare following => rfl

theorem findSome_firstFault {f : Reading → Option InspectError}
    (h : ∀ reading, (f reading).isSome = reading.complaint.isSome) (readings : List Reading) :
    readings.findSome? f = (firstFault readings).bind f := by
  induction readings with
  | nil => rfl
  | cons reading rest ih =>
      unfold firstFault
      rw [List.findSome?_cons]
      have hReading := h reading
      cases hFault : f reading with
      | none =>
          rw [hFault] at hReading
          rw [List.find?_cons_of_neg (by simp [← hReading])]
          exact ih
      | some e =>
          rw [hFault] at hReading
          rw [List.find?_cons_of_pos (by simp [← hReading])]
          exact hFault.symm

end Readings

/-- A byte that `parse_tkhd` takes for a version it knows. -/
def KnownVersion (following : Option UInt8) : Prop := ∃ byte, following = some byte ∧ byte.toNat ≤ 1

theorem emptyHeaderError_eq_iff (following : Option UInt8) :
    emptyHeaderError following = truncated .tkhd ↔ KnownVersion following := by
  cases following with
  | none =>
      constructor
      · intro h
        cases h
      · rintro ⟨byte, hByte, -⟩
        cases hByte
  | some byte =>
      unfold emptyHeaderError
      constructor
      · intro h
        simp only at h
        split_ifs at h with hKnown
        · exact ⟨byte, rfl, hKnown⟩
        · cases h
      · rintro ⟨other, hSame, hKnown⟩
        rw [← Option.some.inj hSame] at hKnown
        exact if_pos hKnown

/-- If the first thing wrong is a `tkhd` box without a payload, a version follows. -/
def Resolved (boxes : List Box) : Prop :=
  ∀ following, firstFault (fileReadings boxes) = some (.bare following) → KnownVersion following

theorem outcome_complaint {boxes : List Box} (h : (movieOf boxes).isSome) (e : InspectError) :
    outcome (some e) boxes = .error e := by
  unfold outcome
  cases boxes with
  | nil => cases h
  | cons box rest =>
      cases hMovie : movieOf (box :: rest) with
      | none =>
          rw [hMovie] at h
          cases h
      | some parts => rfl

theorem outcome_eq_iff {c d : Option InspectError} {boxes : List Box}
    (hSame : c.isSome = d.isSome) (hMovie : c.isSome → (movieOf boxes).isSome) :
    outcome c boxes = outcome d boxes ↔ c = d := by
  constructor
  · cases hc : c with
    | none =>
        rw [hc] at hSame
        cases hd : d with
        | none => exact fun _ => rfl
        | some e =>
            rw [hd] at hSame
            cases hSame
    | some e =>
        rw [hc] at hSame hMovie
        cases hd : d with
        | none =>
            rw [hd] at hSame
            cases hSame
        | some e' =>
            intro h
            rw [outcome_complaint (hMovie rfl), outcome_complaint (hMovie rfl)] at h
            exact congrArg some (Except.error.inj h)
  · intro h
    rw [h]

/-- Only a movie is complained about. -/
theorem complaint_movie {f : Reading → Option InspectError} {boxes : List Box}
    (h : ((fileReadings boxes).findSome? f).isSome) : (movieOf boxes).isSome := by
  cases hMovie : movieOf boxes with
  | some parts => rfl
  | none =>
      rw [fileReadings_none hMovie] at h
      cases h

/-- The code agrees with the reference walk just where the complaint that comes
first is not about a `tkhd` box without a payload, or is known from the byte
behind it. -/
theorem inspectVideo_eq_iff (file : IsoFile) :
    inspectVideo file.bytes = reference file.boxes ↔ Resolved file.boxes := by
  have hCode := findSome_firstFault codeComplaint_isSome (fileReadings file.boxes)
  have hReference := findSome_firstFault (fun _ => rfl) (fileReadings file.boxes)
  rw [fileReadings_complaint] at hReference
  unfold reference Resolved
  rw [inspectVideo_boxes, outcome_eq_iff, hCode, hReference]
  · cases firstFault (fileReadings file.boxes) with
    | none => simp
    | some reading =>
        cases reading with
        | mvhd payload => simp [Reading.codeComplaint]
        | track part => simp [Reading.codeComplaint]
        | bare following =>
            show some (emptyHeaderError following) = some (truncated .tkhd) ↔ _
            rw [Option.some.injEq, emptyHeaderError_eq_iff]
            simp
  · rw [hCode, hReference]
    cases firstFault (fileReadings file.boxes) with
    | none => rfl
    | some reading => exact codeComplaint_isSome reading
  · exact complaint_movie

/-- A movie with one track, of a `tkhd` box without a payload before `rest`. -/
def bareMovie (rest : List Box) : List Box :=
  [.node .compact .moov [.node .compact .trak (.leaf .compact .tkhd [] :: rest)]]

theorem node_length (kind : FourCC) (children : List Box) :
    (serialise [.node .compact kind children]).length = 8 + (serialise children).length := by
  rw [serialise_cons_length]
  rfl

theorem bareMovie_length (rest : List Box) :
    (serialise (bareMovie rest)).length = 24 + (serialise rest).length := by
  have hTkhd : (Box.leaf .compact .tkhd []).size = 8 := rfl
  unfold bareMovie
  rw [node_length, node_length, serialise_cons_length, hTkhd]
  omega

/-- One box around a forest. -/
theorem wellFormed_node {kind : FourCC} {path : List FourCC} {children : List Box}
    (hInner : WellFormed path children) (hSize : 8 + (serialise children).length < 2 ^ 32) :
    WellFormed (kind :: path) [.node .compact kind children] := by
  refine ⟨⟨hSize, ?_, trivial⟩, ?_⟩
  · intro hForm
    cases hForm
  · intro box hBox _
    rw [List.mem_singleton.1 hBox]
    exact ⟨rfl, hInner⟩

theorem bareMovie_wellFormed {rest : List Box} (hRest : Delimited rest)
    (hPlain : ∀ box ∈ rest, ¬ box.kind = .mdia) (hSize : (serialise rest).length < 2 ^ 31) :
    WellFormed containers (bareMovie rest) := by
  have hTkhd : (Box.leaf .compact .tkhd []).size = 8 := rfl
  have hInside : WellFormed [.mdia, .minf, .stbl] (.leaf .compact .tkhd [] :: rest) := by
    refine ⟨⟨?_, ?_, hRest⟩, ?_⟩
    · show 8 + 0 < 2 ^ 32
      decide
    · intro hForm
      cases hForm
    · intro box hBox hKind
      cases List.mem_cons.1 hBox with
      | inl hHead =>
          rw [hHead] at hKind
          cases hKind
      | inr hTail => exact absurd hKind (hPlain box hTail)
  apply wellFormed_node
  · apply wellFormed_node hInside
    rw [serialise_cons_length, hTkhd]
    omega
  · rw [node_length, serialise_cons_length, hTkhd]
    omega

/-- A file with such a movie only. -/
def bareFile (rest : List Box) (hRest : Delimited rest) (hPlain : ∀ box ∈ rest, ¬ box.kind = .mdia)
    (hSize : (serialise rest).length < 2 ^ 31) : IsoFile where
  boxes := bareMovie rest
  wellFormed := bareMovie_wellFormed hRest hPlain hSize
  fits := by
    rw [bareMovie_length]
    omega

theorem inspectVideo_bareFile {rest : List Box} (hRest : Delimited rest)
    (hPlain : ∀ box ∈ rest, ¬ box.kind = .mdia) (hSize : (serialise rest).length < 2 ^ 31) :
    inspectVideo (bareFile rest hRest hPlain hSize).bytes =
      .error (emptyHeaderError (serialise rest).head?) := by
  have hReadings : fileReadings (bareMovie rest) =
      .bare (serialise rest).head? :: trakReadings [] rest := by
    show [Reading.bare (serialise rest ++ ([] ++ [])).head?] ++ trakReadings ([] ++ []) rest ++ [] = _
    rw [List.append_nil, List.append_nil, List.append_nil]
    rfl
  rw [inspectVideo_boxes]
  show outcome ((fileReadings (bareMovie rest)).findSome? Reading.codeComplaint) _ = _
  rw [hReadings]
  rfl

/-- 32 megabytes that nothing reads. -/
def padding (form : SizeForm) : List Box := [.leaf form .free (List.replicate (2 ^ 25) 0)]

theorem padding_delimited (form : SizeForm) : Delimited (padding form) := by
  refine ⟨?_, fun _ => rfl, trivial⟩
  show form.Fits (List.replicate (2 ^ 25) (0 : UInt8)).length
  rw [List.length_replicate]
  cases form with
  | compact =>
      show 8 + 2 ^ 25 < 2 ^ 32
      decide
  | extended =>
      show 16 + 2 ^ 25 < 2 ^ 64
      decide
  | toEnd => trivial

theorem padding_plain (form : SizeForm) : ∀ box ∈ padding form, ¬ box.kind = .mdia := by
  intro box hBox hKind
  rw [List.mem_singleton.1 hBox] at hKind
  cases hKind

theorem padding_size (form : SizeForm) : (serialise (padding form)).length < 2 ^ 31 := by
  have hPayload : (Box.leaf form .free (List.replicate (2 ^ 25) 0)).payload.length = 2 ^ 25 :=
    List.length_replicate
  have hHeader : form.headerSize ≤ 16 := by
    cases form with
    | compact => decide
    | extended => decide
    | toEnd => decide
  unfold padding
  rw [serialise_cons_length, Box.size, hPayload]
  show form.headerSize + 2 ^ 25 + 0 < 2 ^ 31
  omega

theorem padding_head (form : SizeForm) :
    (serialise (padding form)).head? = (form.header .free (2 ^ 25)).head? := by
  have hText : serialise (padding form) =
      form.header .free (2 ^ 25) ++ (List.replicate (2 ^ 25) 0 ++ []) := by
    unfold padding
    rw [serialise, List.append_assoc]
    show form.header .free (List.replicate (2 ^ 25) (0 : UInt8)).length ++ _ = _
    rw [List.length_replicate]
    rfl
  rw [hText, List.head?_append]
  cases form with
  | compact => rfl
  | extended => rfl
  | toEnd => rfl

/-- The file with the padding, its size said in this form. -/
def paddedFile (form : SizeForm) : IsoFile :=
  bareFile (padding form) (padding_delimited form) (padding_plain form) (padding_size form)

theorem empty_delimited : Delimited [] := trivial

theorem empty_plain : ∀ box ∈ ([] : List Box), ¬ box.kind = .mdia := by
  intro box hBox
  cases hBox

theorem empty_size : (serialise []).length < 2 ^ 31 := by decide

/-- The file of the bare movie alone, of 24 bytes. -/
def unpaddedFile : IsoFile := bareFile [] empty_delimited empty_plain empty_size

/-- The code finds the end of the file where the box ends, and a version in the
size of the next box where that is said in 32 bits, but not where it is said in
64 bits. -/
theorem inspectVideo_not_reference :
    inspectVideo unpaddedFile.bytes = .error (.io "failed to fill whole buffer") ∧
      reference unpaddedFile.boxes = .error (truncated .tkhd) ∧
      inspectVideo (paddedFile .compact).bytes =
        .error (.malformedContainer (.text "unsupported tkhd version 2")) ∧
      inspectVideo (paddedFile .extended).bytes = .error (truncated .tkhd) := by
  refine ⟨?_, rfl, ?_, ?_⟩
  · exact inspectVideo_bareFile empty_delimited empty_plain empty_size
  · unfold paddedFile
    rw [inspectVideo_bareFile, padding_head]
    rfl
  · unfold paddedFile
    rw [inspectVideo_bareFile, padding_head]
    rfl

end FrameScope.Ports.MovieReference
