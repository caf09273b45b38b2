import FrameScope.Ports.Core
import FrameScope.Ports.IsoBox
import FrameScope.Verified.Outcomes

/-!
# Inspection of hostile bytes

Three facts about `inspect_video` on bytes of any content.

It ends, and no unchecked operation overflows: an error is never `outOfFuel` or
`overflow` (`inspectVideo_reports`).  The boxes of every loop lie one after the
other inside of the range of the loop (`boxesIn_ordered`), and they nest
(`nested_fileVisits`).  And a result is made of the headers and of the payloads
of the visited boxes alone: bytes that agree there have the same result
(`inspectVideo_follows`).
-/

namespace FrameScope.Ports.IsoBoxBounds

open FrameScope.Ports.IsoBox
open FrameScope.Verified
open FrameScope.Verified.ByteCodes
open FrameScope.Verified.RecordWalk
open FrameScope.Verified.Outcomes

/-! ## Errors are reports -/

/-- An error of the source, not one of the model. -/
def Reported (e : InspectError) : Prop := e ≠ .overflow ∧ e ≠ .outOfFuel

/-- A program that only fails with errors of the source. -/
abbrev Reports {α : Type} (Q : α → Prop) (x : Parse α) : Prop := post Q Reported x

section Reports

variable {bytes : List UInt8} {pos stop : Nat} {header : BoxHeader}

theorem reported_unsupportedFormat (detail : String) :
    Reported (.unsupportedFormat detail) := by simp [Reported]

theorem reported_malformedContainer (problem : ContainerProblem) :
    Reported (.malformedContainer problem) := by simp [Reported]

theorem reported_noVideoTrack : Reported .noVideoTrack := by simp [Reported]

theorem reported_invalidMetadata (detail : String) :
    Reported (.invalidMetadata detail) := by simp [Reported]

theorem reported_io (detail : String) : Reported (.io detail) := by simp [Reported]

/-- An unchecked operation that fits has its value. -/
theorem reports_unchecked {α : Type} {Q : α → Prop} {x : Option α} {a : α} (h : x = some a)
    (hQ : Q a) : Reports Q (unchecked x) := by
  rw [h]
  exact post_ok.2 hQ

theorem reports_readExact (n : Nat) :
    Reports (fun read => read.length = n) (readExact bytes pos n) := by
  unfold readExact
  apply post_ite
  · intro h
    rw [post_ok, List.length_take, List.length_drop]
    omega
  · intro _
    exact post_error.2 (reported_io _)

theorem reports_readU8 : Reports (fun _ => True) (readU8 bytes pos) :=
  post_map.2 (post_mono (reports_readExact 1) (fun _ _ => trivial) fun _ h => h)

theorem reports_readU32 : Reports (fun value => value < 2 ^ 32) (readU32 bytes pos) := by
  apply post_map.2
  apply post_mono (reports_readExact 4) _ fun _ h => h
  intro read hLength
  have h := beValue_lt read
  rwa [hLength] at h

theorem reports_readU64 : Reports (fun _ => True) (readU64 bytes pos) :=
  post_map.2 (post_mono (reports_readExact 8) (fun _ _ => trivial) fun _ h => h)

theorem reports_readI32 : Reports (fun _ => True) (readI32 bytes pos) :=
  post_map.2 (post_mono reports_readU32 (fun _ _ => trivial) fun _ h => h)

theorem reports_readKind : Reports (fun _ => True) (readKind bytes pos) :=
  post_map.2 (post_mono (reports_readExact 4) (fun _ _ => trivial) fun _ h => h)

/-- A header lies before its payload, and both within the parent. -/
def Nested (pos stop : Nat) (header : BoxHeader) : Prop :=
  pos + 8 ≤ header.dataStart ∧ header.dataStart ≤ header.endPos ∧ header.endPos ≤ stop

theorem reports_boxSize (hRoom : 8 ≤ stop - pos) (size32 : Nat) :
    Reports (fun size => 8 ≤ size.2 ∧ size.2 ≤ 16)
      (readBoxHeader.boxSize bytes pos stop size32) := by
  unfold readBoxHeader.boxSize
  apply post_ite
  · intro _
    rw [post_map]
    exact reports_unchecked (Checked.sub_of (by omega)) (by omega)
  · intro _
    apply post_ite
    · intro _
      apply post_ite
      · intro _
        exact post_error.2 (reported_malformedContainer _)
      · intro _
        rw [post_map]
        exact post_mono reports_readU64 (fun _ _ => by omega) fun _ h => h
    · intro _
      rw [post_ok]
      omega

theorem checkedAdd_eq_some {a b c : Nat} (h : Checked.add 64 a b = some c) :
    c = a + b ∧ a + b < 2 ^ 64 := by
  unfold Checked.add Checked.fit at h
  split_ifs at h with hFits
  exact ⟨(Option.some.inj h).symm, hFits⟩

theorem reports_readBoxHeader (hStop : stop < 2 ^ 64) :
    Reports (Nested pos stop) (readBoxHeader bytes pos stop) := by
  unfold readBoxHeader
  apply post_ite
  · intro _
    exact post_error.2 (reported_malformedContainer _)
  · intro hRoom
    apply post_bind_of reports_readU32
    intro size32 _
    apply post_bind_of reports_readKind
    intro kind _
    apply post_bind_of (reports_boxSize (by omega) size32)
    rintro ⟨size, headerSize⟩ ⟨hAtLeast, hAtMost⟩
    apply post_ite
    · intro _
      exact post_error.2 (reported_malformedContainer _)
    · intro hSize
      cases hEnd : Checked.add 64 pos size with
      | none => exact post_error.2 (reported_malformedContainer _)
      | some endPos =>
          obtain ⟨rfl, -⟩ := checkedAdd_eq_some hEnd
          apply post_ite
          · intro _
            exact post_error.2 (reported_malformedContainer _)
          · intro hInside
            have hHeader : 8 ≤ headerSize := hAtLeast
            have hBox : ¬ size < headerSize := hSize
            have hFits : pos + headerSize < 2 ^ 64 := by omega
            rw [post_bind]
            apply reports_unchecked (Checked.add_of hFits)
            rw [post_ok]
            show pos + 8 ≤ pos + headerSize ∧ pos + headerSize ≤ pos + size ∧ pos + size ≤ stop
            omega

theorem reports_ensurePayloadLen (needed : Nat) :
    Reports (fun _ => needed ≤ header.endPos - header.dataStart)
      (ensurePayloadLen header needed) := by
  unfold ensurePayloadLen
  apply post_ite
  · intro _
    exact post_error.2 (reported_malformedContainer _)
  · intro h
    rw [post_ok]
    omega

/-- A header of a file whose positions are of 64 bits. -/
structure InFile (header : BoxHeader) : Prop where
  ordered : header.dataStart ≤ header.endPos
  fits : header.endPos < 2 ^ 64

theorem Nested.inFile (h : Nested pos stop header) (hStop : stop < 2 ^ 64) : InFile header :=
  ⟨h.2.1, lt_of_le_of_lt h.2.2 hStop⟩

/-- An offset into a payload that is known to be long enough. -/
theorem InFile.offset {Q : Nat → Prop} {offset : Nat} (h : InFile header)
    (hLength : offset ≤ header.endPos - header.dataStart)
    (hQ : Q (header.dataStart + offset)) :
    Reports Q (unchecked (Checked.add 64 header.dataStart offset)) := by
  have hOrdered := h.ordered
  have hFits := h.fits
  exact reports_unchecked (Checked.add_of (by omega)) hQ

/-! ## Field boxes -/

theorem reports_sumSampleCounts (entries pos total : Nat) :
    Reports (fun _ => True) (sumSampleCounts bytes entries pos total) := by
  induction entries generalizing pos total with
  | zero =>
      unfold sumSampleCounts
      exact post_ok.2 trivial
  | succ entries ih =>
      unfold sumSampleCounts
      apply post_bind_of reports_readU32
      intro count _
      cases Checked.add 64 total count with
      | none => exact post_error.2 (reported_malformedContainer _)
      | some total =>
          apply post_bind_of reports_readU32
          intro _ _
          exact ih (pos + 8) total

theorem reports_parseSttsSampleCount (h : InFile header) :
    Reports (fun _ => True) (parseSttsSampleCount bytes header) := by
  unfold parseSttsSampleCount
  apply post_bind_of (reports_ensurePayloadLen 8)
  intro _ hLength
  rw [post_bind]
  apply h.offset (by omega)
  apply post_bind_of reports_readU32
  intro entryCount hCount
  apply post_ite
  · intro _
    exact post_error.2 (reported_malformedContainer _)
  · intro hBound
    rw [post_bind]
    apply reports_unchecked (Checked.mul_of (by omega))
    cases Checked.add 64 8 (entryCount * 8) with
    | none => exact post_error.2 (reported_malformedContainer _)
    | some required =>
        apply post_bind_of (reports_ensurePayloadLen required)
        intro _ _
        exact reports_sumSampleCounts _ _ _

theorem reports_parseMvhd (h : InFile header) :
    Reports (fun _ => True) (parseMvhd bytes header) := by
  unfold parseMvhd
  apply post_bind_of (reports_ensurePayloadLen 20)
  intro _ hLength
  apply post_bind_of reports_readU8
  intro version _
  apply post_ite
  · intro _
    rw [post_bind]
    apply h.offset (by omega)
    apply post_bind_of reports_readU32
    intro timescale _
    apply post_bind_of reports_readU32
    intro duration _
    exact post_ok.2 trivial
  · intro _
    apply post_ite
    · intro _
      apply post_bind_of (reports_ensurePayloadLen 32)
      intro _ hLength
      rw [post_bind]
      apply h.offset (by omega)
      apply post_bind_of reports_readU32
      intro timescale _
      apply post_bind_of reports_readU64
      intro duration _
      exact post_ok.2 trivial
    · intro _
      exact post_error.2 (reported_malformedContainer _)

theorem reports_parseHdlrIsVideo (h : InFile header) :
    Reports (fun _ => True) (parseHdlrIsVideo bytes header) := by
  unfold parseHdlrIsVideo
  apply post_bind_of (reports_ensurePayloadLen 12)
  intro _ hLength
  rw [post_bind]
  apply h.offset (by omega)
  apply post_bind_of reports_readKind
  intro kind _
  exact post_ok.2 trivial

/-- The offsets of a version lie within the length it requires. -/
theorem reports_tkhdLayout (version : Nat) :
    Reports (fun layout => layout.1 + 36 ≤ layout.2.1 ∧ layout.2.1 + 8 ≤ layout.2.2)
      (tkhdLayout version) := by
  unfold tkhdLayout
  apply post_ite
  · intro _
    exact post_ok.2 (by decide)
  · intro _
    apply post_ite
    · intro _
      exact post_ok.2 (by decide)
    · intro _
      exact post_error.2 (reported_malformedContainer _)

theorem reports_parseTkhd (h : InFile header) :
    Reports (fun _ => True) (parseTkhd bytes header) := by
  unfold parseTkhd
  apply post_bind_of reports_readU8
  intro version _
  apply post_bind_of (reports_tkhdLayout version)
  rintro ⟨matrixOffset, widthOffset, required⟩ ⟨hMatrix, hWidth⟩
  have hMatrixBound : matrixOffset + 36 ≤ widthOffset := hMatrix
  have hWidthBound : widthOffset + 8 ≤ required := hWidth
  apply post_bind_of (reports_ensurePayloadLen required)
  intro _ hLength
  rw [post_bind]
  apply h.offset (by omega)
  iterate 9
    apply post_bind_of reports_readI32
    intro _ _
  cases matrixRotation _ _ _ _ with
  | none => exact post_error.2 (reported_invalidMetadata _)
  | some rotation =>
      rw [post_bind]
      apply h.offset (by omega)
      apply post_bind_of reports_readU32
      intro _ _
      apply post_bind_of reports_readU32
      intro _ _
      exact post_ok.2 trivial

/-! ## Loops -/

/-- Every box of a loop ends after its start, and within the range. -/
theorem advances_readBoxHeader (bytes : List UInt8) (hStop : stop < 2 ^ 64) :
    Advances (fun pos => readBoxHeader bytes pos stop) BoxHeader.endPos stop := by
  intro pos header _ hRead
  have hNested := (reports_readBoxHeader hStop).1 header hRead
  unfold Nested at hNested
  omega

/-- A loop whose body fails with reports only does so itself, and ends. -/
theorem reports_boxLoop {σ : Type} {start : Nat} {visit : σ → BoxHeader → Parse (Flow σ)} {s : σ}
    (hStop : stop < 2 ^ 64)
    (hVisit : ∀ s header, InFile header → Reports (fun _ => True) (visit s header)) :
    Reports (fun _ => True) (boxLoop bytes start stop visit s) := by
  refine ⟨fun _ _ => trivial, ?_⟩
  intro e hError
  apply walk_error (advances_readBoxHeader bytes hStop) _ _ (by omega) hError
  · intro pos e _ hRead
    exact (reports_readBoxHeader hStop).2 e hRead
  · intro pos header _ hRead s e hFails
    have hNested := (reports_readBoxHeader hStop).1 header hRead
    exact (hVisit s header (hNested.inFile hStop)).2 e hFails

theorem reports_parseStblSampleCount (h : InFile header) :
    Reports (fun _ => True) (parseStblSampleCount bytes header.dataStart header.endPos) := by
  apply reports_boxLoop h.fits
  intro s inner hInner
  apply post_ite
  · intro _
    apply post_bind_of (reports_parseSttsSampleCount hInner)
    intro _ _
    exact post_ok.2 trivial
  · intro _
    exact post_ok.2 trivial

theorem reports_parseMinfSampleCount (h : InFile header) :
    Reports (fun _ => True) (parseMinfSampleCount bytes header.dataStart header.endPos) := by
  apply reports_boxLoop h.fits
  intro s inner hInner
  apply post_ite
  · intro _
    apply post_bind_of (reports_parseStblSampleCount hInner)
    intro _ _
    exact post_ok.2 trivial
  · intro _
    exact post_ok.2 trivial

theorem reports_parseMdia (h : InFile header) (facts : TrackFacts) :
    Reports (fun _ => True) (parseMdia bytes header.dataStart header.endPos facts) := by
  apply reports_boxLoop h.fits
  intro s inner hInner
  apply post_ite
  · intro _
    apply post_bind_of (reports_parseMvhd hInner)
    intro _ _
    exact post_ok.2 trivial
  · intro _
    apply post_ite
    · intro _
      apply post_bind_of (reports_parseHdlrIsVideo hInner)
      intro _ _
      exact post_ok.2 trivial
    · intro _
      apply post_ite
      · intro _
        apply post_bind_of (reports_parseMinfSampleCount hInner)
        intro _ _
        exact post_ok.2 trivial
      · intro _
        exact post_ok.2 trivial

theorem reports_parseTrak (h : InFile header) :
    Reports (fun _ => True) (parseTrak bytes header.dataStart header.endPos) := by
  apply reports_boxLoop h.fits
  intro s inner hInner
  apply post_ite
  · intro _
    apply post_bind_of (reports_parseTkhd hInner)
    intro _ _
    exact post_ok.2 trivial
  · intro _
    apply post_ite
    · intro _
      apply post_bind_of (reports_parseMdia hInner s)
      intro _ _
      exact post_ok.2 trivial
    · intro _
      exact post_ok.2 trivial

theorem reports_parseMoov (h : InFile header) :
    Reports (fun _ => True) (parseMoov bytes header.dataStart header.endPos) := by
  apply reports_boxLoop h.fits
  intro s inner hInner
  apply post_ite
  · intro _
    apply post_bind_of (reports_parseMvhd hInner)
    intro _ _
    exact post_ok.2 trivial
  · intro _
    apply post_ite
    · intro _
      apply post_bind_of (reports_parseTrak hInner)
      intro track _
      apply post_ite
      · intro _
        exact post_ok.2 trivial
      · intro _
        exact post_ok.2 trivial
    · intro _
      exact post_ok.2 trivial

/-! ## The file -/

theorem reports_orElseError {α : Type} {x : Option α} {e : InspectError} (h : Reported e) :
    Reports (fun _ => True) (orElseError x e) := by
  cases x with
  | none => exact post_error.2 h
  | some a => exact post_ok.2 trivial

theorem reports_scaleDurationToUs {duration timescale : Nat} (h : timescale ≠ 0) :
    Reports (fun _ => True) (scaleDurationToUs duration timescale) := by
  rw [scaleDurationToUs_eq]
  beta_reduce
  cases Checked.mul 128 duration 1000000 with
  | none => exact post_error.2 (reported_invalidMetadata _)
  | some product =>
      apply post_bind.2
      apply reports_unchecked (Checked.div_of (Nat.pos_of_ne_zero h))
      apply post_ite
      · intro _
        exact post_ok.2 trivial
      · intro _
        exact post_error.2 (reported_invalidMetadata _)

theorem reports_validate (metadata : VideoMetadata) :
    Reports (fun _ => True) metadata.validate := by
  unfold VideoMetadata.validate
  iterate 6
    apply post_ite
    · intro _
      exact post_error.2 (reported_invalidMetadata _)
    intro _
  exact post_ok.2 trivial

theorem reports_metadataOf (movie : MovieFacts) :
    Reports (fun _ => True) (metadataOf movie) := by
  unfold metadataOf
  apply post_bind_of (reports_orElseError reported_noVideoTrack)
  intro track _
  apply post_bind_of (reports_orElseError (reported_invalidMetadata _))
  intro width _
  apply post_bind_of (reports_orElseError (reported_invalidMetadata _))
  intro height _
  apply post_bind_of (reports_orElseError (reported_invalidMetadata _))
  rintro ⟨durationUnits, timescale⟩ _
  apply post_ite
  · intro _
    exact post_error.2 (reported_invalidMetadata _)
  · intro hZero
    have hTimescale : timescale ≠ 0 := fun h => hZero (Or.inl h)
    apply post_bind_of (reports_scaleDurationToUs hTimescale)
    intro durationUs _
    apply post_bind_of (reports_validate _)
    intro _ _
    exact post_ok.2 trivial

/-- Inspection ends, and with a report where it fails. -/
theorem inspectVideo_reports (hSize : bytes.length < 2 ^ 64) :
    Reports (fun _ => True) (inspectVideo bytes) := by
  unfold inspectVideo
  apply post_ite
  · intro _
    exact post_error.2 (reported_unsupportedFormat _)
  · intro _
    have hLoop : Reports (fun _ => True)
        (boxLoop bytes 0 bytes.length (visitFile bytes) {}) := by
      apply reports_boxLoop hSize
      intro found header hHeader
      apply post_ite
      · intro _
        apply post_bind_of (reports_parseMoov hHeader)
        intro _ _
        exact post_ok.2 trivial
      · intro _
        exact post_ok.2 trivial
    apply post_bind_of hLoop
    intro found _
    apply post_ite
    · intro _
      exact post_error.2 (reported_unsupportedFormat _)
    · intro _
      apply post_bind_of (reports_orElseError (reported_unsupportedFormat _))
      intro movie _
      exact reports_metadataOf movie

end Reports

/-! ## Visited boxes -/

/-- The boxes that a loop over a range looks at, with their positions, when it
is left after the first box of which `last` holds. -/
def boxesIn (bytes : List UInt8) (last : FourCC → Bool) (start stop : Nat) :
    List (Nat × BoxHeader) :=
  visited (fun pos => readBoxHeader bytes pos stop) BoxHeader.endPos
    (fun header => last header.kind) stop (stop - start) start

/-- A visited box. -/
structure Visit where
  position : Nat
  /-- The box around it; none around the boxes of the file. -/
  parent : Option BoxHeader
  header : BoxHeader
  /-- Its payload is read as fields. -/
  isRead : Bool
  deriving DecidableEq, Repr

/-- The end of the range that a box is looked for in. -/
def Visit.parentEnd (visit : Visit) (bytes : List UInt8) : Nat :=
  visit.parent.elim bytes.length BoxHeader.endPos

/-- The boxes of one loop, each with the boxes that are visited inside of it. -/
def visitsOf (parent : Option BoxHeader) (isRead : FourCC → Bool) (inside : BoxHeader → List Visit)
    (boxes : List (Nat × BoxHeader)) : List Visit :=
  boxes.flatMap fun entry =>
    ⟨entry.1, parent, entry.2, isRead entry.2.kind⟩ :: inside entry.2

section Visits

variable (bytes : List UInt8) (parent : BoxHeader)

def stblVisits : List Visit :=
  visitsOf (some parent) (· == .stts) (fun _ => [])
    (boxesIn bytes (· == .stts) parent.dataStart parent.endPos)

def minfVisits : List Visit :=
  visitsOf (some parent) (fun _ => false)
    (fun header => if header.kind = .stbl then stblVisits bytes header else [])
    (boxesIn bytes (· == .stbl) parent.dataStart parent.endPos)

def mdiaVisits : List Visit :=
  visitsOf (some parent) (fun kind => kind == .mdhd || kind == .hdlr)
    (fun header => if header.kind = .minf then minfVisits bytes header else [])
    (boxesIn bytes (fun _ => false) parent.dataStart parent.endPos)

def trakVisits : List Visit :=
  visitsOf (some parent) (· == .tkhd)
    (fun header => if header.kind = .mdia then mdiaVisits bytes header else [])
    (boxesIn bytes (fun _ => false) parent.dataStart parent.endPos)

def moovVisits : List Visit :=
  visitsOf (some parent) (· == .mvhd)
    (fun header => if header.kind = .trak then trakVisits bytes header else [])
    (boxesIn bytes (fun _ => false) parent.dataStart parent.endPos)

/-- The boxes that an inspection visits when it returns. -/
def fileVisits : List Visit :=
  visitsOf none (fun _ => false)
    (fun header => if header.kind = .moov then moovVisits bytes header else [])
    (boxesIn bytes (· == .moov) 0 bytes.length)

end Visits

section Nesting

variable {bytes : List UInt8} {last : FourCC → Bool} {start stop : Nat}

/-- A box lies within a range, and takes up at least its header. -/
structure Within (start stop : Nat) (entry : Nat × BoxHeader) : Prop where
  start_le : start ≤ entry.1
  header_le : entry.1 + 8 ≤ entry.2.dataStart
  data_le : entry.2.dataStart ≤ entry.2.endPos
  end_le : entry.2.endPos ≤ stop

theorem mem_boxesIn {entry : Nat × BoxHeader} (hStop : stop < 2 ^ 64)
    (h : entry ∈ boxesIn bytes last start stop) :
    Within start stop entry ∧ readBoxHeader bytes entry.1 stop = .ok entry.2 := by
  obtain ⟨hFrom, -, hRead⟩ := mem_visited (advances_readBoxHeader bytes hStop) h
  obtain ⟨hHeader, hData, hEnd⟩ := (reports_readBoxHeader hStop).1 entry.2 hRead
  exact ⟨⟨hFrom, hHeader, hData, hEnd⟩, hRead⟩

/-- The boxes of a loop follow each other. -/
theorem boxesIn_pairwise (hStop : stop < 2 ^ 64) :
    (boxesIn bytes last start stop).Pairwise fun a b => a.2.endPos ≤ b.1 :=
  visited_pairwise (advances_readBoxHeader bytes hStop)

/-- Read at its position, and within its parent or the file. -/
structure Visit.Nested (visit : Visit) (bytes : List UInt8) : Prop where
  within : Within (visit.parent.elim 0 BoxHeader.dataStart) (visit.parentEnd bytes)
    (visit.position, visit.header)
  fits : visit.parentEnd bytes < 2 ^ 64
  read : readBoxHeader bytes visit.position (visit.parentEnd bytes) = .ok visit.header

/-- The visits of one loop are nested when those inside of its boxes are. -/
theorem nested_visitsOf (parent : Option BoxHeader) {isRead : FourCC → Bool}
    {inside : BoxHeader → List Visit} {visit : Visit}
    (hStop : parent.elim bytes.length BoxHeader.endPos < 2 ^ 64)
    (hInside : ∀ header, InFile header → ∀ visit ∈ inside header, visit.Nested bytes)
    (h : visit ∈ visitsOf parent isRead inside (boxesIn bytes last
      (parent.elim 0 BoxHeader.dataStart) (parent.elim bytes.length BoxHeader.endPos))) :
    visit.Nested bytes := by
  obtain ⟨entry, hEntry, hVisit⟩ := List.mem_flatMap.1 h
  obtain ⟨hWithin, hRead⟩ := mem_boxesIn hStop hEntry
  cases List.mem_cons.1 hVisit with
  | inl hSelf =>
      rw [hSelf]
      exact ⟨hWithin, hStop, hRead⟩
  | inr hRest =>
      apply hInside entry.2 ⟨hWithin.data_le, lt_of_le_of_lt hWithin.end_le hStop⟩ visit
      exact hRest

theorem mem_of_mem_ite {p : Prop} [Decidable p] {α : Type} {xs : List α} {x : α}
    (h : x ∈ if p then xs else []) : x ∈ xs := by
  split_ifs at h
  · exact h
  · cases h

theorem nested_stblVisits {parent : BoxHeader} (hParent : InFile parent) :
    ∀ visit ∈ stblVisits bytes parent, visit.Nested bytes :=
  fun _ h => nested_visitsOf (some parent) hParent.fits (by simp) h

theorem nested_minfVisits {parent : BoxHeader} (hParent : InFile parent) :
    ∀ visit ∈ minfVisits bytes parent, visit.Nested bytes := by
  intro visit h
  apply nested_visitsOf (some parent) hParent.fits _ h
  intro header hHeader visit hVisit
  exact nested_stblVisits hHeader visit (mem_of_mem_ite hVisit)

theorem nested_mdiaVisits {parent : BoxHeader} (hParent : InFile parent) :
    ∀ visit ∈ mdiaVisits bytes parent, visit.Nested bytes := by
  intro visit h
  apply nested_visitsOf (some parent) hParent.fits _ h
  intro header hHeader visit hVisit
  exact nested_minfVisits hHeader visit (mem_of_mem_ite hVisit)

theorem nested_trakVisits {parent : BoxHeader} (hParent : InFile parent) :
    ∀ visit ∈ trakVisits bytes parent, visit.Nested bytes := by
  intro visit h
  apply nested_visitsOf (some parent) hParent.fits _ h
  intro header hHeader visit hVisit
  exact nested_mdiaVisits hHeader visit (mem_of_mem_ite hVisit)

theorem nested_moovVisits {parent : BoxHeader} (hParent : InFile parent) :
    ∀ visit ∈ moovVisits bytes parent, visit.Nested bytes := by
  intro visit h
  apply nested_visitsOf (some parent) hParent.fits _ h
  intro header hHeader visit hVisit
  exact nested_trakVisits hHeader visit (mem_of_mem_ite hVisit)

theorem nested_fileVisits (hSize : bytes.length < 2 ^ 64) :
    ∀ visit ∈ fileVisits bytes, visit.Nested bytes := by
  intro visit h
  apply nested_visitsOf none hSize _ h
  intro header hHeader visit hVisit
  exact nested_moovVisits hHeader visit (mem_of_mem_ite hVisit)

end Nesting

/-! ## Results depend on the visited boxes -/

section Agreement

variable {bytes bytes' : List UInt8} {pos start stop : Nat} {header : BoxHeader}

/-- The same bytes at the positions of a range. -/
def SameBytes (bytes bytes' : List UInt8) (start stop : Nat) : Prop :=
  ∀ i, start ≤ i → i < stop → bytes'[i]? = bytes[i]?

theorem follows_readExact {n : Nat} (hPos : 0 < n) (h : SameBytes bytes bytes' start stop)
    (hStart : start ≤ pos) (hStop : pos + n ≤ stop) :
    Follows (readExact bytes pos n) (readExact bytes' pos n) := by
  intro read hRead
  unfold readExact at hRead ⊢
  split_ifs at hRead with hFits
  have hLast := h (pos + n - 1) (by omega) (by omega)
  rw [List.getElem?_eq_getElem (by omega : pos + n - 1 < bytes.length)] at hLast
  obtain ⟨hLength, -⟩ := List.getElem?_eq_some_iff.1 hLast
  rw [if_pos (by omega), ← hRead, Except.ok.injEq]
  apply List.ext_getElem?
  intro i
  by_cases hIn : i < n
  · rw [List.getElem?_take_of_lt hIn, List.getElem?_take_of_lt hIn, List.getElem?_drop,
      List.getElem?_drop]
    exact h (pos + i) (by omega) (by omega)
  · rw [List.getElem?_eq_none, List.getElem?_eq_none]
    · rw [List.length_take]
      omega
    · rw [List.length_take]
      omega

theorem follows_readU8 (h : SameBytes bytes bytes' start stop) (hStart : start ≤ pos)
    (hStop : pos + 1 ≤ stop) : Follows (readU8 bytes pos) (readU8 bytes' pos) :=
  (follows_readExact (by omega) h hStart hStop).map beValue

theorem follows_readU32 (h : SameBytes bytes bytes' start stop) (hStart : start ≤ pos)
    (hStop : pos + 4 ≤ stop) : Follows (readU32 bytes pos) (readU32 bytes' pos) :=
  (follows_readExact (by omega) h hStart hStop).map beValue

theorem follows_readU64 (h : SameBytes bytes bytes' start stop) (hStart : start ≤ pos)
    (hStop : pos + 8 ≤ stop) : Follows (readU64 bytes pos) (readU64 bytes' pos) :=
  (follows_readExact (by omega) h hStart hStop).map beValue

theorem follows_readI32 (h : SameBytes bytes bytes' start stop) (hStart : start ≤ pos)
    (hStop : pos + 4 ≤ stop) : Follows (readI32 bytes pos) (readI32 bytes' pos) :=
  (follows_readU32 h hStart hStop).map asI32

theorem follows_readKind (h : SameBytes bytes bytes' start stop) (hStart : start ≤ pos)
    (hStop : pos + 4 ≤ stop) : Follows (readKind bytes pos) (readKind bytes' pos) :=
  (follows_readExact (by omega) h hStart hStop).map FourCC.ofBytes

theorem ensurePayloadLen_ok {needed : Nat} {u : Unit} (h : ensurePayloadLen header needed = .ok u) :
    needed ≤ header.endPos - header.dataStart :=
  (reports_ensurePayloadLen needed).1 u h

theorem unchecked_add_ok {a b c : Nat} (h : unchecked (Checked.add 64 a b) = .ok c) :
    c = a + b := by
  cases hAdd : Checked.add 64 a b with
  | none =>
      rw [hAdd] at h
      cases h
  | some sum =>
      rw [hAdd] at h
      rw [← Except.ok.inj h]
      exact (checkedAdd_eq_some hAdd).1

/-- The same payload. -/
abbrev SamePayload (bytes bytes' : List UInt8) (header : BoxHeader) : Prop :=
  SameBytes bytes bytes' header.dataStart header.endPos

theorem follows_sumSampleCounts (h : SameBytes bytes bytes' start stop) (entries pos total : Nat)
    (hStart : start ≤ pos) (hStop : pos + 8 * entries ≤ stop) :
    Follows (sumSampleCounts bytes entries pos total)
      (sumSampleCounts bytes' entries pos total) := by
  induction entries generalizing pos total with
  | zero => exact Follows.refl _
  | succ entries ih =>
      unfold sumSampleCounts
      apply (follows_readU32 h hStart (by omega)).bind
      intro count _
      cases Checked.add 64 total count with
      | none => exact Follows.of_error _ _
      | some total =>
          apply (follows_readU32 h (by omega) (by omega)).bind
          intro _ _
          exact ih (pos + 8) total (by omega) (by omega)

theorem follows_parseSttsSampleCount (h : SamePayload bytes bytes' header) :
    Follows (parseSttsSampleCount bytes header) (parseSttsSampleCount bytes' header) := by
  unfold parseSttsSampleCount
  apply Follows.bind_same
  intro _ hEnsure
  have hLength := ensurePayloadLen_ok hEnsure
  apply Follows.bind_same
  intro pos hPos
  have hAt := unchecked_add_ok hPos
  apply (follows_readU32 h (by omega) (by omega)).bind
  intro entryCount _
  apply Follows.ite
  · intro _
    exact Follows.of_error _ _
  · intro _
    apply Follows.bind_same
    intro entryBytes hBytes
    have hEntryBytes : entryBytes = entryCount * 8 := by
      unfold Checked.mul Checked.fit unchecked at hBytes
      split_ifs at hBytes
      · exact (Except.ok.inj hBytes).symm
      · cases hBytes
    cases hAdd : Checked.add 64 8 entryBytes with
    | none => exact Follows.of_error _ _
    | some required =>
        have hRequired := (checkedAdd_eq_some hAdd).1
        apply Follows.bind_same
        intro _ hEnsure
        have hAll := ensurePayloadLen_ok hEnsure
        exact follows_sumSampleCounts h _ _ _ (by omega) (by omega)

theorem follows_parseMvhd (h : SamePayload bytes bytes' header) :
    Follows (parseMvhd bytes header) (parseMvhd bytes' header) := by
  unfold parseMvhd
  apply Follows.bind_same
  intro _ hEnsure
  have hLength := ensurePayloadLen_ok hEnsure
  apply (follows_readU8 h (Nat.le_refl _) (by omega)).bind
  intro version _
  apply Follows.ite
  · intro _
    apply Follows.bind_same
    intro pos hPos
    have hAt := unchecked_add_ok hPos
    apply (follows_readU32 h (by omega) (by omega)).bind
    intro timescale _
    apply (follows_readU32 h (by omega) (by omega)).bind
    intro duration _
    exact Follows.refl _
  · intro _
    apply Follows.ite
    · intro _
      apply Follows.bind_same
      intro _ hEnsure
      have hLength := ensurePayloadLen_ok hEnsure
      apply Follows.bind_same
      intro pos hPos
      have hAt := unchecked_add_ok hPos
      apply (follows_readU32 h (by omega) (by omega)).bind
      intro timescale _
      apply (follows_readU64 h (by omega) (by omega)).bind
      intro duration _
      exact Follows.refl _
    · intro _
      exact Follows.of_error _ _

theorem follows_parseHdlrIsVideo (h : SamePayload bytes bytes' header) :
    Follows (parseHdlrIsVideo bytes header) (parseHdlrIsVideo bytes' header) := by
  unfold parseHdlrIsVideo
  apply Follows.bind_same
  intro _ hEnsure
  have hLength := ensurePayloadLen_ok hEnsure
  apply Follows.bind_same
  intro pos hPos
  have hAt := unchecked_add_ok hPos
  apply (follows_readKind h (by omega) (by omega)).bind
  intro kind _
  exact Follows.refl _

/-- A `tkhd` box that is accepted has a version byte. -/
theorem parseTkhd_ok {fields : Nat × Nat × Int} (h : parseTkhd bytes header = .ok fields) :
    header.dataStart < header.endPos := by
  unfold parseTkhd at h
  obtain ⟨version, -, h⟩ := Core.bind_eq_ok.1 h
  obtain ⟨⟨matrixOffset, widthOffset, required⟩, hLayout, h⟩ := Core.bind_eq_ok.1 h
  obtain ⟨u, hEnsure, -⟩ := Core.bind_eq_ok.1 h
  obtain ⟨hMatrix, hWidth⟩ := (reports_tkhdLayout version).1 _ hLayout
  have hWidthBound : widthOffset + 8 ≤ required := hWidth
  have hLength : required ≤ header.endPos - header.dataStart := ensurePayloadLen_ok hEnsure
  omega

theorem follows_parseTkhd (h : SamePayload bytes bytes' header) :
    Follows (parseTkhd bytes header) (parseTkhd bytes' header) := by
  intro fields hFields
  have hVersion := parseTkhd_ok hFields
  have hFollows : Follows (parseTkhd bytes header) (parseTkhd bytes' header) := by
    unfold parseTkhd
    apply (follows_readU8 h (Nat.le_refl _) (by omega)).bind
    intro version _
    apply Follows.bind_same
    rintro ⟨matrixOffset, widthOffset, required⟩ hLayout
    obtain ⟨hMatrix, hWidth⟩ := (reports_tkhdLayout version).1 _ hLayout
    have hMatrixBound : matrixOffset + 36 ≤ widthOffset := hMatrix
    have hWidthBound : widthOffset + 8 ≤ required := hWidth
    apply Follows.bind_same
    intro _ hEnsure
    have hLength := ensurePayloadLen_ok hEnsure
    apply Follows.bind_same
    intro pos hPos
    have hAt := unchecked_add_ok hPos
    iterate 9
      apply (follows_readI32 h (by omega) (by omega)).bind
      intro _ _
    cases matrixRotation _ _ _ _ with
    | none => exact Follows.of_error _ _
    | some rotation =>
        apply Follows.bind_same
        intro pos hPos
        have hAt := unchecked_add_ok hPos
        apply (follows_readU32 h (by omega) (by omega)).bind
        intro _ _
        apply (follows_readU32 h (by omega) (by omega)).bind
        intro _ _
        exact Follows.refl _
  exact hFollows fields hFields

/-! ## Loops that agree -/

/-- The headers and payloads of a visit are the same in other bytes. -/
structure Agrees (bytes bytes' : List UInt8) (visit : Visit) : Prop where
  header : readBoxHeader bytes' visit.position (visit.parentEnd bytes') = .ok visit.header
  payload : visit.isRead = true → SamePayload bytes bytes' visit.header

section Loop

variable {σ : Type} {last : FourCC → Bool} {visit visit' : σ → BoxHeader → Parse (Flow σ)}
  {stop' : Nat}

/-- A loop follows another one that finds the same headers. -/
theorem follows_boxLoop (hStop : stop < 2 ^ 64) (hStop' : stop' < 2 ^ 64)
    (hLast : ∀ s header s', visit s header = .ok (.next s') → last header.kind = false)
    (hEnds : stop' = stop ∨
      ∃ entry ∈ boxesIn bytes last start stop, last entry.2.kind = true)
    (hHeaders : ∀ entry ∈ boxesIn bytes last start stop,
      readBoxHeader bytes' entry.1 stop' = .ok entry.2)
    (hVisit : ∀ entry ∈ boxesIn bytes last start stop, InFile entry.2 →
      ∀ s, Follows (visit s entry.2) (visit' s entry.2)) (s : σ) :
    Follows (boxLoop bytes start stop visit s) (boxLoop bytes' start stop' visit' s) := by
  intro s' hRun
  have hInside : ∀ entry ∈ boxesIn bytes last start stop, entry.1 < stop' := by
    intro entry hEntry
    obtain ⟨hHeader, hData, hEnd⟩ :=
      (reports_readBoxHeader hStop').1 entry.2 (hHeaders entry hEntry)
    omega
  apply walk_congr hLast hEnds _ _ _ hRun
  · intro entry hEntry
    exact ⟨hInside entry hEntry, hHeaders entry hEntry⟩
  · intro entry hEntry s flow hFlow
    have hWithin := (mem_boxesIn hStop hEntry).1
    have hIn : InFile entry.2 := ⟨hWithin.data_le, lt_of_le_of_lt hWithin.end_le hStop⟩
    exact hVisit entry hEntry hIn s flow hFlow
  · exact visited_length_le (advances_readBoxHeader bytes hStop) hInside

/-- The loop over a box that agrees with everything that is visited in it. -/
theorem follows_inner {parent : BoxHeader} {isRead : FourCC → Bool}
    {inside : BoxHeader → List Visit} (hParent : InFile parent)
    (hLast : ∀ s header s', visit s header = .ok (.next s') → last header.kind = false)
    (hAgrees : ∀ v ∈ visitsOf (some parent) isRead inside
      (boxesIn bytes last parent.dataStart parent.endPos), Agrees bytes bytes' v)
    (hVisit : ∀ header, InFile header →
      (isRead header.kind = true → SamePayload bytes bytes' header) →
      (∀ v ∈ inside header, Agrees bytes bytes' v) →
      ∀ s, Follows (visit s header) (visit' s header)) (s : σ) :
    Follows (boxLoop bytes parent.dataStart parent.endPos visit s)
      (boxLoop bytes' parent.dataStart parent.endPos visit' s) := by
  have hSelf : ∀ entry ∈ boxesIn bytes last parent.dataStart parent.endPos,
      Agrees bytes bytes' ⟨entry.1, some parent, entry.2, isRead entry.2.kind⟩ := by
    intro entry hEntry
    exact hAgrees _ (List.mem_flatMap.2 ⟨entry, hEntry, List.mem_cons_self ..⟩)
  apply follows_boxLoop hParent.fits hParent.fits hLast (Or.inl rfl)
  · intro entry hEntry
    exact (hSelf entry hEntry).header
  · intro entry hEntry hIn s
    apply hVisit entry.2 hIn (hSelf entry hEntry).payload
    intro v hv
    exact hAgrees v (List.mem_flatMap.2 ⟨entry, hEntry, List.mem_cons_of_mem _ hv⟩)

end Loop

/-- A loop body that goes on has seen no box that ends the loop. -/
theorem visitStbl_next {s s' : Option Nat} (h : visitStbl bytes s header = .ok (.next s')) :
    (header.kind == .stts) = false := by
  unfold visitStbl at h
  split_ifs at h with hKind
  · obtain ⟨count, -, h⟩ := Core.bind_eq_ok.1 h
    cases h
  · simpa using hKind

theorem visitMinf_next {s s' : Option Nat} (h : visitMinf bytes s header = .ok (.next s')) :
    (header.kind == .stbl) = false := by
  unfold visitMinf at h
  split_ifs at h with hKind
  · obtain ⟨count, -, h⟩ := Core.bind_eq_ok.1 h
    cases h
  · simpa using hKind

theorem visitFile_next {s s' : Found} (h : visitFile bytes s header = .ok (.next s')) :
    (header.kind == .moov) = false := by
  by_cases hKind : header.kind = .moov
  · simp only [visitFile, if_pos hKind] at h
    obtain ⟨movie, -, h⟩ := Core.bind_eq_ok.1 h
    cases h
  · simpa using hKind

theorem follows_parseStblSampleCount (h : InFile header)
    (hAgrees : ∀ v ∈ stblVisits bytes header, Agrees bytes bytes' v) :
    Follows (parseStblSampleCount bytes header.dataStart header.endPos)
      (parseStblSampleCount bytes' header.dataStart header.endPos) := by
  apply follows_inner h (fun _ _ _ => visitStbl_next) hAgrees
  intro inner _ hPayload _ s
  apply Follows.ite
  · intro hKind
    apply (follows_parseSttsSampleCount (hPayload (by simp [hKind]))).bind
    intro _ _
    exact Follows.refl _
  · intro _
    exact Follows.refl _

theorem follows_parseMinfSampleCount (h : InFile header)
    (hAgrees : ∀ v ∈ minfVisits bytes header, Agrees bytes bytes' v) :
    Follows (parseMinfSampleCount bytes header.dataStart header.endPos)
      (parseMinfSampleCount bytes' header.dataStart header.endPos) := by
  apply follows_inner h (fun _ _ _ => visitMinf_next) hAgrees
  intro inner hInner _ hInside s
  apply Follows.ite
  · intro hKind
    rw [if_pos hKind] at hInside
    apply (follows_parseStblSampleCount hInner hInside).bind
    intro _ _
    exact Follows.refl _
  · intro _
    exact Follows.refl _

theorem follows_parseMdia (h : InFile header)
    (hAgrees : ∀ v ∈ mdiaVisits bytes header, Agrees bytes bytes' v) (facts : TrackFacts) :
    Follows (parseMdia bytes header.dataStart header.endPos facts)
      (parseMdia bytes' header.dataStart header.endPos facts) := by
  apply follows_inner h (fun _ _ _ _ => rfl) hAgrees
  intro inner hInner hPayload hInside s
  apply Follows.ite
  · intro hKind
    apply (follows_parseMvhd (hPayload (by simp [hKind]))).bind
    intro _ _
    exact Follows.refl _
  · intro _
    apply Follows.ite
    · intro hKind
      apply (follows_parseHdlrIsVideo (hPayload (by simp [hKind]))).bind
      intro _ _
      exact Follows.refl _
    · intro _
      apply Follows.ite
      · intro hKind
        rw [if_pos hKind] at hInside
        apply (follows_parseMinfSampleCount hInner hInside).bind
        intro _ _
        exact Follows.refl _
      · intro _
        exact Follows.refl _

theorem follows_parseTrak (h : InFile header)
    (hAgrees : ∀ v ∈ trakVisits bytes header, Agrees bytes bytes' v) :
    Follows (parseTrak bytes header.dataStart header.endPos)
      (parseTrak bytes' header.dataStart header.endPos) := by
  apply follows_inner h (fun _ _ _ _ => rfl) hAgrees
  intro inner hInner hPayload hInside s
  apply Follows.ite
  · intro hKind
    apply (follows_parseTkhd (hPayload (by simp [hKind]))).bind
    intro _ _
    exact Follows.refl _
  · intro _
    apply Follows.ite
    · intro hKind
      rw [if_pos hKind] at hInside
      apply (follows_parseMdia hInner hInside s).bind
      intro _ _
      exact Follows.refl _
    · intro _
      exact Follows.refl _

theorem follows_parseMoov (h : InFile header)
    (hAgrees : ∀ v ∈ moovVisits bytes header, Agrees bytes bytes' v) :
    Follows (parseMoov bytes header.dataStart header.endPos)
      (parseMoov bytes' header.dataStart header.endPos) := by
  apply follows_inner h (fun _ _ _ _ => rfl) hAgrees
  intro inner hInner hPayload hInside s
  apply Follows.ite
  · intro hKind
    apply (follows_parseMvhd (hPayload (by simp [hKind]))).bind
    intro _ _
    exact Follows.refl _
  · intro _
    apply Follows.ite
    · intro hKind
      rw [if_pos hKind] at hInside
      apply (follows_parseTrak hInner hInside).bind
      intro _ _
      exact Follows.refl _
    · intro _
      exact Follows.refl _

/-- A loop that finds a movie has visited a box of it. -/
theorem moov_visited {found : Found} {movie : MovieFacts}
    (h : boxLoop bytes 0 bytes.length (visitFile bytes) {} = .ok found)
    (hMovie : found.movie = some movie) :
    ∃ entry ∈ boxesIn bytes (· == .moov) 0 bytes.length, (entry.2.kind == .moov) = true := by
  by_contra hNone
  have hOther : ∀ entry ∈ boxesIn bytes (· == .moov) 0 bytes.length, ¬ entry.2.kind = .moov :=
    fun entry hEntry hKind => hNone ⟨entry, hEntry, by rw [hKind]; rfl⟩
  have hLast : ∀ s header s', visitFile bytes s header = .ok (.next s') →
      (header.kind == .moov) = false := fun _ _ _ => visitFile_next
  have hStart : ({} : Found).movie = none := rfl
  have hKept : found.movie = none := by
    unfold boxLoop at h
    apply walk_keeps (P := fun found : Found => found.movie = none) hLast _ _ hStart h
    · intro entry hEntry s s' hs hVisit
      simp only [visitFile, if_neg (hOther entry hEntry), Except.ok.injEq, Flow.next.injEq]
        at hVisit
      rw [← hVisit]
      split_ifs
      · exact hs
      · exact hs
    · intro entry hEntry s s' _ hVisit
      simp only [visitFile, if_neg (hOther entry hEntry), Except.ok.injEq] at hVisit
      cases hVisit
  rw [hKept] at hMovie
  cases hMovie

/-- Bytes that agree on what is visited have the same metadata. -/
theorem inspectVideo_follows (hSize : bytes.length < 2 ^ 64) (hSize' : bytes'.length < 2 ^ 64)
    (hAgrees : ∀ v ∈ fileVisits bytes, Agrees bytes bytes' v) :
    Follows (inspectVideo bytes) (inspectVideo bytes') := by
  have hSelf : ∀ entry ∈ boxesIn bytes (· == .moov) 0 bytes.length,
      Agrees bytes bytes' ⟨entry.1, none, entry.2, false⟩ := by
    intro entry hEntry
    exact hAgrees _ (List.mem_flatMap.2 ⟨entry, hEntry, List.mem_cons_self ..⟩)
  intro metadata hMetadata
  simp only [inspectVideo] at hMetadata
  split_ifs at hMetadata with hSmall
  obtain ⟨found, hFound, hRest⟩ := Core.bind_eq_ok.1 hMetadata
  cases hSaw : found.sawIsoBox with
  | false =>
      rw [hSaw] at hRest
      cases hRest
  | true =>
      cases hMovie : found.movie with
      | none =>
          rw [hSaw, hMovie] at hRest
          cases hRest
      | some movie =>
          obtain ⟨entry, hEntry, hIs⟩ := moov_visited hFound hMovie
          have hHeader := (hSelf entry hEntry).header
          have hNested := (reports_readBoxHeader hSize').1 entry.2 hHeader
          unfold Nested at hNested
          have hLarge : ¬ bytes'.length < 8 := by
            have hEnd : entry.2.endPos ≤ bytes'.length := hNested.2.2
            omega
          have hLoop : boxLoop bytes' 0 bytes'.length (visitFile bytes') {} = .ok found := by
            apply follows_boxLoop hSize hSize' (fun _ _ _ => visitFile_next)
              (Or.inr ⟨entry, hEntry, hIs⟩) _ _ _ _ hFound
            · exact fun entry hEntry => (hSelf entry hEntry).header
            · intro entry hEntry hIn s
              apply Follows.ite
              · intro hKind
                have hInside : ∀ v ∈ moovVisits bytes entry.2, Agrees bytes bytes' v := by
                  intro v hv
                  apply hAgrees v (List.mem_flatMap.2 ⟨entry, hEntry, _⟩)
                  apply List.mem_cons_of_mem
                  show v ∈ if entry.2.kind = .moov then moovVisits bytes entry.2 else []
                  rw [if_pos hKind]
                  exact hv
                apply (follows_parseMoov hIn hInside).bind
                intro _ _
                exact Follows.refl _
              · intro _
                exact Follows.refl _
          simp only [inspectVideo, if_neg hLarge]
          rw [hLoop]
          exact hRest

/-- The same bytes of a header, in a file of the same size, say the same. -/
theorem follows_readBoxHeader (hStop : stop < 2 ^ 64)
    (hRead : readBoxHeader bytes pos stop = .ok header)
    (h : SameBytes bytes bytes' pos header.dataStart) :
    readBoxHeader bytes' pos stop = .ok header := by
  have hNested := (reports_readBoxHeader hStop).1 header hRead
  unfold Nested at hNested
  have hResult := hRead
  unfold readBoxHeader at hResult ⊢
  split_ifs at hResult with hRoom
  obtain ⟨size32, hSize32, hResult⟩ := Core.bind_eq_ok.1 hResult
  obtain ⟨kind, hKind, hResult⟩ := Core.bind_eq_ok.1 hResult
  obtain ⟨⟨size, headerSize⟩, hBox, hResult⟩ := Core.bind_eq_ok.1 hResult
  have hStart : header.dataStart = pos + headerSize := by
    simp only at hResult
    split_ifs at hResult
    cases hEnd : Checked.add 64 pos size with
    | none =>
        rw [hEnd] at hResult
        cases hResult
    | some endPos =>
        rw [hEnd] at hResult
        simp only at hResult
        split_ifs at hResult
        obtain ⟨dataStart, hData, hResult⟩ := Core.bind_eq_ok.1 hResult
        rw [← Except.ok.inj hResult]
        exact unchecked_add_ok hData
  have hBox' : readBoxHeader.boxSize bytes' pos stop size32 = .ok (size, headerSize) := by
    unfold readBoxHeader.boxSize at hBox ⊢
    split_ifs at hBox ⊢ with hZero hOne hExtended
    · exact hBox
    · obtain ⟨extended, hExtendedSize, hPair⟩ := Core.map_eq_ok.1 hBox
      have hHeaderSize : headerSize = 16 := ((Prod.mk.injEq _ _ _ _).mp hPair).2.symm
      rw [follows_readU64 h (by omega) (by omega) _ hExtendedSize]
      exact congrArg Except.ok hPair
    · exact hBox
  rw [if_neg hRoom, follows_readU32 h (Nat.le_refl _) (by omega) _ hSize32, Core.ok_bind,
    follows_readKind h (by omega) (by omega) _ hKind, Core.ok_bind, hBox', Core.ok_bind]
  exact hResult

/-- In a file of the same size, the same bytes agree. -/
theorem agrees_of_sameBytes (hSize : bytes.length < 2 ^ 64) (hLength : bytes'.length = bytes.length)
    {v : Visit} (hv : v ∈ fileVisits bytes)
    (hHeader : SameBytes bytes bytes' v.position v.header.dataStart)
    (hPayload : v.isRead = true → SamePayload bytes bytes' v.header) : Agrees bytes bytes' v := by
  have hNested := nested_fileVisits hSize v hv
  have hEnd : v.parentEnd bytes' = v.parentEnd bytes := by
    unfold Visit.parentEnd
    rw [hLength]
  refine ⟨?_, hPayload⟩
  rw [hEnd]
  exact follows_readBoxHeader hNested.fits hNested.read hHeader

end Agreement

/-! ## Safe inspection -/

/-- What no content of a file breaks. -/
structure SafelyInspected (bytes : List UInt8) : Prop where
  /-- Inspection ends, and no unchecked operation overflows. -/
  reports : ∀ e, inspectVideo bytes = .error e → Reported e
  /-- A box that a loop reads ends after its start and within the range. -/
  advances : ∀ stop ≤ bytes.length, ∀ pos header, readBoxHeader bytes pos stop = .ok header →
    Nested pos stop header
  /-- The boxes of a loop follow each other. -/
  ordered : ∀ last start stop, stop ≤ bytes.length →
    (boxesIn bytes last start stop).Pairwise fun a b => a.1 < b.1 ∧ a.2.endPos ≤ b.1
  /-- A visited box lies within the box around it. -/
  nested : ∀ v ∈ fileVisits bytes, v.Nested bytes
  /-- The result comes from the headers and the payloads of the visited boxes. -/
  determined : ∀ bytes' : List UInt8, bytes'.length < 2 ^ 64 →
    (∀ v ∈ fileVisits bytes, Agrees bytes bytes' v) →
    ∀ metadata, inspectVideo bytes = .ok metadata → inspectVideo bytes' = .ok metadata
  /-- In a file of the same size, from their bytes. -/
  sameBytes : ∀ bytes' : List UInt8, bytes'.length = bytes.length →
    (∀ v ∈ fileVisits bytes, SameBytes bytes bytes' v.position v.header.dataStart) →
    (∀ v ∈ fileVisits bytes, v.isRead = true → SamePayload bytes bytes' v.header) →
    ∀ metadata, inspectVideo bytes = .ok metadata → inspectVideo bytes' = .ok metadata

theorem boxesIn_ordered {bytes : List UInt8} {last : FourCC → Bool} {start stop : Nat}
    (hStop : stop < 2 ^ 64) :
    (boxesIn bytes last start stop).Pairwise fun a b => a.1 < b.1 ∧ a.2.endPos ≤ b.1 := by
  apply List.Pairwise.imp_of_mem _ (boxesIn_pairwise hStop)
  intro a b ha _ hAfter
  have hWithin := (mem_boxesIn hStop ha).1
  have hHeader := hWithin.header_le
  have hData := hWithin.data_le
  omega

/-- Every file is inspected safely. -/
theorem inspectVideo_safe (bytes : List UInt8) (hSize : bytes.length < 2 ^ 64) :
    SafelyInspected bytes where
  reports := (inspectVideo_reports hSize).2
  advances stop hStop _ header hRead :=
    (reports_readBoxHeader (lt_of_le_of_lt hStop hSize)).1 header hRead
  ordered _ _ stop hStop := boxesIn_ordered (lt_of_le_of_lt hStop hSize)
  nested := nested_fileVisits hSize
  determined _ hSize' hAgrees := inspectVideo_follows hSize hSize' hAgrees
  sameBytes bytes' hLength hHeader hPayload := by
    apply inspectVideo_follows hSize (lt_of_eq_of_lt hLength hSize)
    intro v hv
    exact agrees_of_sameBytes hSize hLength hv (hHeader v hv) (hPayload v hv)

/-- A file of zeros. -/
theorem inspectVideo_safe_zeros : SafelyInspected (List.replicate 32 0) :=
  inspectVideo_safe (List.replicate 32 0) (by decide)

end FrameScope.Ports.IsoBoxBounds
