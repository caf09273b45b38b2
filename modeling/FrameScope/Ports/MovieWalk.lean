import FrameScope.Ports.BoxFields

/-!
# The reference walk of a movie

What the inspection of a file means, on the tree of its boxes.  `movieOf` picks
out of the first movie box what is looked at; `reference` is the first complaint
of a field box, or else the metadata: the last `mvhd`, the first track whose
last `hdlr` says that it is a video, and of this track the last `tkhd`, the last
`mdhd` and the first sample table of the last `minf`.  Neither the sizes of the
boxes nor the boxes that are skipped occur in it.

`inspectVideo_boxes` says what the code does on the bytes, loop by loop.  It is
the reference walk but for a `tkhd` box without a payload, whose complaint
depends on the byte behind the box.
-/

namespace FrameScope.Ports.MovieWalk

open FrameScope.Ports.IsoBox
open FrameScope.Ports.BoxTree
open FrameScope.Ports.BoxFields
open FrameScope.Verified
open FrameScope.Verified.RecordWalk

/-! ## What is looked at -/

/-- A field box of a track, or a `minf` box with its sample table. -/
inductive TrackPart
  | tkhd (payload : List UInt8)
  | mdhd (payload : List UInt8)
  | hdlr (payload : List UInt8)
  | minf (table : Option (List UInt8))
  deriving DecidableEq

inductive MoviePart
  | mvhd (payload : List UInt8)
  | trak (parts : List TrackPart)
  deriving DecidableEq

/-- The first box of a kind. -/
def firstOf (kind : FourCC) (boxes : List Box) : Option Box := boxes.find? fun box => box.kind = kind

def stblTable (boxes : List Box) : Option (List UInt8) := (firstOf .stts boxes).map Box.payload

def minfTable (boxes : List Box) : Option (List UInt8) :=
  (firstOf .stbl boxes).bind fun box => stblTable box.children

def mdiaPart (box : Box) : List TrackPart :=
  if box.kind = .mdhd then [.mdhd box.payload]
  else if box.kind = .hdlr then [.hdlr box.payload]
  else if box.kind = .minf then [.minf (minfTable box.children)]
  else []

def trakPart (box : Box) : List TrackPart :=
  if box.kind = .tkhd then [.tkhd box.payload]
  else if box.kind = .mdia then box.children.flatMap mdiaPart
  else []

def moovPart (box : Box) : List MoviePart :=
  if box.kind = .mvhd then [.mvhd box.payload]
  else if box.kind = .trak then [.trak (box.children.flatMap trakPart)]
  else []

/-- The first movie of a file. -/
def movieOf (boxes : List Box) : Option (List MoviePart) :=
  (firstOf .moov boxes).map fun box => box.children.flatMap moovPart

/-! ## What it says -/

/-- The complaint of a parser. -/
def complaint {α : Type} : Parse α → Option InspectError
  | .ok _ => none
  | .error e => some e

def TrackPart.complaint : TrackPart → Option InspectError
  | .tkhd payload => MovieWalk.complaint (trackHeaderOf payload)
  | .mdhd payload => MovieWalk.complaint (timesOf payload .mdhd)
  | .hdlr payload => MovieWalk.complaint (handlerOf payload)
  | .minf table => table.bind fun payload => MovieWalk.complaint (sampleTotalOf payload)

def MoviePart.complaint : MoviePart → Option InspectError
  | .mvhd payload => MovieWalk.complaint (timesOf payload .mvhd)
  | .trak parts => parts.findSome? TrackPart.complaint

def TrackPart.tkhd? : TrackPart → Option (List UInt8)
  | .tkhd payload => some payload
  | _ => none

def TrackPart.mdhd? : TrackPart → Option (List UInt8)
  | .mdhd payload => some payload
  | _ => none

def TrackPart.hdlr? : TrackPart → Option (List UInt8)
  | .hdlr payload => some payload
  | _ => none

def TrackPart.minf? : TrackPart → Option (Option (List UInt8))
  | .minf table => some table
  | _ => none

def MoviePart.mvhd? : MoviePart → Option (List UInt8)
  | .mvhd payload => some payload
  | _ => none

def MoviePart.trak? : MoviePart → Option (List TrackPart)
  | .trak parts => some parts
  | _ => none

/-- The last part of a sort. -/
def lastOf {α β : Type} (select : α → Option β) (parts : List α) : Option β :=
  (parts.filterMap select).getLast?

/-- The facts of a track. -/
def trackFacts (parts : List TrackPart) : TrackFacts :=
  let header := (lastOf TrackPart.tkhd? parts).bind fun payload => (trackHeaderOf payload).toOption
  { isVideo := ((lastOf TrackPart.hdlr? parts).bind fun payload =>
      (handlerOf payload).toOption).getD false
    width := header.map fun fields => fields.1
    height := header.map fun fields => fields.2.1
    rotationDegrees := header.elim 0 fun fields => fields.2.2
    duration := (lastOf TrackPart.mdhd? parts).bind fun payload =>
      (timesOf payload .mdhd).toOption
    sampleCount := (lastOf TrackPart.minf? parts).join.bind fun payload =>
      (sampleTotalOf payload).toOption }

/-- The facts of a movie. -/
def movieFacts (parts : List MoviePart) : MovieFacts where
  duration := (lastOf MoviePart.mvhd? parts).bind fun payload => (timesOf payload .mvhd).toOption
  videoTrack := ((parts.filterMap MoviePart.trak?).map trackFacts).find? TrackFacts.isVideo

/-- A value, unless there is a complaint. -/
def settle {α : Type} (complaint : Option InspectError) (value : α) : Parse α :=
  complaint.elim (.ok value) .error

/-- The metadata of a file, unless there is a complaint. -/
def outcome (complaint : Option InspectError) (boxes : List Box) : Parse VideoMetadata :=
  if boxes.isEmpty then .error (.unsupportedFormat "file is too small to be an ISO BMFF video")
  else match movieOf boxes with
    | none => .error noMovie
    | some parts => do
        let movie ← settle complaint (movieFacts parts)
        metadataOf movie

/-- The first complaint about a field box of the movie. -/
def firstComplaint (boxes : List Box) : Option InspectError :=
  (movieOf boxes).bind fun parts => parts.findSome? MoviePart.complaint

/-- The reference walk. -/
def reference (boxes : List Box) : Parse VideoMetadata := outcome (firstComplaint boxes) boxes

/-! ## What the code reads -/

/-- What the code reads of a movie, in order. -/
inductive Reading
  | mvhd (payload : List UInt8)
  | track (part : TrackPart)
  /-- A `tkhd` box without a payload, with the byte behind it. -/
  | bare (following : Option UInt8)
  deriving DecidableEq

/-- The complaint of the reference walk. -/
def Reading.complaint : Reading → Option InspectError
  | .mvhd payload => MovieWalk.complaint (timesOf payload .mvhd)
  | .track part => part.complaint
  | .bare _ => some (truncated .tkhd)

/-- The complaint of the code. -/
def Reading.codeComplaint : Reading → Option InspectError
  | .bare following => some (emptyHeaderError following)
  | reading => reading.complaint

/-- What is read of the boxes of a track, before `after`. -/
def trakReadings (after : List UInt8) : List Box → List Reading
  | [] => []
  | box :: rest =>
      (if box.kind = .tkhd ∧ box.payload = [] then [.bare (serialise rest ++ after).head?]
        else (trakPart box).map .track) ++ trakReadings after rest

/-- What is read of the boxes of a movie, before `after`. -/
def moovReadings (after : List UInt8) : List Box → List Reading
  | [] => []
  | box :: rest =>
      (if box.kind = .mvhd then [.mvhd box.payload]
        else if box.kind = .trak then trakReadings (serialise rest ++ after) box.children
        else []) ++ moovReadings after rest

/-- What is read of the boxes of a file. -/
def fileReadings : List Box → List Reading
  | [] => []
  | box :: rest =>
      if box.kind = .moov then moovReadings (serialise rest) box.children else fileReadings rest

/-! ## One loop after the other -/

/-- The facts after one more part. -/
def addPart (facts : TrackFacts) : TrackPart → TrackFacts
  | .tkhd payload =>
      let header := (trackHeaderOf payload).toOption
      { facts with
        width := header.map fun fields => fields.1
        height := header.map fun fields => fields.2.1
        rotationDegrees := header.elim 0 fun fields => fields.2.2 }
  | .mdhd payload => { facts with duration := (timesOf payload .mdhd).toOption }
  | .hdlr payload => { facts with isVideo := (handlerOf payload).toOption.getD false }
  | .minf table =>
      { facts with sampleCount := table.bind fun payload => (sampleTotalOf payload).toOption }

def addMoviePart (facts : MovieFacts) : MoviePart → MovieFacts
  | .mvhd payload => { facts with duration := (timesOf payload .mvhd).toOption }
  | .trak parts =>
      let track := parts.foldl addPart {}
      if track.isVideo ∧ facts.videoTrack.isNone then { facts with videoTrack := some track }
      else facts

section Settle

variable {α β σ η : Type} {a : α} {b : β}

/-- A parser and what is made of its value. -/
theorem bind_eq_settle {x : Parse α} {f : α → β} (h : ∀ a, x = .ok a → f a = b) :
    (x >>= fun a => .ok (f a)) = settle (complaint x) b := by
  cases x with
  | error e => rfl
  | ok a => exact congrArg Except.ok (h a rfl)

theorem settle_bind {c d : Option InspectError} {f : α → Parse β} (h : f a = settle d b) :
    (settle c a >>= f) = settle (c.or d) b := by
  cases c with
  | none => exact h
  | some e => rfl

/-- A visit and the visits after it. -/
theorem visitAll_settle {visit : σ → η → Parse (Flow σ)} {record : η} {rest : List η}
    {s s' s'' : σ} {c d : Option InspectError} (h : visit s record = settle c (.next s'))
    (hRest : visitAll visit rest s' = settle d s'') :
    visitAll visit (record :: rest) s = settle (c.or d) s'' := by
  rw [visitAll, h]
  exact settle_bind hRest

end Settle

section Loops

variable {bytes after payload : List UInt8} {pos : Nat} {box : Box} {boxes rest : List Box}
  {header : BoxHeader}

theorem firstOf_cons_of_eq {kind : FourCC} (h : box.kind = kind) :
    firstOf kind (box :: rest) = some box :=
  List.find?_cons_of_pos (by simpa using h)

theorem firstOf_cons_of_ne {kind : FourCC} (h : ¬ box.kind = kind) :
    firstOf kind (box :: rest) = firstOf kind rest :=
  List.find?_cons_of_neg (by simpa using h)

/-- The loop over a box around boxes. -/
theorem placed_boxLoop {σ : Type} {visit : σ → BoxHeader → Parse (Flow σ)} {s : σ}
    (h : Placed bytes header payload after) (hPayload : payload = serialise boxes)
    (hDelimited : Delimited boxes) :
    boxLoop bytes header.dataStart header.endPos visit s =
      visitAll visit (headersAt header.dataStart boxes) s := by
  apply (h.held hPayload hDelimited).boxLoop
  rw [h.ends, hPayload]

theorem complaint_map {α β : Type} (x : Parse α) (f : α → β) :
    complaint (x.map f) = complaint x := by
  cases x with
  | error e => rfl
  | ok a => rfl

/-- The sample count that a table gives. -/
def tableTotal (table : Option (List UInt8)) : Parse (Option Nat) :=
  table.elim (.ok none) fun payload => (sampleTotalOf payload).map some

theorem complaint_tableTotal (table : Option (List UInt8)) :
    complaint (tableTotal table) = table.bind fun payload => complaint (sampleTotalOf payload) := by
  cases table with
  | none => rfl
  | some payload =>
      exact complaint_map (sampleTotalOf payload) some

theorem tableTotal_ok {table : Option (List UInt8)} {count : Option Nat}
    (h : tableTotal table = .ok count) :
    count = table.bind fun payload => (sampleTotalOf payload).toOption := by
  cases table with
  | none => exact (Except.ok.inj h).symm
  | some payload =>
      obtain ⟨total, hTotal, hSome⟩ := Core.map_eq_ok.1 h
      rw [← hSome, Option.bind_some, hTotal]
      rfl

theorem visitAll_stbl (h : Held bytes pos boxes after) :
    visitAll (visitStbl bytes) (headersAt pos boxes) none = tableTotal (stblTable boxes) := by
  induction boxes generalizing pos with
  | nil => rfl
  | cons box rest ih =>
      rw [headersAt, visitAll]
      unfold visitStbl stblTable
      by_cases hKind : (headerAt pos box).kind = .stts
      · rw [if_pos hKind, placed_parseSttsSampleCount h.head hKind, firstOf_cons_of_eq hKind]
        show _ = (sampleTotalOf box.payload).map some
        cases sampleTotalOf box.payload with
        | error e => rfl
        | ok total => rfl
      · rw [if_neg hKind, firstOf_cons_of_ne hKind]
        exact ih h.tail

theorem visitAll_minf (h : Held bytes pos boxes after)
    (hWell : ∀ box ∈ boxes, box.kind = .stbl →
      box.payload = serialise box.children ∧ WellFormed [] box.children) :
    visitAll (visitMinf bytes) (headersAt pos boxes) none = tableTotal (minfTable boxes) := by
  induction boxes generalizing pos with
  | nil => rfl
  | cons box rest ih =>
      rw [headersAt, visitAll]
      unfold visitMinf minfTable
      by_cases hKind : (headerAt pos box).kind = .stbl
      · obtain ⟨hPayload, hInner⟩ := hWell box List.mem_cons_self hKind
        have hLoop : parseStblSampleCount bytes (headerAt pos box).dataStart
            (headerAt pos box).endPos = tableTotal (stblTable box.children) := by
          unfold parseStblSampleCount
          rw [placed_boxLoop h.head hPayload hInner.delimited]
          exact visitAll_stbl (h.head.held hPayload hInner.delimited)
        rw [if_pos hKind, hLoop, firstOf_cons_of_eq hKind]
        show _ = tableTotal (stblTable box.children)
        cases tableTotal (stblTable box.children) with
        | error e => rfl
        | ok total => rfl
      · rw [if_neg hKind, firstOf_cons_of_ne hKind]
        exact ih h.tail fun other hOther => hWell other (List.mem_cons_of_mem _ hOther)

/-- One round of the loop of `parse_mdia`. -/
theorem visitMdia_box (h : Placed bytes header box.payload after) (hHeader : header.kind = box.kind)
    (hWell : box.kind = .minf →
      box.payload = serialise box.children ∧ WellFormed [.stbl] box.children)
    (facts : TrackFacts) :
    visitMdia bytes facts header = settle ((mdiaPart box).findSome? TrackPart.complaint)
      (.next ((mdiaPart box).foldl addPart facts)) := by
  unfold visitMdia mdiaPart
  rw [hHeader]
  by_cases hMdhd : box.kind = .mdhd
  · rw [if_pos hMdhd, if_pos hMdhd]
    unfold parseMdhd
    rw [placed_parseMvhd h, hHeader, hMdhd, List.findSome?_singleton]
    show _ = settle (complaint (timesOf box.payload .mdhd)) _
    rw [← complaint_map _ some]
    apply bind_eq_settle
    intro times hTimes
    obtain ⟨pair, hPair, hSome⟩ := Core.map_eq_ok.1 hTimes
    show _ = Flow.next { facts with duration := (timesOf box.payload .mdhd).toOption }
    rw [hPair, ← hSome]
    rfl
  · rw [if_neg hMdhd, if_neg hMdhd]
    by_cases hHdlr : box.kind = .hdlr
    · rw [if_pos hHdlr, if_pos hHdlr, placed_parseHdlrIsVideo h (hHeader.trans hHdlr),
        List.findSome?_singleton]
      apply bind_eq_settle
      intro isVideo hIsVideo
      show _ = Flow.next { facts with isVideo := (handlerOf box.payload).toOption.getD false }
      rw [hIsVideo]
      rfl
    · rw [if_neg hHdlr, if_neg hHdlr]
      by_cases hMinf : box.kind = .minf
      · obtain ⟨hPayload, hInner⟩ := hWell hMinf
        have hLoop : parseMinfSampleCount bytes header.dataStart header.endPos =
            tableTotal (minfTable box.children) := by
          unfold parseMinfSampleCount
          rw [placed_boxLoop h hPayload hInner.delimited]
          exact visitAll_minf (h.held hPayload hInner.delimited) hInner.2
        rw [if_pos hMinf, if_pos hMinf, hLoop, List.findSome?_singleton]
        show _ = settle ((minfTable box.children).bind fun payload =>
          complaint (sampleTotalOf payload)) _
        rw [← complaint_tableTotal]
        apply bind_eq_settle
        intro count hCount
        show _ = Flow.next { facts with sampleCount := (minfTable box.children).bind fun payload =>
          (sampleTotalOf payload).toOption }
        rw [tableTotal_ok hCount]
      · rw [if_neg hMinf, if_neg hMinf]
        rfl

theorem visitAll_mdia (h : Held bytes pos boxes after)
    (hWell : ∀ box ∈ boxes, box.kind = .minf →
      box.payload = serialise box.children ∧ WellFormed [.stbl] box.children)
    (facts : TrackFacts) :
    visitAll (visitMdia bytes) (headersAt pos boxes) facts =
      settle ((boxes.flatMap mdiaPart).findSome? TrackPart.complaint)
        ((boxes.flatMap mdiaPart).foldl addPart facts) := by
  induction boxes generalizing pos facts with
  | nil => rfl
  | cons box rest ih =>
      rw [headersAt, List.flatMap_cons, List.findSome?_append, List.foldl_append]
      apply visitAll_settle (visitMdia_box h.head rfl (hWell box List.mem_cons_self) facts)
      exact ih h.tail (fun other hOther => hWell other (List.mem_cons_of_mem _ hOther)) _

/-- One round of the loop of `parse_trak`. -/
theorem visitTrak_box (h : Placed bytes header box.payload after) (hHeader : header.kind = box.kind)
    (hWell : box.kind = .mdia →
      box.payload = serialise box.children ∧ WellFormed [.minf, .stbl] box.children)
    (facts : TrackFacts) :
    visitTrak bytes facts header =
      settle ((if box.kind = .tkhd ∧ box.payload = [] then [Reading.bare after.head?]
        else (trakPart box).map .track).findSome? Reading.codeComplaint)
        (.next ((trakPart box).foldl addPart facts)) := by
  unfold visitTrak trakPart
  rw [hHeader]
  by_cases hTkhd : box.kind = .tkhd
  · rw [if_pos hTkhd, if_pos hTkhd]
    by_cases hEmpty : box.payload = []
    · rw [hEmpty] at h
      rw [if_pos ⟨hTkhd, hEmpty⟩, placed_parseTkhd_empty h (hHeader.trans hTkhd)]
      rfl
    · have hPlain : ¬ (box.kind = .tkhd ∧ box.payload = []) := fun hBoth => hEmpty hBoth.2
      rw [if_neg hPlain, placed_parseTkhd h (hHeader.trans hTkhd) hEmpty]
      show _ = settle ([Reading.track (.tkhd box.payload)].findSome? Reading.codeComplaint) _
      rw [List.findSome?_singleton]
      apply bind_eq_settle
      intro fields hFields
      have hSome : (trackHeaderOf box.payload).toOption = some fields := by
        rw [hFields]
        rfl
      show _ = Flow.next (addPart facts (.tkhd box.payload))
      simp only [addPart, hSome]
      rfl
  · have hPlain : ¬ (box.kind = .tkhd ∧ box.payload = []) := fun hBoth => hTkhd hBoth.1
    rw [if_neg hTkhd, if_neg hTkhd, if_neg hPlain]
    by_cases hMdia : box.kind = .mdia
    · obtain ⟨hPayload, hInner⟩ := hWell hMdia
      have hLoop : parseMdia bytes header.dataStart header.endPos facts =
          settle ((box.children.flatMap mdiaPart).findSome? TrackPart.complaint)
            ((box.children.flatMap mdiaPart).foldl addPart facts) := by
        unfold parseMdia
        rw [placed_boxLoop h hPayload hInner.delimited]
        exact visitAll_mdia (h.held hPayload hInner.delimited) hInner.2 facts
      rw [if_pos hMdia, if_pos hMdia, hLoop, List.findSome?_map]
      show settle _ _ >>= _ = settle ((box.children.flatMap mdiaPart).findSome? TrackPart.complaint) _
      cases (box.children.flatMap mdiaPart).findSome? TrackPart.complaint with
      | none => rfl
      | some e => rfl
    · rw [if_neg hMdia, if_neg hMdia]
      rfl

theorem visitAll_trak (h : Held bytes pos boxes after)
    (hWell : ∀ box ∈ boxes, box.kind = .mdia →
      box.payload = serialise box.children ∧ WellFormed [.minf, .stbl] box.children)
    (facts : TrackFacts) :
    visitAll (visitTrak bytes) (headersAt pos boxes) facts =
      settle ((trakReadings after boxes).findSome? Reading.codeComplaint)
        ((boxes.flatMap trakPart).foldl addPart facts) := by
  induction boxes generalizing pos facts with
  | nil => rfl
  | cons box rest ih =>
      rw [headersAt, trakReadings, List.flatMap_cons, List.findSome?_append, List.foldl_append]
      apply visitAll_settle (visitTrak_box h.head rfl (hWell box List.mem_cons_self) facts)
      exact ih h.tail (fun other hOther => hWell other (List.mem_cons_of_mem _ hOther)) _

/-- One round of the loop of `parse_moov`. -/
theorem visitMoov_box (h : Placed bytes header box.payload after) (hHeader : header.kind = box.kind)
    (hWell : box.kind = .trak →
      box.payload = serialise box.children ∧ WellFormed [.mdia, .minf, .stbl] box.children)
    (facts : MovieFacts) :
    visitMoov bytes facts header =
      settle ((if box.kind = .mvhd then [Reading.mvhd box.payload]
        else if box.kind = .trak then trakReadings after box.children
        else []).findSome? Reading.codeComplaint)
        (.next ((moovPart box).foldl addMoviePart facts)) := by
  unfold visitMoov moovPart
  rw [hHeader]
  by_cases hMvhd : box.kind = .mvhd
  · rw [if_pos hMvhd, if_pos hMvhd, if_pos hMvhd, placed_parseMvhd h, hHeader, hMvhd,
      List.findSome?_singleton]
    show _ = settle (complaint (timesOf box.payload .mvhd)) _
    rw [← complaint_map _ some]
    apply bind_eq_settle
    intro times hTimes
    obtain ⟨pair, hPair, hSome⟩ := Core.map_eq_ok.1 hTimes
    show _ = Flow.next { facts with duration := (timesOf box.payload .mvhd).toOption }
    rw [hPair, ← hSome]
    rfl
  · rw [if_neg hMvhd, if_neg hMvhd, if_neg hMvhd]
    by_cases hTrak : box.kind = .trak
    · obtain ⟨hPayload, hInner⟩ := hWell hTrak
      have hLoop : parseTrak bytes header.dataStart header.endPos =
          settle ((trakReadings after box.children).findSome? Reading.codeComplaint)
            ((box.children.flatMap trakPart).foldl addPart {}) := by
        unfold parseTrak
        rw [placed_boxLoop h hPayload hInner.delimited]
        exact visitAll_trak (h.held hPayload hInner.delimited) hInner.2 {}
      rw [if_pos hTrak, if_pos hTrak, if_pos hTrak, hLoop]
      cases (trakReadings after box.children).findSome? Reading.codeComplaint with
      | some e => rfl
      | none =>
          show (if _ then _ else _) = Except.ok (Flow.next (addMoviePart facts (.trak _)))
          unfold addMoviePart
          simp only
          split_ifs
          · rfl
          · rfl
    · rw [if_neg hTrak, if_neg hTrak, if_neg hTrak]
      rfl

theorem visitAll_moov (h : Held bytes pos boxes after)
    (hWell : ∀ box ∈ boxes, box.kind = .trak →
      box.payload = serialise box.children ∧ WellFormed [.mdia, .minf, .stbl] box.children)
    (facts : MovieFacts) :
    visitAll (visitMoov bytes) (headersAt pos boxes) facts =
      settle ((moovReadings after boxes).findSome? Reading.codeComplaint)
        ((boxes.flatMap moovPart).foldl addMoviePart facts) := by
  induction boxes generalizing pos facts with
  | nil => rfl
  | cons box rest ih =>
      rw [headersAt, moovReadings, List.flatMap_cons, List.findSome?_append, List.foldl_append]
      apply visitAll_settle (visitMoov_box h.head rfl (hWell box List.mem_cons_self) facts)
      exact ih h.tail (fun other hOther => hWell other (List.mem_cons_of_mem _ hOther)) _

theorem fileReadings_none {boxes : List Box} (h : movieOf boxes = none) :
    fileReadings boxes = [] := by
  induction boxes with
  | nil => rfl
  | cons box rest ih =>
      unfold movieOf at h
      unfold fileReadings
      by_cases hMoov : box.kind = .moov
      · rw [firstOf_cons_of_eq hMoov] at h
        cases h
      · rw [firstOf_cons_of_ne hMoov] at h
        rw [if_neg hMoov]
        exact ih h

/-- The loop of `inspect_video` finds the first movie. -/
theorem visitAll_file (h : Held bytes pos boxes [])
    (hWell : ∀ box ∈ boxes, box.kind = .moov →
      box.payload = serialise box.children ∧ WellFormed [.trak, .mdia, .minf, .stbl] box.children)
    (found : Found) (hNone : found.movie = none) :
    ∃ found' : Found, visitAll (visitFile bytes) (headersAt pos boxes) found =
        settle ((fileReadings boxes).findSome? Reading.codeComplaint) found' ∧
      (found'.movie = (movieOf boxes).map fun parts => parts.foldl addMoviePart {}) ∧
      (found'.movie.isSome → found'.sawIsoBox = true) := by
  induction boxes generalizing pos found with
  | nil =>
      refine ⟨found, rfl, hNone, ?_⟩
      intro hSome
      rw [hNone] at hSome
      cases hSome
  | cons box rest ih =>
      rw [headersAt, visitAll]
      unfold visitFile fileReadings movieOf
      by_cases hMoov : (headerAt pos box).kind = .moov
      · obtain ⟨hPayload, hInner⟩ := hWell box List.mem_cons_self hMoov
        have hLoop := visitAll_moov (h.head.held hPayload hInner.delimited) hInner.2 {}
        rw [List.append_nil] at hLoop
        have hBox : box.kind = .moov := hMoov
        refine ⟨{ sawIsoBox := true,
                  movie := some ((box.children.flatMap moovPart).foldl addMoviePart {}) }, ?_, ?_, ?_⟩
        · simp only
          unfold parseMoov
          rw [if_pos hMoov, if_pos hBox, placed_boxLoop h.head hPayload hInner.delimited, hLoop]
          cases (moovReadings (serialise rest) box.children).findSome? Reading.codeComplaint with
          | some e => rfl
          | none =>
              rw [if_pos (Or.inr (Or.inl hMoov))]
              rfl
        · rw [firstOf_cons_of_eq hMoov]
          rfl
        · intro _
          rfl
      · have hBox : ¬ box.kind = .moov := hMoov
        simp only
        rw [if_neg hMoov, if_neg hBox, firstOf_cons_of_ne hMoov]
        apply ih h.tail fun other hOther => hWell other (List.mem_cons_of_mem _ hOther)
        split_ifs
        · exact hNone
        · exact hNone

end Loops

/-! ## Facts -/

theorem lastOf_concat {α β : Type} (select : α → Option β) (parts : List α) (part : α) :
    lastOf select (parts ++ [part]) = (select part).or (lastOf select parts) := by
  unfold lastOf
  rw [List.filterMap_append, List.getLast?_append, List.filterMap_cons, List.filterMap_nil]
  cases select part with
  | none => rfl
  | some b => rfl

/-- What the loops keep is what the last parts say. -/
theorem foldl_addPart (parts : List TrackPart) : parts.foldl addPart {} = trackFacts parts := by
  induction parts using List.reverseRecOn with
  | nil => rfl
  | append_singleton parts part ih =>
      rw [List.foldl_append, ih]
      unfold trackFacts
      simp only [lastOf_concat]
      cases part with
      | tkhd payload => rfl
      | mdhd payload => rfl
      | hdlr payload => rfl
      | minf table => rfl

theorem addMoviePart_trak (facts : MovieFacts) (track : List TrackPart) :
    addMoviePart facts (.trak track) =
      if (trackFacts track).isVideo ∧ facts.videoTrack.isNone then
        { facts with videoTrack := some (trackFacts track) }
      else facts := by
  rw [← foldl_addPart]
  rfl

theorem foldl_addMoviePart (parts : List MoviePart) :
    parts.foldl addMoviePart {} = movieFacts parts := by
  induction parts using List.reverseRecOn with
  | nil => rfl
  | append_singleton parts part ih =>
      rw [List.foldl_append, ih]
      unfold movieFacts
      simp only [lastOf_concat, List.filterMap_append, List.map_append, List.find?_append]
      cases part with
      | mvhd payload => simp [addMoviePart, MoviePart.mvhd?, MoviePart.trak?]
      | trak track =>
          have hTrack : (List.filterMap MoviePart.trak? [MoviePart.trak track]).map trackFacts =
              [trackFacts track] := rfl
          rw [List.foldl_cons, List.foldl_nil, addMoviePart_trak, hTrack]
          simp only [MoviePart.mvhd?, Option.none_or]
          cases hFirst : ((parts.filterMap MoviePart.trak?).map trackFacts).find?
              TrackFacts.isVideo with
          | some video => simp
          | none =>
              by_cases hVideo : (trackFacts track).isVideo = true
              · simp [hVideo]
              · simp [hVideo]

/-- What `inspect_video` says of a file of boxes. -/
theorem inspectVideo_boxes (file : IsoFile) :
    inspectVideo file.bytes =
      outcome ((fileReadings file.boxes).findSome? Reading.codeComplaint) file.boxes := by
  have hHeld : Held file.bytes 0 file.boxes [] :=
    ⟨(List.append_nil _).symm, file.wellFormed.delimited, file.fits⟩
  have hStop : file.bytes.length = 0 + (serialise file.boxes).length := (Nat.zero_add _).symm
  unfold inspectVideo outcome
  cases hBoxes : file.boxes with
  | nil =>
      have hEmpty : file.bytes.length < 8 := by
        rw [hStop, hBoxes]
        exact Nat.zero_lt_succ 7
      simp only [if_pos hEmpty, List.isEmpty_nil, if_true]
  | cons box rest =>
      have hLarge : ¬ file.bytes.length < 8 := by
        have hHeader := headerSize_ge box.form
        have hSize : box.size = box.form.headerSize + box.payload.length := rfl
        rw [hStop, hBoxes, serialise_cons_length]
        omega
      obtain ⟨found, hFound, hMovie, hSaw⟩ := visitAll_file hHeld file.wellFormed.2 {} rfl
      rw [← hBoxes]
      simp only [if_neg hLarge]
      rw [hHeld.boxLoop hStop, hFound]
      have hSome : file.boxes.isEmpty = false := by
        rw [hBoxes]
        rfl
      rw [hSome, if_neg Bool.false_ne_true]
      cases hParts : movieOf file.boxes with
      | none =>
          rw [fileReadings_none hParts]
          rw [hParts] at hMovie
          show (if !found.sawIsoBox then _ else orElseError found.movie noMovie >>= metadataOf) = _
          rw [hMovie]
          split_ifs
          · rfl
          · rfl
      | some parts =>
          rw [hParts] at hMovie
          have hFacts : found.movie = some (movieFacts parts) := by
            rw [hMovie, Option.map_some, foldl_addMoviePart]
          have hSawBox : found.sawIsoBox = true := hSaw (by rw [hFacts]; rfl)
          cases (fileReadings file.boxes).findSome? Reading.codeComplaint with
          | some e => rfl
          | none =>
              show (if !found.sawIsoBox then _ else orElseError found.movie noMovie >>= metadataOf) = _
              rw [hSawBox, hFacts]
              rfl

end FrameScope.Ports.MovieWalk
