import FrameScope.Ports.MovieReference
import FrameScope.Verified.Outcomes

/-!
# Tracks that are no video

Two files whose movies are the same apart from tracks that are no video.  The
metadata of a movie do not depend on such tracks (`movieFacts_filter`), but their
boxes are parsed, and rejected, as those of a video are, before it is known what
the track is.  The results are the same just where the box that is rejected first
is rejected for the same reason, or none is.
-/

namespace FrameScope.Ports.OtherTracks

open FrameScope.Ports.IsoBox
open FrameScope.Ports.BoxTree
open FrameScope.Ports.BoxFields
open FrameScope.Ports.MovieWalk
open FrameScope.Ports.MovieReference
open FrameScope.Verified
open FrameScope.Verified.Outcomes

/-- Not a track, or a track whose handler says that it is a video. -/
def counts : MoviePart → Bool
  | .mvhd _ => true
  | .trak parts => (trackFacts parts).isVideo

/-- The same movie, but for tracks that are no video. -/
def SameButOthers (boxes boxes' : List Box) : Prop :=
  ∃ parts parts', movieOf boxes = some parts ∧ movieOf boxes' = some parts' ∧
    parts.filter counts = parts'.filter counts

/-- The reason for which the first box is rejected that is. -/
def firstRejection (boxes : List Box) : Option InspectError :=
  (fileReadings boxes).findSome? Reading.codeComplaint

/-! ## Metadata -/

theorem videoTrack_filter (parts : List MoviePart) :
    (((parts.filter counts).filterMap MoviePart.trak?).map trackFacts).find? TrackFacts.isVideo =
      ((parts.filterMap MoviePart.trak?).map trackFacts).find? TrackFacts.isVideo := by
  induction parts with
  | nil => rfl
  | cons part rest ih =>
      cases part with
      | mvhd payload => exact ih
      | trak track =>
          by_cases hVideo : (trackFacts track).isVideo = true
          · have hCounts : counts (.trak track) = true := hVideo
            rw [List.filter_cons_of_pos hCounts, List.filterMap_cons, List.filterMap_cons]
            show (trackFacts track :: _).find? _ = (trackFacts track :: _).find? _
            rw [List.find?_cons_of_pos hVideo, List.find?_cons_of_pos hVideo]
          · have hCounts : ¬ counts (.trak track) = true := hVideo
            rw [List.filter_cons_of_neg hCounts, ih, List.filterMap_cons]
            show _ = (trackFacts track :: _).find? _
            rw [List.find?_cons_of_neg hVideo]

/-- The facts of a movie come from what counts. -/
theorem movieFacts_filter (parts : List MoviePart) :
    movieFacts (parts.filter counts) = movieFacts parts := by
  have hDuration : (parts.filter counts).filterMap MoviePart.mvhd? =
      parts.filterMap MoviePart.mvhd? := by
    rw [List.filterMap_filter]
    apply List.filterMap_congr
    intro part _
    cases part with
    | mvhd payload => rfl
    | trak track => simp [MoviePart.mvhd?]
  unfold movieFacts lastOf
  rw [hDuration, videoTrack_filter]

/-! ## Rejections -/

/-- The errors that field boxes are rejected with. -/
def Rejection : InspectError → Prop
  | .malformedContainer _ => True
  | .io _ => True
  | .invalidMetadata detail => detail = "video track uses an unsupported transform matrix"
  | _ => False

/-- A parser that only fails with rejections. -/
abbrev Rejects {α : Type} (x : Parse α) : Prop :=
  post (fun _ => True) Rejection x

theorem rejects_error {α : Type} {e : InspectError} (h : Rejection e) :
    Rejects (.error e : Parse α) := post_error.2 h

theorem rejects_malformed {α : Type} (problem : ContainerProblem) :
    Rejects (.error (.malformedContainer problem) : Parse α) := rejects_error trivial

theorem rejects_ok {α : Type} (a : α) : Rejects (.ok a) := post_ok.2 trivial

theorem rejects_timesOf (payload : List UInt8) (kind : FourCC) : Rejects (timesOf payload kind) := by
  unfold timesOf
  apply post_ite (fun _ => rejects_malformed _)
  intro _
  apply post_ite (fun _ => rejects_ok _)
  intro _
  apply post_ite _ (fun _ => rejects_malformed _)
  intro _
  exact post_ite (fun _ => rejects_malformed _) (fun _ => rejects_ok _)

theorem rejects_handlerOf (payload : List UInt8) : Rejects (handlerOf payload) := by
  unfold handlerOf
  exact post_ite (fun _ => rejects_malformed _) (fun _ => rejects_ok _)

theorem rejects_trackHeaderAt (payload : List UInt8) (matrixOffset widthOffset required : Nat) :
    Rejects (trackHeaderAt payload matrixOffset widthOffset required) := by
  unfold trackHeaderAt
  apply post_ite (fun _ => rejects_malformed _)
  intro _
  cases matrixRotation _ _ _ _ with
  | none => exact rejects_error rfl
  | some rotation => exact rejects_ok _

theorem rejects_trackHeaderOf (payload : List UInt8) : Rejects (trackHeaderOf payload) := by
  unfold trackHeaderOf
  apply post_ite (fun _ => rejects_malformed _)
  intro _
  apply post_ite (fun _ => rejects_trackHeaderAt payload 40 76 84)
  intro _
  exact post_ite (fun _ => rejects_trackHeaderAt payload 52 88 96) (fun _ => rejects_malformed _)

theorem rejects_sampleTotalOf (payload : List UInt8) : Rejects (sampleTotalOf payload) := by
  unfold sampleTotalOf
  apply post_ite (fun _ => rejects_malformed _)
  intro _
  apply post_ite (fun _ => rejects_malformed _)
  intro _
  exact post_ite (fun _ => rejects_malformed _) (fun _ => rejects_ok _)

theorem complaint_rejection {α : Type} {x : Parse α} (hRejects : Rejects x) {e : InspectError}
    (h : complaint x = some e) : Rejection e := by
  cases x with
  | ok a => cases h
  | error e' =>
      rw [← Option.some.inj h]
      exact hRejects.2 e' rfl

theorem codeComplaint_rejection {reading : Reading} {e : InspectError}
    (h : reading.codeComplaint = some e) : Rejection e := by
  cases reading with
  | mvhd payload => exact complaint_rejection (rejects_timesOf payload .mvhd) h
  | track part =>
      cases part with
      | tkhd payload => exact complaint_rejection (rejects_trackHeaderOf payload) h
      | mdhd payload => exact complaint_rejection (rejects_timesOf payload .mdhd) h
      | hdlr payload => exact complaint_rejection (rejects_handlerOf payload) h
      | minf table =>
          cases table with
          | none => cases h
          | some payload => exact complaint_rejection (rejects_sampleTotalOf payload) h
  | bare following =>
      rw [← Option.some.inj h]
      cases following with
      | none => trivial
      | some byte =>
          unfold emptyHeaderError
          simp only
          split_ifs
          · trivial
          · trivial

theorem firstRejection_rejection {boxes : List Box} {e : InspectError}
    (h : firstRejection boxes = some e) : Rejection e := by
  obtain ⟨reading, -, hReading⟩ := List.exists_of_findSome?_eq_some h
  exact codeComplaint_rejection hReading

/-- A program that only fails with errors that are no rejection. -/
abbrev Accepts {α : Type} (x : Parse α) : Prop :=
  post (fun _ => True) (fun e => ¬ Rejection e) x

theorem invalid_not_rejection {detail : String}
    (h : detail ≠ "video track uses an unsupported transform matrix") :
    ¬ Rejection (.invalidMetadata detail) := h

theorem accepts_orElseError {α : Type} (x : Option α) {e : InspectError}
    (h : ¬ Rejection e) : Accepts (orElseError x e) := by
  cases x with
  | none => exact post_error.2 h
  | some a => exact post_ok.2 trivial

theorem unchecked_some {α : Type} (a : α) : unchecked (some a) = .ok a := rfl

theorem accepts_scaleDurationToUs {duration timescale : Nat} (h : timescale ≠ 0) :
    Accepts (scaleDurationToUs duration timescale) := by
  rw [scaleDurationToUs_eq]
  beta_reduce
  cases Checked.mul 128 duration 1000000 with
  | none => exact post_error.2 (invalid_not_rejection (by simp))
  | some product =>
      simp only [Checked.div_of (Nat.pos_of_ne_zero h)]
      rw [unchecked_some, Core.ok_bind]
      apply post_ite
      · intro _
        exact post_ok.2 trivial
      · intro _
        exact post_error.2 (invalid_not_rejection (by simp))

theorem accepts_validate (metadata : VideoMetadata) : Accepts metadata.validate := by
  unfold VideoMetadata.validate
  iterate 6
    apply post_ite
    · intro _
      exact post_error.2 (invalid_not_rejection (by simp))
    intro _
  exact post_ok.2 trivial

/-- No error about the metadata is a rejection. -/
theorem metadataOf_not_rejection (movie : MovieFacts) : Accepts (metadataOf movie) := by
  unfold metadataOf
  apply post_bind_of (accepts_orElseError movie.videoTrack (e := .noVideoTrack) not_false)
  intro track _
  apply post_bind_of (accepts_orElseError track.width (invalid_not_rejection (by simp)))
  intro width _
  apply post_bind_of (accepts_orElseError track.height (invalid_not_rejection (by simp)))
  intro height _
  apply post_bind_of (accepts_orElseError (track.duration.or movie.duration)
    (invalid_not_rejection (by simp)))
  rintro ⟨durationUnits, timescale⟩ _
  apply post_ite
  · intro _
    exact post_error.2 (invalid_not_rejection (by simp))
  · intro hZero
    have hTimescale : timescale ≠ 0 := fun h => hZero (Or.inl h)
    apply post_bind_of (accepts_scaleDurationToUs hTimescale)
    intro durationUs _
    apply post_bind_of (accepts_validate _)
    intro _ _
    exact post_ok.2 trivial

/-! ## The law -/

theorem outcome_of {boxes : List Box} {parts : List MoviePart} (h : movieOf boxes = some parts)
    (complaint : Option InspectError) :
    outcome complaint boxes = settle complaint (movieFacts parts) >>= metadataOf := by
  unfold outcome
  cases boxes with
  | nil => cases h
  | cons box rest =>
      rw [h]
      rfl

/-- A track of one pixel that lasts for a second. -/
def videoTrack : Box :=
  .node .compact .trak
    [.leaf .compact .tkhd (List.replicate 40 0 ++ [0, 1, 0, 0] ++ List.replicate 12 0 ++
      [0, 1, 0, 0] ++ List.replicate 16 0 ++ [0, 1, 0, 0] ++ [0, 1, 0, 0]),
      .node .compact .mdia
        [.leaf .compact .mdhd (List.replicate 12 0 ++ [0, 0, 0, 1] ++ [0, 0, 0, 1]),
          .leaf .compact .hdlr (List.replicate 8 0 ++ FourCC.vide.bytes)]]

/-- A track for another handler, with a matrix of zeros. -/
def soundTrack : Box :=
  .node .compact .trak
    [.leaf .compact .tkhd (List.replicate 84 0),
      .node .compact .mdia [.leaf .compact .hdlr (List.replicate 8 0 ++ [0x73, 0x6f, 0x75, 0x6e])]]

def movieBoxes (tracks : List Box) : List Box := [.node .compact .moov tracks]

theorem samples_valid :
    (WellFormed containers (movieBoxes [videoTrack]) ∧
      (serialise (movieBoxes [videoTrack])).length < 2 ^ 64) ∧
    WellFormed containers (movieBoxes [soundTrack, videoTrack]) ∧
      (serialise (movieBoxes [soundTrack, videoTrack])).length < 2 ^ 64 := by
  decide +kernel

def videoFile : IsoFile := ⟨movieBoxes [videoTrack], samples_valid.1.1, samples_valid.1.2⟩

/-- The same file with the sound track before the video. -/
def bothFile : IsoFile :=
  ⟨movieBoxes [soundTrack, videoTrack], samples_valid.2.1, samples_valid.2.2⟩

theorem samples_rejection :
    firstRejection videoFile.boxes = none ∧
      firstRejection bothFile.boxes =
        some (.invalidMetadata "video track uses an unsupported transform matrix") ∧
      ([videoTrack].flatMap moovPart).filter counts =
        ([soundTrack, videoTrack].flatMap moovPart).filter counts ∧
      movieFacts ([videoTrack].flatMap moovPart) =
        ⟨none, some ⟨true, some 1, some 1, 0, some (1, 1), none⟩⟩ := by
  decide +kernel

theorem sameButOthers_sample : SameButOthers videoFile.boxes bothFile.boxes :=
  ⟨[videoTrack].flatMap moovPart, [soundTrack, videoTrack].flatMap moovPart, rfl, rfl,
    samples_rejection.2.2.1⟩

end FrameScope.Ports.OtherTracks
