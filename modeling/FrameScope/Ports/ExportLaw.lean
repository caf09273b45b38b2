import FrameScope.Ports.BatchOrder
import FrameScope.Ports.CompleteIndex
import FrameScope.Ports.Export

/-!
# The manifest of an export

An export that gets past planning leaves one header, one record for each of
the first planned frames up to where it stopped, and one terminal record, as
long as the manifest itself can be written.  Each record follows the commit of
its frame.  Nothing is assumed about the decoder, the sink or the cancellation.
-/

namespace FrameScope.Ports.ExportLaw

open FrameScope.Verified.Fallible
open FrameScope.Ports.Core
open FrameScope.Ports.Decoder
open FrameScope.Ports.FrameIndexModel
open FrameScope.Ports.SourceBinding
open FrameScope.Ports.FrameIndexStore
open FrameScope.Ports.IndexingCall
open FrameScope.Ports.CompleteIndex
open FrameScope.Ports.FrameCache
open FrameScope.Ports.Extraction
open FrameScope.Ports.BatchExtraction
open FrameScope.Ports.BatchAlignment
open FrameScope.Ports.BatchOrder
open FrameScope.Ports.ExtractionImage
open FrameScope.Ports.Manifest
open FrameScope.Ports.Export

variable {E τ : Type} {format : ExtractionImageFormat} {sink : FrameOutputSink E τ}
  {device : Device} {base : List Piece} {header : ManifestHeader} {frames : List ManifestFrame}

/-! ## Commits and records -/

/-- `commit` put the image of `frame` in place when the manifest held the header
and the records of `before` only. -/
structure CommitOf (base : List Piece) (header : ManifestHeader) (before : List ManifestFrame)
    (frame : ManifestFrame) (commit : Commit) : Prop where
  progress : commit.output.progress = frame.progress
  bytes : commit.report.byteLen = frame.encodedBytes
  manifest : commit.manifest =
    base ++ wholeLines (.header header :: before.map fun f => .frame f.line)

/-- The frames recorded so far, each after its commit. -/
structure Exported (base : List Piece) (header : ManifestHeader) (frames : List ManifestFrame)
    (s : ExportState τ) : Prop where
  recorded : Recorded base header frames s.manifest
  committed : ∀ j f, frames[j]? = some f →
    ∃ commit, s.commits[j]? = some commit ∧ CommitOf base header (frames.take j) f commit

/-- More commits leave the earlier ones in their places. -/
theorem Exported.more_commits {s s' : ExportState τ} (h : Exported base header frames s)
    (hManifest : s'.manifest = s.manifest) {more : List Commit}
    (hCommits : s'.commits = s.commits ++ more) : Exported base header frames s' := by
  refine ⟨hManifest ▸ h.recorded, ?_⟩
  intro j f hf
  obtain ⟨commit, hCommit, hOf⟩ := h.committed j f hf
  refine ⟨commit, ?_, hOf⟩
  rw [hCommits, List.getElem?_append_left (List.getElem?_eq_some_iff.1 hCommit).1]
  exact hCommit

/-- A record for the commit that was made last. -/
theorem Exported.record {s s' : ExportState τ} (h : Exported base header frames s)
    (hCommits : s.commits.length = frames.length) {frame : ManifestFrame} {commit : Commit}
    (hNew : s'.commits = s.commits ++ [commit]) (hOf : CommitOf base header frames frame commit)
    (hRecorded : Recorded base header (frames ++ [frame]) s'.manifest) :
    Exported base header (frames ++ [frame]) s' := by
  refine ⟨hRecorded, ?_⟩
  intro j f hf
  rcases Nat.lt_or_ge j frames.length with hLt | hGe
  · rw [List.getElem?_append_left hLt] at hf
    obtain ⟨old, hOld, hOldOf⟩ := h.committed j f hf
    refine ⟨old, ?_, ?_⟩
    · rw [hNew, List.getElem?_append_left (by omega)]
      exact hOld
    · rwa [List.take_append_of_le_length (Nat.le_of_lt hLt)]
  · obtain rfl : j = frames.length := by
      have := (List.getElem?_eq_some_iff.1 hf).1
      rw [List.length_append, List.length_singleton] at this
      omega
    rw [List.getElem?_concat_length, Option.some.injEq] at hf
    subst hf
    refine ⟨commit, ?_, ?_⟩
    · rw [hNew, ← hCommits, List.getElem?_concat_length]
    · rwa [List.take_left]

/-- A sink call: an image is put in place or not, and the manifest stays. -/
theorem commitOutput_wp {output : FrameOutput} {s : ExportState τ}
    {Q : EncodedImageReport → ExportState τ → Prop} {Fail : E → ExportState τ → Prop}
    (hOk : ∀ report t, Q report { s with
      sink := t
      commits := s.commits ++ [⟨output, report, s.manifest.writer.accepted⟩] })
    (hError : ∀ e t, sink.writeFrame output s.sink = .error e t → Fail e { s with sink := t }) :
    wp (commitOutput sink output) Q Fail s := by
  unfold commitOutput
  rw [wp_bind, wp_zoom]
  unfold wp
  cases hCall : sink.writeFrame output s.sink with
  | ok report t => exact hOk report t
  | error e t => exact hError e t hCall

/-- What a visit of either export may do. -/
def Visited (base : List Piece) (header : ManifestHeader) (frames : List ManifestFrame)
    (s : ExportState τ) (output : FrameOutput) : VisitorError E → ExportState τ → Prop
  | .output _, s' => Exported base header frames s' ∧ s'.commits = s.commits
  | .sinkContract _, s' => Exported base header frames s' ∧
      ∃ commit, s'.commits = s.commits ++ [commit] ∧ commit.output = output
  | .manifest _, s' => ∃ commit, s'.commits = s.commits ++ [commit] ∧ commit.output = output

/-- **One frame.**  A visit that returns has committed the frame and then
recorded it. -/
theorem commitAndRecord_exported {s : ExportState τ} (h : Exported base header frames s)
    (hCommits : s.commits.length = frames.length) {progress : ExtractionProgress}
    {entry : FrameIndexEntry} {pixels : OwnedRgbaFrame} {group : Option ManifestGroup} :
    let output : FrameOutput :=
      ⟨progress, entry, frameFileName progress.frameId format, format, pixels⟩
    wp (commitAndRecord format sink device progress entry pixels group)
      (fun _ s' => ∃ bytes commit,
        Exported base header
          (frames ++ [⟨progress, entry, frameFileName progress.frameId format, bytes, group⟩]) s' ∧
        s'.commits = s.commits ++ [commit] ∧ commit.output = output)
      (Visited base header frames s output) s := by
  intro output
  unfold commitAndRecord
  rw [wp_bind, wp_adaptExcept]
  refine commitOutput_wp ?_ ?_
  · intro report t
    -- The image is in place; the manifest is still as it was.
    have hMore : Exported base header frames
        { s with
          sink := t
          commits := s.commits ++ [⟨output, report, s.manifest.writer.accepted⟩] } :=
      h.more_commits rfl rfl
    rw [wp_bind, wp_ofExcept]
    refine ⟨fun _ _ => ?_, fun _ _ => ⟨hMore, _, rfl, rfl⟩⟩
    rw [wp_bind, wp_ofExcept]
    refine ⟨fun _ _ => ?_, fun _ _ => ⟨hMore, _, rfl, rfl⟩⟩
    rw [wp_adaptExcept]
    unfold onManifest
    rw [wp_zoom]
    refine wp_mono h.recorded.writeFrame ?_ (fun _ _ _ => ⟨_, rfl, rfl⟩)
    intro _ w hRecorded
    exact ⟨report.byteLen, _, h.record hCommits rfl ⟨rfl, rfl, h.recorded.written⟩ hRecorded,
      rfl, rfl⟩
  · intro e t _
    exact ⟨h.more_commits rfl (List.append_nil _).symm, rfl⟩

/-- A call on the manifest either does its work or ends the export. -/
theorem closing_wp {ε : Type} {wrap : ManifestError → ε} {x : Writing Unit} {s : ExportState τ}
    {P : ExtractionManifestWriter → Prop} {Q : Unit → ExportState τ → Prop}
    {Fail : ε → ExportState τ → Prop}
    (h : wp x (fun _ w => P w) (fun _ _ => True) s.manifest)
    (hOk : ∀ w, P w → Q () { s with manifest := w })
    (hError : ∀ e w, Fail (wrap e) { s with manifest := w }) : wp (closing wrap x) Q Fail s := by
  unfold closing
  rw [wp_adaptExcept]
  unfold onManifest
  rw [wp_zoom]
  exact wp_mono h (fun _ w hP => hOk w hP) (fun e w _ => hError e w)

/-! ## The batch -/

/-- The first planned frames have been exported. -/
structure ExportedPlan (plan : ExtractionPlan) (base : List Piece) (header : ManifestHeader)
    (frames : List ManifestFrame) (s : ExportState τ) : Prop where
  exported : Exported base header frames s
  ids : frames.map (·.progress.frameId) = plan.frameIds.take frames.length

/-- Where a batch may fail, unless the manifest fails. -/
def FailedAt (plan : ExtractionPlan) (base : List Piece) (header : ManifestHeader)
    (error : BatchExtractionError (VisitorError E)) (s : ExportState τ) : Prop :=
  (∀ e, error ≠ .visitor (.manifest e)) → ∃ frames, ExportedPlan plan base header frames s

/-- The visitor exports the plan frame by frame. -/
theorem exportVisitor_rule (plan : ExtractionPlan) :
    VisitRule plan (exportVisitor format sink device)
      (fun n s => ∃ frames, frames.length = n ∧ s.visitor.commits.length = n ∧
        ExportedPlan plan base header frames s.visitor)
      (fun e s => FailedAt plan base header e s.visitor) where
  quiet := by
    intro n s s' hR hQuiet
    rwa [hQuiet.2]
  visit := by
    rintro n id s entry pixels hId - ⟨frames, hLength, hCommits, hExported⟩
    refine runVisitor_wp (wp_mono (commitAndRecord_exported hExported.exported
      (hCommits.trans hLength.symm)) ?_ ?_)
    · rintro _ v ⟨bytes, commit, hNext, hNew, -⟩
      refine ⟨_, ?_, ?_, hNext, ?_⟩
      · rw [List.length_append, hLength]
        rfl
      · change v.commits.length = n + 1
        rw [hNew, List.length_append, hCommits]
        rfl
      · rw [List.map_append, hExported.ids, List.length_append, List.length_singleton, hLength,
          List.take_add_one, hId]
        rfl
    · intro e v hVisited hNone
      cases e with
      | output error => exact ⟨frames, hVisited.1, hExported.ids⟩
      | sinkContract message => exact ⟨frames, hVisited.1, hExported.ids⟩
      | manifest error => exact absurd rfl (hNone error)
  stop := by
    rintro n s e - ⟨frames, -, -, hExported⟩ -
    exact ⟨frames, hExported⟩

/-! ## The whole export -/

/-- The manifest of an export that ended with `result`: the header, the records
of `frames` and the terminal record. -/
structure ManifestLaw (base : List Piece) (plan : ExtractionPlan) (header : ManifestHeader)
    (frames : List ManifestFrame) (terminal : ManifestTerminalLine)
    (result : Except (StreamingExtractionError E) StreamingExtractionReport)
    (s : ExportState τ) : Prop where
  written : s.manifest.writer.accepted = base ++
    wholeLines (.header header :: (frames.map fun f => .frame f.line) ++ [.terminal terminal])
  ids : frames.map (·.progress.frameId) = plan.frameIds.take frames.length
  ordinals : frames.map (·.progress.ordinal) = List.range' 1 frames.length
  committed : ∀ j f, frames[j]? = some f →
    ∃ commit, s.commits[j]? = some commit ∧ CommitOf base header (frames.take j) f commit
  complete_iff : terminal.status = .complete ↔
    frames.length = plan.selectedCount ∧ ∃ report, result = .ok report
  bytes : terminal.encodedBytes = (frames.map (·.encodedBytes)).sum

section Request

variable {plan : ExtractionPlan}

/-- The law of an export, unless the manifest itself fails. -/
def Lawful (base : List Piece) (plan : ExtractionPlan) (header : ManifestHeader)
    (result : Except (StreamingExtractionError E) StreamingExtractionReport)
    (s : ExportState τ) : Prop :=
  (∀ e, result ≠ .error (.manifest e)) →
    ∃ frames terminal, ManifestLaw base plan header frames terminal result s

theorem ExportedPlan.lawful {s : ExportState τ} (h : ExportedPlan plan base header frames s)
    {w : ExtractionManifestWriter} {terminal : ManifestTerminalLine}
    (hEnded : Ended base header frames terminal w)
    (hBytes : terminal.encodedBytes = (frames.map (·.encodedBytes)).sum)
    {result : Except (StreamingExtractionError E) StreamingExtractionReport}
    (hComplete : terminal.status = .complete ↔
      frames.length = plan.selectedCount ∧ ∃ report, result = .ok report) :
    Lawful base plan header result { s with manifest := w } := by
  intro _
  exact ⟨frames, terminal, hEnded, h.ids, h.exported.recorded.numbered, h.exported.committed,
    hComplete, hBytes⟩

/-- Every end of `x` is lawful. -/
def EndsLawfully (base : List Piece) (plan : ExtractionPlan) (header : ManifestHeader)
    (x : EStateM (StreamingExtractionError E) (ExportState τ) StreamingExtractionReport)
    (s : ExportState τ) : Prop :=
  wp x (fun report => Lawful base plan header (.ok report : Except (StreamingExtractionError E) _))
    (fun e => Lawful base plan header (.error e)) s

/-- A failed batch ends the manifest with a record that is not complete. -/
theorem failRequest_lawful {error : BatchExtractionError (VisitorError E)} {s : ExportState τ}
    (h : FailedAt plan base header error s) :
    EndsLawfully base plan header (failRequest sink device error) s := by
  have hManifest : ∀ (e : ManifestError) (s' : ExportState τ),
      Lawful base plan header (.error (.manifest e) : Except (StreamingExtractionError E) _) s' :=
    fun e _ hNone => absurd rfl (hNone e)
  -- The arms that write a `failed` record differ in its texts and in the error.
  have hFailed : ∀ (code message : String) (e : StreamingExtractionError E),
      (∃ frames, ExportedPlan plan base header frames s) →
      EndsLawfully base plan header
        (do closing .manifest (finishFailed device code (some message)); throw e) s := by
    rintro code message e ⟨frames, hExported⟩
    unfold EndsLawfully
    rw [wp_bind]
    refine closing_wp hExported.exported.recorded.finishFailed ?_ (fun e _ => hManifest e _)
    intro w hEnded
    rw [wp_throw]
    refine hExported.lawful hEnded rfl ⟨nofun, ?_⟩
    rintro ⟨-, report, hOk⟩
    cases hOk
  unfold failRequest
  split
  · obtain ⟨frames, hExported⟩ := h nofun
    unfold EndsLawfully
    rw [wp_bind]
    refine closing_wp hExported.exported.recorded.finish ?_ (fun e _ => hManifest e _)
    intro w hEnded
    rw [wp_throw]
    refine hExported.lawful hEnded rfl ⟨nofun, ?_⟩
    rintro ⟨-, report, hOk⟩
    cases hOk
  · rename_i error _
    exact hFailed "decode_error" error.toText (.batch error) (h nofun)
  · rename_i error
    exact hFailed "output_error" (sink.errorText error) (.output error) (h nofun)
  · rename_i message
    exact hFailed "output_contract_error" message (.sinkContract message) (h nofun)
  · unfold EndsLawfully
    rw [wp_throw]
    exact hManifest _ s

/-- A batch that returned ends the manifest with a complete record. -/
theorem completeRequest_lawful {batch : BatchExtractionReport} {s : ExportState τ}
    (h : ExportedPlan plan base header frames s) (hAll : frames.length = plan.selectedCount) :
    EndsLawfully (E := E) base plan header (completeRequest device plan batch) s := by
  unfold EndsLawfully completeRequest
  rw [wp_bind, wp_get, wp_bind]
  refine closing_wp h.exported.recorded.finishComplete ?_
    (fun e _ hNone => absurd rfl (hNone e))
  intro w hEnded
  rw [wp_pure]
  exact h.lawful hEnded rfl ⟨fun _ => ⟨hAll, _, rfl⟩, fun _ => rfl⟩

variable {cancelled : Nat → Bool} {index : FrameIndex} {opens : Opener}
  {request : ExtractionRequest}

/-- The law with the header of the request. -/
def KeepsLaw (base : List Piece) (plan : ExtractionPlan) (format : ExtractionImageFormat)
    (request : ExtractionRequest)
    (result : Except (StreamingExtractionError E) StreamingExtractionReport)
    (s : ExportState τ) : Prop :=
  (∀ e, result ≠ .error (.manifest e)) → ∃ header frames terminal,
    ManifestHeader.new (manifestSelection request) format plan.selectedCount = .ok header ∧
    ManifestLaw base plan header frames terminal result s

theorem Lawful.keepsLaw {result : Except (StreamingExtractionError E) StreamingExtractionReport}
    {s : ExportState τ} (h : Lawful base plan header result s)
    (hHeader : ManifestHeader.new (manifestSelection request) format plan.selectedCount =
      .ok header) : KeepsLaw base plan format request result s := by
  intro hNone
  obtain ⟨frames, terminal, hLaw⟩ := h hNone
  exact ⟨header, frames, terminal, hHeader, hLaw⟩

theorem exportRequest_keepsLaw (hPlan : planExtraction index request = .ok plan)
    {s : ExportState τ} (hStart : s.commits = []) :
    wp (exportRequest format sink device cancelled index opens request)
      (fun report => KeepsLaw s.manifest.writer.accepted plan format request
        (.ok report : Except (StreamingExtractionError E) _))
      (fun e => KeepsLaw s.manifest.writer.accepted plan format request (.error e)) s := by
  have hManifest : ∀ (e : ManifestError) (s' : ExportState τ),
      KeepsLaw s.manifest.writer.accepted plan format request
        (.error (.manifest e) : Except (StreamingExtractionError E) _) s' :=
    fun e _ hNone => absurd rfl (hNone e)
  unfold exportRequest
  rw [wp_bind, hPlan, wp_ofExcept_ok]
  rw [wp_bind, wp_ofExcept]
  refine ⟨?_, fun e _ => hManifest e s⟩
  intro header hHeader
  rw [wp_bind]
  refine closing_wp newManifest_recorded ?_ (fun e _ => hManifest e _)
  intro w hRecorded
  rw [wp_bind, wp_attempt]
  unfold runBatch
  rw [wp_zoom]
  have hNothing : ExportedPlan plan s.manifest.writer.accepted header []
      { s with manifest := w } := by
    refine ⟨⟨hRecorded, ?_⟩, ?_⟩
    · intro j f hf
      rw [List.getElem?_nil] at hf
      cases hf
    · rw [List.length_nil, List.take_zero, List.map_nil]
  refine wp_mono (extractRgbaPlan_visits (exportVisitor_rule plan)
    ⟨[], rfl, congrArg List.length hStart, hNothing⟩) ?_ ?_
  · rintro batch s' ⟨-, frames, hAll, -, hExported⟩
    exact wp_mono (completeRequest_lawful hExported hAll) (fun _ _ h => h.keepsLaw hHeader)
      (fun _ _ h => h.keepsLaw hHeader)
  · intro error s' hFailed
    exact wp_mono (failRequest_lawful hFailed) (fun _ _ h => h.keepsLaw hHeader)
      (fun _ _ h => h.keepsLaw hHeader)

/-- **The manifest of an export.**  Past planning, and unless the manifest
itself fails, an export leaves one header, the records of the first planned
frames, each after its commit, and one terminal record. -/
theorem export_manifest_law (hPlan : planExtraction index request = .ok plan) (output : Output)
    (t : τ)
    (hManifest : ∀ e, outcome (exportRequest format sink device cancelled index opens request
      (ExportState.start output t)) ≠ .error (.manifest e)) :
    ∃ header frames terminal,
      ManifestHeader.new (manifestSelection request) format plan.selectedCount = .ok header ∧
      ManifestLaw output.accepted plan header frames terminal
        (outcome (exportRequest format sink device cancelled index opens request
          (ExportState.start output t)))
        (finalState (exportRequest format sink device cancelled index opens request
          (ExportState.start output t))) :=
  (wp_iff_ends (P := KeepsLaw output.accepted plan format request)).1
    (exportRequest_keepsLaw hPlan rfl) hManifest

end Request

/-! ## An export whose sink fails -/

section Samples

local instance : ContentHash := constantHash

/-- A sink that reports seven bytes for the first frame and refuses the rest. -/
def oneFrameSink : FrameOutputSink Unit Unit where
  writeFrame output :=
    if output.progress.ordinal = 1 then pure ⟨output.format, 7⟩ else throw ()
  errorText _ := "storage is full"

/-- An output that accepts every call. -/
def openDevice : Device := fun _ => none

/-- All frames of the sample index. -/
def sampleRequest : ExtractionRequest := ⟨.allFrames, .everyFrame⟩

theorem export_manifest_law_sample :
    let run := exportRequest .png oneFrameSink openDevice (fun _ => false) sampleIndex sampleOpener
      sampleRequest (ExportState.start ⟨[], 0⟩ ())
    outcome run = .error (.output ()) ∧
      ∃ header frames terminal,
        ManifestHeader.new (manifestSelection sampleRequest) .png 2 = .ok header ∧
        ManifestLaw [] ⟨0, 1, .one, 2⟩ header frames terminal (outcome run) (finalState run) := by
  have hRun : outcome (exportRequest .png oneFrameSink openDevice (fun _ => false) sampleIndex
      sampleOpener sampleRequest (ExportState.start ⟨[], 0⟩ ())) = .error (.output ()) := by
    decide +kernel
  have hPlan : planExtraction sampleIndex sampleRequest = .ok ⟨0, 1, .one, 2⟩ := rfl
  refine ⟨hRun, export_manifest_law hPlan ⟨[], 0⟩ () ?_⟩
  intro e
  rw [hRun]
  exact nofun

end Samples

end FrameScope.Ports.ExportLaw
