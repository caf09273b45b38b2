import FrameScope.Verified.JsonText
import FrameScope.Verified.RecordStream
import FrameScope.Ports.Manifest

/-!
# The bytes of a manifest

The text that `serde_json` writes for each line of a manifest, with the fields
in the order of the structures, absent options left out and the header
flattened.  Every line opens with the key `record_type`, which no object inside
a line does; so the lines of a manifest are a format whose records can be told
apart in any stream of bytes.
-/

namespace FrameScope.Ports.ManifestText

open FrameScope.Verified.JsonText
open FrameScope.Verified.RecordStream
open FrameScope.Ports.Manifest

/-! ## Values -/

def stringMember (key value : String) : List UInt8 := member key (stringText (utf8 value))

def numberMember (key : String) (n : Int) : List UInt8 := member key (intText n)

def boolMember (key : String) (b : Bool) : List UInt8 := member key (boolText b)

/-- `#[serde(tag = "kind", rename_all = "snake_case")]`. -/
def selectionText : ManifestSelection → List UInt8
  | .currentFrame frameId =>
      objectText (stringMember "kind" "current_frame") [numberMember "frame_id" frameId]
  | .frameRangeInclusive startFrame endFrame everyN =>
      objectText (stringMember "kind" "frame_range_inclusive")
        [numberMember "start_frame" startFrame, numberMember "end_frame" endFrame,
          numberMember "every_n" everyN]
  | .timeRangeMicroseconds startUs endUs everyN =>
      objectText (stringMember "kind" "time_range_microseconds")
        [numberMember "start_us" startUs, numberMember "end_us" endUs,
          numberMember "every_n" everyN]
  | .allFrames everyN =>
      objectText (stringMember "kind" "all_frames") [numberMember "every_n" everyN]
  | .uniqueGroupRepresentatives =>
      objectText (stringMember "kind" "unique_group_representatives") []

def imageFormatText (format : ManifestImageFormat) : List UInt8 :=
  objectText (stringMember "name" format.name)
    ([stringMember "mime_type" format.mimeType, stringMember "extension" format.extension] ++
      memberIf "jpeg_quality" (format.jpegQuality.map fun q => intText q.toNat))

def timeText (time : ManifestTime) : List UInt8 :=
  objectText (numberMember "ticks" time.ticks)
    ([numberMember "time_base_numerator" time.timeBaseNumerator,
      numberMember "time_base_denominator" time.timeBaseDenominator] ++
      memberIf "microseconds" (time.microseconds.map intText))

def groupText (group : ManifestGroup) : List UInt8 :=
  objectText (numberMember "ordinal" group.ordinal)
    [numberMember "group_count" group.groupCount,
      numberMember "representative_frame" group.representativeFrame,
      numberMember "first_frame" group.firstFrame,
      numberMember "last_frame" group.lastFrame,
      numberMember "represented_frame_count" group.representedFrameCount]

def statusName : ManifestTerminalStatus → String
  | .complete => "complete"
  | .cancelled => "cancelled"
  | .failed => "failed"

/-! ## Lines -/

/-- `record_type`. -/
def recordType : ManifestLine → String
  | .header _ => "header"
  | .frame _ => "frame"
  | .terminal _ => "terminal"

/-- The members of a line after its `record_type`. -/
def lineMembers : ManifestLine → List (List UInt8)
  | .header header =>
      [numberMember "schema_version" header.schemaVersion,
        member "selection" (selectionText header.selection),
        member "image_format" (imageFormatText header.imageFormat),
        numberMember "expected_frames" header.expectedFrames]
  | .frame line =>
      [numberMember "ordinal" line.ordinal, numberMember "total" line.total,
        numberMember "frame_id" line.frameId, stringMember "file_name" line.fileName,
        numberMember "encoded_bytes" line.encodedBytes] ++
        memberIf "presentation_timestamp" (line.presentationTimestamp.map timeText) ++
        memberIf "duration" (line.duration.map timeText) ++
        [boolMember "keyframe" line.keyframe, boolMember "corrupt" line.corrupt] ++
        memberIf "group" (line.group.map groupText)
  | .terminal line =>
      [stringMember "status" (statusName line.status),
        numberMember "emitted_frames" line.emittedFrames,
        numberMember "expected_frames" line.expectedFrames,
        numberMember "encoded_bytes" line.encodedBytes] ++
        memberIf "code" (line.code.map fun code => stringText (utf8 code)) ++
        memberIf "message" (line.message.map fun message => stringText (utf8 message))

/-- The text `serde_json::to_writer` writes for a line. -/
def lineText (line : ManifestLine) : List UInt8 :=
  objectText (stringMember "record_type" (recordType line)) (lineMembers line)

/-! ## The format -/

/-- The letter `r`, which no key but `record_type` opens an object with. -/
abbrev recordLetter : UInt8 := 114

theorem recordLetter_free : recordLetter ∉ valueStarts := by decide

theorem value_stringMember (key value : String) : Value recordLetter (stringMember key value) :=
  value_member recordLetter_free key (value_string recordLetter_free _)

theorem value_numberMember (key : String) (n : Int) : Value recordLetter (numberMember key n) :=
  value_member recordLetter_free key (value_int recordLetter_free n)

theorem value_boolMember (key : String) (b : Bool) : Value recordLetter (boolMember key b) :=
  value_member recordLetter_free key (value_bool recordLetter_free b)

theorem value_selectionText (selection : ManifestSelection) :
    Value recordLetter (selectionText selection) := by
  cases selection <;>
    refine value_objectText recordLetter_free (by decide) (value_string recordLetter_free _) ?_ <;>
    simp [value_numberMember]

/-- An optional member whose values are all texts of values. -/
theorem value_optional {α : Type} (key : String) (value : Option α) {text : α → List UInt8}
    (h : ∀ a, Value recordLetter (text a)) :
    ∀ m ∈ memberIf key (value.map text), Value recordLetter m := by
  apply value_memberIf recordLetter_free
  intro v hv
  obtain ⟨a, -, rfl⟩ := Option.map_eq_some_iff.1 hv
  exact h a

theorem value_imageFormatText (format : ManifestImageFormat) :
    Value recordLetter (imageFormatText format) := by
  apply value_objectText recordLetter_free (by decide) (value_string recordLetter_free _)
  rw [List.forall_mem_append]
  constructor
  · simp [value_stringMember]
  · exact value_optional _ _ fun _ => value_int recordLetter_free _

theorem value_timeText (time : ManifestTime) : Value recordLetter (timeText time) := by
  apply value_objectText recordLetter_free (by decide) (value_int recordLetter_free _)
  rw [List.forall_mem_append]
  constructor
  · simp [value_numberMember]
  · exact value_optional _ _ fun _ => value_int recordLetter_free _

theorem value_groupText (group : ManifestGroup) : Value recordLetter (groupText group) := by
  apply value_objectText recordLetter_free (by decide) (value_int recordLetter_free _)
  simp [value_numberMember]

theorem value_lineMembers (line : ManifestLine) :
    ∀ m ∈ lineMembers line, Value recordLetter m := by
  have hString : ∀ text : String, Value recordLetter (stringText (utf8 text)) :=
    fun text => value_string recordLetter_free _
  cases line with
  | header header =>
      have hSelection := value_member recordLetter_free "selection"
        (value_selectionText header.selection)
      have hFormat := value_member recordLetter_free "image_format"
        (value_imageFormatText header.imageFormat)
      simp [lineMembers, value_numberMember, hSelection, hFormat]
  | frame line =>
      simp only [lineMembers, List.forall_mem_append]
      refine ⟨⟨⟨⟨?_, ?_⟩, ?_⟩, ?_⟩, ?_⟩
      · simp [value_numberMember, value_stringMember]
      · exact value_optional _ _ value_timeText
      · exact value_optional _ _ value_timeText
      · simp [value_boolMember]
      · exact value_optional _ _ value_groupText
  | terminal line =>
      simp only [lineMembers, List.forall_mem_append]
      refine ⟨⟨?_, ?_⟩, ?_⟩
      · simp [value_numberMember, value_stringMember]
      · exact value_optional _ _ hString
      · exact value_optional _ _ hString

/-- The bytes up to the value of `record_type`. -/
def lineStart : List UInt8 :=
  [123, 34, 114, 101, 99, 111, 114, 100, 95, 116, 121, 112, 101, 34, 58, 34]

theorem lineText_start (line : ManifestLine) :
    ∃ rest, lineText line = lineStart ++ (escaped (utf8 (recordType line)) ++ rest) := by
  have hKey : stringText (utf8 "record_type") =
      [34, 114, 101, 99, 111, 114, 100, 95, 116, 121, 112, 101, 34] := by decide
  refine ⟨34 :: (moreMembers (lineMembers line) ++ [125]), ?_⟩
  unfold lineText objectText stringMember member
  rw [hKey]
  simp [stringText, lineStart]

/-- Every line opens with the brace, the quote and the letter. -/
theorem lineText_opens (line : ManifestLine) : [123, 34, recordLetter] <+: lineText line := by
  obtain ⟨rest, hText⟩ := lineText_start line
  rw [hText]
  exact ⟨_, rfl⟩

theorem lineText_ends (line : ManifestLine) : (lineText line).getLast? = some 125 := by
  unfold lineText objectText
  rw [← List.cons_append, List.getLast?_append_of_ne_nil _ (by simp)]
  rfl

theorem lineText_opens_once (line : ManifestLine) (p : Nat) (hp : 0 < p) :
    ¬ [123, 34, recordLetter] <+: (lineText line).drop p := by
  have hMembers := value_lineMembers line
  exact objectText_opens_once recordLetter_free (value_stringMember _ _).clear
    (fun m hm => (hMembers m hm).clear) hp

theorem lineText_closed (line line' : ManifestLine) (h : lineText line <+: lineText line') :
    lineText line = lineText line' := by
  have hMembers := value_lineMembers line
  have hMembers' := value_lineMembers line'
  exact objectText_prefix (value_stringMember _ _).level (fun m hm => (hMembers m hm).level)
    (value_stringMember _ _).level (fun m hm => (hMembers' m hm).level) h

theorem brace_once : (123 : UInt8) ∉ [34, recordLetter] := by decide

theorem closing_outside : (125 : UInt8) ∉ [123, 34, recordLetter] := by decide

theorem newline_outside : (10 : UInt8) ∉ [123, 34, recordLetter] := by decide

theorem newline_not_closing : (10 : UInt8) ≠ 125 := by decide

/-- The lines of a manifest as records of a stream. -/
def lineFormat : RecordFormat ManifestLine UInt8 where
  text := lineText
  head := 123
  tail := [34, recordLetter]
  last := 125
  separator := 10
  starts := lineText_opens
  ends := lineText_ends
  once := lineText_opens_once
  closed := lineText_closed
  head_tail := brace_once
  last_opening := closing_outside
  separator_opening := newline_outside
  separator_last := newline_not_closing

/-- The first letter of the `record_type`. -/
def kindLetter : ManifestLine → UInt8
  | .header _ => 104
  | .frame _ => 102
  | .terminal _ => 116

/-- The text of a line tells its kind. -/
theorem lineText_kind (line : ManifestLine) : (lineText line)[16]? = some (kindLetter line) := by
  obtain ⟨rest, hText⟩ := lineText_start line
  have hLetter : ∃ more, escaped (utf8 (recordType line)) = kindLetter line :: more := by
    cases line with
    | header header => exact ⟨_, rfl⟩
    | frame line => exact ⟨_, rfl⟩
    | terminal line => exact ⟨_, rfl⟩
  obtain ⟨more, hMore⟩ := hLetter
  rw [hText, hMore]
  rfl

end FrameScope.Ports.ManifestText
