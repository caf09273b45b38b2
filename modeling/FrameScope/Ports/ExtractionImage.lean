import FrameScope.Ports.Core

/-!
# Image formats and file names

Port of the parts of `framescope-extraction-image` that exports are named and
described by.  The encoders themselves are third-party code behind the output
sink; an export sees only the report of a committed image.
-/

namespace FrameScope.Ports.ExtractionImage

inductive ExtractionImageFormat where
  | png
  | jpeg (quality : UInt8)
  | webPLossless
  deriving DecidableEq, Repr

def ExtractionImageFormat.extension : ExtractionImageFormat → String
  | .png => "png"
  | .jpeg _ => "jpg"
  | .webPLossless => "webp"

def ExtractionImageFormat.mimeType : ExtractionImageFormat → String
  | .png => "image/png"
  | .jpeg _ => "image/jpeg"
  | .webPLossless => "image/webp"

structure EncodedImageReport where
  format : ExtractionImageFormat
  byteLen : Nat
  deriving DecidableEq, Repr

/-! ## File names -/

/-- The digits of an identity, padded with zeros to twenty places. -/
def paddedDigits (frameId : Nat) : List Char :=
  let digits := Nat.toDigits 10 frameId
  List.replicate (20 - digits.length) '0' ++ digits

/-- `frame_file_name`: `frame_{:020}.{extension}`. -/
def frameFileName (frameId : Nat) (format : ExtractionImageFormat) : String :=
  "frame_" ++ String.ofList (paddedDigits frameId) ++ "." ++ format.extension

/-- `char::is_whitespace`: the Unicode property `White_Space`. -/
def isWhitespace (c : Char) : Bool :=
  (0x9 ≤ c.val && c.val ≤ 0xD) || c.val = 0x20 || c.val = 0x85 || c.val = 0xA0 ||
    c.val = 0x1680 || (0x2000 ≤ c.val && c.val ≤ 0x200A) || c.val = 0x2028 || c.val = 0x2029 ||
    c.val = 0x202F || c.val = 0x205F || c.val = 0x3000

/-- `text.trim().is_empty()`. -/
def isBlank (text : String) : Bool := text.toList.all isWhitespace

/-- `text.contains(['/', '\\'])`. -/
def hasSeparator (text : String) : Bool := text.toList.any fun c => c = '/' || c = '\\'

theorem paddedDigits_isDigit {frameId : Nat} {c : Char} (h : c ∈ paddedDigits frameId) :
    c.isDigit = true := by
  unfold paddedDigits at h
  rw [List.mem_append] at h
  rcases h with hZero | hDigit
  · rw [List.eq_of_mem_replicate hZero]
    rfl
  · exact Nat.isDigit_of_mem_toDigits (by decide) (by decide) hDigit

/-- The name of a frame is a leaf name: it is not blank and has no separator. -/
theorem frameFileName_leaf (frameId : Nat) (format : ExtractionImageFormat) :
    isBlank (frameFileName frameId format) = false ∧
      hasSeparator (frameFileName frameId format) = false := by
  have hChars : (frameFileName frameId format).toList =
      "frame_".toList ++ paddedDigits frameId ++ ".".toList ++ format.extension.toList := by
    simp only [frameFileName, String.toList_append, String.toList_ofList]
  constructor
  · rw [isBlank, hChars]
    rfl
  · have hDigits : (paddedDigits frameId).any (fun c => c = '/' || c = '\\') = false := by
      rw [List.any_eq_false]
      intro c hc hSeparator
      have hDigit := paddedDigits_isDigit hc
      rw [Bool.or_eq_true, decide_eq_true_eq, decide_eq_true_eq] at hSeparator
      rcases hSeparator with rfl | rfl
      · cases hDigit
      · cases hDigit
    have hExtension : format.extension.toList.any (fun c => c = '/' || c = '\\') = false := by
      cases format with
      | png => decide
      | jpeg quality =>
          change "jpg".toList.any (fun c => c = '/' || c = '\\') = false
          decide
      | webPLossless => decide
    rw [hasSeparator, hChars, List.any_append, List.any_append, List.any_append, hDigits,
      hExtension]
    rfl

end FrameScope.Ports.ExtractionImage
