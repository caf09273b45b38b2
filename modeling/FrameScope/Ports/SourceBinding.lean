import FrameScope.Ports.FrameIndexModel

/-!
# Source identity and the source binding key

Port of `SourceIdentity` and of the binding key that `index_meta` stores.  The
key is text, `t<generation>:s<seek safety>:<stable key>`, and carries the
persisted seek-safety decision; this file proves that reading it back is exact.

The stable key is a BLAKE3 digest of the identity.  The hash is outside the
repository: `ContentHash` stands for it, and all that the index relies on is
that the hexadecimal digest is not empty.
-/

namespace FrameScope.Ports.SourceBinding

open FrameScope.Ports.Core
open FrameScope.Ports.FrameIndexModel

/-- Path-independent identity of a media source. -/
structure SourceIdentity where
  sizeBytes : Option Nat
  modifiedTimeMs : Option Nat
  providerDocumentId : Option String
  contentTag : Option String
  deriving DecidableEq, Repr

/-- The digest behind `SourceIdentity::stable_key`. -/
class ContentHash where
  stableKey : SourceIdentity → String
  stableKey_ne_empty : ∀ source, (stableKey source).toList ≠ []

/-- `char::is_whitespace`, which `str::trim` strips. -/
def isWhitespace (c : Char) : Bool :=
  (0x09 ≤ c.toNat && c.toNat ≤ 0x0d) || c.toNat == 0x20 || c.toNat == 0x85 ||
    c.toNat == 0xa0 || c.toNat == 0x1680 || (0x2000 ≤ c.toNat && c.toNat ≤ 0x200a) ||
    c.toNat == 0x2028 || c.toNat == 0x2029 || c.toNat == 0x202f || c.toNat == 0x205f ||
    c.toNat == 0x3000

/-- `str::trim` on characters. -/
def trim (cs : List Char) : List Char :=
  ((cs.dropWhile isWhitespace).reverse.dropWhile isWhitespace).reverse

def legacySampleTagPrefix : String := "blake3-sample-v1:"

/-- `is_complete_content_tag`: the sparse-sample tags of earlier versions are no
evidence over the complete source. -/
def isCompleteContentTag (tag : String) : Bool :=
  let tag := trim tag.toList
  !tag.isEmpty && !legacySampleTagPrefix.toList.isPrefixOf tag

/-- `SourceIdentity::is_reuse_safe`. -/
def SourceIdentity.isReuseSafe (source : SourceIdentity) : Bool :=
  source.sizeBytes.isSome && source.contentTag.any isCompleteContentTag

/-! ## Text the binding key is made of -/

/-- One step of `splitn(_, c)`: the text before the first `c`, and the text
after it when there is one. -/
def splitFirst (c : Char) : List Char → List Char × Option (List Char)
  | [] => ([], none)
  | x :: xs =>
      if x = c then ([], some xs)
      else (x :: (splitFirst c xs).1, (splitFirst c xs).2)

/-- `str::strip_prefix(c)`. -/
def stripChar (c : Char) : List Char → Option (List Char)
  | [] => none
  | x :: xs => if x = c then some xs else none

/-- The value of a decimal numeral, given the value of the digits before. -/
def parseDigits : Nat → List Char → Option Nat
  | acc, [] => some acc
  | acc, x :: xs => if x.isDigit then parseDigits (acc * 10 + (x.toNat - 48)) xs else none

/-- An unsigned decimal numeral: at least one digit, after an optional `+`. -/
def parseUnsigned : List Char → Option Nat
  | [] => none
  | '+' :: xs => if xs.isEmpty then none else parseDigits 0 xs
  | xs => parseDigits 0 xs

/-- `parse::<u32>()`. -/
def parseU32 (cs : List Char) : Option Nat :=
  (parseUnsigned cs).filter (· < 2 ^ 32)

/-- `parse::<i64>()`. -/
def parseI64 : List Char → Option Int
  | '-' :: xs =>
      if xs.isEmpty then none
      else ((parseDigits 0 xs).map fun n => -(n : Int)).filter (fun x => InI64 x)
  | xs => ((parseUnsigned xs).map fun n => (n : Int)).filter (fun x => InI64 x)

section BindingKey

variable [ContentHash]

/-- `source_binding_key`. -/
def sourceBindingKey (source : SourceIdentity) (safety : TimestampSeekSafety) : String :=
  "t" ++ toString frameTimelineContractGeneration ++ ":s" ++ toString safety.asI64 ++
    ":" ++ ContentHash.stableKey source

/-- `decode_source_binding_key`: generation, seek safety and stable key. -/
def decodeSourceBindingKey (value : String) :
    Except FrameIndexError (Nat × TimestampSeekSafety × String) :=
  match value.toList with
  | 't' :: _ =>
      let (first, rest) := splitFirst ':' value.toList
      match (stripChar 't' first).bind parseU32 with
      | none => .error (.invalidState "invalid source binding generation")
      | some generation =>
          let (second, rest) :=
            match rest with
            | none => (([] : List Char), none)
            | some rest => splitFirst ':' rest
          match (stripChar 's' second).bind parseI64 with
          | none => .error (.invalidState "invalid source binding seek safety")
          | some safety =>
              match rest.filter (!·.isEmpty) with
              | none => .error (.invalidState "source binding key is missing")
              | some key =>
                  (TimestampSeekSafety.fromI64 safety).map fun safety =>
                    (generation, safety, String.ofList key)
  -- Bindings from before the contract existed hold the stable key alone.
  | _ => .ok (1, .ambiguous, value)

/-- Reading a binding key back is exact. -/
@[simp] theorem decode_sourceBindingKey (source : SourceIdentity)
    (safety : TimestampSeekSafety) :
    decodeSourceBindingKey (sourceBindingKey source safety) =
      .ok (frameTimelineContractGeneration, safety, ContentHash.stableKey source) := by
  have hKey := ContentHash.stableKey_ne_empty source
  have hText : (sourceBindingKey source safety).toList =
      't' :: '2' :: ':' :: 's' :: (if safety = .unambiguous then '1' else '0') :: ':' ::
        (ContentHash.stableKey source).toList := by
    cases safety <;> simp [sourceBindingKey, String.toList_append,
      frameTimelineContractGeneration, TimestampSeekSafety.asI64] <;> rfl
  have hFilled : (ContentHash.stableKey source).toList.isEmpty = false := by
    simpa using hKey
  cases safety <;>
    simp [decodeSourceBindingKey, hText, splitFirst, stripChar, parseU32, parseUnsigned,
      parseDigits, parseI64, InI64, Option.filter, hFilled, TimestampSeekSafety.fromI64,
      Except.map, frameTimelineContractGeneration]

end BindingKey

/-! ## Sample identities -/

/-- A digest that maps every identity to one key. -/
@[reducible] def constantHash : ContentHash where
  stableKey := fun _ => "0"
  stableKey_ne_empty := by intro _; decide

/-- A source that may be reused. -/
def sampleSource : SourceIdentity := ⟨some 4096, some 0, none, some "blake3:0"⟩

def sampleStream : FrameIndexStreamIdentity := ⟨0, 27, "h264", sampleTimeBase, some 2, some 2⟩

example : sampleSource.isReuseSafe = true := by decide

end FrameScope.Ports.SourceBinding
