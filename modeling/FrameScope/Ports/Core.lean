import Mathlib

/-!
# Shared domain values

Port of `framescope-core`: exact stream time, decoded-frame metadata, the
selected stream, and the error the decoder stack reports.

Machine integers are `Nat` and `Int`; the places where the source checks a
width (`checked_mul`, `try_from`) check it here too.  A `DecodedFrame` keeps
what the index, the navigation and the extraction read.  The labels that only
number a decoder session (`source_id`, `decode_epoch`, `index`) are left out:
they change with every open and every seek, and none of those layers reads
them.
-/

namespace FrameScope.Ports.Core

/-- Values of `i64`. -/
def InI64 (x : Int) : Prop := -2 ^ 63 ≤ x ∧ x < 2 ^ 63

instance (x : Int) : Decidable (InI64 x) := by
  unfold InI64
  infer_instance

/-- Values of `i128`. -/
def InI128 (x : Int) : Prop := -2 ^ 127 ≤ x ∧ x < 2 ^ 127

instance (x : Int) : Decidable (InI128 x) := by
  unfold InI128
  infer_instance

/-- `i128::checked_mul`. -/
def checkedMulI128 (a b : Int) : Option Int :=
  if InI128 (a * b) then some (a * b) else none

/-- `u64::checked_add`. -/
def checkedAddU64 (a b : Nat) : Option Nat :=
  if a + b < 2 ^ 64 then some (a + b) else none

@[simp] theorem checkedAddU64_eq_some {a b c : Nat} :
    checkedAddU64 a b = some c ↔ a + b < 2 ^ 64 ∧ c = a + b := by
  unfold checkedAddU64
  split_ifs with h
  · rw [Option.some.injEq, eq_comm, and_iff_right h]
  · exact iff_of_false nofun fun hFits => h hFits.1

/-- `u64::checked_mul`. -/
def checkedMulU64 (a b : Nat) : Option Nat :=
  if a * b < 2 ^ 64 then some (a * b) else none

@[simp] theorem checkedMulU64_eq_some {a b c : Nat} :
    checkedMulU64 a b = some c ↔ a * b < 2 ^ 64 ∧ c = a * b := by
  unfold checkedMulU64
  split_ifs with h
  · rw [Option.some.injEq, eq_comm, and_iff_right h]
  · exact iff_of_false nofun fun hFits => h hFits.1

/-- `u64::saturating_add`. -/
def saturatingAddU64 (a b : Nat) : Nat := min (a + b) (2 ^ 64 - 1)

theorem ok_bind {ε α β : Type} (a : α) (f : α → Except ε β) : (Except.ok a >>= f) = f a := rfl

/-- A sequence of fallible steps succeeds when each of them does. -/
theorem bind_eq_ok {ε α β : Type} {x : Except ε α} {f : α → Except ε β} {r : β} :
    (x >>= f) = .ok r ↔ ∃ a, x = .ok a ∧ f a = .ok r := by
  cases x with
  | error error => simp [bind, Except.bind]
  | ok a => simp [bind, Except.bind]

/-- Relabelling the errors of a step changes no success. -/
@[simp] theorem mapError_eq_ok {ε δ α : Type} {x : Except ε α} {f : ε → δ} {r : α} :
    x.mapError f = .ok r ↔ x = .ok r := by
  cases x with
  | error error => simp [Except.mapError]
  | ok a => simp [Except.mapError]

theorem map_eq_ok {δ α β : Type} {x : Except δ α} {f : α → β} {r : β} :
    x.map f = .ok r ↔ ∃ a, x = .ok a ∧ f a = r := by
  cases x with
  | error error => simp [Except.map]
  | ok a => simp [Except.map]

/-- A check that fails with `error`. -/
def ensure {ε : Type} (p : Prop) [Decidable p] (error : ε) : Except ε Unit :=
  if p then .ok () else .error error

@[simp] theorem ensure_eq_ok {ε : Type} {p : Prop} [Decidable p] {error : ε} {u : Unit} :
    ensure p error = .ok u ↔ p := by
  unfold ensure
  by_cases h : p
  · simp [h]
  · simp [h]

theorem ensure_true {ε : Type} {p : Prop} [Decidable p] {error : ε} (h : p) :
    ensure p error = .ok () := if_pos h

theorem ensure_false {ε : Type} {p : Prop} [Decidable p] {error : ε} (h : ¬p) :
    ensure p error = .error error := if_neg h

theorem ensure_ne_error {ε : Type} {p : Prop} [Decidable p] {error e : ε} (h : p) :
    ensure p error ≠ .error e := by
  unfold ensure
  rw [if_pos h]
  exact nofun

/-- `Option::ok_or`. -/
def okOr {ε α : Type} (x : Option α) (error : ε) : Except ε α :=
  match x with
  | none => .error error
  | some a => .ok a

@[simp] theorem okOr_eq_ok {ε α : Type} {x : Option α} {error : ε} {a : α} :
    okOr x error = .ok a ↔ x = some a := by
  cases x with
  | none => simp [okOr]
  | some b => simp [okOr]

/-! ## Stream time -/

/-- Seconds per timestamp tick.  `TimeBase::new` is the only constructor the
program uses, so both parts are positive `i32` values. -/
structure TimeBase where
  numerator : Int
  denominator : Int
  numerator_pos : 0 < numerator
  denominator_pos : 0 < denominator
  numerator_lt : numerator < 2 ^ 31
  denominator_lt : denominator < 2 ^ 31
  deriving DecidableEq, Repr

/-- `TimeBase::new`. -/
def TimeBase.new (numerator denominator : Int) : Option TimeBase :=
  if h : 0 < numerator ∧ 0 < denominator ∧
      numerator < 2 ^ 31 ∧ denominator < 2 ^ 31 then
    some ⟨numerator, denominator, h.1, h.2.1, h.2.2.1, h.2.2.2⟩
  else none

@[simp] theorem TimeBase.new_self (tb : TimeBase) :
    TimeBase.new tb.numerator tb.denominator = some tb := by
  unfold TimeBase.new
  rw [dif_pos ⟨tb.numerator_pos, tb.denominator_pos, tb.numerator_lt,
    tb.denominator_lt⟩]

/-- Milliseconds. -/
def sampleTimeBase : TimeBase where
  numerator := 1
  denominator := 1000
  numerator_pos := by decide
  denominator_pos := by decide
  numerator_lt := by decide
  denominator_lt := by decide

/-- `scale_ticks_to_microseconds`: exact rational scaling, truncated towards
zero, with every intermediate width checked. -/
def scaleTicksToMicroseconds (ticks : Int) (tb : TimeBase) : Option Int :=
  (checkedMulI128 ticks tb.numerator).bind fun scaled =>
    (checkedMulI128 scaled 1000000).bind fun scaled =>
      let micros := scaled.tdiv tb.denominator
      if InI64 micros then some micros else none

/-- Presentation timestamp in the time base of the selected stream. -/
structure MediaTimestamp where
  ticks : Int
  timeBase : TimeBase
  deriving DecidableEq, Repr

def MediaTimestamp.toMicroseconds (t : MediaTimestamp) : Option Int :=
  scaleTicksToMicroseconds t.ticks t.timeBase

/-- Frame duration in the time base of the selected stream. -/
structure MediaDuration where
  ticks : Int
  timeBase : TimeBase
  deriving DecidableEq, Repr

/-! ## Decoded frames and the selected stream -/

/-- Metadata of one decoded presentation frame. -/
structure DecodedFrame where
  streamIndex : Nat
  presentationTimestamp : Option MediaTimestamp
  duration : Option MediaDuration
  keyframe : Bool
  corrupt : Bool
  width : Nat
  height : Nat
  pixelFormat : Option String
  deriving DecidableEq, Repr

def DecodedFrame.timestampUs (f : DecodedFrame) : Option Int :=
  f.presentationTimestamp.bind MediaTimestamp.toMicroseconds

/-- A clean keyframe is one an anchor may name. -/
def DecodedFrame.isClean (f : DecodedFrame) : Bool := f.keyframe && !f.corrupt

/-- One decoded frame with its owned RGBA bytes. -/
structure DecodedRgbaFrame where
  frame : DecodedFrame
  strideBytes : Nat
  pixels : List UInt8
  deriving DecidableEq, Repr

inductive MediaKind where
  | unknown | video | audio | subtitle | data | attachment
  deriving DecidableEq, Repr

/-- The part of `StreamInfo` that an index binds to. -/
structure StreamInfo where
  index : Nat
  mediaKind : MediaKind
  codecId : Int
  codecName : String
  timeBase : Option TimeBase
  width : Option Nat
  height : Option Nat
  deriving DecidableEq, Repr

/-! ## Decoder-stack errors -/

inductive FrameScopeError where
  | unsupportedFormat (detail : String)
  | unsupportedCodec (detail : String)
  | invalidSource (detail : String)
  | malformedContainer (detail : String)
  | noVideoTrack
  | decoderFailure (detail : String)
  | cancelled
  | seekUnavailable (detail : String)
  | backendUnavailable (detail : String)
  | invalidMetadata (detail : String)
  | io (detail : String)
  | bridge (detail : String)
  deriving DecidableEq, Repr

/-- The `Display` text, which recoverable index failures persist. -/
def FrameScopeError.toText : FrameScopeError → String
  | .unsupportedFormat d => "unsupported video format: " ++ d
  | .unsupportedCodec d => "unsupported video codec: " ++ d
  | .invalidSource d => "invalid video source: " ++ d
  | .malformedContainer d => "malformed video container: " ++ d
  | .noVideoTrack => "no video track was found"
  | .decoderFailure d => "video decoder failure: " ++ d
  | .cancelled => "video operation was cancelled"
  | .seekUnavailable d => "seeking is unavailable: " ++ d
  | .backendUnavailable d => "video backend is unavailable: " ++ d
  | .invalidMetadata d => "invalid video metadata: " ++ d
  | .io d => "I/O error: " ++ d
  | .bridge d => "native bridge error: " ++ d

end FrameScope.Ports.Core
