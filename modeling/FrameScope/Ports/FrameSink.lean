import FrameScope.Ports.MediaLibrary

/-!
# The batch frame sink

Port of `BatchSafFrameSink` and `AndroidExportDocument` of
`BatchExportDestination.kt`.  The document provider, the descriptors and the
progress callback are the environment: each call says what they do in it, and
any of them may throw.  Deleting a document succeeds.  A document is named by a
number, which the provider never gives twice.
-/

namespace FrameScope.Ports.FrameSink

open FrameScope.Ports.MediaLibrary

/-! ## Documents -/

/-- What the provider or a callback throws, or a failed `check` of the code itself. -/
inductive Throwable (τ : Type) where
  | provider (error : τ)
  | illegalState (message : String)
  deriving DecidableEq, Repr

structure AndroidExportDocument where
  committed : Bool
  closed : Bool
  deriving DecidableEq, Repr

/-- The documents that exist, and the objects that were made for them. -/
structure Documents where
  next : Nat
  existing : Nat → Bool
  objects : Nat → Option AndroidExportDocument

def Documents.none : Documents := ⟨0, fun _ => false, fun _ => Option.none⟩

/-- `create` of the factory: it throws before a document is made, or once the
document is there but gets no descriptor, and then deletes it. -/
inductive CreateOutcome (τ : Type) where
  | refused (error : Throwable τ)
  | undescribed (error : Throwable τ)
  | opened
  deriving DecidableEq, Repr

section Documents

variable {τ : Type} (documents : Documents)

/-- `DocumentsContract.deleteDocument`. -/
def Documents.delete (uri : Nat) : Documents :=
  { documents with existing := Function.update documents.existing uri false }

def Documents.setObject (uri : Nat) (document : AndroidExportDocument) : Documents :=
  { documents with objects := Function.update documents.objects uri (some document) }

/-- `documentFactory.create`. -/
def Documents.create (outcome : CreateOutcome τ) : Except (Throwable τ) Nat × Documents :=
  match outcome with
  | .refused error => (.error error, documents)
  | .undescribed error => (.error error, { documents with next := documents.next + 1 })
  | .opened =>
      (.ok documents.next,
        { next := documents.next + 1
          existing := Function.update documents.existing documents.next true
          objects := Function.update documents.objects documents.next (some ⟨false, false⟩) })

/-- `fd`. -/
def Documents.fd (uri : Nat) (descriptor : Except τ Int) : Except (Throwable τ) Int :=
  match documents.objects uri with
  | some ⟨_, false⟩ => descriptor.mapError .provider
  | _ => .error (.illegalState "Export destination is already closed.")

/-- `commit`. -/
def Documents.commit (uri : Nat) : Except (Throwable τ) Documents :=
  match documents.objects uri with
  | some ⟨_, false⟩ => .ok (documents.setObject uri ⟨true, false⟩)
  | _ => .error (.illegalState "Cannot commit a closed export destination.")

/-- `close`, with what closing the descriptor throws.  Without a commit the
document is deleted, whether or not it threw. -/
def Documents.close (uri : Nat) (descriptor : Option τ) : Option (Throwable τ) × Documents :=
  match documents.objects uri with
  | some ⟨committed, false⟩ =>
      (descriptor.map .provider,
        if committed = true then documents.setObject uri ⟨committed, true⟩
        else (documents.setObject uri ⟨committed, true⟩).delete uri)
  | _ => (Option.none, documents)

end Documents

/-! ## The sink -/

structure Pending where
  fileName : String
  frameId : Int
  ordinal : Int
  total : Int
  document : Nat
  deriving DecidableEq, Repr

/-- Whether the ids of a commit are those of the frame that is open. -/
def Pending.Names (value : Pending) (fileName : String) (frameId ordinal total : Int) : Prop :=
  value.fileName = fileName ∧ value.frameId = frameId ∧ value.ordinal = ordinal ∧
    value.total = total

instance (value : Pending) (fileName : String) (frameId ordinal total : Int) :
    Decidable (value.Names fileName frameId ordinal total) :=
  inferInstanceAs (Decidable (_ ∧ _ ∧ _ ∧ _))

structure BatchSafFrameSink (τ : Type) where
  documents : Documents
  pending : Option Pending
  closed : Bool
  firstFailure : Option (Throwable τ)

/-- What the environment does in an `openFrame`. -/
structure OpenOutcome (τ : Type) where
  create : CreateOutcome τ
  onProgress : Option τ
  descriptor : Except τ Int
  closeDescriptor : Option τ

def invalidFd : Int := -1

def maxFrameFileNameLength : Nat := 240

/-- `BatchExportProgress.isSane`. -/
def progressIsSane (frameId ordinal total : Int) : Bool :=
  0 ≤ frameId ∧ 0 < total ∧ 1 ≤ ordinal ∧ ordinal ≤ total

/-- The length of a Kotlin string: characters outside the basic plane are pairs. -/
def utf16Length (text : String) : Nat :=
  (text.toList.map fun c => if c.toNat < 65536 then 1 else 2).sum

def validFrameName (fileName : String) : Bool :=
  isNotBlank fileName && utf16Length fileName ≤ maxFrameFileNameLength &&
    !fileName.toList.contains '/' && !fileName.toList.contains '\\'

/-- The checks of `openFrame` on its arguments. -/
def frameAccepted (fileName mimeType : String) (frameId ordinal total : Int) : Bool :=
  progressIsSane frameId ordinal total && validFrameName fileName &&
    "image/".toList.isPrefixOf mimeType.toList

namespace BatchSafFrameSink

variable {τ : Type} (s : BatchSafFrameSink τ)

def initial : BatchSafFrameSink τ := ⟨.none, Option.none, false, Option.none⟩

def recordFailure (error : Throwable τ) : BatchSafFrameSink τ :=
  match s.firstFailure with
  | Option.none => { s with firstFailure := some error }
  | some _ => s

def recordFailures (error : Option (Throwable τ)) : BatchSafFrameSink τ :=
  match error with
  | Option.none => s
  | some error => s.recordFailure error

/-- `abortPending`. -/
def abortPending (value : Pending) (closeDescriptor : Option τ) : BatchSafFrameSink τ :=
  let closed := s.documents.close value.document closeDescriptor
  { s with
    pending := if s.pending = some value then Option.none else s.pending
    documents := closed.2 }.recordFailures closed.1

/-- `openFrame`. -/
def openFrame (fileName mimeType : String) (frameId ordinal total : Int) (outcome : OpenOutcome τ) :
    Int × BatchSafFrameSink τ :=
  if s.closed = true ∨ s.pending.isSome = true then (invalidFd, s)
  else if frameAccepted fileName mimeType frameId ordinal total = false then (invalidFd, s)
  else
    match s.documents.create outcome.create with
    | (.error error, documents) => (invalidFd, { s with documents }.recordFailure error)
    | (.ok uri, documents) =>
        let value : Pending := ⟨fileName, frameId, ordinal, total, uri⟩
        let s := { s with documents, pending := some value }
        match outcome.onProgress with
        | some error =>
            (invalidFd,
              (s.recordFailure (.provider error)).abortPending value outcome.closeDescriptor)
        | Option.none =>
            match documents.fd uri outcome.descriptor with
            | .error error =>
                (invalidFd, (s.recordFailure error).abortPending value outcome.closeDescriptor)
            | .ok fd =>
                if 0 ≤ fd then (fd, s)
                else (invalidFd, s.abortPending value outcome.closeDescriptor)

/-- The `try` of `commitFrame`: the document is committed and then closed. -/
def commitPending (value : Pending) (closeDescriptor : Option τ) : Bool × BatchSafFrameSink τ :=
  match s.documents.commit value.document with
  | .error error =>
      let closed := s.documents.close value.document closeDescriptor
      (false, ({ s with documents := closed.2 }.recordFailure error).recordFailures closed.1)
  | .ok documents =>
      match documents.close value.document closeDescriptor with
      | (Option.none, documents) => (true, { s with documents })
      | (some error, documents) =>
          -- the second `close` finds the document closed
          let closed := documents.close value.document closeDescriptor
          (false, ({ s with documents := closed.2 }.recordFailure error).recordFailures closed.1)

/-- `commitFrame`. -/
def commitFrame (fileName : String) (frameId ordinal total byteLength : Int)
    (closeDescriptor : Option τ) : Bool × BatchSafFrameSink τ :=
  if s.closed = true ∨ byteLength ≤ 0 then (false, s)
  else
    match s.pending with
    | Option.none => (false, s)
    | some value =>
        if value.Names fileName frameId ordinal total then
          { s with pending := Option.none }.commitPending value closeDescriptor
        else (false, s)

/-- `abortFrame`. -/
def abortFrame (fileName : String) (closeDescriptor : Option τ) : BatchSafFrameSink τ :=
  match s.pending with
  | Option.none => s
  | some value => if value.fileName = fileName then s.abortPending value closeDescriptor else s

/-- `close`. -/
def close (closeDescriptor : Option τ) : BatchSafFrameSink τ :=
  if s.closed = true then s
  else
    match s.pending with
    | Option.none => { s with closed := true }
    | some value => { s with closed := true }.abortPending value closeDescriptor

end BatchSafFrameSink

/-! ## Calls -/

/-- A call of the native side, with what the environment does in it. -/
inductive SinkCall (τ : Type) where
  | openFrame (fileName mimeType : String) (frameId ordinal total : Int) (outcome : OpenOutcome τ)
  | commitFrame (fileName : String) (frameId ordinal total byteLength : Int)
      (closeDescriptor : Option τ)
  | abortFrame (fileName : String) (closeDescriptor : Option τ)
  | close (closeDescriptor : Option τ)

end FrameScope.Ports.FrameSink
