import FrameScope.Verified.Runs
import FrameScope.Ports.Core

/-!
# Cancellation tokens of numbered operations

Port of `CancellationToken` and of the two tables that hand tokens to numbered
operations: `operation_token` and `cancel_operation` of `framescope-ffi/src/lib.rs`,
and their similarity counterparts of `presentation_handoff/global_similarity.rs`.

A cancellation may come before its operation has registered; the table then
keeps a cancelled token under the operation's id.  Both tables are bounded by
throwing cancelled tokens away, and the token of an operation that has not
started yet is one of these.

A token is its number, and a clone is the same token.
-/

namespace FrameScope.Ports.OperationTokens

open FrameScope.Verified.Runs
open FrameScope.Ports.Core

/-- The `CancellationToken`s made so far, and which of them are cancelled. -/
structure CancellationTokens where
  cancelled : Nat → Bool
  next : Nat

namespace CancellationTokens

def initial : CancellationTokens := ⟨fun _ => false, 0⟩

/-- `CancellationToken::new`.  The new token is `tokens.next`. -/
def new (tokens : CancellationTokens) : CancellationTokens :=
  ⟨Function.update tokens.cancelled tokens.next false, tokens.next + 1⟩

def cancel (tokens : CancellationTokens) (token : Nat) : CancellationTokens :=
  { tokens with cancelled := Function.update tokens.cancelled token true }

def isCancelled (tokens : CancellationTokens) (token : Nat) : Bool := tokens.cancelled token

section

variable {tokens : CancellationTokens} {token other : Nat}

@[simp] theorem isCancelled_new_self : tokens.new.isCancelled tokens.next = false := by
  simp [new, isCancelled]

theorem isCancelled_new (h : token < tokens.next) :
    tokens.new.isCancelled token = tokens.isCancelled token := by
  have hOld : token ≠ tokens.next := by omega
  simp [new, isCancelled, hOld]

@[simp] theorem next_new : tokens.new.next = tokens.next + 1 := rfl

@[simp] theorem isCancelled_cancel_self : (tokens.cancel token).isCancelled token = true := by
  simp [cancel, isCancelled]

theorem isCancelled_cancel (h : tokens.isCancelled token = true) :
    (tokens.cancel other).isCancelled token = true := by
  by_cases hToken : token = other
  · simp [cancel, isCancelled, hToken]
  · simpa [cancel, isCancelled, hToken] using h

theorem isCancelled_cancel_of_ne (h : token ≠ other) :
    (tokens.cancel other).isCancelled token = tokens.isCancelled token := by
  simp [cancel, isCancelled, h]

@[simp] theorem next_cancel : (tokens.cancel token).next = tokens.next := rfl

end

end CancellationTokens

/-! ## A table of tokens -/

/-- `HashMap<i64, CancellationToken>` with the tokens it refers to. -/
structure TokenTable where
  entries : List (Int × Nat)
  tokens : CancellationTokens

namespace TokenTable

def empty : TokenTable := ⟨[], .initial⟩

section

variable (table : TokenTable) (operationId : Int)

def len : Nat := table.entries.length

def get? : Option Nat := (table.entries.find? (·.1 = operationId)).map (·.2)

def containsKey : Bool := (table.get? operationId).isSome

/-- `entry(id).or_insert_with(CancellationToken::new).clone()`. -/
def entry : Nat × TokenTable :=
  match table.get? operationId with
  | some token => (token, table)
  | none => (table.tokens.next,
      ⟨table.entries ++ [(operationId, table.tokens.next)], table.tokens.new⟩)

/-- `tokens.retain(|_, token| !token.is_cancelled())`. -/
def retainUncancelled : TokenTable :=
  { table with entries := table.entries.filter fun e => !table.tokens.isCancelled e.2 }

def remove : TokenTable :=
  { table with entries := table.entries.filter (·.1 ≠ operationId) }

/-- The token under an id, made if there was none, and cancelled. -/
def cancelEntry : TokenTable :=
  let (token, table) := table.entry operationId
  { table with tokens := table.tokens.cancel token }

end

end TokenTable

/-! ## The two registries -/

/-- `INSPECTION_TOKENS` and `SIMILARITY_TOKENS`. -/
inductive OperationRegistry where
  | inspection | similarity
  deriving DecidableEq, Repr

def MAX_PENDING_CANCELLATIONS : Nat := 64

def MAX_SIMILARITY_OPERATIONS : Nat := 16

/-- `FrameScopeError::Bridge` and `SimilarityBridgeFailure`. -/
structure OperationFailure where
  code : String
  message : String
  deriving DecidableEq, Repr

section Registries

variable (table : TokenTable) (operationId : Int)

/-- `operation_token` of `lib.rs`. -/
def operationToken : Except OperationFailure Nat × TokenTable :=
  if operationId ≤ 0 then
    (.error ⟨"bridge_error", "inspection operation id must be positive"⟩, table)
  else
    let (token, table) := table.entry operationId
    (.ok token, table)

/-- `cancel_operation`.  A full table is purged even if it knows the id. -/
def cancelOperation : Bool × TokenTable :=
  if operationId ≤ 0 then (false, table)
  else
    let table := if MAX_PENDING_CANCELLATIONS ≤ table.len then table.retainUncancelled else table
    if MAX_PENDING_CANCELLATIONS ≤ table.len && !table.containsKey operationId then (false, table)
    else (true, table.cancelEntry operationId)

/-- The purge of the similarity table, which spares a table that knows the id. -/
def purgeUnlessKnown : TokenTable :=
  if MAX_SIMILARITY_OPERATIONS ≤ table.len && !table.containsKey operationId then
    table.retainUncancelled
  else table

/-- `operation_token` of `global_similarity.rs`. -/
def similarityOperationToken : Except OperationFailure Nat × TokenTable :=
  if operationId ≤ 0 then
    (.error ⟨"invalid_request", "similarity operation id must be positive"⟩, table)
  else
    let table := purgeUnlessKnown table operationId
    if MAX_SIMILARITY_OPERATIONS ≤ table.len && !table.containsKey operationId then
      (.error ⟨"similarity_busy", "too many similarity operations are active"⟩, table)
    else
      let (token, table) := table.entry operationId
      (.ok token, table)

/-- `cancel_similarity_operation`. -/
def cancelSimilarityOperation : Bool × TokenTable :=
  if operationId ≤ 0 then (false, table)
  else
    let table := purgeUnlessKnown table operationId
    if MAX_SIMILARITY_OPERATIONS ≤ table.len && !table.containsKey operationId then (false, table)
    else (true, table.cancelEntry operationId)

end Registries

namespace OperationRegistry

def limit : OperationRegistry → Nat
  | .inspection => MAX_PENDING_CANCELLATIONS
  | .similarity => MAX_SIMILARITY_OPERATIONS

def token : OperationRegistry → TokenTable → Int → Except OperationFailure Nat × TokenTable
  | .inspection => operationToken
  | .similarity => similarityOperationToken

def cancel : OperationRegistry → TokenTable → Int → Bool × TokenTable
  | .inspection => cancelOperation
  | .similarity => cancelSimilarityOperation

end OperationRegistry

/-! ## Runs -/

/-- A registry with the tokens that running operations hold.  `started` and
`accepted` record the ids of operations that got a token and of cancellations
that returned true; no call reads them. -/
structure OperationState where
  table : TokenTable
  running : Int → Option Nat
  started : List Int
  accepted : List Int

def OperationState.initial : OperationState := ⟨.empty, fun _ => none, [], []⟩

inductive OperationEvent where
  | start (operationId : Int)
  | finish (operationId : Int)
  | cancel (operationId : Int)
  deriving DecidableEq, Repr

namespace OperationState

variable (registry : OperationRegistry) (s : OperationState) (operationId : Int)

/-- Ids are distinct, so an operation starts once.  One that is refused its
token has not started. -/
def start : OperationState :=
  if operationId ∈ s.started then s
  else
    match registry.token s.table operationId with
    | (.error _, table) => { s with table := table }
    | (.ok token, table) =>
        { s with
          table := table
          running := Function.update s.running operationId (some token)
          started := operationId :: s.started }

/-- The drop of an `InspectionOperation` or a `SimilarityOperation`. -/
def finish : OperationState :=
  match s.running operationId with
  | none => s
  | some _ =>
      { s with
        table := s.table.remove operationId
        running := Function.update s.running operationId none }

def cancel : OperationState :=
  match registry.cancel s.table operationId with
  | (false, table) => { s with table := table }
  | (true, table) => { s with table := table, accepted := operationId :: s.accepted }

end OperationState

def applyEvent (registry : OperationRegistry) (s : OperationState) :
    OperationEvent → OperationState
  | .start operationId => s.start registry operationId
  | .finish operationId => s.finish operationId
  | .cancel operationId => s.cancel registry operationId

/-- Every running operation whose cancellation was accepted holds a cancelled
token. -/
def CancellationsKept (s : OperationState) : Prop :=
  ∀ operationId ∈ s.accepted, ∀ token, s.running operationId = some token →
    s.table.tokens.isCancelled token = true

/-- Calls that throw the cancelled tokens of a full table away. -/
def Purges (table : TokenTable) : OperationRegistry → OperationEvent → Prop
  | .inspection, .cancel operationId => 0 < operationId ∧ MAX_PENDING_CANCELLATIONS ≤ table.len
  | .similarity, .start operationId =>
      0 < operationId ∧ MAX_SIMILARITY_OPERATIONS ≤ table.len ∧
        table.containsKey operationId = false
  | .similarity, .cancel operationId =>
      0 < operationId ∧ MAX_SIMILARITY_OPERATIONS ≤ table.len ∧
        table.containsKey operationId = false
  | _, _ => False

instance (table : TokenTable) (registry : OperationRegistry) (event : OperationEvent) :
    Decidable (Purges table registry event) := by
  cases registry <;> cases event <;> unfold Purges <;> infer_instance

/-- Cancellations that were accepted and whose operation has not started. -/
def OperationState.pending (s : OperationState) : List Int :=
  s.accepted.filter (· ∉ s.started)

/-- No purge takes the token of a pending cancellation away, unless the call
that purges cancels the same operation and finds room to do so again. -/
def SparesPending (registry : OperationRegistry) (s : OperationState) :
    OperationEvent → Prop
  | .start operationId => operationId ∉ s.started →
      Purges s.table registry (.start operationId) → s.pending = []
  | .cancel operationId => Purges s.table registry (.cancel operationId) →
      ∀ other ∈ s.pending, other = operationId ∧ s.table.retainUncancelled.len < registry.limit
  | .finish _ => True

/-- One cancellation waits for its operation, 63 other operations run, and one
of them is cancelled twice. -/
def purgedCancellation : List OperationEvent :=
  .cancel 1 :: (List.range 63).map (fun (i : Nat) => .start (i + 2)) ++ [.cancel 2, .start 1]

/-- The cancellation of operation 1 was accepted, and the operation that starts
afterwards runs with a token that is not cancelled. -/
theorem purgedCancellation_lost :
    ¬ CancellationsKept (purgedCancellation.foldl (applyEvent .inspection) .initial) := by
  intro h
  have hCancelled := h 1 (by decide +kernel) 64 (by decide +kernel)
  exact absurd hCancelled (by decide +kernel)

end FrameScope.Ports.OperationTokens
