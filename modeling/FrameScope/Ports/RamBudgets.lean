import FrameScope.Ports.ScrubHandoff

/-!
# Configured RAM budgets

Port of `configure_ram_budgets` of `framescope-ffi/src/scrub_handoff.rs` beside
`session_state` and `forget_session`.  The two configured values are atomics; the
sessions are behind the registry lock.  A call of `configure_ram_budgets` stores the
one value, then the other, then reads the registry under its lock, so that other calls
come in between; what is done under the lock is one step.

The budgets of the shared source caches are those of `SharedRam` and are left to it.
-/

namespace FrameScope.Ports.RamBudgets

open FrameScope.Ports.Core
open FrameScope.Ports.PreviewCancellation (PreviewFailure)
open FrameScope.Ports.ScrubHandoff

/-- A call of `configure_ram_budgets` that has not come to the registry yet. -/
structure ConfigureCall where
  cacheRoot : String
  sourceCacheBytes : UInt64
  previewCacheBytes : UInt64
  previewStored : Bool
  deriving DecidableEq, Repr

structure RamBudgets where
  sessions : ScrubSessions
  /-- `SOURCE_CACHE_RAM_BUDGET_BYTES`. -/
  sourceBudgetBytes : UInt64
  /-- `PREVIEW_CACHE_BUDGET_BYTES`. -/
  previewBudgetBytes : UInt64
  calls : List ConfigureCall

namespace RamBudgets

def initial : RamBudgets where
  sessions := .initial
  sourceBudgetBytes := 64 * 1024 * 1024
  previewBudgetBytes := 8 * 1024 * 1024
  calls := []

end RamBudgets

/-- A cursor is of no use without a source cache. -/
def dropCursors (cacheRoot : String) (sessions : ScrubSessions) : ScrubSessions :=
  sessions.registry.sessions.foldl
    (fun t entry =>
      if (t.states entry.2.state).cacheRoot = cacheRoot then
        t.updateState entry.2.state fun old => { old with decoderCursor := none }
      else t)
    sessions

/-- What `configure_ram_budgets` does under the registry lock.  The budget that is shared
out is the stored one. -/
def configureSection (cacheRoot : String) (sourceCacheBytes previewBudget : UInt64)
    (sessions : ScrubSessions) : ScrubSessions :=
  (if sourceCacheBytes = 0 then dropCursors cacheRoot sessions
    else sessions).rebalancePreviewCacheBudgets previewBudget

inductive BudgetStep where
  | storeSource (cacheRoot : String) (sourceCacheBytes previewCacheBytes : UInt64)
  | storePreview (call : Nat)
  | configure (call : Nat)
  | sessionState (sessionId : Int) (cacheRoot : String) (sourceCache : Nat)
  | forgetSession (sessionId : Int)
  /-- A request of a session leaves its cursor. -/
  | retainCursor (state : Nat) (cursor : Option DecoderCursor)

def applyStep (s : RamBudgets) : BudgetStep → RamBudgets
  | .storeSource cacheRoot sourceCacheBytes previewCacheBytes =>
      { s with
        sourceBudgetBytes := sourceCacheBytes
        calls := s.calls ++ [⟨cacheRoot, sourceCacheBytes, previewCacheBytes, false⟩] }
  | .storePreview i =>
      match s.calls[i]? with
      | none => s
      | some call =>
          if call.previewStored = true then s
          else
            { s with
              previewBudgetBytes := call.previewCacheBytes
              calls := s.calls.set i { call with previewStored := true } }
  | .configure i =>
      match s.calls[i]? with
      | none => s
      | some call =>
          if call.previewStored = true then
            { s with
              sessions := configureSection call.cacheRoot call.sourceCacheBytes
                s.previewBudgetBytes s.sessions
              calls := s.calls.eraseIdx i }
          else s
  | .sessionState sessionId cacheRoot sourceCache =>
      { s with
        sessions :=
          (s.sessions.sessionState s.previewBudgetBytes sessionId cacheRoot sourceCache).2 }
  | .forgetSession sessionId =>
      if sessionId ≤ 0 then s
      else { s with sessions := (s.sessions.forgetSection s.previewBudgetBytes sessionId).2 }
  | .retainCursor state cursor =>
      { s with sessions := s.sessions.updateState state fun old =>
          { old with decoderCursor := cursor } }

/-- A call has stored its preview budget and has not shared it out. -/
def Storing (s : RamBudgets) : Prop :=
  ∃ call ∈ s.calls, call.previewStored = true

/-! ## Least recently used -/

/-- The sessions in the order of their last use, the latest first, as a cache of
`MAX_RETAINED_PREVIEW_SESSIONS` entries that evicts the least recently used keeps them. -/
def recentStep (recent : List Int) : BudgetStep → List Int
  | .sessionState sessionId _ _ =>
      (sessionId :: recent.erase sessionId).take MAX_RETAINED_PREVIEW_SESSIONS
  | .forgetSession sessionId => if sessionId ≤ 0 then recent else recent.erase sessionId
  | _ => recent

end FrameScope.Ports.RamBudgets
