import FrameScope.Ports.PreviewCancellation

/-!
# Retained preview sessions

Port of `ScrubRegistry` of `framescope-ffi/src/scrub_handoff.rs`: at most two
sessions keep a preview cache and a decoder cursor, the least recently used one
makes room for a new one, and the configured preview budget is divided among
those that are retained.

A state is shared by reference and may outlive its entry, so states are
numbered and never freed.  The frames of the preview cache are left out; its
budget is kept.
-/

namespace FrameScope.Ports.ScrubHandoff

open FrameScope.Ports.Core
open FrameScope.Ports.PreviewCancellation (PreviewFailure)

def MAX_RETAINED_PREVIEW_SESSIONS : Nat := 2
def MAX_FORWARD_CURSOR_REUSE_FRAMES : Nat := 48

/-- `TargetRgbaNavigationCursor`: the token its decoder was opened with and the
frame it stands at. -/
structure DecoderCursor where
  cancellation : Nat
  frameId : Nat
  deriving DecidableEq, Repr

/-- `can_continue_to`. -/
def DecoderCursor.canContinueTo (cursor : DecoderCursor) (target maxForwardFrames : Nat) : Bool :=
  if target < cursor.frameId then false
  else
    let delta := target - cursor.frameId
    decide (0 < delta) && decide (delta ≤ maxForwardFrames)

/-- `sourceCache` is the number of the shared RAM cache of the hierarchy. -/
structure ScrubSessionState where
  cacheRoot : String
  sourceCache : Nat
  previewBudgetBytes : Nat
  decoderCursor : Option DecoderCursor
  deriving DecidableEq, Repr

structure ScrubSessionHandle where
  state : Nat
  lastAccess : Nat
  deriving DecidableEq, Repr

structure ScrubRegistry where
  clock : Nat
  sessions : List (Int × ScrubSessionHandle)
  deriving DecidableEq, Repr

/-- The registry and the states made so far. -/
structure ScrubSessions where
  registry : ScrubRegistry
  states : Nat → ScrubSessionState
  nextState : Nat

/-- The share at a position, with the remainder given to the first ones. -/
def previewShare (totalBudget : UInt64) (sessionCount position : Nat) : Nat :=
  saturatingAddU64 (totalBudget.toNat / sessionCount)
    (if position < totalBudget.toNat % sessionCount then 1 else 0)

namespace ScrubSessions

def initial : ScrubSessions := ⟨⟨0, []⟩, fun _ => ⟨"", 0, 0, none⟩, 0⟩

section

variable (s : ScrubSessions)

/-- `sessions.get`. -/
def handle? (sessionId : Int) : Option ScrubSessionHandle :=
  (s.registry.sessions.find? fun entry => entry.1 = sessionId).map (·.2)

def updateState (state : Nat) (f : ScrubSessionState → ScrubSessionState) : ScrubSessions :=
  { s with states := Function.update s.states state (f (s.states state)) }

/-- `preview_cache.set_budget_bytes`. -/
def setBudgetBytes (state budgetBytes : Nat) : ScrubSessions :=
  s.updateState state fun old => { old with previewBudgetBytes := budgetBytes }

/-- `sessions.remove`. -/
def remove (sessionId : Int) : ScrubSessions :=
  { s with registry := { s.registry with
      sessions := s.registry.sessions.filter fun entry => entry.1 ≠ sessionId } }

/-- One round of the loop of `rebalance_preview_cache_budgets`. -/
def giveShare (totalBudget : UInt64) (sessionCount : Nat) (entry : Int × Nat) : ScrubSessions :=
  match s.handle? entry.1 with
  | none => s
  | some handle => s.setBudgetBytes handle.state (previewShare totalBudget sessionCount entry.2)

def sortedIds : List Int := (s.registry.sessions.map (·.1)).insertionSort (· ≤ ·)

/-- `rebalance_preview_cache_budgets`. -/
def rebalancePreviewCacheBudgets (totalBudget : UInt64) : ScrubSessions :=
  if s.registry.sessions.isEmpty then s
  else s.sortedIds.zipIdx.foldl
    (fun t entry => t.giveShare totalBudget s.registry.sessions.length entry) s

/-- `trim_removed_preview_state`. -/
def trimRemovedPreviewState (handle : ScrubSessionHandle) : ScrubSessions :=
  s.updateState handle.state fun old =>
    { old with previewBudgetBytes := 0, decoderCursor := none }

/-- The session that `min_by_key` finds. -/
def oldest : Option (Int × ScrubSessionHandle) :=
  s.registry.sessions.argmin fun entry => entry.2.lastAccess

def evictOldest : ScrubSessions :=
  match s.oldest with
  | none => s
  | some entry => (s.remove entry.1).trimRemovedPreviewState entry.2

/-- The eviction loop; each round removes an entry. -/
def makeRoom : Nat → ScrubSessions → ScrubSessions
  | 0, s => s
  | rounds + 1, s =>
      if s.registry.sessions.length < MAX_RETAINED_PREVIEW_SESSIONS then s
      else makeRoom rounds s.evictOldest

/-- `sessions.insert` of a new state. -/
def insert (sessionId : Int) (cacheRoot : String) (sourceCache access : Nat) : ScrubSessions :=
  { s with
    registry := { s.registry with
      sessions := s.registry.sessions ++ [(sessionId, ⟨s.nextState, access⟩)] }
    states := Function.update s.states s.nextState ⟨cacheRoot, sourceCache, 0, none⟩
    nextState := s.nextState + 1 }

/-- `last_access` of a retained session. -/
def touch (sessionId : Int) (access : Nat) : ScrubSessions :=
  { s with registry := { s.registry with
      sessions := s.registry.sessions.map fun entry =>
        if entry.1 = sessionId then (entry.1, { entry.2 with lastAccess := access }) else entry } }

/-- `registry.clock` goes up. -/
def tick : ScrubSessions :=
  { s with registry := { s.registry with clock := saturatingAddU64 s.registry.clock 1 } }

/-- `session_state`.  `sourceCache` is what `open_resilient` opens if the session
is not retained. -/
def sessionState (previewBudget : UInt64) (sessionId : Int) (cacheRoot : String)
    (sourceCache : Nat) : Except PreviewFailure Nat × ScrubSessions :=
  let access := s.tick.registry.clock
  match s.handle? sessionId with
  | some handle =>
      if (s.states handle.state).cacheRoot ≠ cacheRoot then
        (.error ⟨"cache_identity_mismatch",
          "Live preview cache root changed for an existing microscope session."⟩,
          s.tick.touch sessionId access)
      else (.ok handle.state, s.tick.touch sessionId access)
  | none =>
      let room := makeRoom s.registry.sessions.length s.tick
      (.ok room.nextState,
        (room.insert sessionId cacheRoot sourceCache access).rebalancePreviewCacheBudgets
          previewBudget)

/-- The registry section of `forget_session`. -/
def forgetSection (previewBudget : UInt64) (sessionId : Int) : Bool × ScrubSessions :=
  match s.handle? sessionId with
  | none => (false, s)
  | some handle =>
      (true, ((s.remove sessionId).trimRemovedPreviewState handle).rebalancePreviewCacheBudgets
        previewBudget)

end

end ScrubSessions

end FrameScope.Ports.ScrubHandoff
