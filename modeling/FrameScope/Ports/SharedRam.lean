import FrameScope.Verified.Runs
import FrameScope.Ports.FrameCache

/-!
# The shared RAM budget

Port of the registry of `framescope-cache/src/hierarchy.rs`.  All hierarchies of
one cache root share a RAM cache; the registry remembers the budget that is
desired for it, weakly refers to the cache and outlives it when the budget was
configured explicitly.

`shared_ram_cache` and `configure_shared_ram_budget` take the registry lock and
the cache lock one after the other.  Each locked section is one step here, so a
call whose cache section is still to come is a `PendingCall` that carries the
budget it read.  `applied` and `configurations` record what happened, stamped
with the number of the call's registry section; no step reads them.

A call that applies an older budget after a newer one was applied makes the
cache disagree with the registry.  Runs in which that does not happen
(`InOrder`) keep the two in agreement.
-/

namespace FrameScope.Ports.SharedRam

open FrameScope.Verified.Runs
open FrameScope.Ports.Core
open FrameScope.Ports.FrameCache

/-- `SharedRamRegistration`.  The weak reference is the number of the cache it
was made from. -/
structure SharedRamRegistration where
  desiredBudgetBytes : Nat
  explicitlyConfigured : Bool
  cache : Option Nat
  deriving DecidableEq, Repr

inductive CallKind where
  | shared | configure
  deriving DecidableEq, Repr

/-- A call between its two sections.  It holds a strong reference to `cache`. -/
structure PendingCall where
  kind : CallKind
  root : String
  cache : Nat
  budgetBytes : Nat
  stamp : Nat
  deriving DecidableEq, Repr

structure Configuration where
  root : String
  budgetBytes : Nat
  stamp : Nat
  deriving DecidableEq, Repr

/-- The registry, the caches made so far, the hierarchies that are open (each
holds one strong reference) and the calls in flight, oldest first. -/
structure SharedRamState where
  registry : String → Option SharedRamRegistration
  caches : Nat → RamFrameCache
  nextCache : Nat
  handles : List Nat
  pending : List PendingCall
  clock : Nat
  configurations : List Configuration
  applied : List PendingCall

/-- Before the first call. -/
def SharedRamState.initial : SharedRamState where
  registry := fun _ => none
  caches := fun _ => RamFrameCache.new 0
  nextCache := 0
  handles := []
  pending := []
  clock := 0
  configurations := []
  applied := []

namespace SharedRamState

/-- `Weak::strong_count`. -/
def strongCount (s : SharedRamState) (cache : Nat) : Nat :=
  s.handles.count cache + s.pending.countP (·.cache = cache)

/-- `Weak::upgrade`. -/
def upgrade (s : SharedRamState) (entry : SharedRamRegistration) : Option Nat :=
  entry.cache.filter fun cache => decide (0 < s.strongCount cache)

/-- `registry.retain` of `shared_ram_cache`. -/
def retained (s : SharedRamState) : String → Option SharedRamRegistration := fun root =>
  (s.registry root).filter fun entry =>
    entry.explicitlyConfigured || (s.upgrade entry).isSome

/-- A new cache for `root`, handed to the caller at once. -/
def create (s : SharedRamState) (root : String) (entry : SharedRamRegistration) :
    SharedRamState :=
  { s with
    registry := Function.update s.retained root (some { entry with cache := some s.nextCache })
    caches := Function.update s.caches s.nextCache (RamFrameCache.new entry.desiredBudgetBytes)
    nextCache := s.nextCache + 1
    handles := s.handles ++ [s.nextCache]
    clock := s.clock + 1 }

/-- The registry section of `shared_ram_cache`. -/
def sharedRegistrySection (s : SharedRamState) (root : String) (requestedBudgetBytes : Nat) :
    SharedRamState :=
  match s.retained root with
  | none => s.create root ⟨requestedBudgetBytes, false, none⟩
  | some entry =>
      let entry :=
        if !entry.explicitlyConfigured && decide (entry.desiredBudgetBytes < requestedBudgetBytes)
        then { entry with desiredBudgetBytes := requestedBudgetBytes }
        else entry
      match s.upgrade entry with
      | none => s.create root entry
      | some cache =>
          { s with
            registry := Function.update s.retained root (some entry)
            pending := s.pending ++ [⟨.shared, root, cache, entry.desiredBudgetBytes, s.clock⟩]
            clock := s.clock + 1 }

/-- The registry section of `configure_shared_ram_budget`. -/
def configureRegistrySection (s : SharedRamState) (root : String) (ramBudgetBytes : Nat) :
    SharedRamState :=
  let live := (s.registry root).bind s.upgrade
  { s with
    registry := Function.update s.registry root
      (some ⟨ramBudgetBytes, true, (s.registry root).bind (·.cache)⟩)
    pending := s.pending ++
      live.toList.map fun cache => ⟨.configure, root, cache, ramBudgetBytes, s.clock⟩
    clock := s.clock + 1
    configurations := s.configurations ++ [⟨root, ramBudgetBytes, s.clock⟩] }

/-- The budget that the cache section of a call leaves. -/
def withBudget (cache : RamFrameCache) (call : PendingCall) : RamFrameCache :=
  match call.kind with
  | .shared =>
      if cache.budgetBytes ≠ call.budgetBytes then cache.setBudgetBytes call.budgetBytes
      else cache
  | .configure => cache.setBudgetBytes call.budgetBytes

/-- `shared_ram_cache` hands its reference to the caller,
`configure_shared_ram_budget` drops it. -/
def handlesAfter (s : SharedRamState) (call : PendingCall) : List Nat :=
  match call.kind with
  | .shared => s.handles ++ [call.cache]
  | .configure => s.handles

/-- What the cache section of `call`, at position `i`, does. -/
def takeSection (s : SharedRamState) (i : Nat) (call : PendingCall) : SharedRamState :=
  { s with
    caches := Function.update s.caches call.cache (withBudget (s.caches call.cache) call)
    handles := s.handlesAfter call
    pending := s.pending.eraseIdx i
    applied := s.applied ++ [call] }

/-- The cache section of call `i`. -/
def cacheSection (s : SharedRamState) (i : Nat) : SharedRamState :=
  match s.pending[i]? with
  | none => s
  | some call => s.takeSection i call

/-- A hierarchy is closed. -/
def dropHandle (s : SharedRamState) (i : Nat) : SharedRamState :=
  { s with handles := s.handles.eraseIdx i }

end SharedRamState

inductive SharedRamStep where
  | sharedRegistry (root : String) (requestedBudgetBytes : Nat)
  | configureRegistry (root : String) (ramBudgetBytes : Nat)
  | cacheSection (i : Nat)
  | dropHandle (i : Nat)

def applyStep (s : SharedRamState) : SharedRamStep → SharedRamState
  | .sharedRegistry root requestedBudgetBytes =>
      s.sharedRegistrySection root requestedBudgetBytes
  | .configureRegistry root ramBudgetBytes => s.configureRegistrySection root ramBudgetBytes
  | .cacheSection i => s.cacheSection i
  | .dropHandle i => s.dropHandle i

/-! ## What is claimed, and when it holds -/

/-- Once no call is in flight for a root, its live cache has the desired
budget. -/
def Agrees (s : SharedRamState) : Prop :=
  ∀ root entry cache, s.registry root = some entry → s.upgrade entry = some cache →
    (∀ call ∈ s.pending, call.root ≠ root) →
    (s.caches cache).budgetBytes = entry.desiredBudgetBytes

/-- `shared_ram_cache` applied another budget than a configuration applied
before it only if it came after a newer configuration. -/
def NeverOverrides (s : SharedRamState) : Prop :=
  ∀ before between after configured call,
    s.applied = before ++ configured :: between ++ call :: after →
    configured.kind = .configure → call.kind = .shared → call.root = configured.root →
    call.budgetBytes ≠ configured.budgetBytes →
    ∃ newer ∈ s.configurations, newer.root = call.root ∧
      configured.stamp < newer.stamp ∧ newer.stamp < call.stamp

/-- A cache section is not taken while an older call for the same root, with
another budget, still has its own to come. -/
def InOrder (s : SharedRamState) : SharedRamStep → Prop
  | .cacheSection i => ∀ call, s.pending[i]? = some call →
      ∀ j older, j < i → s.pending[j]? = some older → older.root = call.root →
        older.budgetBytes = call.budgetBytes
  | _ => True

/-- An open is caught between its sections by a complete reconfiguration. -/
def overtakenOpen : List SharedRamStep :=
  [.sharedRegistry "frames" 64, .sharedRegistry "frames" 64, .configureRegistry "frames" 0,
    .cacheSection 1, .cacheSection 0]

/-- All calls have finished and the registry wants no RAM at all, but the live
cache is back at the budget that a call had read before the configuration. -/
theorem overtakenOpen_disagrees :
    ¬ Agrees (overtakenOpen.foldl applyStep .initial) ∧
      ¬ NeverOverrides (overtakenOpen.foldl applyStep .initial) := by
  constructor
  · intro h
    have hBudget := h "frames" ⟨0, true, some 0⟩ 0 (by decide) (by decide) (by decide)
    exact absurd hBudget (by decide)
  · intro h
    obtain ⟨newer, -, -, hAfter, hBefore⟩ := h [] [] [] ⟨.configure, "frames", 0, 0, 2⟩
      ⟨.shared, "frames", 0, 64, 1⟩ (by decide) rfl rfl rfl (by decide)
    exact absurd (hAfter.trans hBefore) (by decide)

/-! ## Sections -/

section Sections

variable {s : SharedRamState} {root : String} {entry : SharedRamRegistration} {cache i : Nat}
  {call : PendingCall}

theorem upgrade_eq_some :
    s.upgrade entry = some cache ↔ entry.cache = some cache ∧ 0 < s.strongCount cache := by
  unfold SharedRamState.upgrade
  rw [Option.filter_eq_some_iff]
  simp

theorem upgrade_eq_none (h : s.upgrade entry = none) (hCache : entry.cache = some cache) :
    s.strongCount cache = 0 := by
  by_contra hCount
  rw [upgrade_eq_some.2 ⟨hCache, by omega⟩] at h
  cases h

theorem retained_eq_some (h : s.retained root = some entry) : s.registry root = some entry :=
  (Option.filter_eq_some_iff.1 h).1

theorem retained_of_explicit (h : s.registry root = some entry)
    (hExplicit : entry.explicitlyConfigured = true) : s.retained root = some entry := by
  unfold SharedRamState.retained
  rw [h, Option.filter_some, hExplicit]
  rfl

theorem retained_of_upgrade (h : s.registry root = some entry)
    (hLive : s.upgrade entry = some cache) : s.retained root = some entry := by
  unfold SharedRamState.retained
  rw [h, Option.filter_some, hLive, Option.isSome_some, Bool.or_true]
  rfl

/-- A call in flight keeps its cache alive. -/
theorem strongCount_pos_of_pending (h : call ∈ s.pending) : 0 < s.strongCount call.cache := by
  have : 0 < s.pending.countP (·.cache = call.cache) :=
    List.countP_pos_iff.2 ⟨call, h, by simp⟩
  unfold SharedRamState.strongCount
  omega

theorem budgetBytes_evictRounds (rounds : Nat) (cache : RamFrameCache) :
    (cache.evictRounds rounds).budgetBytes = cache.budgetBytes := by
  induction rounds generalizing cache with
  | zero => rfl
  | succ rounds ih =>
      unfold RamFrameCache.evictRounds
      split
      · rfl
      · split
        · rfl
        · rw [ih]

@[simp] theorem budgetBytes_withBudget (cache : RamFrameCache) (call : PendingCall) :
    (SharedRamState.withBudget cache call).budgetBytes = call.budgetBytes := by
  unfold SharedRamState.withBudget
  cases call.kind with
  | shared =>
      by_cases h : cache.budgetBytes = call.budgetBytes
      · simp [h]
      · simp only [ne_eq, h, not_false_eq_true, if_true]
        exact budgetBytes_evictRounds _ _
  | configure => exact budgetBytes_evictRounds _ _

theorem mem_handlesAfter (h : cache ∈ s.handlesAfter call) :
    cache ∈ s.handles ∨ cache = call.cache := by
  unfold SharedRamState.handlesAfter at h
  cases hKind : call.kind with
  | configure =>
      rw [hKind] at h
      exact Or.inl h
  | shared =>
      rw [hKind] at h
      simpa using h

theorem count_handlesAfter (h : cache ≠ call.cache) :
    (s.handlesAfter call).count cache = s.handles.count cache := by
  unfold SharedRamState.handlesAfter
  cases call.kind with
  | configure => rfl
  | shared => simp [Ne.symm h]

end Sections

end FrameScope.Ports.SharedRam
