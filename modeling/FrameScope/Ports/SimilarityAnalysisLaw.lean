import FrameScope.Ports.SimilarityAnalysis
import FrameScope.Ports.SimilarityStoreLaw
import FrameScope.Ports.GlobalStoreLaw
import FrameScope.Ports.CompleteIndex

/-!
# Similarity analysis does not depend on its history

Each build reads the same frames and the same entries, so a build that comes to
its end writes what an undisturbed one writes.  The validation then looks at
the file alone.  Both entry points of the global store build one file.
-/

namespace FrameScope.Ports.SimilarityAnalysisLaw

open FrameScope.Verified.Fallible
open FrameScope.Verified.DerivedFile
open FrameScope.Ports.Core
open FrameScope.Ports.FrameIndexModel
open FrameScope.Ports.FrameIndexStore (FrameIndex)
open FrameScope.Ports.GroupNavigation (FrameGroup)
open FrameScope.Ports.Perceptual (HybridSimilarityPolicy)
open FrameScope.Ports.Grouping (HybridFrameGrouper)
open FrameScope.Ports.SimilarityStore (KeyJson SimilarityStoreKey SimilarityStoreLoad
  SimilarityStoreWriter StoreFile visitGroupsForFrameCount)
open FrameScope.Ports.GlobalDescriptors (GlobalSimilarityError GlobalDescriptor descriptorForFrame)
open FrameScope.Ports.GlobalStore (GlobalDatabase GlobalSimilarityStoreKey
  GlobalSimilarityStoreLoad GlobalSimilarityStoreWriter GlobalSimilarityPolicy)
open FrameScope.Ports.SimilarityAnalysis

/-! ## Callers of one source -/

section Callers

variable {source : IndexedSource} {faults : Faults} {ε δ F : Type}

/-- A check that passes is repeated by a call that is not cancelled. -/
theorem checkCancelled_simulates (point : CancelPoint) (cancelled : ε) (cancelled' : δ) :
    Simulates (SameVisible (F := F)) (checkCancelled (source.caller faults) point cancelled)
      (checkCancelled (source.caller noFaults) point cancelled') := by
  unfold checkCancelled
  cases (source.caller faults).isCancelled point with
  | true => exact Simulates.throw _ _
  | false => exact Simulates.refl_pure ()

theorem orFault_ok {fault : Option ε} {α : Type} {answer : Except ε α} {a : α}
    (h : orFault fault answer = .ok a) : answer = .ok a := by
  cases fault with
  | none => exact h
  | some error => cases h

theorem openSource_ok {u : Unit} (h : (source.caller faults).openSource = .ok u) :
    (source.caller noFaults).openSource = .ok u := orFault_ok h

theorem nextFrame_ok {i : Nat} {read : Option IndexedRgbaFrame}
    (h : (source.caller faults).nextFrame i = .ok read) :
    (source.caller noFaults).nextFrame i = .ok read := orFault_ok h

theorem wp_checkCancelled {caller : Caller} {point : CancelPoint} {cancelled : ε} {σ : Type}
    {Q : Unit → σ → Prop} {E : ε → σ → Prop} {s : σ} (hQ : Q () s) (hE : E cancelled s) :
    wp (checkCancelled caller point cancelled) Q E s := by
  unfold checkCancelled
  cases caller.isCancelled point with
  | true => exact hE
  | false => exact hQ

theorem wp_checkCancelled_of {caller : Caller} {point : CancelPoint} {cancelled : ε} {σ : Type}
    {Q : Unit → σ → Prop} {E : ε → σ → Prop} {s : σ}
    (hE : caller.isCancelled point = true → E cancelled s) (hQ : Q () s) :
    wp (checkCancelled caller point cancelled) Q E s := by
  unfold checkCancelled
  cases hCancelled : caller.isCancelled point with
  | true => exact hE hCancelled
  | false => exact hQ

theorem okOr_mapError {α : Type} {x : Option α} {e : ε} {e' : δ} {a : α}
    (h : okOr x e = .ok a) : okOr x e' = .ok a := okOr_eq_ok.2 (okOr_eq_ok.1 h)

/-- Writing beside the path. -/
theorem simulates_building (f : F) :
    Simulates SameVisible (modify fun files => { files with building := f } :
      EStateM ε (Files F) PUnit) (modify fun files => { files with building := f } :
      EStateM δ (Files F) PUnit) := Simulates.modify fun _ _ hSame => hSame

end Callers

/-- A program that leaves the path alone, however it ends. -/
def LeavesPath {ε F α : Type} (x : EStateM ε (Files F) α) : Prop :=
  ∀ s, wp x (fun _ s' => s'.visible = s.visible) (fun _ s' => s'.visible = s.visible) s

section LeavesPath

variable {ε δ F α β : Type}

theorem LeavesPath.bind {x : EStateM ε (Files F) α} {f : α → EStateM ε (Files F) β}
    (h : LeavesPath x) (hNext : ∀ a, LeavesPath (f a)) : LeavesPath (x >>= f) := by
  intro s
  rw [wp_bind]
  apply wp_mono (h s)
  · intro a s' hSame
    apply wp_mono (hNext a s')
    · intro b s'' hSame'
      exact hSame'.trans hSame
    · intro e s'' hSame'
      exact hSame'.trans hSame
  · intro e s' hSame
    exact hSame

theorem leavesPath_pure (a : α) : LeavesPath (pure a : EStateM ε (Files F) α) := fun _ => rfl

theorem leavesPath_ofExcept (f : δ → ε) (x : Except δ α) :
    LeavesPath (ofExcept f x : EStateM ε (Files F) α) := by
  intro s
  rw [wp_ofExcept]
  exact ⟨fun _ _ => rfl, fun _ _ => rfl⟩

theorem leavesPath_building (f : Files F → F) :
    LeavesPath (modify fun files => { files with building := f files } :
      EStateM ε (Files F) PUnit) := fun _ => rfl

theorem leavesPath_checkCancelled (caller : Caller) (point : CancelPoint) (cancelled : ε) :
    LeavesPath (checkCancelled caller point cancelled : EStateM ε (Files F) Unit) :=
  fun _ => wp_checkCancelled rfl rfl

/-- When only the last program touches the path, and only as it returns. -/
theorem LeavesPath.then_keeps {x : EStateM ε (Files F) α} {f : α → EStateM ε (Files F) β}
    (h : LeavesPath x) (hLast : ∀ a s, wp (f a) (fun _ _ => True)
      (fun _ s' => s'.visible = s.visible) s) (s : Files F) :
    wp (x >>= f) (fun _ _ => True) (fun _ s' => s'.visible = s.visible) s := by
  rw [wp_bind]
  apply wp_mono (h s)
  · intro a s' hSame
    apply wp_mono (hLast a s')
    · intro _ _ _
      trivial
    · intro e s'' hSame'
      exact hSame'.trans hSame
  · intro e s' hSame
    exact hSame

end LeavesPath

/-! ## The build of the groups -/

section Groups

variable {source : IndexedSource} {faults : Faults}

theorem appendCompleted_simulates (writer : SimilarityStoreWriter)
    (completed : Option FrameGroup) :
    Simulates SameVisible (appendCompleted writer completed)
      (appendCompleted writer completed) := by
  cases completed with
  | none => exact Simulates.refl_pure writer
  | some group =>
      exact (Simulates.ofExcept fun _ h => h).bind fun _ =>
        (simulates_building _).bind fun _ => Simulates.refl_pure _

theorem groupFrame_simulates (rawFrameId : Nat) (progress : GroupingProgress) :
    Simulates SameVisible
      (groupFrame source.index (source.caller faults) rawFrameId progress)
      (groupFrame source.index (source.caller noFaults) rawFrameId progress) := by
  unfold groupFrame
  apply (checkCancelled_simulates _ _ _).bind
  intro _
  apply (Simulates.ofExcept fun _ h => h).bind
  intro indexed
  apply (Simulates.ofExcept fun _ h => h).bind
  intro entry
  apply (Simulates.ofExcept fun _ h => nextFrame_ok h).bind
  intro read
  apply (Simulates.ofExcept fun _ h => h).bind
  intro sourceFrame
  apply (checkCancelled_simulates _ _ _).bind
  intro _
  apply (Simulates.ofExcept fun _ h => h).bind
  intro _
  apply (Simulates.ofExcept fun _ h => h).bind
  intro pushed
  apply (appendCompleted_simulates _ _).bind
  intro writer
  exact Simulates.refl_pure _

/-- By induction on the frames that remain. -/
theorem groupRemaining_simulates (remaining rawFrameId : Nat) (progress : GroupingProgress) :
    Simulates SameVisible
      (groupRemaining source.index (source.caller faults) remaining rawFrameId progress)
      (groupRemaining source.index (source.caller noFaults) remaining rawFrameId progress) := by
  induction remaining generalizing rawFrameId progress with
  | zero => exact Simulates.refl_pure progress
  | succ remaining ih =>
      unfold groupRemaining
      exact (groupFrame_simulates rawFrameId progress).bind fun progress => ih _ progress

theorem finishGroups_simulates (writer : SimilarityStoreWriter) :
    Simulates SameVisible (finishGroups writer) (finishGroups writer) := by
  unfold finishGroups
  apply (Simulates.ofExcept fun _ h => h).bind
  intro finished
  apply (Simulates.modify fun _ _ _ => show SameVisible _ _ from rfl).bind
  intro _
  exact Simulates.refl_pure _

theorem appendCompleted_leavesPath (writer : SimilarityStoreWriter)
    (completed : Option FrameGroup) : LeavesPath (appendCompleted writer completed) := by
  cases completed with
  | none => exact leavesPath_pure writer
  | some group =>
      exact (leavesPath_ofExcept _ _).bind fun _ =>
        (leavesPath_building _).bind fun _ => leavesPath_pure _

theorem groupFrame_leavesPath (index : FrameIndex) (caller : Caller) (rawFrameId : Nat)
    (progress : GroupingProgress) : LeavesPath (groupFrame index caller rawFrameId progress) := by
  unfold groupFrame
  apply (leavesPath_checkCancelled _ _ _).bind
  intro _
  apply (leavesPath_ofExcept _ _).bind
  intro indexed
  apply (leavesPath_ofExcept _ _).bind
  intro entry
  apply (leavesPath_ofExcept _ _).bind
  intro read
  apply (leavesPath_ofExcept _ _).bind
  intro sourceFrame
  apply (leavesPath_checkCancelled _ _ _).bind
  intro _
  apply (leavesPath_ofExcept _ _).bind
  intro _
  apply (leavesPath_ofExcept _ _).bind
  intro pushed
  apply (appendCompleted_leavesPath _ _).bind
  intro writer
  exact leavesPath_pure _

theorem groupRemaining_leavesPath (index : FrameIndex) (caller : Caller)
    (remaining rawFrameId : Nat) (progress : GroupingProgress) :
    LeavesPath (groupRemaining index caller remaining rawFrameId progress) := by
  induction remaining generalizing rawFrameId progress with
  | zero => exact leavesPath_pure progress
  | succ remaining ih =>
      unfold groupRemaining
      exact (groupFrame_leavesPath index caller rawFrameId progress).bind fun progress =>
        ih _ progress

theorem finishGroups_keeps (writer : SimilarityStoreWriter) (s : GroupFiles) :
    wp (finishGroups writer) (fun _ _ => True) (fun _ s' => s'.visible = s.visible) s := by
  unfold finishGroups
  rw [wp_bind, wp_ofExcept]
  exact ⟨fun _ _ => trivial, fun _ _ => rfl⟩

section Build

variable [KeyJson] {key : SimilarityStoreKey} {frameCount : Nat} {policy : HybridSimilarityPolicy}

theorem beginGroups_simulates (key : SimilarityStoreKey) :
    Simulates SameVisible (beginGroups key) (beginGroups key) :=
  (Simulates.ofExcept fun _ h => h).bind fun _ =>
    (simulates_building _).bind fun _ => Simulates.refl_pure _

theorem writeGroups_simulates :
    Simulates SameVisible
      (writeGroups source.index key frameCount policy (source.caller faults))
      (writeGroups source.index key frameCount policy (source.caller noFaults)) := by
  unfold writeGroups
  apply (checkCancelled_simulates _ _ _).bind
  intro _
  apply (Simulates.ofExcept fun _ h => openSource_ok h).bind
  intro _
  apply (beginGroups_simulates key).bind
  intro writer
  apply (Simulates.ofExcept fun _ h => h).bind
  intro grouper
  apply (groupRemaining_simulates frameCount 0 _).bind
  intro progress
  apply (checkCancelled_simulates _ _ _).bind
  intro _
  apply (Simulates.ofExcept fun _ h => nextFrame_ok h).bind
  intro tail
  apply (Simulates.ofExcept fun _ h => h).bind
  intro _
  apply (appendCompleted_simulates _ _).bind
  intro writer
  exact finishGroups_simulates writer

theorem beginGroups_leavesPath (key : SimilarityStoreKey) : LeavesPath (beginGroups key) :=
  (leavesPath_ofExcept _ _).bind fun _ =>
    (leavesPath_building _).bind fun _ => leavesPath_pure _

/-- A build that fails has not touched the path. -/
theorem writeGroups_keeps (index : FrameIndex) (caller : Caller) (s : GroupFiles) :
    wp (writeGroups index key frameCount policy caller) (fun _ _ => True)
      (fun _ s' => s'.visible = s.visible) s := by
  unfold writeGroups
  apply (leavesPath_checkCancelled _ _ _).then_keeps
  intro _
  apply (leavesPath_ofExcept _ _).then_keeps
  intro _
  apply (beginGroups_leavesPath key).then_keeps
  intro writer
  apply (leavesPath_ofExcept _ _).then_keeps
  intro grouper
  apply (groupRemaining_leavesPath index caller frameCount 0 _).then_keeps
  intro progress
  apply (leavesPath_checkCancelled _ _ _).then_keeps
  intro _
  apply (leavesPath_ofExcept _ _).then_keeps
  intro tail
  apply (leavesPath_ofExcept _ _).then_keeps
  intro _
  apply (appendCompleted_leavesPath _ _).then_keeps
  intro writer
  exact finishGroups_keeps writer

theorem writeGroups_faltering (source : IndexedSource) (faults : Faults) :
    Faltering (writeGroups source.index key frameCount policy (source.caller faults))
      (writeGroups source.index key frameCount policy (source.caller noFaults)) :=
  ⟨writeGroups_simulates, writeGroups_keeps _ _⟩

/-! ### What a file of groups is accepted for -/

/-- The validation of the groups. -/
def groupValidation (key : SimilarityStoreKey) (frameCount : Nat) :
    Validation GroupAnalysisError StoreFile SimilarityStoreLoad where
  missing := .missing
  look := fun file => (visitGroupsForFrameCount file key frameCount).outcome.mapError .store
  accepted := fun load => match load with
    | .reused count => some count
    | _ => none

/-- The counts that `openOrBuildGroups` compares. -/
def groupCounts : Counts GroupAnalysisError SimilarityStoreLoad :=
  ⟨fun count => .ok count, fun _ => .ok (), verifiedGroupCount⟩

/-- A visit that fails or is answered with `Reused` removes nothing; any other
removes the file, or found none. -/
def PurgeLaw (file : StoreFile) (visit : SimilarityStore.Visit) : Prop :=
  match visit.outcome with
  | .error _ => visit.purges = false
  | .ok (.reused _) => visit.purges = false
  | .ok _ => visit.purges = true ∨ file = .missing

omit [KeyJson] in
theorem visitTable_purgeLaw (file : StoreFile) (content : SimilarityStore.Database)
    (count : Nat) (frames : Option Nat) :
    PurgeLaw file (SimilarityStore.visitTable content count frames) := by
  unfold SimilarityStore.visitTable
  by_cases hCheck : content.quickCheck ≠ "ok"
  · rw [if_pos hCheck]
    exact Or.inl rfl
  rw [if_neg hCheck]
  cases content.similarityGroups with
  | none => rfl
  | some table =>
      dsimp only
      cases SimilarityStore.validateRows table count frames with
      | error error => rfl
      | ok accepted => cases accepted with
        | false => exact Or.inl rfl
        | true =>
            dsimp only
            cases (SimilarityStore.visitRows table.rows).2 with
            | none => rfl
            | some error => rfl

omit [KeyJson] in
theorem purge_purgeLaw (file : StoreFile) {load : SimilarityStoreLoad}
    (h : ∀ count, load ≠ .reused count) : PurgeLaw file (.purge load) := by
  cases load with
  | reused count => exact absurd rfl (h count)
  | missing => exact Or.inl rfl
  | invalidatedStale => exact Or.inl rfl
  | invalidatedIncomplete => exact Or.inl rfl
  | invalidatedCorrupt => exact Or.inl rfl

theorem visitGroups_purgeLaw (file : StoreFile) :
    PurgeLaw file (visitGroupsForFrameCount file key frameCount) := by
  unfold visitGroupsForFrameCount
  cases file with
  | missing => exact Or.inr rfl
  | empty => exact Or.inl rfl
  | noHeader => exact Or.inl rfl
  | unreadable => rfl
  | database content =>
      rw [SimilarityStoreLaw.visit_database]
      rcases SimilarityStoreLaw.visitDatabase_cases content key (some frameCount) with
        ⟨load, hVisit, hLoad⟩ | ⟨error, hVisit⟩ | ⟨count, hVisit⟩
      · rw [hVisit]
        exact purge_purgeLaw _ hLoad
      · rw [hVisit]
        rfl
      · rw [hVisit]
        exact visitTable_purgeLaw _ content count _

/-- The two ends of a visit once its record is known. -/
def endVisit (files : GroupFiles) (visit : SimilarityStore.Visit) :
    EStateM GroupAnalysisError GroupFiles SimilarityStoreLoad := do
  if visit.purges then set ({ files with visible := .missing } : GroupFiles)
  ofExcept .store visit.outcome

omit [KeyJson] in
theorem endVisit_refused {files : GroupFiles} {visit : SimilarityStore.Visit}
    {load : SimilarityStoreLoad} (hOutcome : visit.outcome = .ok load)
    (hPurge : visit.purges = true ∨ files.visible = .missing) :
    endVisit files visit files = .ok load { files with visible := .missing } := by
  unfold endVisit
  rw [hOutcome]
  cases hPurges : visit.purges with
  | true => rfl
  | false =>
      have hMissing := hPurge.resolve_left (by rw [hPurges]; simp)
      rw [← hMissing]
      rfl

/-- A visit of the store is a visit under its validation. -/
theorem visitGroups_eq (key : SimilarityStoreKey) (frameCount : Nat) :
    visitGroups key frameCount = (groupValidation key frameCount).visit := by
  funext files
  have hPurge : PurgeLaw files.visible (visitGroupsForFrameCount files.visible key frameCount) :=
    visitGroups_purgeLaw files.visible
  have hVisit : visitGroups key frameCount files =
      endVisit files (visitGroupsForFrameCount files.visible key frameCount) files := rfl
  rw [hVisit]
  unfold PurgeLaw at hPurge
  unfold Validation.visit groupValidation
  dsimp only
  cases hOutcome : (visitGroupsForFrameCount files.visible key frameCount).outcome with
  | error error =>
      simp only [hOutcome] at hPurge
      unfold endVisit
      rw [hPurge, hOutcome]
      rfl
  | ok load =>
      simp only [hOutcome] at hPurge
      cases load with
      | reused count =>
          unfold endVisit
          rw [hPurge, hOutcome]
          rfl
      | missing => exact endVisit_refused hOutcome hPurge
      | invalidatedStale => exact endVisit_refused hOutcome hPurge
      | invalidatedIncomplete => exact endVisit_refused hOutcome hPurge
      | invalidatedCorrupt => exact endVisit_refused hOutcome hPurge

theorem openOrBuildGroups_eq (index : FrameIndex) (caller : Caller) :
    openOrBuildGroups index key frameCount policy caller =
      (groupValidation key frameCount).openOrBuild
        (writeGroups index key frameCount policy caller) groupCounts := by
  unfold openOrBuildGroups Validation.openOrBuild
  rw [visitGroups_eq]
  congr 1
  funext load
  cases load with
  | reused count => rfl
  | missing => rfl
  | invalidatedStale => rfl
  | invalidatedIncomplete => rfl
  | invalidatedCorrupt => rfl

/-- What a database that is answered with `Reused` has in its metadata. -/
structure ReusedMeta (content : SimilarityStore.Database) (count : Nat) : Prop where
  version : content.userVersion = SimilarityStore.similarityStoreSchemaVersion
  row : ∃ row, content.similarityMeta = some (some row) ∧
    row.state = .integer SimilarityStore.stateComplete ∧ row.groupCount = .integer count

omit [KeyJson] in
theorem getI64_ok {value : SimilarityStore.SqlValue} {column : Nat} {v : Int}
    (h : value.getI64 column = .ok v) : value = .integer v := by
  cases value with
  | integer stored =>
      cases h
      rfl
  | null => cases h
  | real bits => cases h
  | text text => cases h
  | blob bytes => cases h

omit [KeyJson] in
theorem visitTable_reused {content : SimilarityStore.Database} {expected count : Nat}
    {frames : Option Nat}
    (h : (SimilarityStore.visitTable content expected frames).outcome = .ok (.reused count)) :
    count = expected := by
  unfold SimilarityStore.visitTable at h
  by_cases hCheck : content.quickCheck ≠ "ok"
  · rw [if_pos hCheck] at h
    cases h
  rw [if_neg hCheck] at h
  cases hTable : content.similarityGroups with
  | none =>
      rw [hTable] at h
      cases h
  | some table =>
      rw [hTable] at h
      dsimp only at h
      cases hValidate : SimilarityStore.validateRows table expected frames with
      | error error =>
          rw [hValidate] at h
          cases h
      | ok accepted =>
          rw [hValidate] at h
          cases accepted with
          | false => cases h
          | true =>
              dsimp only at h
              cases hServed : (SimilarityStore.visitRows table.rows).2 with
              | none =>
                  rw [hServed] at h
                  cases h
                  rfl
              | some error =>
                  rw [hServed] at h
                  cases h

/-- The metadata that a visit accepts. -/
theorem visitDatabase_reused {content : SimilarityStore.Database} {count : Nat}
    {frames : Option Nat}
    (h : (SimilarityStore.visitDatabase content key frames).outcome = .ok (.reused count)) :
    ReusedMeta content count := by
  unfold SimilarityStore.visitDatabase at h
  by_cases hVersion : content.userVersion = SimilarityStore.similarityStoreSchemaVersion
  swap
  · rw [if_pos hVersion] at h
    cases h
  rw [if_neg (not_not.2 hVersion)] at h
  cases hMeta : content.similarityMeta with
  | none =>
      rw [hMeta] at h
      cases h
  | some found => cases found with
    | none =>
        rw [hMeta] at h
        cases h
    | some row =>
        rw [hMeta] at h
        dsimp only at h
        cases hRead : SimilarityStore.readMeta row with
        | error error =>
            rw [hRead] at h
            cases h
        | ok columns =>
            rw [hRead] at h
            dsimp only at h
            obtain ⟨state, hState, hRead⟩ := bind_eq_ok.1 hRead
            obtain ⟨keyJson, -, hRead⟩ := bind_eq_ok.1 hRead
            obtain ⟨storedCount, hCount, hRead⟩ := bind_eq_ok.1 hRead
            cases hRead
            by_cases hComplete : state = SimilarityStore.stateComplete
            swap
            · rw [if_pos hComplete] at h
              cases h
            rw [if_neg (not_not.2 hComplete)] at h
            cases hParse : KeyJson.parse keyJson with
            | none =>
                rw [hParse] at h
                cases h
            | some persistedKey =>
                rw [hParse] at h
                dsimp only at h
                by_cases hKey : persistedKey = key.persisted
                swap
                · rw [if_pos hKey] at h
                  cases h
                rw [if_neg (not_not.2 hKey)] at h
                cases hStored : SimilarityStore.fromSqlU64 storedCount "stored group count" with
                | error error =>
                    rw [hStored] at h
                    cases h
                | ok stored =>
                    rw [hStored] at h
                    rw [visitTable_reused h]
                    refine ⟨hVersion, row, hMeta, ?_, ?_⟩
                    · rw [getI64_ok hState, hComplete]
                    · rw [getI64_ok hCount, SimilarityStoreLaw.fromSqlU64_eq_ok hStored]

theorem accepted_eq {load : SimilarityStoreLoad} {count : Nat}
    (h : (groupValidation key frameCount).accepted load = some count) :
    load = .reused count := by
  cases load with
  | reused found =>
      cases h
      rfl
  | missing => cases h
  | invalidatedStale => cases h
  | invalidatedIncomplete => cases h
  | invalidatedCorrupt => cases h

theorem accepts_database {file : StoreFile} {count : Nat}
    (h : (groupValidation key frameCount).Accepts file count) :
    ∃ content, file = .database content ∧ ReusedMeta content count := by
  obtain ⟨load, hLook, hAccepted⟩ := h
  rw [accepted_eq hAccepted] at hLook
  have hOutcome := mapError_eq_ok.1 hLook
  cases file with
  | missing => cases hOutcome
  | empty => cases hOutcome
  | noHeader => cases hOutcome
  | unreadable => cases hOutcome
  | database content =>
      unfold visitGroupsForFrameCount at hOutcome
      rw [SimilarityStoreLaw.visit_database] at hOutcome
      exact ⟨content, rfl, visitDatabase_reused hOutcome⟩

omit [KeyJson] in
/-- A navigator opens on a file that was accepted. -/
theorem openNavigator_accepted {content : SimilarityStore.Database} {count : Nat}
    (h : ReusedMeta content count) (policy : HybridSimilarityPolicy) :
    openNavigator (.database content) count policy = .ok ⟨content, count, policy⟩ := by
  obtain ⟨row, hMeta, hState, hCount⟩ := h.row
  have hFits : GroupNavigation.fromSqlU64 count "group count" = .ok count := by
    unfold GroupNavigation.fromSqlU64
    rw [if_pos (Int.natCast_nonneg count), Int.toNat_natCast]
  unfold openNavigator
  simp [StoreFile.connect, Except.mapError, ok_bind, h.version, ensure, okOr, hMeta, hState,
    hCount, SimilarityStore.SqlValue.getI64, hFits]

omit [KeyJson] in
theorem complete_meta {writer : SimilarityStoreWriter} {written : Nat}
    {content : SimilarityStore.Database} (h : writer.complete = .ok (written, content))
    {row : SimilarityStore.MetaRow} (hRow : content.similarityMeta = some (some row)) :
    row.groupCount = .integer written := by
  obtain ⟨flushed, hFlush, h⟩ := bind_eq_ok.1 h
  obtain ⟨count, hCount, h⟩ := bind_eq_ok.1 h
  obtain ⟨database, hUpdate, h⟩ := bind_eq_ok.1 h
  obtain ⟨table, hTable, hUpdate⟩ := bind_eq_ok.1 hUpdate
  cases h
  cases hUpdate
  have hMapped : table.map (fun row => { row with
      state := .integer SimilarityStore.stateComplete, groupCount := .integer count }) =
      some row := Option.some.inj hRow
  obtain ⟨before, -, hAfter⟩ := Option.map_eq_some_iff.1 hMapped
  rw [← hAfter, (SimilarityStoreLaw.toSqlU64_eq_ok.1 hCount).2]

/-- A build that comes to its end has put its own count in the metadata. -/
theorem writeGroups_published (index : FrameIndex) (caller : Caller) (s : GroupFiles) :
    wp (writeGroups index key frameCount policy caller)
      (fun written s' => ∃ writer content, SimilarityStoreWriter.complete writer =
        .ok (written, content) ∧ s'.visible = .database content)
      (fun _ _ => True) s := by
  unfold writeGroups
  apply wp_bind_of
  intro _ _
  apply wp_bind_of
  intro _ _
  apply wp_bind_of
  intro _ _
  apply wp_bind_of
  intro _ _
  apply wp_bind_of
  intro _ _
  apply wp_bind_of
  intro _ _
  apply wp_bind_of
  intro _ _
  apply wp_bind_of
  intro _ _
  apply wp_bind_of
  intro writer s'
  unfold finishGroups
  rw [wp_bind, wp_ofExcept]
  exact ⟨fun finished hFinished => ⟨writer, finished.2, hFinished, rfl⟩, fun _ _ => trivial⟩

theorem groups_confirm (source : IndexedSource) :
    Confirms (groupValidation key frameCount)
      (writeGroups source.index key frameCount policy (source.caller noFaults)) groupCounts where
  reuse_ok := fun _ _ _ => rfl
  wrote_ok := fun _ _ _ _ _ => rfl
  confirm_ok := by
    intro written load count hOk
    cases load with
    | reused found =>
        unfold groupCounts verifiedGroupCount at hOk
        dsimp only at hOk
        split_ifs at hOk
        cases hOk
        rfl
    | missing => cases hOk
    | invalidatedStale => cases hOk
    | invalidatedIncomplete => cases hOk
    | invalidatedCorrupt => cases hOk
  confirm_of := by
    intro written file load count hPublished hLook hAccepted
    obtain ⟨content, hFile, hMeta⟩ := accepts_database ⟨load, hLook, hAccepted⟩
    obtain ⟨row, hRow, -, hCount⟩ := hMeta.row
    obtain ⟨t, hRun, hVisible⟩ := hPublished
    obtain ⟨writer, content', hComplete, hPlaced⟩ :=
      wp_ok (writeGroups_published source.index (source.caller noFaults) _) hRun
    rw [hVisible, hFile] at hPlaced
    cases hPlaced
    rw [complete_meta hComplete hRow] at hCount
    have hSame : written = count := by simpa using hCount
    have hLoad : load = .reused count := accepted_eq hAccepted
    rw [hLoad]
    exact if_pos hSame.symm

/-! ### Calls for the groups -/

/-- The writer of a build that nothing disturbs. -/
def steadyGroups (source : IndexedSource) (policy : HybridSimilarityPolicy)
    (request : Nat × SimilarityStoreKey) : EStateM GroupAnalysisError GroupFiles Nat :=
  writeGroups source.index request.2 request.1 policy (source.caller noFaults)

/-- The path holds nothing, or what an undisturbed build writes. -/
def HoldsGroups (source : IndexedSource) (policy : HybridSimilarityPolicy) (files : GroupFiles) :
    Prop :=
  ∀ request, groupRequest source.index policy = .ok request →
    Holds .missing (steadyGroups source policy request) files

/-- A later call could reuse what stands at the path. -/
def ReusesGroups (source : IndexedSource) (policy : HybridSimilarityPolicy)
    (files : GroupFiles) : Prop :=
  ∃ faults analysis after, source.groupNavigation policy faults files = .ok analysis after ∧
    analysis.summary.disposition = .reused

/-- An undisturbed call over empty files returns the same groups. -/
def FreshGroups (source : IndexedSource) (policy : HybridSimilarityPolicy)
    (analysis : SimilarityGroupAnalysis) : Prop :=
  ∃ fresh files, source.groupNavigation policy noFaults ⟨.missing, .missing⟩ = .ok fresh files ∧
    fresh.navigator = analysis.navigator ∧
    fresh.summary.groupCount = analysis.summary.groupCount

theorem groupValidation_empty : (groupValidation key frameCount).Empty := ⟨.missing, rfl, rfl⟩

theorem reusesGroups_accepts {source : IndexedSource} {files : GroupFiles}
    (h : ReusesGroups source policy files) {request : Nat × SimilarityStoreKey}
    (hRequest : groupRequest source.index policy = .ok request) :
    ∃ count, (groupValidation request.2 request.1).Accepts files.visible count := by
  obtain ⟨faults, analysis, after, hRun, hReused⟩ := h
  unfold IndexedSource.groupNavigation openOrBuildGroupNavigation at hRun
  rw [hRequest] at hRun
  obtain ⟨_, _, hFirst, hRun⟩ := bind_ok_iff.1 hRun
  cases hFirst
  obtain ⟨counted, s', hCounted, hRun⟩ := bind_ok_iff.1 hRun
  obtain ⟨_, _, hGet, hRun⟩ := bind_ok_iff.1 hRun
  obtain ⟨navigator, _, -, hRun⟩ := bind_ok_iff.1 hRun
  cases hRun
  rw [openOrBuildGroups_eq] at hCounted
  have hPair : counted = (counted.1, .reused) := by rw [← hReused]
  rw [hPair] at hCounted
  exact openOrBuild_reused hCounted

/-- What an undisturbed call over empty files returns, from what its build
writes. -/
theorem groupNavigation_fresh {source : IndexedSource} {request : Nat × SimilarityStoreKey}
    (hRequest : groupRequest source.index policy = .ok request) {written count : Nat}
    {content : SimilarityStore.Database}
    (hPublished : Publishes .missing (steadyGroups source policy request) written
      (.database content))
    (hAccepts : (groupValidation request.2 request.1).Accepts (.database content) count) :
    ∃ files, source.groupNavigation policy noFaults ⟨.missing, .missing⟩ =
      .ok ⟨⟨count, .built, policy⟩, ⟨content, count, policy⟩⟩ files := by
  obtain ⟨t, hRun, hVisible⟩ := hPublished
  rw [← hVisible] at hAccepts
  have hCall := openOrBuild_fresh groupValidation_empty (groups_confirm source) hRun
    ⟨t, hRun, rfl⟩ hAccepts
  unfold steadyGroups at hCall
  rw [← openOrBuildGroups_eq] at hCall
  obtain ⟨content', hFile, hMeta⟩ := accepts_database hAccepts
  rw [hVisible] at hFile
  cases hFile
  refine ⟨t, ?_⟩
  unfold IndexedSource.groupNavigation openOrBuildGroupNavigation
  rw [hRequest]
  refine bind_ok_iff.2 ⟨request, _, rfl, ?_⟩
  refine bind_ok_iff.2 ⟨(count, .built), t, hCall, ?_⟩
  refine bind_ok_iff.2 ⟨t, t, rfl, ?_⟩
  rw [hVisible, openNavigator_accepted hMeta policy]
  rfl

/-- One call, on a path that holds nothing or an undisturbed build. -/
theorem wp_groupNavigation {source : IndexedSource} {faults : Faults} {files : GroupFiles}
    (hHolds : HoldsGroups source policy files) :
    wp (source.groupNavigation policy faults)
      (fun analysis after => HoldsGroups source policy after ∧ FreshGroups source policy analysis)
      (fun _ after => HoldsGroups source policy after ∧
        (ReusesGroups source policy after → after.visible = files.visible)) files := by
  cases hRequest : groupRequest source.index policy with
  | error error =>
      unfold IndexedSource.groupNavigation openOrBuildGroupNavigation
      rw [hRequest]
      exact ⟨hHolds, fun _ => rfl⟩
  | ok request =>
      have hOnly : ∀ s, Holds .missing (steadyGroups source policy request) s →
          HoldsGroups source policy s := by
        intro s hs other hOther
        rw [hRequest] at hOther
        cases hOther
        exact hs
      have hCall := wp_openOrBuild groupValidation_empty (groups_confirm source)
        (writeGroups_faltering source faults) (hHolds request hRequest)
      rw [← openOrBuildGroups_eq] at hCall
      unfold IndexedSource.groupNavigation openOrBuildGroupNavigation
      rw [hRequest, wp_bind, wp_ofExcept_ok, wp_bind]
      apply wp_mono hCall
      · intro counted after hAfter
        obtain ⟨⟨written, hPublished⟩, hAccepts⟩ := hAfter
        obtain ⟨content, hFile, hMeta⟩ := accepts_database hAccepts
        rw [wp_bind, wp_get, hFile, openNavigator_accepted hMeta policy]
        refine ⟨hOnly after (Or.inr ⟨written, hPublished⟩), ?_⟩
        rw [hFile] at hPublished hAccepts
        obtain ⟨t, hFresh⟩ := groupNavigation_fresh hRequest hPublished hAccepts
        exact ⟨_, t, hFresh, rfl, rfl⟩
      · intro error after hAfter
        refine ⟨hOnly after hAfter.1, ?_⟩
        intro hReuses
        obtain ⟨count, hAccepts⟩ := reusesGroups_accepts hReuses hRequest
        rw [hAfter.2 count hAccepts]

end Build

end Groups

/-! ## The build of the descriptors -/

section Descriptors

variable {source : IndexedSource} {faults : Faults} {ε δ : Type} {errors : BuildErrors ε}
  {errors' : BuildErrors δ} {stream : FrameIndexStreamIdentity}
  {entryAt : Nat → Except ε FrameIndexEntry} {entryAt' : Nat → Except δ FrameIndexEntry}
  {key : GlobalSimilarityStoreKey} {frameCount : Nat}

theorem appendGlobal_simulates (writer : GlobalSimilarityStoreWriter)
    (descriptor : GlobalDescriptor) :
    Simulates SameVisible (appendGlobal errors writer descriptor)
      (appendGlobal errors' writer descriptor) :=
  (Simulates.ofExcept fun _ h => h).bind fun _ =>
    (simulates_building _).bind fun _ => Simulates.refl_pure _

/-- A timeline that answers at least as often leads to the same descriptor. -/
theorem describeFrame_simulates
    (hEntries : ∀ i entry, entryAt i = .ok entry → entryAt' i = .ok entry) (rawFrameId : Nat)
    (writer : GlobalSimilarityStoreWriter) :
    Simulates SameVisible
      (describeFrame errors stream entryAt (source.caller faults) rawFrameId writer)
      (describeFrame errors' stream entryAt' (source.caller noFaults) rawFrameId writer) := by
  unfold describeFrame
  apply (checkCancelled_simulates _ _ _).bind
  intro _
  apply (Simulates.ofExcept fun _ h => hEntries _ _ h).bind
  intro entry
  apply (Simulates.ofExcept fun _ h => nextFrame_ok h).bind
  intro read
  apply (Simulates.ofExcept fun _ h => okOr_mapError h).bind
  intro sourceFrame
  apply (checkCancelled_simulates _ _ _).bind
  intro _
  apply (Simulates.ofExcept fun _ h => h).bind
  intro _
  exact appendGlobal_simulates _ _

theorem describeRemaining_simulates
    (hEntries : ∀ i entry, entryAt i = .ok entry → entryAt' i = .ok entry)
    (remaining rawFrameId : Nat) (writer : GlobalSimilarityStoreWriter) :
    Simulates SameVisible
      (describeRemaining errors stream entryAt (source.caller faults) remaining rawFrameId writer)
      (describeRemaining errors' stream entryAt' (source.caller noFaults) remaining rawFrameId
        writer) := by
  induction remaining generalizing rawFrameId writer with
  | zero => exact Simulates.refl_pure writer
  | succ remaining ih =>
      unfold describeRemaining
      exact (describeFrame_simulates hEntries rawFrameId writer).bind fun writer => ih _ writer

theorem beginGlobal_simulates (key : GlobalSimilarityStoreKey) :
    Simulates SameVisible (beginGlobal errors key) (beginGlobal errors' key) :=
  (Simulates.ofExcept fun _ h => h).bind fun _ =>
    (simulates_building _).bind fun _ => Simulates.refl_pure _

theorem finishGlobal_simulates (writer : GlobalSimilarityStoreWriter) :
    Simulates SameVisible (finishGlobal errors writer) (finishGlobal errors' writer) := by
  unfold finishGlobal
  apply (Simulates.ofExcept fun _ h => h).bind
  intro finished
  apply (Simulates.modify fun _ _ _ => show SameVisible _ _ from rfl).bind
  intro _
  exact Simulates.refl_pure _

theorem writeGlobal_simulates
    (hEntries : ∀ i entry, entryAt i = .ok entry → entryAt' i = .ok entry) :
    Simulates SameVisible
      (writeGlobal errors stream entryAt (source.caller faults) key frameCount)
      (writeGlobal errors' stream entryAt' (source.caller noFaults) key frameCount) := by
  unfold writeGlobal
  apply (checkCancelled_simulates _ _ _).bind
  intro _
  apply (Simulates.ofExcept fun _ h => openSource_ok h).bind
  intro _
  apply (beginGlobal_simulates key).bind
  intro writer
  apply (describeRemaining_simulates hEntries frameCount 0 writer).bind
  intro writer
  apply (checkCancelled_simulates _ _ _).bind
  intro _
  apply (Simulates.ofExcept fun _ h => nextFrame_ok h).bind
  intro tail
  apply (Simulates.ofExcept fun _ h => h).bind
  intro _
  apply (checkCancelled_simulates _ _ _).bind
  intro _
  exact finishGlobal_simulates writer

theorem describeFrame_leavesPath (caller : Caller) (rawFrameId : Nat)
    (writer : GlobalSimilarityStoreWriter) :
    LeavesPath (describeFrame errors stream entryAt caller rawFrameId writer) := by
  unfold describeFrame
  apply (leavesPath_checkCancelled _ _ _).bind
  intro _
  apply (leavesPath_ofExcept _ _).bind
  intro entry
  apply (leavesPath_ofExcept _ _).bind
  intro read
  apply (leavesPath_ofExcept _ _).bind
  intro sourceFrame
  apply (leavesPath_checkCancelled _ _ _).bind
  intro _
  apply (leavesPath_ofExcept _ _).bind
  intro _
  apply (leavesPath_ofExcept _ _).bind
  intro writer
  exact (leavesPath_building _).bind fun _ => leavesPath_pure _

theorem describeRemaining_leavesPath (caller : Caller) (remaining rawFrameId : Nat)
    (writer : GlobalSimilarityStoreWriter) :
    LeavesPath (describeRemaining errors stream entryAt caller remaining rawFrameId writer) := by
  induction remaining generalizing rawFrameId writer with
  | zero => exact leavesPath_pure writer
  | succ remaining ih =>
      unfold describeRemaining
      exact (describeFrame_leavesPath caller rawFrameId writer).bind fun writer => ih _ writer

theorem beginGlobal_leavesPath (key : GlobalSimilarityStoreKey) :
    LeavesPath (beginGlobal errors key) :=
  (leavesPath_ofExcept _ _).bind fun _ =>
    (leavesPath_building _).bind fun _ => leavesPath_pure _

theorem finishGlobal_keeps (writer : GlobalSimilarityStoreWriter) (s : GlobalFiles) :
    wp (finishGlobal errors writer) (fun _ _ => True) (fun _ s' => s'.visible = s.visible) s := by
  unfold finishGlobal
  rw [wp_bind, wp_ofExcept]
  exact ⟨fun _ _ => trivial, fun _ _ => rfl⟩

/-- A build that fails has not touched the path. -/
theorem writeGlobal_keeps (caller : Caller) (s : GlobalFiles) :
    wp (writeGlobal errors stream entryAt caller key frameCount) (fun _ _ => True)
      (fun _ s' => s'.visible = s.visible) s := by
  unfold writeGlobal
  apply (leavesPath_checkCancelled _ _ _).then_keeps
  intro _
  apply (leavesPath_ofExcept _ _).then_keeps
  intro _
  apply (beginGlobal_leavesPath key).then_keeps
  intro writer
  apply (describeRemaining_leavesPath caller frameCount 0 writer).then_keeps
  intro writer
  apply (leavesPath_checkCancelled _ _ _).then_keeps
  intro _
  apply (leavesPath_ofExcept _ _).then_keeps
  intro tail
  apply (leavesPath_ofExcept _ _).then_keeps
  intro _
  apply (leavesPath_checkCancelled _ _ _).then_keeps
  intro _
  exact finishGlobal_keeps writer

/-! ### What a build stores -/

/-- A round appends one descriptor, wherever it comes from. -/
theorem wp_describeFrame {caller : Caller} {rawFrameId : Nat}
    {writer : GlobalSimilarityStoreWriter} {written : List GlobalDescriptor} {s : GlobalFiles}
    (h : GlobalStoreLaw.Writes key writer written) :
    wp (describeFrame errors stream entryAt caller rawFrameId writer)
      (fun writer' _ => ∃ descriptor, GlobalStoreLaw.Writes key writer' (written ++ [descriptor]))
      (fun _ _ => True) s := by
  unfold describeFrame
  apply wp_bind_of
  intro _ _
  apply wp_bind_of
  intro entry _
  apply wp_bind_of
  intro _ _
  apply wp_bind_of
  intro sourceFrame _
  apply wp_bind_of
  intro _ _
  apply wp_bind_of
  intro _ s'
  unfold appendGlobal
  rw [wp_bind, wp_ofExcept]
  exact ⟨fun writer' hOk => ⟨_, h.append hOk⟩, fun _ _ => trivial⟩

/-- The loop appends one descriptor for each frame, by induction on the frames
that remain. -/
theorem wp_describeRemaining {caller : Caller} {remaining rawFrameId : Nat}
    {writer : GlobalSimilarityStoreWriter} {written : List GlobalDescriptor} {s : GlobalFiles}
    (h : GlobalStoreLaw.Writes key writer written) :
    wp (describeRemaining errors stream entryAt caller remaining rawFrameId writer)
      (fun writer' _ => ∃ descriptors, descriptors.length = written.length + remaining ∧
        GlobalStoreLaw.Writes key writer' descriptors)
      (fun _ _ => True) s := by
  induction remaining generalizing rawFrameId writer written s with
  | zero => exact ⟨written, rfl, h⟩
  | succ remaining ih =>
      unfold describeRemaining
      rw [wp_bind]
      apply wp_mono (wp_describeFrame h)
      · intro writer' s' hRound
        obtain ⟨descriptor, hWrites⟩ := hRound
        apply wp_mono (ih hWrites)
        · intro writer'' _ hRest
          obtain ⟨descriptors, hLength, hAll⟩ := hRest
          refine ⟨descriptors, ?_, hAll⟩
          rw [List.length_append, List.length_singleton] at hLength
          omega
        · intro _ _ _
          trivial
      · intro _ _ _
        trivial

/-- A path that a build has filled for a number of frames. -/
def StoresFrames (key : GlobalSimilarityStoreKey) (frameCount : Nat)
    (file : Option GlobalDatabase) : Prop :=
  ∃ descriptors, descriptors.length = frameCount ∧ frameCount < 2 ^ 63 ∧
    GlobalStoreLaw.Stored descriptors ∧
    file = some (GlobalStoreLaw.storedDatabase key GlobalStore.stateComplete frameCount descriptors)

theorem begin_writes {writer : GlobalSimilarityStoreWriter}
    (h : GlobalStore.begin key = .ok writer) : GlobalStoreLaw.Writes key writer [] := by
  obtain ⟨_, _, hEmpty⟩ := bind_eq_ok.1 h
  rw [← Except.ok.inj hEmpty]
  exact GlobalStoreLaw.writes_nothing key

/-- A build that comes to its end has stored one descriptor for each frame. -/
theorem wp_writeGlobal {caller : Caller} {s : GlobalFiles} :
    wp (writeGlobal errors stream entryAt caller key frameCount)
      (fun written s' => written = frameCount ∧ StoresFrames key frameCount s'.visible)
      (fun _ _ => True) s := by
  unfold writeGlobal
  apply wp_bind_of
  intro _ _
  apply wp_bind_of
  intro _ s'
  unfold beginGlobal
  rw [wp_bind, wp_bind, wp_ofExcept]
  refine ⟨?_, fun _ _ => trivial⟩
  intro writer hBegin
  rw [wp_bind, wp_modify, wp_pure, wp_bind]
  apply wp_mono (wp_describeRemaining (begin_writes hBegin))
  · intro writer' _ hAll
    obtain ⟨descriptors, hLength, hWrites⟩ := hAll
    rw [List.length_nil, Nat.zero_add] at hLength
    apply wp_bind_of
    intro _ _
    apply wp_bind_of
    intro _ _
    apply wp_bind_of
    intro _ _
    apply wp_bind_of
    intro _ _
    unfold finishGlobal
    rw [wp_bind, wp_ofExcept]
    refine ⟨?_, fun _ _ => trivial⟩
    intro finished hFinish
    obtain ⟨hStored, hFits, hCount, hDatabase⟩ := hWrites.finish_ok hFinish
    rw [hLength] at hFits hCount hDatabase
    refine ⟨hCount, descriptors, hLength, hFits, hStored, ?_⟩
    rw [← hDatabase]
  · intro _ _ _
    trivial

/-! ### What a file of descriptors is accepted for -/

/-- The validation of the global store. -/
def globalValidation (errors : BuildErrors ε) (key : GlobalSimilarityStoreKey)
    (frameCount : Nat) : Validation ε (Option GlobalDatabase) GlobalSimilarityStoreLoad where
  missing := none
  look := fun file => (GlobalStore.load file key frameCount).mapError errors.store
  accepted := fun load => match load with
    | .reused count => some count
    | _ => none

/-- The counts that `openOrBuildGlobal` compares. -/
def globalCounts (errors : BuildErrors ε) (frameCount : Nat) :
    Counts ε GlobalSimilarityStoreLoad where
  reuse := fun count => (checkReused errors frameCount count).map fun _ => count
  wrote := checkWritten errors frameCount
  confirm := fun _ load => (checkReopened errors frameCount load).map fun _ => frameCount

theorem globalAccepted_eq {load : GlobalSimilarityStoreLoad} {count : Nat}
    (h : (globalValidation errors key frameCount).accepted load = some count) :
    load = .reused count := by
  cases load with
  | reused found =>
      cases h
      rfl
  | missing => cases h
  | invalidatedStale => cases h
  | invalidatedIncomplete => cases h
  | invalidatedCorrupt => cases h

/-- A load refuses every count but the expected one. -/
theorem load_cases {database : GlobalDatabase} {load : GlobalSimilarityStoreLoad}
    (h : GlobalStore.load (some database) key frameCount = .ok load) :
    load = .reused frameCount ∨ purges load = true := by
  unfold GlobalStore.load at h
  dsimp only at h
  split at h
  · cases h
    exact Or.inr rfl
  split at h
  · cases h
    exact Or.inr rfl
  split at h
  · cases h
    exact Or.inr rfl
  split at h
  · cases h
    exact Or.inr rfl
  split at h
  · cases h
    exact Or.inr rfl
  obtain ⟨count, -, h⟩ := bind_eq_ok.1 h
  split at h
  · cases h
    exact Or.inr rfl
  rename_i hCount
  split at h
  · cases h
    exact Or.inr rfl
  obtain ⟨valid, -, h⟩ := bind_eq_ok.1 h
  rw [not_ne_iff.1 hCount] at h
  cases valid with
  | true =>
      cases h
      exact Or.inl rfl
  | false =>
      cases h
      exact Or.inr rfl

/-- The rest of a load once its answer is known. -/
def endLoad (errors : BuildErrors ε) (files : GlobalFiles)
    (answer : Except GlobalSimilarityError GlobalSimilarityStoreLoad) :
    EStateM ε GlobalFiles GlobalSimilarityStoreLoad := do
  let answer ← ofExcept errors.store answer
  if purges answer then set ({ files with visible := none } : GlobalFiles)
  pure answer

/-- A load of the store is a visit under its validation. -/
theorem loadGlobal_eq (errors : BuildErrors ε) (key : GlobalSimilarityStoreKey)
    (frameCount : Nat) :
    loadGlobal errors key frameCount = (globalValidation errors key frameCount).visit := by
  funext files
  have hLoadGlobal : loadGlobal errors key frameCount files =
      endLoad errors files (GlobalStore.load files.visible key frameCount) files := rfl
  rw [hLoadGlobal]
  cases hFile : files.visible with
  | none =>
      have hFiles : files = ⟨none, files.building⟩ := by rw [← hFile]
      rw [hFiles]
      rfl
  | some database =>
      unfold Validation.visit globalValidation
      dsimp only
      rw [hFile]
      cases hLoad : GlobalStore.load (some database) key frameCount with
      | error error => rfl
      | ok load =>
          rcases load_cases hLoad with rfl | hPurges
          · rfl
          · cases load with
            | missing => cases hPurges
            | reused count => cases hPurges
            | invalidatedStale => rfl
            | invalidatedIncomplete => rfl
            | invalidatedCorrupt => rfl

theorem globalAccepts_count {file : Option GlobalDatabase} {count : Nat}
    (h : (globalValidation errors key frameCount).Accepts file count) :
    GlobalStore.load file key frameCount = .ok (.reused frameCount) ∧ count = frameCount := by
  obtain ⟨load, hLook, hAccepted⟩ := h
  rw [globalAccepted_eq hAccepted] at hLook
  have hLoad := mapError_eq_ok.1 hLook
  cases file with
  | none => cases hLoad
  | some database =>
      rcases load_cases hLoad with hReused | hPurges
      · cases hReused
        exact ⟨hLoad, rfl⟩
      · cases hPurges

theorem ofExcept_map {α β ε' σ : Type} (f : ε' → ε) (g : α → β) (x : Except ε' α) :
    (ofExcept f (x.map g) : EStateM ε σ β) = (do
      let a ← ofExcept f x
      pure (g a)) := by
  cases x with
  | ok a => rfl
  | error e => rfl

theorem openOrBuildGlobal_eq (caller : Caller) :
    openOrBuildGlobal errors stream entryAt caller key frameCount = (do
      let counted ← (globalValidation errors key frameCount).openOrBuild
        (writeGlobal errors stream entryAt caller key frameCount) (globalCounts errors frameCount)
      pure counted.2) := by
  unfold openOrBuildGlobal Validation.openOrBuild
  rw [loadGlobal_eq, bind_assoc]
  congr 1
  funext load
  have hBuild : (do
      let written ← writeGlobal errors stream entryAt caller key frameCount
      ofExcept id (checkWritten errors frameCount written)
      let reopened ← (globalValidation errors key frameCount).visit
      ofExcept id (checkReopened errors frameCount reopened)
      pure Disposition.built) = (do
      let counted ← (do
        let written ← writeGlobal errors stream entryAt caller key frameCount
        ofExcept id ((globalCounts errors frameCount).wrote written)
        let again ← (globalValidation errors key frameCount).visit
        let count ← ofExcept id ((globalCounts errors frameCount).confirm written again)
        pure (count, Disposition.built))
      pure counted.2) := by
    simp only [globalCounts, ofExcept_map, bind_assoc, pure_bind]
  cases load with
  | reused count =>
      simp only [globalValidation, globalCounts, ofExcept_map, bind_assoc, pure_bind]
  | missing => exact hBuild
  | invalidatedStale => exact hBuild
  | invalidatedIncomplete => exact hBuild
  | invalidatedCorrupt => exact hBuild

/-- The writer of a build from the index that nothing disturbs. -/
def steadyGlobal (source : IndexedSource) (key : GlobalSimilarityStoreKey) (frameCount : Nat) :
    EStateM GlobalSimilarityNavigationError GlobalFiles Nat :=
  writeGlobal GlobalSimilarityNavigationError.build source.index.streamIdentity
    (indexedEntry source.index) (source.caller noFaults) key frameCount

theorem global_confirm (errors : BuildErrors ε) (source : IndexedSource) :
    Confirms (globalValidation errors key frameCount) (steadyGlobal source key frameCount)
      (globalCounts errors frameCount) where
  reuse_ok := by
    intro file count hAccepts
    rw [(globalAccepts_count hAccepts).2]
    show (checkReused errors frameCount frameCount).map _ = _
    unfold checkReused
    rw [ensure_true rfl]
    rfl
  wrote_ok := by
    intro written file count hPublished _
    obtain ⟨t, hRun, -⟩ := hPublished
    exact ensure_true (wp_ok wp_writeGlobal hRun).1
  confirm_ok := by
    intro written load count hOk
    obtain ⟨_, hReopened, hCount⟩ := map_eq_ok.1 hOk
    rw [ensure_eq_ok.1 hReopened, hCount]
    rfl
  confirm_of := by
    intro written file load count _ hLook hAccepted
    have hCount := (globalAccepts_count ⟨load, hLook, hAccepted⟩).2
    rw [globalAccepted_eq hAccepted, hCount]
    show (checkReopened errors frameCount (.reused frameCount)).map _ = _
    unfold checkReopened
    rw [ensure_true rfl]
    rfl

end Descriptors

/-! ## Both entry points of the global store -/

section EntryPoints

variable {source : IndexedSource} {faults : Faults} {i : Nat} {entry : FrameIndexEntry}

theorem decodeEntry_frameId {row : FrameIndexStore.FrameRow}
    (h : FrameIndexStore.decodeEntry row = .ok entry) : entry.frameId = row.frameIndex.toNat := by
  obtain ⟨frameId, hFrameId, h⟩ := bind_eq_ok.1 h
  obtain ⟨_, -, h⟩ := bind_eq_ok.1 h
  obtain ⟨_, -, h⟩ := bind_eq_ok.1 h
  obtain ⟨_, -, h⟩ := bind_eq_ok.1 h
  obtain ⟨_, -, h⟩ := bind_eq_ok.1 h
  obtain ⟨_, -, h⟩ := bind_eq_ok.1 h
  cases h
  unfold FrameIndexStore.sqlI64ToU64 at hFrameId
  split_ifs at hFrameId
  cases hFrameId
  rfl

theorem entry_frameId {index : FrameIndex} (h : index.entry i = .ok (some entry)) :
    entry.frameId = i := by
  obtain ⟨id, hId, h⟩ := bind_eq_ok.1 h
  have hSame := (FrameIndexStore.toSqlU64_eq_ok.1 hId).2
  cases hRow : index.connection.frameIndex.find? (·.frameIndex == id) with
  | none =>
      rw [hRow] at h
      cases h
  | some row =>
      rw [hRow] at h
      obtain ⟨loaded, hLoaded, hEntry⟩ := map_eq_ok.1 h
      have hKey : row.frameIndex = id := by simpa using List.find?_some hRow
      unfold FrameIndex.loadEntry at hLoaded
      cases hDecode : FrameIndexStore.decodeEntry row with
      | error error =>
          rw [hDecode] at hLoaded
          cases hLoaded
      | ok decoded =>
          rw [hDecode] at hLoaded
          obtain ⟨_, -, hValid⟩ := map_eq_ok.1 hLoaded
          cases hEntry
          rw [← hValid, decodeEntry_frameId hDecode, hKey, hSame, Int.toNat_natCast]

/-- The timeline of a session hands out what the index holds. -/
theorem providedEntry_indexed
    (h : providedEntry (source.entryForFrame faults) i = .ok entry) :
    indexedEntry source.index i = .ok entry := by
  obtain ⟨provided, hProvided, h⟩ := bind_eq_ok.1 h
  obtain ⟨found, hFound, h⟩ := bind_eq_ok.1 h
  obtain ⟨_, -, h⟩ := bind_eq_ok.1 h
  cases h
  have hEntry := mapError_eq_ok.1 (orFault_ok hProvided)
  rw [okOr_eq_ok.1 hFound] at hEntry
  exact bind_eq_ok.2 ⟨some entry, mapError_eq_ok.2 hEntry, rfl⟩

theorem indexedEntry_provided (h : indexedEntry source.index i = .ok entry) :
    providedEntry (source.entryForFrame noFaults) i = .ok entry := by
  obtain ⟨found, hFound, h⟩ := bind_eq_ok.1 h
  have hEntry := mapError_eq_ok.1 hFound
  rw [okOr_eq_ok.1 h] at hEntry
  refine bind_eq_ok.2 ⟨some entry, mapError_eq_ok.2 hEntry, ?_⟩
  refine bind_eq_ok.2 ⟨entry, rfl, ?_⟩
  exact bind_eq_ok.2 ⟨(), ensure_true (entry_frameId hEntry), rfl⟩

/-- The key of the global store of a source. -/
def globalKey (source : IndexedSource) : GlobalSimilarityStoreKey :=
  ⟨source.index.sourceIdentity, source.index.streamIdentity⟩

/-- The global path holds nothing, or what an undisturbed build writes. -/
def HoldsGlobal (source : IndexedSource) (files : GlobalFiles) : Prop :=
  Holds none (steadyGlobal source (globalKey source) source.frameCount) files

/-- A later call of either kind could reuse what stands at the global path. -/
def ReusesGlobal (source : IndexedSource) (files : GlobalFiles) : Prop :=
  (∃ faults analysis after, source.globalSimilarity faults files = .ok analysis after ∧
    analysis.summary.disposition = .reused) ∨
  ∃ targetFrame policy faults result after,
    source.timelineSimilarity targetFrame policy faults files = .ok result after ∧
      result.disposition = .reused

/-- A load accepts a file. -/
def Loads (source : IndexedSource) (file : Option GlobalDatabase) : Prop :=
  GlobalStore.load file (globalKey source) source.frameCount = .ok (.reused source.frameCount)

/-- The writer of a call from the index. -/
def indexWriter (source : IndexedSource) (faults : Faults) :
    EStateM GlobalSimilarityNavigationError GlobalFiles Nat :=
  writeGlobal GlobalSimilarityNavigationError.build source.index.streamIdentity
    (indexedEntry source.index) (source.caller faults) (globalKey source) source.frameCount

/-- The writer of a call over a timeline. -/
def timelineWriter (source : IndexedSource) (faults : Faults) :
    EStateM TimelineGlobalSimilarityError GlobalFiles Nat :=
  writeGlobal TimelineGlobalSimilarityError.build source.index.streamIdentity
    (providedEntry (source.entryForFrame faults)) (source.caller faults) (globalKey source)
    source.frameCount

theorem indexWriter_faltering (source : IndexedSource) (faults : Faults) :
    Faltering (indexWriter source faults)
      (steadyGlobal source (globalKey source) source.frameCount) :=
  ⟨writeGlobal_simulates fun _ _ h => h, writeGlobal_keeps _⟩

theorem timelineWriter_faltering (source : IndexedSource) (faults : Faults) :
    Faltering (timelineWriter source faults)
      (steadyGlobal source (globalKey source) source.frameCount) :=
  ⟨writeGlobal_simulates fun _ _ h => providedEntry_indexed h, writeGlobal_keeps _⟩

/-- Undisturbed, the timeline's writer writes what the index's does. -/
theorem timelineWriter_publishes {written : Nat} {file : Option GlobalDatabase}
    (h : Publishes none (steadyGlobal source (globalKey source) source.frameCount) written file) :
    Publishes none (timelineWriter source noFaults) written file := by
  obtain ⟨t, hRun, hVisible⟩ := h
  have hRepeats : Simulates SameVisible
      (steadyGlobal source (globalKey source) source.frameCount)
      (timelineWriter source noFaults) :=
    writeGlobal_simulates fun _ _ h => indexedEntry_provided h
  obtain ⟨t', hRun', hSame⟩ := hRepeats _ ⟨none, none⟩ rfl _ _ hRun
  exact ⟨t', hRun', hSame.symm.trans hVisible⟩

/-! ### The store during a call -/

section Call

variable {ε : Type} {errors : BuildErrors ε} {file : Option GlobalDatabase}
  {write : EStateM ε GlobalFiles Nat}

/-- The validation under the key of the source. -/
abbrev sourceValidation (errors : BuildErrors ε) (source : IndexedSource) :
    Validation ε (Option GlobalDatabase) GlobalSimilarityStoreLoad :=
  globalValidation errors (globalKey source) source.frameCount

theorem accepts_of_loads (errors : BuildErrors ε) (h : Loads source file) :
    (sourceValidation errors source).Accepts file source.frameCount :=
  ⟨.reused source.frameCount, mapError_eq_ok.2 h, rfl⟩

theorem sourceValidation_empty : (sourceValidation errors source).Empty := ⟨.missing, rfl, rfl⟩

/-- The store after a call that was let through, and after one that failed. -/
theorem wp_openOrBuildGlobal
    {entryAt : Nat → Except ε FrameIndexEntry} {caller : Caller}
    (hWrite : Faltering (writeGlobal errors source.index.streamIdentity entryAt caller
      (globalKey source) source.frameCount)
      (steadyGlobal source (globalKey source) source.frameCount))
    {files : GlobalFiles} (hHolds : HoldsGlobal source files) :
    wp (openOrBuildGlobal errors source.index.streamIdentity entryAt caller (globalKey source)
        source.frameCount)
      (fun _ after => Loads source after.visible ∧ ∃ written, Publishes none
        (steadyGlobal source (globalKey source) source.frameCount) written after.visible)
      (fun _ after => HoldsGlobal source after ∧
        (Loads source after.visible → after.visible = files.visible)) files := by
  rw [openOrBuildGlobal_eq, wp_bind]
  apply wp_mono (wp_openOrBuild sourceValidation_empty (global_confirm errors source) hWrite hHolds)
  · intro counted after hAfter
    exact ⟨(globalAccepts_count hAfter.2).1, hAfter.1⟩
  · intro error after hAfter
    refine ⟨hAfter.1, ?_⟩
    intro hLoads
    rw [hAfter.2 _ (accepts_of_loads errors hLoads)]

/-- A call that reuses the store has loaded it. -/
theorem openOrBuildGlobal_reused {entryAt : Nat → Except ε FrameIndexEntry} {caller : Caller}
    {files after : GlobalFiles}
    (h : openOrBuildGlobal errors source.index.streamIdentity entryAt caller (globalKey source)
      source.frameCount files = .ok .reused after) : Loads source files.visible := by
  rw [openOrBuildGlobal_eq] at h
  obtain ⟨counted, s', hCounted, h⟩ := bind_ok_iff.1 h
  have hPure : EStateM.Result.ok counted.2 s' = .ok Disposition.reused after := h
  have hReused : counted.2 = .reused := (EStateM.Result.ok.inj hPure).1
  have hPair : counted = (counted.1, .reused) := by rw [← hReused]
  rw [hPair] at hCounted
  obtain ⟨found, hAccepts⟩ := openOrBuild_reused hCounted
  exact (globalAccepts_count hAccepts).1

/-- Over empty files, the store is built. -/
theorem openOrBuildGlobal_fresh {entryAt : Nat → Except ε FrameIndexEntry} {caller : Caller}
    (hWrite : Faltering (writeGlobal errors source.index.streamIdentity entryAt
      caller (globalKey source) source.frameCount)
      (steadyGlobal source (globalKey source) source.frameCount)) {written : Nat}
    (hPublished : Publishes none (writeGlobal errors source.index.streamIdentity entryAt
      caller (globalKey source) source.frameCount) written file)
    (hLoads : Loads source file) :
    ∃ files, openOrBuildGlobal errors source.index.streamIdentity entryAt caller
      (globalKey source) source.frameCount ⟨none, none⟩ = .ok .built files ∧
      files.visible = file := by
  obtain ⟨t, hRun, hVisible⟩ := hPublished
  rw [← hVisible] at hLoads
  have hCall := openOrBuild_fresh sourceValidation_empty (global_confirm errors source) hRun
    (hWrite.publishes (v := sourceValidation errors source) rfl hRun)
    (accepts_of_loads errors hLoads)
  refine ⟨t, ?_, hVisible⟩
  rw [openOrBuildGlobal_eq]
  exact bind_ok_iff.2 ⟨_, t, hCall, rfl⟩

/-- A query of a store that a load accepts. -/
theorem queryGlobal_loads {files : GlobalFiles} (hLoads : Loads source files.visible)
    (targetFrame : Nat) (policy : GlobalSimilarityPolicy) :
    queryGlobal errors (globalKey source) source.frameCount targetFrame policy files =
      ofExcept errors.store (GlobalStore.query files.visible (globalKey source) source.frameCount
        targetFrame policy) files := by
  obtain ⟨load, hLook, hAccepted, hVisit⟩ := visit_accepts (accepts_of_loads errors hLoads)
  rw [globalAccepted_eq hAccepted, ← loadGlobal_eq] at hVisit
  unfold queryGlobal GlobalStore.query
  unfold Loads at hLoads
  cases hPolicy : policy.validate with
  | error error => rfl
  | ok valid =>
      rw [hLoads]
      cases hFile : files.visible with
      | none =>
          rw [hFile] at hLoads
          cases hLoads
      | some database =>
          show (loadGlobal errors (globalKey source) source.frameCount >>= _) files = _
          rw [bind_of_ok hVisit]
          show (ofExcept errors.store (okOr files.visible _) >>= _) files = _
          rw [hFile]
          rfl

/-- A query of what a build has stored is answered. -/
theorem query_answers (hStores : StoresFrames (globalKey source) source.frameCount file)
    (hLoads : Loads source file) {targetFrame : Nat} (hTarget : targetFrame < source.frameCount)
    {policy valid : GlobalSimilarityPolicy} (hPolicy : policy.validate = .ok valid) :
    ∃ answer, GlobalStore.query file (globalKey source) source.frameCount targetFrame policy =
      .ok answer := by
  obtain ⟨descriptors, hLength, hFits, hStored, rfl⟩ := hStores
  have hSame : policy = valid := by
    obtain ⟨_, -, hOk⟩ := bind_eq_ok.1 hPolicy
    obtain ⟨_, -, hOk⟩ := bind_eq_ok.1 hOk
    exact Except.ok.inj hOk
  have hDatabase : ∃ answer, GlobalStore.queryDatabase (GlobalStoreLaw.storedDatabase
      (globalKey source) GlobalStore.stateComplete source.frameCount descriptors)
      source.frameCount targetFrame valid = .ok answer := by
    rw [← hLength] at hTarget hFits ⊢
    rw [GlobalStoreLaw.queryDatabase_naive hStored hFits, ensure_true (by omega), ok_bind,
      List.getElem?_eq_getElem hTarget]
    exact ⟨_, rfl⟩
  obtain ⟨answer, hAnswer⟩ := hDatabase
  refine ⟨answer, ?_⟩
  unfold GlobalStore.query
  rw [hPolicy, ok_bind, hLoads, ok_bind]
  exact hAnswer

end Call

/-! ### Calls for the global store -/

theorem globalRequest_eq (source : IndexedSource) :
    globalRequest source.index = (do
      ensure (source.index.sourceIdentity.isReuseSafe = true) .unsafeSourceIdentity
      .ok (source.frameCount, globalKey source)) := by
  unfold globalRequest GlobalSimilarityStoreKey.new
  rw [source.complete]
  by_cases hSafe : source.index.sourceIdentity.isReuseSafe = true
  · rw [ensure_true hSafe]
    simp only [ensure_true hSafe]
    rfl
  · rw [ensure_false hSafe]
    rfl

theorem timelineRequest_ok {targetFrame : Nat} {key : GlobalSimilarityStoreKey}
    (h : timelineRequest source.index.sourceIdentity source.index.streamIdentity
      source.frameCount targetFrame = .ok key) :
    source.index.sourceIdentity.isReuseSafe = true ∧ targetFrame < source.frameCount ∧
      key = globalKey source := by
  obtain ⟨_, hSafe, h⟩ := bind_eq_ok.1 h
  obtain ⟨_, hTarget, h⟩ := bind_eq_ok.1 h
  obtain ⟨_, -, hKey⟩ := bind_eq_ok.1 (mapError_eq_ok.1 h)
  exact ⟨ensure_eq_ok.1 hSafe, ensure_eq_ok.1 hTarget, (Except.ok.inj hKey).symm⟩

/-- The file that an undisturbed call over empty files leaves. -/
def FreshFile (source : IndexedSource) (file : Option GlobalDatabase) : Prop :=
  ∃ analysis files, source.globalSimilarity noFaults ⟨none, none⟩ = .ok analysis files ∧
    files.visible = file

/-- An undisturbed call over empty files lets the same queries through. -/
def FreshGlobal (source : IndexedSource) (analysis : GlobalSimilarityAnalysis)
    (files : GlobalFiles) : Prop :=
  ∃ fresh freshFiles, source.globalSimilarity noFaults ⟨none, none⟩ = .ok fresh freshFiles ∧
    fresh.navigator = analysis.navigator ∧
    ∀ targetFrame policy, outcome (fresh.navigator.query targetFrame policy freshFiles) =
      outcome (analysis.navigator.query targetFrame policy files)

/-- An undisturbed call over empty files answers the same. -/
def FreshTimeline (source : IndexedSource) (targetFrame : Nat) (policy : GlobalSimilarityPolicy)
    (result : TimelineGlobalSimilarityResult) : Prop :=
  ∃ fresh freshFiles,
    source.timelineSimilarity targetFrame policy noFaults ⟨none, none⟩ = .ok fresh freshFiles ∧
    fresh.query = result.query ∧ fresh.descriptorCount = result.descriptorCount

theorem globalSimilarity_fresh (hSafe : source.index.sourceIdentity.isReuseSafe = true)
    {file : Option GlobalDatabase} (hLoads : Loads source file) {written : Nat}
    (hPublished : Publishes none (steadyGlobal source (globalKey source) source.frameCount)
      written file) :
    ∃ files, source.globalSimilarity noFaults ⟨none, none⟩ =
      .ok ⟨⟨source.frameCount, .built⟩, ⟨globalKey source, source.frameCount⟩⟩ files ∧
      files.visible = file := by
  obtain ⟨t, hCall, hVisible⟩ := openOrBuildGlobal_fresh (indexWriter_faltering source noFaults)
    hPublished hLoads
  refine ⟨t, ?_, hVisible⟩
  unfold IndexedSource.globalSimilarity openOrBuildGlobalSimilarity
  rw [globalRequest_eq, ensure_true hSafe, ok_bind]
  refine bind_ok_iff.2 ⟨(source.frameCount, globalKey source), _, rfl, ?_⟩
  exact bind_ok_iff.2 ⟨.built, t, hCall, rfl⟩

/-- The answer of a navigator over a store that a load accepts. -/
theorem query_outcome {files : GlobalFiles} (hLoads : Loads source files.visible)
    (targetFrame : Nat) (policy : GlobalSimilarityPolicy) :
    outcome (GlobalSimilarityNavigator.query ⟨globalKey source, source.frameCount⟩ targetFrame
        policy files) = (do
      ensure (targetFrame < source.frameCount)
        (.frameOutsideIndex targetFrame source.frameCount)
      (GlobalStore.query files.visible (globalKey source) source.frameCount targetFrame
        policy).mapError .store) := by
  unfold GlobalSimilarityNavigator.query
  by_cases hTarget : targetFrame < source.frameCount
  · rw [ensure_true hTarget, ok_bind, ← outcome_ofExcept]
    exact congrArg outcome (queryGlobal_loads hLoads targetFrame policy)
  · rw [ensure_false hTarget]
    rfl

/-- The store that a call of either kind has let through. -/
structure Settled (source : IndexedSource) (files : GlobalFiles) : Prop where
  safe : source.index.sourceIdentity.isReuseSafe = true
  loads : Loads source files.visible
  published : ∃ written, Publishes none
    (steadyGlobal source (globalKey source) source.frameCount) written files.visible

theorem Settled.holds {files : GlobalFiles} (h : Settled source files) :
    HoldsGlobal source files := Or.inr h.published

theorem Settled.fresh {files : GlobalFiles} (h : Settled source files) :
    ∃ t, source.globalSimilarity noFaults ⟨none, none⟩ =
      .ok ⟨⟨source.frameCount, .built⟩, ⟨globalKey source, source.frameCount⟩⟩ t ∧
      t.visible = files.visible := by
  obtain ⟨written, hPublished⟩ := h.published
  exact globalSimilarity_fresh h.safe h.loads hPublished

/-- One call from the index. -/
theorem wp_globalSimilarity {files : GlobalFiles} (hHolds : HoldsGlobal source files) :
    wp (source.globalSimilarity faults)
      (fun analysis after => Settled source after ∧
        analysis.navigator = ⟨globalKey source, source.frameCount⟩)
      (fun _ after => HoldsGlobal source after ∧
        (Loads source after.visible → after.visible = files.visible)) files := by
  unfold IndexedSource.globalSimilarity openOrBuildGlobalSimilarity
  rw [globalRequest_eq]
  by_cases hSafe : source.index.sourceIdentity.isReuseSafe = true
  · rw [ensure_true hSafe, ok_bind, wp_bind, wp_ofExcept_ok, wp_bind]
    apply wp_mono (wp_openOrBuildGlobal (indexWriter_faltering source faults) hHolds)
    · intro disposition after hAfter
      exact ⟨⟨hSafe, hAfter.1, hAfter.2⟩, rfl⟩
    · intro error after hAfter
      exact hAfter
  · rw [ensure_false hSafe]
    exact ⟨hHolds, fun _ => rfl⟩

theorem Settled.freshGlobal {files : GlobalFiles} (h : Settled source files)
    {analysis : GlobalSimilarityAnalysis}
    (hNavigator : analysis.navigator = ⟨globalKey source, source.frameCount⟩) :
    FreshGlobal source analysis files := by
  obtain ⟨t, hFresh, hVisible⟩ := h.fresh
  refine ⟨_, t, hFresh, hNavigator.symm, ?_⟩
  intro targetFrame policy
  have hLoads := h.loads
  rw [← hVisible] at hLoads
  rw [hNavigator, query_outcome hLoads targetFrame policy,
    query_outcome h.loads targetFrame policy, hVisible]

/-- A timeline call is cancelled at its last check, or its policy is refused. -/
def StopsLate (faults : Faults) (policy : GlobalSimilarityPolicy) : Prop :=
  faults.cancelledAt .beforeQuery = true ∨ ∃ error, policy.validate = .error error

theorem stores_of_publishes {file : Option GlobalDatabase} {written : Nat}
    (h : Publishes none (steadyGlobal source (globalKey source) source.frameCount) written file) :
    StoresFrames (globalKey source) source.frameCount file := by
  obtain ⟨t, hRun, hVisible⟩ := h
  rw [← hVisible]
  exact (wp_ok wp_writeGlobal hRun).2

/-- What a timeline call has let through answers its query. -/
structure Answered (source : IndexedSource) (targetFrame : Nat) (policy : GlobalSimilarityPolicy)
    (answer : GlobalStore.GlobalSimilarityQuery) (files : GlobalFiles) : Prop where
  settled : Settled source files
  target : targetFrame < source.frameCount
  query : GlobalStore.query files.visible (globalKey source) source.frameCount targetFrame policy =
    .ok answer

theorem timelineRequest_of (hSafe : source.index.sourceIdentity.isReuseSafe = true)
    {targetFrame : Nat} (hTarget : targetFrame < source.frameCount) :
    timelineRequest source.index.sourceIdentity source.index.streamIdentity source.frameCount
      targetFrame = .ok (globalKey source) := by
  unfold timelineRequest GlobalSimilarityStoreKey.new
  simp only [ensure_true hSafe, ensure_true hTarget, ok_bind]
  rfl

theorem Answered.freshTimeline {targetFrame : Nat} {policy : GlobalSimilarityPolicy}
    {answer : GlobalStore.GlobalSimilarityQuery} {files : GlobalFiles}
    (h : Answered source targetFrame policy answer files) :
    ∃ t, source.timelineSimilarity targetFrame policy noFaults ⟨none, none⟩ =
      .ok ⟨.built, source.frameCount, answer⟩ t := by
  obtain ⟨written, hPublished⟩ := h.settled.published
  obtain ⟨t, hCall, hVisible⟩ := openOrBuildGlobal_fresh (timelineWriter_faltering source noFaults)
    (timelineWriter_publishes hPublished) h.settled.loads
  have hLoads := h.settled.loads
  have hAnswer := h.query
  rw [← hVisible] at hLoads hAnswer
  refine ⟨t, ?_⟩
  unfold IndexedSource.timelineSimilarity openOrBuildAndQueryWithTimeline
  rw [timelineRequest_of h.settled.safe h.target]
  refine bind_ok_iff.2 ⟨globalKey source, _, rfl, ?_⟩
  refine bind_ok_iff.2 ⟨.built, t, hCall, ?_⟩
  refine bind_ok_iff.2 ⟨(), t, rfl, ?_⟩
  refine bind_ok_iff.2 ⟨answer, t, ?_, rfl⟩
  rw [queryGlobal_loads hLoads targetFrame policy, hAnswer]
  rfl

/-- One call over the timeline. -/
theorem wp_timelineSimilarity {files : GlobalFiles} {targetFrame : Nat}
    {policy : GlobalSimilarityPolicy} (hHolds : HoldsGlobal source files) :
    wp (source.timelineSimilarity targetFrame policy faults)
      (fun result after => Answered source targetFrame policy result.query after ∧
        result.descriptorCount = source.frameCount)
      (fun _ after => HoldsGlobal source after ∧ (Loads source after.visible →
        after.visible = files.visible ∨
          StopsLate faults policy ∧ FreshFile source after.visible)) files := by
  unfold IndexedSource.timelineSimilarity openOrBuildAndQueryWithTimeline
  cases hRequest : timelineRequest source.index.sourceIdentity source.index.streamIdentity
      source.frameCount targetFrame with
  | error error => exact ⟨hHolds, fun _ => Or.inl rfl⟩
  | ok key =>
      obtain ⟨hSafe, hTarget, rfl⟩ := timelineRequest_ok hRequest
      rw [wp_bind, wp_ofExcept_ok, wp_bind]
      apply wp_mono (wp_openOrBuildGlobal (timelineWriter_faltering source faults) hHolds)
      · intro disposition after hAfter
        have hSettled : Settled source after := ⟨hSafe, hAfter.1, hAfter.2⟩
        obtain ⟨t, hFresh, hVisible⟩ := hSettled.fresh
        have hFile : FreshFile source after.visible := ⟨_, t, hFresh, hVisible⟩
        rw [wp_bind]
        apply wp_checkCancelled_of
        · intro hCancelled
          exact ⟨hSettled.holds, fun _ => Or.inr ⟨Or.inl hCancelled, hFile⟩⟩
        · rw [wp_bind, wp_congr (queryGlobal_loads hAfter.1 targetFrame policy), wp_ofExcept]
          constructor
          · intro answer hAnswer
            exact ⟨⟨hSettled, hTarget, hAnswer⟩, rfl⟩
          · intro error hError
            refine ⟨hSettled.holds, fun _ => Or.inr ⟨Or.inr ?_, hFile⟩⟩
            cases hPolicy : policy.validate with
            | error refusal => exact ⟨refusal, rfl⟩
            | ok valid =>
                obtain ⟨written, hPublished⟩ := hAfter.2
                obtain ⟨answer, hAnswer⟩ :=
                  query_answers (stores_of_publishes hPublished) hAfter.1 hTarget hPolicy
                rw [hAnswer] at hError
                cases hError
      · intro error after hAfter
        exact ⟨hAfter.1, fun hLoads => Or.inl (hAfter.2 hLoads)⟩

/-- A later call that reuses a file has loaded it. -/
theorem reusesGlobal_loads {files : GlobalFiles} (h : ReusesGlobal source files) :
    Loads source files.visible := by
  rcases h with ⟨faults, analysis, after, hRun, hReused⟩ |
    ⟨targetFrame, policy, faults, result, after, hRun, hReused⟩
  · unfold IndexedSource.globalSimilarity openOrBuildGlobalSimilarity at hRun
    obtain ⟨request, s, hFirst, hRun⟩ := bind_ok_iff.1 hRun
    obtain ⟨hRequest, hState⟩ := ofExcept_ok_iff.1 hFirst
    rw [globalRequest_eq] at hRequest
    obtain ⟨_, -, hRequest⟩ := bind_eq_ok.1 hRequest
    cases hRequest
    rw [hState] at hRun
    obtain ⟨disposition, _, hCall, hRun⟩ := bind_ok_iff.1 hRun
    cases hRun
    cases hReused
    exact openOrBuildGlobal_reused hCall
  · unfold IndexedSource.timelineSimilarity openOrBuildAndQueryWithTimeline at hRun
    obtain ⟨key, s, hFirst, hRun⟩ := bind_ok_iff.1 hRun
    obtain ⟨hRequest, hState⟩ := ofExcept_ok_iff.1 hFirst
    obtain ⟨-, -, hKey⟩ := timelineRequest_ok hRequest
    rw [hState, hKey] at hRun
    obtain ⟨disposition, _, hCall, hRun⟩ := bind_ok_iff.1 hRun
    obtain ⟨_, _, -, hRun⟩ := bind_ok_iff.1 hRun
    obtain ⟨answer, _, -, hRun⟩ := bind_ok_iff.1 hRun
    cases hRun
    cases hReused
    exact openOrBuildGlobal_reused hCall

/-- Over empty files both entry points answer alike. -/
theorem fresh_answers_agree (source : IndexedSource) (targetFrame : Nat)
    (policy : GlobalSimilarityPolicy) (answer : GlobalStore.GlobalSimilarityQuery) :
    (∃ result files, source.timelineSimilarity targetFrame policy noFaults ⟨none, none⟩ =
      .ok result files ∧ result.query = answer) ↔
    ∃ analysis files, source.globalSimilarity noFaults ⟨none, none⟩ = .ok analysis files ∧
      outcome (analysis.navigator.query targetFrame policy files) = .ok answer := by
  constructor
  · rintro ⟨result, files, hRun, rfl⟩
    obtain ⟨hAnswered, -⟩ := wp_ok (wp_timelineSimilarity (Or.inl rfl)) hRun
    obtain ⟨t, hFresh, hVisible⟩ := hAnswered.settled.fresh
    have hLoads := hAnswered.settled.loads
    rw [← hVisible] at hLoads
    refine ⟨_, t, hFresh, ?_⟩
    rw [query_outcome hLoads, ensure_true hAnswered.target, ok_bind, hVisible, hAnswered.query]
    rfl
  · rintro ⟨analysis, files, hRun, hAnswer⟩
    obtain ⟨hSettled, hNavigator⟩ := wp_ok (wp_globalSimilarity (Or.inl rfl)) hRun
    rw [hNavigator, query_outcome hSettled.loads] at hAnswer
    obtain ⟨_, hTarget, hQuery⟩ := bind_eq_ok.1 hAnswer
    have hAnswered : Answered source targetFrame policy answer files :=
      ⟨hSettled, ensure_eq_ok.1 hTarget, mapError_eq_ok.1 hQuery⟩
    obtain ⟨t, hFresh⟩ := hAnswered.freshTimeline
    exact ⟨_, t, hFresh, rfl⟩

end EntryPoints

/-! ## Histories -/

section History

variable [KeyJson] {source : IndexedSource}

/-- Every path holds nothing, or what an undisturbed build writes. -/
structure HoldsAll (source : IndexedSource) (stores : AnalysisStores) : Prop where
  groups : ∀ policy, HoldsGroups source policy (stores.groups policy)
  global : HoldsGlobal source stores.global

theorem HoldsAll.after {stores : AnalysisStores} (h : HoldsAll source stores)
    (call : AnalysisCall) : HoldsAll source (source.after stores call) := by
  cases call with
  | groups policy faults =>
      refine ⟨?_, h.global⟩
      intro other
      show HoldsGroups source other (Function.update stores.groups policy _ other)
      by_cases hSame : other = policy
      · subst hSame
        rw [Function.update_self]
        exact wp_finalState (wp_groupNavigation (h.groups other)) (fun _ _ hEnd => hEnd.1)
          fun _ _ hEnd => hEnd.1
      · rw [Function.update_of_ne hSame]
        exact h.groups other
  | global faults =>
      refine ⟨h.groups, ?_⟩
      exact wp_finalState (wp_globalSimilarity h.global) (fun _ _ hEnd => hEnd.1.holds)
        fun _ _ hEnd => hEnd.1
  | timeline targetFrame policy faults =>
      refine ⟨h.groups, ?_⟩
      exact wp_finalState (wp_timelineSimilarity h.global)
        (fun _ _ hEnd => hEnd.1.settled.holds) fun _ _ hEnd => hEnd.1

/-- By induction on the calls. -/
theorem holdsAll_history (source : IndexedSource) (calls : List AnalysisCall) :
    HoldsAll source (source.history calls) := by
  have hFrom : ∀ stores, HoldsAll source stores →
      HoldsAll source (calls.foldl source.after stores) := by
    induction calls with
    | nil => exact fun _ h => h
    | cons call rest ih => exact fun stores h => ih _ (h.after call)
  exact hFrom emptyStores ⟨fun _ _ _ => Or.inl rfl, Or.inl rfl⟩

/-- What the next call may return, and what it may leave behind when it fails. -/
structure IndependentOfHistory (source : IndexedSource) (stores : AnalysisStores) : Prop where
  groups : ∀ policy faults analysis files,
    source.groupNavigation policy faults (stores.groups policy) = .ok analysis files →
      FreshGroups source policy analysis
  global : ∀ faults analysis files,
    source.globalSimilarity faults stores.global = .ok analysis files →
      FreshGlobal source analysis files
  timeline : ∀ targetFrame policy faults result files,
    source.timelineSimilarity targetFrame policy faults stores.global = .ok result files →
      FreshTimeline source targetFrame policy result
  groups_failed : ∀ policy faults error files,
    source.groupNavigation policy faults (stores.groups policy) = .error error files →
      ReusesGroups source policy files → files.visible = (stores.groups policy).visible
  global_failed : ∀ faults error files,
    source.globalSimilarity faults stores.global = .error error files →
      ReusesGlobal source files → files.visible = stores.global.visible
  timeline_failed : ∀ targetFrame policy faults error files,
    source.timelineSimilarity targetFrame policy faults stores.global = .error error files →
      ReusesGlobal source files → files.visible = stores.global.visible ∨
        StopsLate faults policy ∧ FreshFile source files.visible

/-- After any history, a call returns what it returns over empty stores, and one
that fails leaves nothing for a later call to reuse but what it found.  A
timeline call that stops once its store is complete may leave that store, which
is then the one an undisturbed build writes.  The two entry points of the
global store answer alike. -/
theorem analysis_independent_of_history (source : IndexedSource) (calls : List AnalysisCall) :
    IndependentOfHistory source (source.history calls) ∧
      ∀ targetFrame policy answer,
        (∃ result files, source.timelineSimilarity targetFrame policy noFaults ⟨none, none⟩ =
          .ok result files ∧ result.query = answer) ↔
        ∃ analysis files, source.globalSimilarity noFaults ⟨none, none⟩ = .ok analysis files ∧
          outcome (analysis.navigator.query targetFrame policy files) = .ok answer := by
  have hHolds := holdsAll_history source calls
  refine ⟨⟨?_, ?_, ?_, ?_, ?_, ?_⟩, fresh_answers_agree source⟩
  · intro policy faults analysis files hRun
    exact (wp_ok (wp_groupNavigation (hHolds.groups policy)) hRun).2
  · intro faults analysis files hRun
    obtain ⟨hSettled, hNavigator⟩ := wp_ok (wp_globalSimilarity hHolds.global) hRun
    exact hSettled.freshGlobal hNavigator
  · intro targetFrame policy faults result files hRun
    obtain ⟨hAnswered, hCount⟩ := wp_ok (wp_timelineSimilarity hHolds.global) hRun
    obtain ⟨t, hFresh⟩ := hAnswered.freshTimeline
    exact ⟨_, t, hFresh, rfl, hCount.symm⟩
  · intro policy faults error files hRun hReuses
    exact (wp_error (wp_groupNavigation (hHolds.groups policy)) hRun).2 hReuses
  · intro faults error files hRun hReuses
    exact (wp_error (wp_globalSimilarity hHolds.global) hRun).2 (reusesGlobal_loads hReuses)
  · intro targetFrame policy faults error files hRun hReuses
    exact (wp_error (wp_timelineSimilarity hHolds.global) hRun).2 (reusesGlobal_loads hReuses)

end History

/-! ## Sources that are analysed -/

section Matching

variable {source : IndexedSource} {file : Option GlobalDatabase}

/-- The frames are those of the index. -/
structure Matches (source : IndexedSource) : Prop where
  length : source.frames.length = source.frameCount
  frame : ∀ i, i < source.frameCount → ∃ entry frame,
    indexedEntry source.index i = .ok entry ∧ source.frames[i]? = some frame ∧
      validateSourceFrame source.index.streamIdentity entry frame = .ok ()

/-- One round over a frame that matches. -/
theorem describeFrame_matches (h : Matches source) {i : Nat} (hi : i < source.frameCount)
    (hFits : i < 2 ^ 63) {key : GlobalSimilarityStoreKey} {writer : GlobalSimilarityStoreWriter}
    {written : List GlobalDescriptor} (hWrites : GlobalStoreLaw.Writes key writer written)
    (hNext : written.length = i) (s : GlobalFiles) :
    ∃ writer' s' descriptor, describeFrame GlobalSimilarityNavigationError.build
      source.index.streamIdentity (indexedEntry source.index) (source.caller noFaults) i writer s =
        .ok writer' s' ∧ GlobalStoreLaw.Writes key writer' (written ++ [descriptor]) := by
  obtain ⟨entry, frame, hEntry, hFrame, hValid⟩ := h.frame i hi
  have hId : entry.frameId = i := by
    obtain ⟨found, hFound, hSome⟩ := bind_eq_ok.1 hEntry
    have hIndexed := mapError_eq_ok.1 hFound
    rw [okOr_eq_ok.1 hSome] at hIndexed
    exact entry_frameId hIndexed
  have hStored := hWrites.stored.concat (d := descriptorForFrame entry.frameId frame.pixels)
    (hId.trans hNext.symm) (GlobalDescriptors.length_resampleRgb frame.pixels 16 16)
  obtain ⟨writer', hAppend⟩ := hWrites.append_isOk hStored (by omega)
  refine ⟨writer', ⟨s.visible, some writer'.database⟩, _, ?_, hWrites.append hAppend⟩
  unfold describeFrame
  refine bind_ok_iff.2 ⟨(), s, rfl, ?_⟩
  refine bind_ok_iff.2 ⟨entry, s, ofExcept_ok_iff.2 ⟨hEntry, rfl⟩, ?_⟩
  refine bind_ok_iff.2 ⟨some frame, s, ofExcept_ok_iff.2 ⟨?_, rfl⟩, ?_⟩
  · show Except.ok source.frames[i]? = _
    rw [hFrame]
  refine bind_ok_iff.2 ⟨frame, s, rfl, ?_⟩
  refine bind_ok_iff.2 ⟨(), s, rfl, ?_⟩
  refine bind_ok_iff.2 ⟨(), s, ofExcept_ok_iff.2 ⟨hValid, rfl⟩, ?_⟩
  unfold appendGlobal
  rw [hAppend]
  rfl

/-- By induction on the frames that remain. -/
theorem describeRemaining_matches (h : Matches source) (hCount : source.frameCount < 2 ^ 63)
    {key : GlobalSimilarityStoreKey} {remaining i : Nat} (hi : i + remaining = source.frameCount)
    {writer : GlobalSimilarityStoreWriter} {written : List GlobalDescriptor}
    (hWrites : GlobalStoreLaw.Writes key writer written) (hNext : written.length = i)
    (s : GlobalFiles) :
    ∃ writer' s' descriptors, describeRemaining GlobalSimilarityNavigationError.build
      source.index.streamIdentity (indexedEntry source.index) (source.caller noFaults) remaining i
        writer s = .ok writer' s' ∧
      GlobalStoreLaw.Writes key writer' descriptors ∧ descriptors.length = source.frameCount := by
  induction remaining generalizing i writer written s with
  | zero => exact ⟨writer, s, written, rfl, hWrites, by omega⟩
  | succ remaining ih =>
      obtain ⟨writer', s', descriptor, hRun, hWrites'⟩ :=
        describeFrame_matches h (by omega) (by omega) hWrites hNext s
      obtain ⟨writer'', s'', descriptors, hRest, hAll, hLength⟩ :=
        ih (i := i + 1) (by omega) hWrites'
          (by rw [List.length_append, List.length_singleton, hNext]) s'
      refine ⟨writer'', s'', descriptors, ?_, hAll, hLength⟩
      unfold describeRemaining
      exact bind_ok_iff.2 ⟨writer', s', hRun, hRest⟩

/-- A source whose frames are those of its index is analysed. -/
theorem steadyGlobal_matches (h : Matches source) (hCount : source.frameCount < 2 ^ 63)
    (hSafe : source.index.sourceIdentity.isReuseSafe = true) :
    ∃ written file, Publishes none
      (steadyGlobal source (globalKey source) source.frameCount) written file := by
  have hBegin : GlobalStore.begin (globalKey source) =
      .ok ⟨GlobalStore.buildingDatabase (globalKey source), 0, []⟩ := by
    unfold GlobalStore.begin
    rw [ensure_true (show (globalKey source).source.isReuseSafe = true from hSafe)]
    rfl
  obtain ⟨writer, s, descriptors, hRun, hWrites, hLength⟩ := describeRemaining_matches h hCount
    (Nat.zero_add source.frameCount) (begin_writes hBegin) rfl
    ⟨none, some (GlobalStore.buildingDatabase (globalKey source))⟩
  obtain ⟨answer, hFinish⟩ := hWrites.finish_isOk (by omega)
  refine ⟨answer.1, some answer.2, ⟨some answer.2, none⟩, ?_, rfl⟩
  unfold steadyGlobal writeGlobal
  refine bind_ok_iff.2 ⟨(), _, rfl, ?_⟩
  refine bind_ok_iff.2 ⟨(), _, rfl, ?_⟩
  refine bind_ok_iff.2 ⟨⟨GlobalStore.buildingDatabase (globalKey source), 0, []⟩,
    ⟨none, some (GlobalStore.buildingDatabase (globalKey source))⟩, ?_, ?_⟩
  · unfold beginGlobal
    rw [hBegin]
    rfl
  refine bind_ok_iff.2 ⟨writer, s, hRun, ?_⟩
  refine bind_ok_iff.2 ⟨(), s, rfl, ?_⟩
  refine bind_ok_iff.2 ⟨none, s, ofExcept_ok_iff.2 ⟨?_, rfl⟩, ?_⟩
  · show Except.ok source.frames[source.frameCount]? = _
    rw [List.getElem?_eq_none (by rw [h.length])]
  refine bind_ok_iff.2 ⟨(), s, rfl, ?_⟩
  refine bind_ok_iff.2 ⟨(), s, rfl, ?_⟩
  unfold finishGlobal
  rw [hFinish]
  rfl

/-- A call that finds itself cancelled once its store is complete. -/
def cancelledLate : Faults :=
  { noFaults with cancelledAt := fun point => decide (point = .beforeQuery) }

/-- The build asks at every place but the last one. -/
theorem describeRemaining_cancelledLate {ε : Type} (errors : BuildErrors ε)
    (stream : FrameIndexStreamIdentity) (entryAt : Nat → Except ε FrameIndexEntry)
    (remaining i : Nat) (writer : GlobalSimilarityStoreWriter) :
    describeRemaining errors stream entryAt (source.caller cancelledLate) remaining i writer =
      describeRemaining errors stream entryAt (source.caller noFaults) remaining i writer := by
  induction remaining generalizing i writer with
  | zero => rfl
  | succ remaining ih =>
      unfold describeRemaining
      rw [funext fun writer => ih (i + 1) writer]
      rfl

theorem timelineWriter_cancelledLate :
    timelineWriter source cancelledLate = timelineWriter source noFaults := by
  unfold timelineWriter writeGlobal
  simp only [describeRemaining_cancelledLate]
  rfl

/-- What an undisturbed build writes is loaded, if the index rows can be counted. -/
theorem loads_of_stores (hStores : StoresFrames (globalKey source) source.frameCount file)
    (hBands : source.frameCount * GlobalStore.indexKeysPerDescriptor < 2 ^ 64) :
    Loads source file := by
  obtain ⟨descriptors, hLength, hFits, hStored, rfl⟩ := hStores
  unfold Loads
  rw [← hLength] at hFits hBands ⊢
  rw [GlobalStoreLaw.load_stored hStored hFits, ensure_true hBands]
  rfl

/-- A load that accepts the store makes the next call reuse it. -/
theorem globalSimilarity_reuses (hSafe : source.index.sourceIdentity.isReuseSafe = true)
    {files : GlobalFiles} (hLoads : Loads source files.visible) :
    source.globalSimilarity noFaults files =
      .ok ⟨⟨source.frameCount, .reused⟩, ⟨globalKey source, source.frameCount⟩⟩ files := by
  obtain ⟨load, -, hAccepted, hVisit⟩ := visit_accepts
    (accepts_of_loads GlobalSimilarityNavigationError.build hLoads)
  rw [globalAccepted_eq hAccepted, ← loadGlobal_eq] at hVisit
  unfold IndexedSource.globalSimilarity openOrBuildGlobalSimilarity
  rw [globalRequest_eq, ensure_true hSafe, ok_bind]
  refine bind_ok_iff.2 ⟨(source.frameCount, globalKey source), files, rfl, ?_⟩
  refine bind_ok_iff.2 ⟨.reused, files, ?_, rfl⟩
  unfold openOrBuildGlobal
  refine bind_ok_iff.2 ⟨.reused source.frameCount, files, hVisit, ?_⟩
  refine bind_ok_iff.2 ⟨(), files, ofExcept_ok_iff.2 ⟨?_, rfl⟩, rfl⟩
  exact ensure_true rfl

/-- A timeline call that is cancelled at its last check leaves its store, and
the next call takes it for complete. -/
theorem cancelledLate_leaves (h : Matches source)
    (hBands : source.frameCount * GlobalStore.indexKeysPerDescriptor < 2 ^ 64)
    (hCount : source.frameCount < 2 ^ 63)
    (hSafe : source.index.sourceIdentity.isReuseSafe = true) {targetFrame : Nat}
    (hTarget : targetFrame < source.frameCount) (policy : GlobalSimilarityPolicy) :
    ∃ files analysis after,
      source.timelineSimilarity targetFrame policy cancelledLate ⟨none, none⟩ =
        .error .cancelled files ∧
      source.globalSimilarity noFaults files = .ok analysis after ∧
      analysis.summary = ⟨source.frameCount, .reused⟩ := by
  obtain ⟨written, file, hPublished⟩ := steadyGlobal_matches h hCount hSafe
  have hLoads := loads_of_stores (stores_of_publishes hPublished) hBands
  have hWriter := timelineWriter_publishes hPublished
  rw [← timelineWriter_cancelledLate] at hWriter
  obtain ⟨t, hCall, hVisible⟩ := openOrBuildGlobal_fresh
    (timelineWriter_faltering source cancelledLate) hWriter hLoads
  refine ⟨t, _, t, ?_, globalSimilarity_reuses hSafe (by rwa [hVisible]), rfl⟩
  unfold IndexedSource.timelineSimilarity openOrBuildAndQueryWithTimeline
  rw [timelineRequest_of hSafe hTarget]
  rw [bind_of_ok (show ofExcept id (Except.ok (globalKey source)) _ = .ok (globalKey source) _ from
    rfl), bind_of_ok hCall]
  rfl

end Matching

/-! ## A call that is cancelled after its build -/

section FinishedIndex

open FrameScope.Ports.SourceBinding (ContentHash)
open FrameScope.Ports.CompleteIndex

variable [ContentHash] {S : List DecodedRgbaFrame} {index : FrameIndex}

theorem frameCount_of_indexOf (h : IndexOf S index) : index.frameCount = .ok (some S.length) := by
  unfold FrameIndex.frameCount
  rw [h.status]
  rfl

/-- A source under the index that the indexer finishes. -/
def sourceOver (h : IndexOf S index) (frames : List IndexedRgbaFrame) : IndexedSource :=
  ⟨frames, index, S.length, frameCount_of_indexOf h⟩

end FinishedIndex

section Samples

open FrameScope.Ports.FrameCache (OwnedRgbaFrame)
open FrameScope.Ports.SourceBinding (ContentHash constantHash)
open FrameScope.Ports.IndexingCall (sampleSequence timeline)
open FrameScope.Ports.CompleteIndex (sampleIndex sampleIndex_indexOf)

local instance : ContentHash := constantHash

theorem greySquare_length : (List.replicate 16 (90 : UInt8)).length = 8 * 2 := by decide

/-- A picture of two by two pixels. -/
def greySquare : OwnedRgbaFrame :=
  ⟨2, 2, 8, List.replicate 16 90, Nat.two_pos, Nat.two_pos, Nat.le_refl 8, greySquare_length⟩

/-- Two frames of one picture, with the entries of their index. -/
def sampleAnalysis : IndexedSource :=
  sourceOver sampleIndex_indexOf ((timeline sampleSequence).map fun entry =>
    ⟨entry.frameId, entry.presentationTimestamp, entry.duration, entry.keyframe, entry.corrupt,
      greySquare⟩)

/-- A cancelled call has left a store that the next call takes for complete. -/
theorem cancelledCall_leaves_result :
    ∃ files analysis after,
      sampleAnalysis.timelineSimilarity 0 ⟨9300, 64⟩ cancelledLate ⟨none, none⟩ =
        .error .cancelled files ∧
      sampleAnalysis.globalSimilarity noFaults files = .ok analysis after ∧
      analysis.summary = ⟨2, .reused⟩ := by
  have hMatches : Matches sampleAnalysis := by
    refine ⟨rfl, ?_⟩
    intro i hi
    have hCases : i = 0 ∨ i = 1 := by
      have hTwo : i < 2 := hi
      omega
    rcases hCases with rfl | rfl
    · exact ⟨_, _, rfl, rfl, rfl⟩
    · exact ⟨_, _, rfl, rfl, rfl⟩
  exact cancelledLate_leaves hMatches (by decide) (by decide) (by decide) (by decide) ⟨9300, 64⟩

end Samples

end FrameScope.Ports.SimilarityAnalysisLaw
