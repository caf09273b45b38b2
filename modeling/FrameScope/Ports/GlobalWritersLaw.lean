import FrameScope.Ports.GlobalWriters

/-!
# What concurrent builders of a global store publish

A writer fills a file of its own: the tables can be created only once in a file,
so no two writers are past `begin` with one file (`unique`), and a file that is
marked complete is never written again (`complete`).  A load goes on after the
metadata only when its file is complete, so whatever the order of the steps it
accepts one writer's whole sequence.

`finish` acts by name: it renames what stands at the building path.  In a run in
which that is the writer's own file, every `finish` that returns has put its own
sequence at the visible path.  A writer that stops before its rename has taken no
name away and has written no file that was complete before it began.
-/

namespace FrameScope.Ports.GlobalWritersLaw

open FrameScope.Verified.Runs
open FrameScope.Ports.Core
open FrameScope.Ports.GlobalDescriptors
open FrameScope.Ports.GlobalStore
open FrameScope.Ports.GlobalStoreLaw
open FrameScope.Ports.GlobalWriters

/-! ## The laws -/

/-- The file holds exactly these descriptors, numbered from zero, and is complete. -/
def Holds (key : GlobalSimilarityStoreKey) (content : GlobalFile)
    (descriptors : List GlobalDescriptor) : Prop :=
  Stored descriptors ∧
    content = .database (storedDatabase key stateComplete descriptors.length descriptors)

/-- A load that answers `Reused` has read a file that holds the whole sequence of
one writer, of the expected length. -/
def LoadLaw (key : GlobalSimilarityStoreKey) (s : StoreState) : Prop :=
  ∀ r file n, s.loads r = .reused file n → ∃ completion ∈ s.completed,
    completion.file = file ∧ completion.appended.length = n ∧
      Holds key (s.files file) completion.appended

/-- The rename has happened. -/
def Renamed (phase : WriterPhase) : Prop :=
  ∃ publication, phase = .renamed publication ∨ phase = .finished publication

structure PublishLaw (key : GlobalSimilarityStoreKey) (s : StoreState) : Prop where
  /-- What a `finish` that has returned brought to the visible path is its own whole
  sequence. -/
  finished : ∀ w publication, s.writers w = .finished publication →
    Holds key publication.content publication.appended
  /-- A writer that failed, or that has not come to its rename, has neither written
  the complete file that was visible when it began nor taken its name away. -/
  abandoned : ∀ w file, ¬Renamed (s.writers w) → s.before w = some file →
    (w, file) ∉ s.touched

/-- A rename meets the writer's own file, and `sync_parent` is not refused after a
rename over the complete file that was visible when the writer began. -/
def Orderly (s : StoreState) : StoreStep → Prop
  | .rename w => ∀ file count appended, s.writers w = .sealed file count appended →
      ∀ other, s.building = some other → other = file
  | .syncParent w synced => synced = false → ∀ publication file,
      s.writers w = .renamed publication → s.before w = some file →
        publication.replaced ≠ some file
  | _ => True

/-! ## The invariant -/

/-- The file that the writer is filling. -/
def fills : WriterPhase → Option Nat
  | .created file => some file
  | .stamped file => some file
  | .writing file _ _ _ => some file
  | .flushed file _ _ => some file
  | _ => none

/-- What the writer has put in its file. -/
def Filling (key : GlobalSimilarityStoreKey) (content : GlobalFile) : WriterPhase → Prop
  | .created _ => content = .database (blankDatabase 0)
  | .stamped _ => content = .database (blankDatabase globalSimilarityStoreSchemaVersion)
  | .writing _ nextFrameId pending appended => ∃ database, content = .database database ∧
      Writes key ⟨database, nextFrameId, pending⟩ appended
  | .flushed _ nextFrameId appended => ∃ database, content = .database database ∧
      Writes key ⟨database, nextFrameId, []⟩ appended
  | _ => True

/-- The file is not marked as complete. -/
def Unfinished (content : GlobalFile) : Prop :=
  ∀ metadata, content.read.globalMeta = some metadata → metadata.state ≠ stateComplete

/-- What a writer in this phase may have done to the file that was complete before
it. -/
def MayTouch (file : Nat) : WriterPhase → Prop
  | .renamed publication => publication.replaced = some file
  | .finished _ => True
  | .failed => True
  | _ => False

structure Sound (key : GlobalSimilarityStoreKey) (s : StoreState) : Prop where
  visible_lt : ∀ file, s.visible = some file → file < s.nextFile
  building_lt : ∀ file, s.building = some file → file < s.nextFile
  opened_lt : ∀ w file, s.writers w = .opened file → file < s.nextFile
  fills_lt : ∀ w file, fills (s.writers w) = some file → file < s.nextFile
  unique : ∀ w w' file, fills (s.writers w) = some file → fills (s.writers w') = some file →
    w = w'
  filling : ∀ w file, fills (s.writers w) = some file → Filling key (s.files file) (s.writers w)
  settled : ∀ file, Unfinished (s.files file) ∨
    ∃ completion ∈ s.completed, completion.file = file
  complete : ∀ completion ∈ s.completed, completion.file < s.nextFile ∧
    Holds key (s.files completion.file) completion.appended ∧
      ∀ w, fills (s.writers w) ≠ some completion.file
  closed : ∀ w file count appended, s.writers w = .sealed file count appended →
    ⟨w, file, appended⟩ ∈ s.completed
  reading : ∀ r file n done, s.loads r = .reading file n done → 2 ≤ done →
    ∃ completion ∈ s.completed, completion.file = file ∧ completion.appended.length = n
  reused : ∀ r file n, s.loads r = .reused file n →
    ∃ completion ∈ s.completed, completion.file = file ∧ completion.appended.length = n
  before : ∀ w file, s.before w = some file →
    ∃ completion ∈ s.completed, completion.file = file
  touched : ∀ w file, s.before w = some file → (w, file) ∈ s.touched →
    MayTouch file (s.writers w)
  fresh : ∀ w file, s.writers w = .idle → (w, file) ∉ s.touched

theorem Sound.loadLaw {key : GlobalSimilarityStoreKey} {s : StoreState} (h : Sound key s) :
    LoadLaw key s := by
  intro r file n hReused
  obtain ⟨completion, hMem, hFile, hLength⟩ := h.reused r file n hReused
  refine ⟨completion, hMem, hFile, hLength, ?_⟩
  rw [← hFile]
  exact (h.complete completion hMem).2.1

theorem sound_start (key : GlobalSimilarityStoreKey) : Sound key .start where
  visible_lt := by rintro file (hNone : none = _); cases hNone
  building_lt := by rintro file (hNone : none = _); cases hNone
  opened_lt := by rintro w file (hIdle : WriterPhase.idle = _); cases hIdle
  fills_lt := by rintro w file (hNone : none = _); cases hNone
  unique := by rintro w w' file (hNone : none = _); cases hNone
  filling := by rintro w file (hNone : none = _); cases hNone
  settled := by
    intro file
    refine .inl ?_
    rintro metadata (hNone : none = _)
    cases hNone
  complete := by rintro completion hMem; cases hMem
  closed := by rintro w file count appended (hIdle : WriterPhase.idle = _); cases hIdle
  reading := by rintro r file n done (hIdle : LoadPhase.idle = _); cases hIdle
  reused := by rintro r file n (hIdle : LoadPhase.idle = _); cases hIdle
  before := by rintro w file (hNone : none = _); cases hNone
  touched := by rintro w file (hNone : none = _); cases hNone
  fresh := fun _ _ _ => List.not_mem_nil

/-! ## Steps of the invariant -/

section Steps

variable {key : GlobalSimilarityStoreKey} {s : StoreState} {w r : Nat} {phase : WriterPhase}

/-- A writer goes to a phase in which it fills no other file than before. -/
theorem Sound.setWriter (h : Sound key s) (hActive : phase ≠ .idle)
    (hFills : ∀ file, fills phase = some file → fills (s.writers w) = some file ∧
      Filling key (s.files file) phase)
    (hOpened : ∀ file, phase = .opened file → file < s.nextFile)
    (hClosed : ∀ file count appended, phase = .sealed file count appended →
      ⟨w, file, appended⟩ ∈ s.completed)
    (hTouched : ∀ file, s.before w = some file → (w, file) ∈ s.touched → MayTouch file phase) :
    Sound key (s.setWriter w phase) := by
  have hSelf : (s.setWriter w phase).writers w = phase := Function.update_self _ _ _
  have hOther : ∀ w', w' ≠ w → (s.setWriter w phase).writers w' = s.writers w' :=
    fun w' hNe => Function.update_of_ne hNe _ _
  have hStill : ∀ w' file, fills ((s.setWriter w phase).writers w') = some file →
      fills (s.writers w') = some file := by
    intro w' file hw
    by_cases hSame : w' = w
    · subst hSame
      rw [hSelf] at hw
      exact (hFills file hw).1
    · rwa [hOther w' hSame] at hw
  constructor
  · exact h.visible_lt
  · exact h.building_lt
  · intro w' file hw
    by_cases hSame : w' = w
    · subst hSame
      rw [hSelf] at hw
      exact hOpened file hw
    · rw [hOther w' hSame] at hw
      exact h.opened_lt w' file hw
  · exact fun w' file hw => h.fills_lt w' file (hStill w' file hw)
  · exact fun w₁ w₂ file h₁ h₂ => h.unique w₁ w₂ file (hStill w₁ file h₁) (hStill w₂ file h₂)
  · intro w' file hw
    by_cases hSame : w' = w
    · subst hSame
      rw [hSelf] at hw ⊢
      exact (hFills file hw).2
    · rw [hOther w' hSame] at hw ⊢
      exact h.filling w' file hw
  · exact h.settled
  · intro completion hMem
    obtain ⟨hLt, hHolds, hFree⟩ := h.complete completion hMem
    exact ⟨hLt, hHolds, fun w' hw => hFree w' (hStill w' _ hw)⟩
  · intro w' file count appended hw
    by_cases hSame : w' = w
    · subst hSame
      rw [hSelf] at hw
      exact hClosed file count appended hw
    · rw [hOther w' hSame] at hw
      exact h.closed w' file count appended hw
  · exact h.reading
  · exact h.reused
  · exact h.before
  · intro w' file hBefore hMem
    by_cases hSame : w' = w
    · subst hSame
      rw [hSelf]
      exact hTouched file hBefore hMem
    · rw [hOther w' hSame]
      exact h.touched w' file hBefore hMem
  · intro w' file hIdle
    by_cases hSame : w' = w
    · subst hSame
      rw [hSelf] at hIdle
      exact absurd hIdle hActive
    · rw [hOther w' hSame] at hIdle
      exact h.fresh w' file hIdle

/-- A writer that has not come to its rename has touched nothing of before. -/
theorem Sound.untouched (h : Sound key s) (hPhase : ∀ file, ¬MayTouch file (s.writers w))
    (file : Nat) (hBefore : s.before w = some file) : (w, file) ∉ s.touched :=
  fun hMem => hPhase file (h.touched w file hBefore hMem)

/-- A writer at work has touched nothing of before. -/
theorem not_mayTouch_of_fills {file : Nat} (h : fills phase = some file) (other : Nat) :
    ¬MayTouch other phase := by
  intro hMay
  cases phase with
  | renamed publication => cases h
  | finished publication => cases h
  | failed => cases h
  | _ => exact hMay

theorem Sound.fail (h : Sound key s) : Sound key (s.setWriter w .failed) := by
  apply h.setWriter (by simp)
  · rintro file (hNone : none = _)
    cases hNone
  · intro file hOpened
    cases hOpened
  · intro file count appended hClosed
    cases hClosed
  · exact fun _ _ _ => trivial

/-- A writer changes a file that is its own, or that nobody fills; it may complete it
with this. -/
theorem Sound.write (h : Sound key s) {file : Nat} {content : GlobalDatabase}
    {completion : Option Completion} (hLt : file < s.nextFile)
    (hFree : ∀ w', w' ≠ w → fills (s.writers w') ≠ some file)
    (hOpen : ∀ done ∈ s.completed, done.file ≠ file)
    (hPhase : ∀ file, ¬MayTouch file (s.writers w))
    (hActive : phase ≠ .idle) (hOpened : ∀ f, phase ≠ .opened f)
    (hFills : ∀ f, fills phase = some f → f = file ∧ Filling key (.database content) phase)
    (hUnfinished : completion = none → Unfinished (.database content))
    (hDone : ∀ done, completion = some done → done.file = file ∧
      Holds key (.database content) done.appended ∧ fills phase = none)
    (hClosed : ∀ f count appended, phase = .sealed f count appended →
      completion = some ⟨w, f, appended⟩) :
    Sound key (s.write w file content phase completion) := by
  have hSelf : (s.write w file content phase completion).writers w = phase :=
    Function.update_self _ _ _
  have hOther : ∀ w', w' ≠ w →
      (s.write w file content phase completion).writers w' = s.writers w' :=
    fun w' hNe => Function.update_of_ne hNe _ _
  have hHere : (s.write w file content phase completion).files file = .database content :=
    Function.update_self _ _ _
  have hApart : ∀ f, f ≠ file → (s.write w file content phase completion).files f = s.files f :=
    fun f hNe => Function.update_of_ne hNe _ _
  have hStill : ∀ w' f, fills ((s.write w file content phase completion).writers w') = some f →
      w' = w ∧ f = file ∧ fills phase = some f ∨
        w' ≠ w ∧ f ≠ file ∧ fills (s.writers w') = some f := by
    intro w' f hw
    by_cases hSame : w' = w
    · subst hSame
      rw [hSelf] at hw
      exact .inl ⟨rfl, (hFills f hw).1, hw⟩
    · rw [hOther w' hSame] at hw
      refine .inr ⟨hSame, ?_, hw⟩
      intro hIs
      rw [hIs] at hw
      exact hFree w' hSame hw
  have hMember : ∀ done, done ∈ (s.write w file content phase completion).completed ↔
      completion = some done ∨ done ∈ s.completed := by
    intro done
    show done ∈ completion.toList ++ s.completed ↔ _
    rw [List.mem_append, Option.mem_toList]
  have hKeep : ∀ {P : Completion → Prop}, (∃ done ∈ s.completed, P done) →
      ∃ done ∈ (s.write w file content phase completion).completed, P done := by
    rintro P ⟨done, hMem, hIs⟩
    exact ⟨done, (hMember done).2 (.inr hMem), hIs⟩
  constructor
  · exact h.visible_lt
  · exact h.building_lt
  · intro w' f hw
    by_cases hSame : w' = w
    · subst hSame
      rw [hSelf] at hw
      exact absurd hw (hOpened f)
    · rw [hOther w' hSame] at hw
      exact h.opened_lt w' f hw
  · intro w' f hw
    rcases hStill w' f hw with ⟨-, hIs, -⟩ | ⟨-, -, hOld⟩
    · rw [hIs]
      exact hLt
    · exact h.fills_lt w' f hOld
  · intro w₁ w₂ f h₁ h₂
    rcases hStill w₁ f h₁ with ⟨hIs₁, hf, -⟩ | ⟨-, hNe, hOld₁⟩
    · rcases hStill w₂ f h₂ with ⟨hIs₂, -, -⟩ | ⟨-, hNe, -⟩
      · rw [hIs₁, hIs₂]
      · exact absurd hf hNe
    · rcases hStill w₂ f h₂ with ⟨-, hf, -⟩ | ⟨-, -, hOld₂⟩
      · exact absurd hf hNe
      · exact h.unique w₁ w₂ f hOld₁ hOld₂
  · intro w' f hw
    rcases hStill w' f hw with ⟨hIs, hf, hNew⟩ | ⟨hNe, hApartFile, hOld⟩
    · rw [hIs, hf, hSelf, hHere]
      exact (hFills f hNew).2
    · rw [hOther w' hNe, hApart f hApartFile]
      exact h.filling w' f hOld
  · intro f
    by_cases hf : f = file
    · cases hIs : completion with
      | none =>
          refine .inl ?_
          rw [← hIs, hf, hHere]
          exact hUnfinished hIs
      | some done =>
          rw [← hIs, hf]
          exact .inr ⟨done, (hMember done).2 (.inl hIs), (hDone done hIs).1⟩
    · rcases h.settled f with hOld | hOld
      · refine .inl ?_
        rw [hApart f hf]
        exact hOld
      · exact .inr (hKeep hOld)
  · intro done hMem
    rcases (hMember done).1 hMem with hNew | hOld
    · obtain ⟨hFile, hHolds, hNobody⟩ := hDone done hNew
      rw [hFile]
      refine ⟨hLt, ?_, ?_⟩
      · rw [hHere]
        exact hHolds
      · intro w' hw
        rcases hStill w' file hw with ⟨-, -, hSome⟩ | ⟨-, hNe, -⟩
        · rw [hNobody] at hSome
          cases hSome
        · exact hNe rfl
    · obtain ⟨hBound, hHolds, hNobody⟩ := h.complete done hOld
      have hNe := hOpen done hOld
      refine ⟨hBound, ?_, ?_⟩
      · rw [hApart _ hNe]
        exact hHolds
      · intro w' hw
        rcases hStill w' _ hw with ⟨-, hf, -⟩ | ⟨-, -, hw'⟩
        · exact hNe hf
        · exact hNobody w' hw'
  · intro w' f count appended hw
    by_cases hSame : w' = w
    · subst hSame
      rw [hSelf] at hw
      exact (hMember _).2 (.inl (hClosed f count appended hw))
    · rw [hOther w' hSame] at hw
      exact (hMember _).2 (.inr (h.closed w' f count appended hw))
  · exact fun r f n read hr hRead => hKeep (h.reading r f n read hr hRead)
  · exact fun r f n hr => hKeep (h.reused r f n hr)
  · exact fun w' f hf => hKeep (h.before w' f hf)
  · intro w' f hBefore hMem
    rcases List.mem_cons.1 hMem with hNew | hOld
    · -- the file that is written was not complete before
      cases hNew
      obtain ⟨done, hThere, hf⟩ := h.before _ _ hBefore
      exact absurd hf (hOpen done hThere)
    · by_cases hSame : w' = w
      · subst hSame
        exact absurd hOld (h.untouched hPhase f hBefore)
      · rw [hOther w' hSame]
        exact h.touched w' f hBefore hOld
  · intro w' f hIdle hMem
    by_cases hSame : w' = w
    · subst hSame
      rw [hSelf] at hIdle
      exact hActive hIdle
    · rw [hOther w' hSame] at hIdle
      rcases List.mem_cons.1 hMem with hNew | hOld
      · cases hNew
        exact hSame rfl
      · exact h.fresh w' f hIdle hOld

/-- A writer fills its file. -/
theorem Sound.fill (h : Sound key s) {file : Nat} {content : GlobalDatabase}
    (hLt : file < s.nextFile) (hFree : ∀ w', w' ≠ w → fills (s.writers w') ≠ some file)
    (hOpen : ∀ done ∈ s.completed, done.file ≠ file)
    (hPhase : ∀ file, ¬MayTouch file (s.writers w))
    (hUnfinished : Unfinished (.database content)) (hFills : fills phase = some file)
    (hFilling : Filling key (.database content) phase) :
    Sound key (s.write w file content phase none) := by
  apply h.write hLt hFree hOpen hPhase
  · rintro rfl
    cases hFills
  · rintro f rfl
    cases hFills
  · intro f hf
    rw [hFills] at hf
    exact ⟨(Option.some.inj hf).symm, hFilling⟩
  · exact fun _ => hUnfinished
  · intro done hDone
    cases hDone
  · rintro f count appended rfl
    cases hFills

/-- Nobody else fills a writer's file, and no writer has completed it. -/
theorem Sound.own (h : Sound key s) {file : Nat} (hOwn : fills (s.writers w) = some file) :
    (∀ w', w' ≠ w → fills (s.writers w') ≠ some file) ∧
      ∀ done ∈ s.completed, done.file ≠ file := by
  refine ⟨fun w' hNe hOther => hNe (h.unique w' w file hOther hOwn), ?_⟩
  intro done hMem hFile
  rw [← hFile] at hOwn
  exact (h.complete done hMem).2.2 w hOwn

/-- A writer goes on filling its own file. -/
theorem Sound.fillOwn (h : Sound key s) {file : Nat} {content : GlobalDatabase}
    (hOwn : fills (s.writers w) = some file) (hPhase : ∀ file, ¬MayTouch file (s.writers w))
    (hUnfinished : Unfinished (.database content)) (hFills : fills phase = some file)
    (hFilling : Filling key (.database content) phase) :
    Sound key (s.write w file content phase none) :=
  h.fill (h.fills_lt w file hOwn) (h.own hOwn).1 (h.own hOwn).2 hPhase hUnfinished hFills hFilling

theorem Sound.setLoad (h : Sound key s) {phase : LoadPhase}
    (hReading : ∀ file n done, phase = .reading file n done → 2 ≤ done →
      ∃ completion ∈ s.completed, completion.file = file ∧ completion.appended.length = n)
    (hReused : ∀ file n, phase = .reused file n →
      ∃ completion ∈ s.completed, completion.file = file ∧ completion.appended.length = n) :
    Sound key (s.setLoad r phase) := by
  have hSelf : (s.setLoad r phase).loads r = phase := Function.update_self _ _ _
  have hOther : ∀ r', r' ≠ r → (s.setLoad r phase).loads r' = s.loads r' :=
    fun r' hNe => Function.update_of_ne hNe _ _
  exact { h with
    reading := by
      intro r' file n done hr
      by_cases hSame : r' = r
      · subst hSame
        rw [hSelf] at hr
        exact hReading file n done hr
      · rw [hOther r' hSame] at hr
        exact h.reading r' file n done hr
    reused := by
      intro r' file n hr
      by_cases hSame : r' = r
      · subst hSame
        rw [hSelf] at hr
        exact hReused file n hr
      · rw [hOther r' hSame] at hr
        exact h.reused r' file n hr }

/-- The two names go to other files. -/
theorem Sound.setNames (h : Sound key s) {visible building : Option Nat}
    (hVisible : ∀ file, visible = some file → file < s.nextFile)
    (hBuilding : ∀ file, building = some file → file < s.nextFile) :
    Sound key { s with visible := visible, building := building } :=
  { h with visible_lt := hVisible, building_lt := hBuilding }

/-- A file that nobody has a name for yet. -/
theorem Sound.createFile (h : Sound key s) : Sound key s.createFile := by
  have hFiles : ∀ f, f < s.nextFile → s.createFile.files f = s.files f :=
    fun f hLt => Function.update_of_ne (Nat.ne_of_lt hLt) _ _
  have hNew : s.createFile.files s.nextFile = .empty := Function.update_self _ _ _
  exact { h with
    visible_lt := fun f hf => Nat.lt_succ_of_lt (h.visible_lt f hf)
    building_lt := fun f hf => Nat.lt_succ_of_lt (h.building_lt f hf)
    opened_lt := fun w f hw => Nat.lt_succ_of_lt (h.opened_lt w f hw)
    fills_lt := fun w f hw => Nat.lt_succ_of_lt (h.fills_lt w f hw)
    filling := by
      intro w f hw
      rw [hFiles f (h.fills_lt w f hw)]
      exact h.filling w f hw
    settled := by
      intro f
      by_cases hf : f = s.nextFile
      · rw [hf, hNew]
        refine .inl ?_
        rintro metadata (hNone : none = _)
        cases hNone
      · have hSame : s.createFile.files f = s.files f := Function.update_of_ne hf _ _
        rw [hSame]
        exact h.settled f
    complete := by
      intro completion hMem
      obtain ⟨hLt, hHolds, hFree⟩ := h.complete completion hMem
      refine ⟨Nat.lt_succ_of_lt hLt, ?_, hFree⟩
      rw [hFiles _ hLt]
      exact hHolds }

end Steps

/-! ## The calls of a writer -/

section Calls

variable {key : GlobalSimilarityStoreKey} {s : StoreState} {w r : Nat}

theorem unfinished_blank (userVersion : Int) :
    Unfinished (.database (blankDatabase userVersion)) := by
  rintro metadata (hNone : none = _)
  cases hNone

theorem unfinished_of_writes {writer : GlobalSimilarityStoreWriter}
    {written : List GlobalDescriptor} (h : Writes key writer written) :
    Unfinished (.database writer.database) := by
  obtain ⟨done, -, hDatabase⟩ := h.flushed
  intro metadata hMetadata
  change writer.database.globalMeta = some metadata at hMetadata
  rw [hDatabase] at hMetadata
  cases hMetadata
  show stateBuilding ≠ stateComplete
  decide

/-- A file that is being filled is not one without a byte. -/
theorem Sound.not_filled_of_empty (h : Sound key s) {file : Nat} (hEmpty : s.files file = .empty)
    (w' : Nat) : fills (s.writers w') ≠ some file := by
  intro hFills
  have hFilling := h.filling w' file hFills
  rw [hEmpty] at hFilling
  cases hPhase : s.writers w' with
  | created f =>
      rw [hPhase] at hFilling
      cases hFilling
  | stamped f =>
      rw [hPhase] at hFilling
      cases hFilling
  | writing f nextFrameId pending appended =>
      rw [hPhase] at hFilling
      obtain ⟨database, hFile, -⟩ := hFilling
      cases hFile
  | flushed f nextFrameId appended =>
      rw [hPhase] at hFilling
      obtain ⟨database, hFile, -⟩ := hFilling
      cases hFile
  | _ =>
      rw [hPhase] at hFills
      cases hFills

theorem Sound.not_complete_of_empty (h : Sound key s) {file : Nat}
    (hEmpty : s.files file = .empty) : ∀ completion ∈ s.completed, completion.file ≠ file := by
  intro completion hMem hFile
  have hHolds := (h.complete completion hMem).2.1.2
  rw [hFile, hEmpty] at hHolds
  cases hHolds

theorem visibleComplete_some {file : Nat} (h : s.visibleComplete = some file) :
    s.visible = some file ∧ ∃ completion ∈ s.completed, completion.file = file := by
  obtain ⟨hVisible, hAny⟩ := Option.filter_eq_some_iff.1 h
  obtain ⟨completion, hMem, hFile⟩ := List.any_eq_true.1 hAny
  exact ⟨hVisible, completion, hMem, by simpa using hFile⟩

/-- A writer begins: what is complete and visible now is what it may not touch. -/
theorem Sound.begin (h : Sound key s) (hIdle : s.writers w = .idle) :
    Sound key ({ s with
      building := none
      before := Function.update s.before w s.visibleComplete }.setWriter w .purged) := by
  have hNew : ∀ file, (w, file) ∉ s.touched := fun file => h.fresh w file hIdle
  have hBegun : Sound key { s with
      building := none
      before := Function.update s.before w s.visibleComplete } :=
    { h with
      building_lt := by rintro file (hNone : none = _); cases hNone
      before := by
        intro w' file hBefore
        change Function.update s.before w s.visibleComplete w' = some file at hBefore
        by_cases hSame : w' = w
        · subst hSame
          rw [Function.update_self] at hBefore
          exact (visibleComplete_some hBefore).2
        · rw [Function.update_of_ne hSame] at hBefore
          exact h.before w' file hBefore
      touched := by
        intro w' file hBefore hMem
        change Function.update s.before w s.visibleComplete w' = some file at hBefore
        by_cases hSame : w' = w
        · subst hSame
          exact absurd hMem (hNew file)
        · rw [Function.update_of_ne hSame] at hBefore
          exact h.touched w' file hBefore hMem }
  apply hBegun.setWriter (by simp)
  · rintro file (hNone : none = _)
    cases hNone
  · intro file hOpened
    cases hOpened
  · intro file count appended hClosed
    cases hClosed
  · intro file _ hMem
    exact absurd hMem (hNew file)

theorem Sound.purgeBuilding (h : Sound key s) : Sound key (s.purgeBuilding w key) := by
  unfold StoreState.purgeBuilding
  split
  · rename_i hIdle
    split_ifs
    · exact h.begin hIdle
    · exact h.fail
  · exact h

theorem Sound.openBuilding (h : Sound key s) : Sound key (s.openBuilding w) := by
  -- the connection is to the file at the building path
  have hOpen : ∀ {s : StoreState} {file : Nat}, Sound key s → s.writers w = .purged →
      s.building = some file → Sound key (s.setWriter w (.opened file)) := by
    intro s file h hPhase hBuilding
    apply h.setWriter (by simp)
    · rintro f (hNone : none = _)
      cases hNone
    · rintro f hOpened
      cases hOpened
      exact h.building_lt file hBuilding
    · intro f count appended hClosed
      cases hClosed
    · intro f hBefore hMem
      have hMay := h.touched w f hBefore hMem
      rw [hPhase] at hMay
      exact hMay.elim
  unfold StoreState.openBuilding
  split
  · rename_i hPhase
    split
    · rename_i file hBuilding
      exact hOpen h hPhase hBuilding
    · have hNamed : Sound key { s.createFile with building := some s.nextFile } := by
        apply h.createFile.setNames h.createFile.visible_lt
        rintro f hf
        cases hf
        exact Nat.lt_succ_self _
      exact hOpen hNamed hPhase rfl
  · exact h

theorem Sound.createTables (h : Sound key s) : Sound key (s.createTables w) := by
  unfold StoreState.createTables
  split
  · rename_i file hPhase
    split
    · rename_i hEmpty
      have hBefore : ∀ f, ¬MayTouch f (s.writers w) := by
        rw [hPhase]
        exact fun _ hMay => hMay
      exact h.fill (h.opened_lt w file hPhase) (fun w' _ => h.not_filled_of_empty hEmpty w')
        (h.not_complete_of_empty hEmpty) hBefore (unfinished_blank 0) rfl rfl
    · exact h.fail
  · exact h

theorem Sound.stampVersion (h : Sound key s) : Sound key (s.stampVersion w) := by
  unfold StoreState.stampVersion
  split
  · rename_i file hPhase
    have hOwn : fills (s.writers w) = some file := by rw [hPhase]; rfl
    have hFile := h.filling w file hOwn
    rw [hPhase] at hFile
    change s.files file = .database (blankDatabase 0) at hFile
    have hBefore := not_mayTouch_of_fills hOwn
    rw [hFile]
    exact h.fillOwn hOwn hBefore (unfinished_blank globalSimilarityStoreSchemaVersion) rfl rfl
  · exact h

theorem Sound.insertMetadata (h : Sound key s) : Sound key (s.insertMetadata w key) := by
  unfold StoreState.insertMetadata
  split
  · rename_i file hPhase
    have hOwn : fills (s.writers w) = some file := by rw [hPhase]; rfl
    have hFile := h.filling w file hOwn
    rw [hPhase] at hFile
    change s.files file = .database (blankDatabase globalSimilarityStoreSchemaVersion) at hFile
    have hBefore := not_mayTouch_of_fills hOwn
    have hBuilt := writes_nothing key
    rw [hFile]
    exact h.fillOwn hOwn hBefore (unfinished_of_writes hBuilt) rfl ⟨_, rfl, hBuilt⟩
  · exact h

/-- What a writer has in its file and in memory. -/
theorem Sound.writes (h : Sound key s) {file nextFrameId : Nat}
    {pending appended : List GlobalDescriptor}
    (hPhase : s.writers w = .writing file nextFrameId pending appended) :
    ∃ database, s.files file = .database database ∧
      Writes key ⟨database, nextFrameId, pending⟩ appended := by
  have hFilling := h.filling w file (by rw [hPhase]; rfl)
  rwa [hPhase] at hFilling

theorem Sound.appendDescriptor (h : Sound key s) (descriptor : GlobalDescriptor)
    (flushRefused : Bool) : Sound key (s.appendDescriptor w descriptor flushRefused) := by
  unfold StoreState.appendDescriptor
  split
  · rename_i file nextFrameId pending appended hPhase
    have hOwn : fills (s.writers w) = some file := by rw [hPhase]; rfl
    have hBefore := not_mayTouch_of_fills hOwn
    obtain ⟨database, hFile, hWrites⟩ := h.writes hPhase
    have hRead : (s.files file).read = database := by rw [hFile]; rfl
    rw [hRead]
    split
    · exact h.fail
    · exact h
    · rename_i writer hOk
      have hPushed := hWrites.push hOk
      have hKept : Sound key (s.setWriter w
          (.writing file writer.nextFrameId writer.pending (appended ++ [descriptor]))) := by
        apply h.setWriter (by simp)
        · rintro f hf
          cases hf
          refine ⟨hOwn, database, hFile, ?_⟩
          have hSame : writer.database = database := by
            obtain ⟨_, -, hOk⟩ := bind_eq_ok.1 hOk
            obtain ⟨_, -, hOk⟩ := bind_eq_ok.1 hOk
            obtain ⟨next, -, hOk⟩ := bind_eq_ok.1 hOk
            cases hOk
            rfl
          rw [← hSame]
          exact hPushed
        · intro f hOpened
          cases hOpened
        · intro f count appended' hClosed
          cases hClosed
        · exact fun f hf hMem => absurd hMem (h.untouched hBefore f hf)
      dsimp only
      split_ifs
      · split
        · exact hKept
        · rename_i flushed hFlush
          have hFlushed := (hPushed.flushBatch hFlush).1
          exact h.fillOwn hOwn hBefore (unfinished_of_writes hFlushed) rfl ⟨_, rfl, hFlushed⟩
      · exact hKept
  · exact h

theorem Sound.flushLast (h : Sound key s) : Sound key (s.flushLast w) := by
  unfold StoreState.flushLast
  split
  · rename_i file nextFrameId pending appended hPhase
    have hOwn : fills (s.writers w) = some file := by rw [hPhase]; rfl
    have hBefore := not_mayTouch_of_fills hOwn
    obtain ⟨database, hFile, hWrites⟩ := h.writes hPhase
    rw [hFile]
    split
    · exact h.fail
    · rename_i writer hFlush
      obtain ⟨hFlushed, hEmpty⟩ := hWrites.flushBatch hFlush
      have hUnfinished := unfinished_of_writes hFlushed
      have hSame : writer = ⟨writer.database, nextFrameId, []⟩ := by
        obtain ⟨_, -, hOk⟩ := bind_eq_ok.1 hFlush
        cases hOk
        rfl
      rw [hSame] at hFlushed
      exact h.fillOwn hOwn hBefore hUnfinished rfl ⟨_, rfl, hFlushed⟩
  · exact h

/-- The update of the metadata completes the file of the appended descriptors. -/
theorem markComplete_holds {database : GlobalDatabase} {nextFrameId : Nat} {count : Int}
    {appended : List GlobalDescriptor} (h : Writes key ⟨database, nextFrameId, []⟩ appended)
    (hCount : toSqlU64 nextFrameId "descriptor count" = .ok count) :
    Holds key (.database (markComplete database count)) appended := by
  obtain ⟨done, hWritten, hDatabase⟩ := h.flushed
  have hDone : appended = done := by rw [hWritten]; exact List.append_nil _
  obtain ⟨-, rfl⟩ := toSqlU64_eq_ok.1 hCount
  have hNext : nextFrameId = appended.length := h.next
  have hIs : database = storedDatabase key stateBuilding 0 appended := by
    rw [hDone]
    exact hDatabase
  refine ⟨h.stored, ?_⟩
  rw [hIs, hNext]
  rfl

theorem Sound.completeBuilding (h : Sound key s) : Sound key (s.completeBuilding w) := by
  unfold StoreState.completeBuilding
  split
  · rename_i file nextFrameId appended hPhase
    split
    · exact h.fail
    · rename_i count hCount
      have hOwn : fills (s.writers w) = some file := by rw [hPhase]; rfl
      have hBefore := not_mayTouch_of_fills hOwn
      have hFilling := h.filling w file hOwn
      rw [hPhase] at hFilling
      obtain ⟨database, hFile, hWrites⟩ := hFilling
      rw [hFile]
      apply h.write (h.fills_lt w file hOwn) (h.own hOwn).1 (h.own hOwn).2 hBefore
      · simp
      · simp
      · rintro f (hNone : none = _)
        cases hNone
      · simp
      · rintro done hDone
        cases hDone
        exact ⟨rfl, markComplete_holds hWrites hCount, rfl⟩
      · rintro f count' appended' hClosed
        cases hClosed
        rfl
  · exact h

theorem Sound.rename (h : Sound key s) : Sound key (s.rename w) := by
  unfold StoreState.rename
  split
  · rename_i own count appended hPhase
    split
    · exact h.fail
    · rename_i file hBuilding
      have hBefore : ∀ f, ¬MayTouch f (s.writers w) := by
        rw [hPhase]
        exact fun _ hMay => hMay
      have hSelf : (s.setWriter w (.renamed ⟨appended, s.files file, s.visible⟩)).writers w =
          .renamed ⟨appended, s.files file, s.visible⟩ := Function.update_self _ _ _
      have hMoved : Sound key (s.setWriter w (.renamed ⟨appended, s.files file, s.visible⟩)) := by
        apply h.setWriter (by simp)
        · rintro f (hNone : none = _)
          cases hNone
        · intro f hOpened
          cases hOpened
        · intro f count' appended' hClosed
          cases hClosed
        · exact fun f hf hMem => absurd hMem (h.untouched hBefore f hf)
      have hNamed : Sound key { s.setWriter w (.renamed ⟨appended, s.files file, s.visible⟩) with
          visible := some file
          building := none } :=
        hMoved.setNames (fun f hf => h.building_lt f (hBuilding.trans hf)) (by simp)
      have hTaken : ∀ w' f,
          (w', f) ∈ (s.visible.map fun replaced => (w, replaced)).toList ++ s.touched →
          w' = w ∧ s.visible = some f ∨ (w', f) ∈ s.touched := by
        intro w' f hMem
        rcases List.mem_append.1 hMem with hNew | hOld
        · obtain ⟨replaced, hVisible, hIs⟩ := Option.map_eq_some_iff.1 (Option.mem_toList.1 hNew)
          cases hIs
          exact .inl ⟨rfl, hVisible⟩
        · exact .inr hOld
      exact { hNamed with
        touched := by
          intro w' f hf hMem
          rcases hTaken w' f hMem with ⟨hIs, hVisible⟩ | hOld
          · subst hIs
            show MayTouch f ((s.setWriter w' _).writers w')
            rw [hSelf]
            exact hVisible
          · exact hNamed.touched w' f hf hOld
        fresh := by
          intro w' f hIdle hMem
          rcases hTaken w' f hMem with ⟨hIs, -⟩ | hOld
          · subst hIs
            change (s.setWriter w' _).writers w' = .idle at hIdle
            rw [hSelf] at hIdle
            cases hIdle
          · exact hNamed.fresh w' f hIdle hOld }
  · exact h

theorem Sound.syncParent (h : Sound key s) (synced : Bool) : Sound key (s.syncParent w synced) := by
  unfold StoreState.syncParent
  split
  · rename_i publication hPhase
    cases synced with
    | false => exact h.fail
    | true =>
        apply h.setWriter (by simp)
        · rintro f (hNone : none = _)
          cases hNone
        · intro f hOpened
          cases hOpened
        · intro f count appended hClosed
          cases hClosed
        · exact fun _ _ _ => trivial
  · exact h

theorem Sound.dropWriter (h : Sound key s) : Sound key (s.dropWriter w) := by
  unfold StoreState.dropWriter
  split
  · exact h
  · exact h
  · exact h
  · exact h.fail

/-! ### Loads -/

/-- The metadata that a load goes on after. -/
theorem readMetadata_passes {expected : GlobalSimilarityStoreKey} {n : Nat}
    {database : GlobalDatabase} (h : readMetadata expected n database = .ok none) :
    ∃ metadata, database.globalMeta = some metadata ∧ metadata.state = stateComplete ∧
      fromSqlU64 metadata.descriptorCount "descriptor count" = .ok n := by
  unfold readMetadata at h
  cases hMeta : database.globalMeta with
  | none =>
      rw [hMeta] at h
      cases h
  | some metadata =>
      rw [hMeta] at h
      dsimp only at h
      by_cases hState : metadata.state ≠ stateComplete
      · rw [if_pos hState] at h
        cases h
      · rw [if_neg hState] at h
        cases hKey : metadata.key with
        | none =>
            rw [hKey] at h
            cases h
        | some persisted =>
            rw [hKey] at h
            dsimp only at h
            by_cases hPersisted : persisted ≠ expected.persisted
            · rw [if_pos hPersisted] at h
              cases h
            · rw [if_neg hPersisted] at h
              obtain ⟨count, hCount, h⟩ := bind_eq_ok.1 h
              refine ⟨metadata, rfl, not_not.1 hState, ?_⟩
              by_cases hSame : count ≠ n
              · rw [if_pos hSame] at h
                cases h
              · rw [hCount, not_not.1 hSame]

/-- A file whose metadata pass is one that a writer has completed. -/
theorem Sound.completed_of_passes (h : Sound key s) {file n : Nat}
    (hPasses : readMetadata key n (s.files file).read = .ok none) :
    ∃ completion ∈ s.completed, completion.file = file ∧ completion.appended.length = n := by
  obtain ⟨metadata, hMeta, hState, hCount⟩ := readMetadata_passes hPasses
  rcases h.settled file with hUnfinished | ⟨completion, hMem, hFile⟩
  · exact absurd hState (hUnfinished metadata hMeta)
  · refine ⟨completion, hMem, hFile, ?_⟩
    have hContent := (h.complete completion hMem).2.1.2
    rw [hFile] at hContent
    rw [hContent] at hMeta
    cases hMeta
    have hLength : fromSqlU64 (completion.appended.length : Int) "descriptor count" = .ok n := hCount
    rw [fromSqlU64_natCast] at hLength
    exact Except.ok.inj hLength

theorem Sound.look (h : Sound key s) (n : Nat) : Sound key (s.look r n) := by
  unfold StoreState.look
  apply h.setLoad
  · intro f n' done hPhase
    split_ifs at hPhase
  · intro f n' hPhase
    split_ifs at hPhase

theorem Sound.readHeader (h : Sound key s) : Sound key (s.readHeader r) := by
  unfold StoreState.readHeader
  split
  · split
    · apply h.setLoad
      · intro f n done hPhase
        cases hPhase
      · intro f n hPhase
        cases hPhase
    · apply h.setLoad
      · intro f n done hPhase
        split_ifs at hPhase
      · intro f n hPhase
        split_ifs at hPhase
  · exact h

theorem Sound.connectVisible (h : Sound key s) : Sound key (s.connectVisible r) := by
  have hOpen : ∀ {s : StoreState} {file n : Nat}, Sound key s →
      Sound key (s.setLoad r (.reading file n 0)) := by
    intro s file n h
    apply h.setLoad
    · intro f n' done hPhase hDone
      cases hPhase
      omega
    · intro f n' hPhase
      cases hPhase
  unfold StoreState.connectVisible
  split
  · split
    · exact hOpen h
    · apply hOpen
      apply h.createFile.setNames
      · rintro f hf
        cases hf
        exact Nat.lt_succ_self _
      · exact h.createFile.building_lt
  · exact h

theorem Sound.readNext (h : Sound key s) : Sound key (s.readNext r key) := by
  unfold StoreState.readNext
  split
  · rename_i file n done hPhase
    split
    · -- all reads are done, the metadata among them
      rename_i hEnd
      have hDone : 2 ≤ done := by
        have hLength : (loadReads key n).length ≤ done := List.getElem?_eq_none_iff.1 hEnd
        have hSeven : (loadReads key n).length = 7 := rfl
        omega
      apply h.setLoad
      · intro f n' done' hPhase'
        cases hPhase'
      · intro f n' hPhase'
        cases hPhase'
        exact h.reading r file n done hPhase hDone
    · rename_i read hRead
      split
      · apply h.setLoad
        · intro f n' done' hPhase'
          cases hPhase'
        · intro f n' hPhase'
          cases hPhase'
      · rename_i hPasses
        apply h.setLoad
        · intro f n' done' hPhase' hDone'
          cases hPhase'
          by_cases hFirst : done = 1
          · subst hFirst
            have hIs : readMetadata key n = read := Option.some.inj hRead
            rw [← hIs] at hPasses
            exact h.completed_of_passes hPasses
          · exact h.reading r file n done hPhase (by omega)
        · intro f n' hPhase'
          cases hPhase'
      · apply h.setLoad
        · intro f n' done' hPhase'
          cases hPhase'
        · intro f n' hPhase'
          cases hPhase'
  · exact h

theorem Sound.purgeVisible (h : Sound key s) : Sound key (s.purgeVisible r) := by
  unfold StoreState.purgeVisible
  split
  · have hNamed : Sound key { s with visible := none } :=
      h.setNames (by simp) h.building_lt
    apply hNamed.setLoad
    · intro f n done hPhase
      cases hPhase
    · intro f n hPhase
      cases hPhase
  · exact h

theorem Sound.apply (h : Sound key s) (step : StoreStep) : Sound key (applyStep key s step) := by
  cases step with
  | purgeBuilding w => exact h.purgeBuilding
  | openBuilding w => exact h.openBuilding
  | createTables w => exact h.createTables
  | stampVersion w => exact h.stampVersion
  | insertMetadata w => exact h.insertMetadata
  | appendDescriptor w descriptor flushRefused => exact h.appendDescriptor descriptor flushRefused
  | flushLast w => exact h.flushLast
  | completeBuilding w => exact h.completeBuilding
  | rename w => exact h.rename
  | syncParent w synced => exact h.syncParent synced
  | dropWriter w => exact h.dropWriter
  | look r n => exact h.look n
  | readHeader r => exact h.readHeader
  | connectVisible r => exact h.connectVisible
  | readNext r => exact h.readNext
  | purgeVisible r => exact h.purgeVisible

end Calls

/-! ## Orderly runs -/

section Orderly

variable {key : GlobalSimilarityStoreKey} {s : StoreState} {w r : Nat} {phase : WriterPhase}

/-- What orderly steps keep. -/
structure Kept (key : GlobalSimilarityStoreKey) (s : StoreState) : Prop where
  renamed : ∀ w publication,
    s.writers w = .renamed publication ∨ s.writers w = .finished publication →
      Holds key publication.content publication.appended
  failed : ∀ w file, s.writers w = .failed → s.before w = some file → (w, file) ∉ s.touched

theorem kept_start (key : GlobalSimilarityStoreKey) : Kept key .start where
  renamed := by
    rintro w publication (hIdle | hIdle)
    · cases hIdle
    · cases hIdle
  failed := fun _ _ _ _ => List.not_mem_nil

theorem Kept.publishLaw (h : Kept key s) (hSound : Sound key s) : PublishLaw key s where
  finished := fun w publication hPhase => h.renamed w publication (.inr hPhase)
  abandoned := by
    intro w file hNot hBefore hMem
    have hMay := hSound.touched w file hBefore hMem
    cases hPhase : s.writers w with
    | renamed publication => exact hNot ⟨publication, .inl hPhase⟩
    | finished publication => exact hNot ⟨publication, .inr hPhase⟩
    | failed => exact h.failed w file hPhase hBefore hMem
    | _ =>
        rw [hPhase] at hMay
        exact hMay

/-- A writer that had not come to its rename goes to a phase before it, or fails. -/
theorem Kept.setWriter (h : Kept key s) (hSound : Sound key s)
    (hPhase : ∀ file, ¬MayTouch file (s.writers w)) (hNot : ¬Renamed phase) :
    Kept key (s.setWriter w phase) := by
  have hSelf : (s.setWriter w phase).writers w = phase := Function.update_self _ _ _
  have hOther : ∀ w', w' ≠ w → (s.setWriter w phase).writers w' = s.writers w' :=
    fun w' hNe => Function.update_of_ne hNe _ _
  constructor
  · intro w' publication hw
    by_cases hSame : w' = w
    · subst hSame
      rw [hSelf] at hw
      exact absurd ⟨publication, hw⟩ hNot
    · rw [hOther w' hSame] at hw
      exact h.renamed w' publication hw
  · intro w' file hw hBefore
    by_cases hSame : w' = w
    · subst hSame
      exact hSound.untouched hPhase file hBefore
    · rw [hOther w' hSame] at hw
      exact h.failed w' file hw hBefore

theorem Kept.write (h : Kept key s) {file : Nat} {content : GlobalDatabase}
    {completion : Option Completion} (hNot : ¬Renamed phase) (hFailed : phase ≠ .failed) :
    Kept key (s.write w file content phase completion) := by
  have hSelf : (s.write w file content phase completion).writers w = phase :=
    Function.update_self _ _ _
  have hOther : ∀ w', w' ≠ w →
      (s.write w file content phase completion).writers w' = s.writers w' :=
    fun w' hNe => Function.update_of_ne hNe _ _
  constructor
  · intro w' publication hw
    by_cases hSame : w' = w
    · subst hSame
      rw [hSelf] at hw
      exact absurd ⟨publication, hw⟩ hNot
    · rw [hOther w' hSame] at hw
      exact h.renamed w' publication hw
  · intro w' f hw hBefore hMem
    by_cases hSame : w' = w
    · subst hSame
      rw [hSelf] at hw
      exact hFailed hw
    · rw [hOther w' hSame] at hw
      rcases List.mem_cons.1 hMem with hNew | hOld
      · cases hNew
        exact hSame rfl
      · exact h.failed w' f hw hBefore hOld

theorem not_renamed (hRenamed : ∀ publication, phase ≠ .renamed publication)
    (hFinished : ∀ publication, phase ≠ .finished publication) : ¬Renamed phase := by
  rintro ⟨publication, hIs | hIs⟩
  · exact hRenamed publication hIs
  · exact hFinished publication hIs

theorem Kept.rename (h : Kept key s) (hSound : Sound key s) (hOrderly : Orderly s (.rename w)) :
    Kept key (s.rename w) := by
  unfold StoreState.rename
  split
  · rename_i own count appended hPhase
    have hBefore : ∀ f, ¬MayTouch f (s.writers w) := by
      rw [hPhase]
      exact fun _ hMay => hMay
    split
    · exact h.setWriter hSound hBefore (not_renamed (by simp) (by simp))
    · rename_i file hBuilding
      have hOwn : file = own := hOrderly own count appended hPhase file hBuilding
      have hHolds : Holds key (s.files file) appended := by
        rw [hOwn]
        exact (hSound.complete _ (hSound.closed w own count appended hPhase)).2.1
      have hSelf : (s.setWriter w (.renamed ⟨appended, s.files file, s.visible⟩)).writers w =
          .renamed ⟨appended, s.files file, s.visible⟩ := Function.update_self _ _ _
      have hOther : ∀ w', w' ≠ w →
          (s.setWriter w (.renamed ⟨appended, s.files file, s.visible⟩)).writers w' =
            s.writers w' :=
        fun w' hNe => Function.update_of_ne hNe _ _
      constructor
      · intro w' publication hw
        by_cases hSame : w' = w
        · subst hSame
          change (s.setWriter w' _).writers w' = _ ∨ (s.setWriter w' _).writers w' = _ at hw
          rw [hSelf] at hw
          rcases hw with hw | hw
          · cases hw
            exact hHolds
          · cases hw
        · change (s.setWriter w _).writers w' = _ ∨ (s.setWriter w _).writers w' = _ at hw
          rw [hOther w' hSame] at hw
          exact h.renamed w' publication hw
      · intro w' f hw hBeforeIs hMem
        by_cases hSame : w' = w
        · subst hSame
          change (s.setWriter w' _).writers w' = _ at hw
          rw [hSelf] at hw
          cases hw
        · change (s.setWriter w _).writers w' = _ at hw
          rw [hOther w' hSame] at hw
          rcases List.mem_append.1 hMem with hNew | hOld
          · obtain ⟨replaced, -, hIs⟩ := Option.map_eq_some_iff.1 (Option.mem_toList.1 hNew)
            cases hIs
            exact hSame rfl
          · exact h.failed w' f hw hBeforeIs hOld
  · exact h

theorem Kept.syncParent (h : Kept key s) (hSound : Sound key s) {synced : Bool}
    (hOrderly : Orderly s (.syncParent w synced)) : Kept key (s.syncParent w synced) := by
  unfold StoreState.syncParent
  split
  · rename_i publication hPhase
    have hOther : ∀ phase w', w' ≠ w → (s.setWriter w phase).writers w' = s.writers w' :=
      fun _ w' hNe => Function.update_of_ne hNe _ _
    have hSelf : ∀ phase, (s.setWriter w phase).writers w = phase :=
      fun _ => Function.update_self _ _ _
    constructor
    · intro w' publication' hw
      by_cases hSame : w' = w
      · subst hSame
        rw [hSelf] at hw
        cases synced with
        | false =>
            rcases hw with hw | hw
            · cases hw
            · cases hw
        | true =>
            rcases hw with hw | hw
            · cases hw
            · cases hw
              exact h.renamed w' publication (.inl hPhase)
      · rw [hOther _ w' hSame] at hw
        exact h.renamed w' publication' hw
    · intro w' f hw hBefore hMem
      by_cases hSame : w' = w
      · subst hSame
        rw [hSelf] at hw
        cases synced with
        | false =>
            have hMay := hSound.touched w' f hBefore hMem
            rw [hPhase] at hMay
            exact hOrderly rfl publication f hPhase hBefore hMay
        | true => cases hw
      · rw [hOther _ w' hSame] at hw
        exact h.failed w' f hw hBefore hMem
  · exact h

theorem Kept.purgeBuilding (h : Kept key s) (hSound : Sound key s) :
    Kept key (s.purgeBuilding w key) := by
  unfold StoreState.purgeBuilding
  split
  · rename_i hPhase
    split_ifs
    · have hSelf : (s.setWriter w .purged).writers w = .purged := Function.update_self _ _ _
      have hOther : ∀ w', w' ≠ w → (s.setWriter w .purged).writers w' = s.writers w' :=
        fun w' hNe => Function.update_of_ne hNe _ _
      constructor
      · intro w' publication hw
        change (s.setWriter w _).writers w' = _ ∨ (s.setWriter w _).writers w' = _ at hw
        by_cases hSame : w' = w
        · subst hSame
          rw [hSelf] at hw
          rcases hw with hw | hw
          · cases hw
          · cases hw
        · rw [hOther w' hSame] at hw
          exact h.renamed w' publication hw
      · intro w' f hw hBefore
        change (s.setWriter w _).writers w' = _ at hw
        change Function.update s.before w s.visibleComplete w' = some f at hBefore
        by_cases hSame : w' = w
        · subst hSame
          rw [hSelf] at hw
          cases hw
        · rw [hOther w' hSame] at hw
          rw [Function.update_of_ne hSame] at hBefore
          exact h.failed w' f hw hBefore
    · apply h.setWriter hSound _ (not_renamed (by simp) (by simp))
      rw [hPhase]
      exact fun _ hMay => hMay
  · exact h

/-- A step that changes no writer. -/
theorem Kept.same (h : Kept key s) {s' : StoreState} (hWriters : s'.writers = s.writers)
    (hBefore : s'.before = s.before) (hTouched : s'.touched = s.touched) : Kept key s' where
  renamed := by
    rw [hWriters]
    exact h.renamed
  failed := by
    rw [hWriters, hBefore, hTouched]
    exact h.failed

theorem Kept.openBuilding (h : Kept key s) (hSound : Sound key s) :
    Kept key (s.openBuilding w) := by
  unfold StoreState.openBuilding
  split
  · rename_i hPhase
    have hBefore : ∀ f, ¬MayTouch f (s.writers w) := by
      rw [hPhase]
      exact fun _ hMay => hMay
    split
    · exact h.setWriter hSound hBefore (not_renamed (by simp) (by simp))
    · exact (h.setWriter hSound hBefore (not_renamed (by simp) (by simp))).same rfl rfl rfl
  · exact h

theorem Kept.createTables (h : Kept key s) (hSound : Sound key s) :
    Kept key (s.createTables w) := by
  unfold StoreState.createTables
  split
  · rename_i file hPhase
    split
    · exact h.write (not_renamed (by simp) (by simp)) (by simp)
    · apply h.setWriter hSound _ (not_renamed (by simp) (by simp))
      rw [hPhase]
      exact fun _ hMay => hMay
  · exact h

theorem Kept.stampVersion (h : Kept key s) : Kept key (s.stampVersion w) := by
  unfold StoreState.stampVersion
  split
  · exact h.write (not_renamed (by simp) (by simp)) (by simp)
  · exact h

theorem Kept.insertMetadata (h : Kept key s) : Kept key (s.insertMetadata w key) := by
  unfold StoreState.insertMetadata
  split
  · exact h.write (not_renamed (by simp) (by simp)) (by simp)
  · exact h

theorem Kept.appendDescriptor (h : Kept key s) (hSound : Sound key s)
    (descriptor : GlobalDescriptor) (flushRefused : Bool) :
    Kept key (s.appendDescriptor w descriptor flushRefused) := by
  unfold StoreState.appendDescriptor
  split
  · rename_i file nextFrameId pending appended hPhase
    have hOwn : fills (s.writers w) = some file := by rw [hPhase]; rfl
    have hBefore := not_mayTouch_of_fills hOwn
    split
    · exact h.setWriter hSound hBefore (not_renamed (by simp) (by simp))
    · exact h
    · have hKept : ∀ {nextFrameId pending appended},
          Kept key (s.setWriter w (.writing file nextFrameId pending appended)) :=
        h.setWriter hSound hBefore (not_renamed (by simp) (by simp))
      dsimp only
      split_ifs
      · split
        · exact hKept
        · exact h.write (not_renamed (by simp) (by simp)) (by simp)
      · exact hKept
  · exact h

theorem Kept.flushLast (h : Kept key s) (hSound : Sound key s) : Kept key (s.flushLast w) := by
  unfold StoreState.flushLast
  split
  · rename_i file nextFrameId pending appended hPhase
    split
    · have hOwn : fills (s.writers w) = some file := by rw [hPhase]; rfl
      exact h.setWriter hSound (not_mayTouch_of_fills hOwn) (not_renamed (by simp) (by simp))
    · exact h.write (not_renamed (by simp) (by simp)) (by simp)
  · exact h

theorem Kept.completeBuilding (h : Kept key s) (hSound : Sound key s) :
    Kept key (s.completeBuilding w) := by
  unfold StoreState.completeBuilding
  split
  · rename_i file nextFrameId appended hPhase
    split
    · have hOwn : fills (s.writers w) = some file := by rw [hPhase]; rfl
      exact h.setWriter hSound (not_mayTouch_of_fills hOwn) (not_renamed (by simp) (by simp))
    · exact h.write (not_renamed (by simp) (by simp)) (by simp)
  · exact h

theorem Kept.dropWriter (h : Kept key s) (hSound : Sound key s) : Kept key (s.dropWriter w) := by
  unfold StoreState.dropWriter
  cases hPhase : s.writers w with
  | idle => exact h
  | renamed publication => exact h
  | finished publication => exact h
  | failed =>
      have hSame : s.setWriter w .failed = s := by
        unfold StoreState.setWriter
        rw [← hPhase, Function.update_eq_self]
      show Kept key (s.setWriter w .failed)
      rw [hSame]
      exact h
  | _ =>
      apply h.setWriter hSound _ (not_renamed (by simp) (by simp))
      rw [hPhase]
      exact fun _ hMay => hMay

/-- A load's steps change no writer. -/
theorem Kept.load (h : Kept key s) {step : StoreStep}
    (hLoad : (applyStep key s step).writers = s.writers ∧
      (applyStep key s step).before = s.before ∧ (applyStep key s step).touched = s.touched) :
    Kept key (applyStep key s step) :=
  h.same hLoad.1 hLoad.2.1 hLoad.2.2

theorem readHeader_same : (s.readHeader r).writers = s.writers ∧
    (s.readHeader r).before = s.before ∧ (s.readHeader r).touched = s.touched := by
  unfold StoreState.readHeader
  split
  · split <;> exact ⟨rfl, rfl, rfl⟩
  · exact ⟨rfl, rfl, rfl⟩

theorem connectVisible_same : (s.connectVisible r).writers = s.writers ∧
    (s.connectVisible r).before = s.before ∧ (s.connectVisible r).touched = s.touched := by
  unfold StoreState.connectVisible
  split
  · split <;> exact ⟨rfl, rfl, rfl⟩
  · exact ⟨rfl, rfl, rfl⟩

theorem readNext_same : (s.readNext r key).writers = s.writers ∧
    (s.readNext r key).before = s.before ∧ (s.readNext r key).touched = s.touched := by
  unfold StoreState.readNext
  split
  · split
    · exact ⟨rfl, rfl, rfl⟩
    · split <;> exact ⟨rfl, rfl, rfl⟩
  · exact ⟨rfl, rfl, rfl⟩

theorem purgeVisible_same : (s.purgeVisible r).writers = s.writers ∧
    (s.purgeVisible r).before = s.before ∧ (s.purgeVisible r).touched = s.touched := by
  unfold StoreState.purgeVisible
  split <;> exact ⟨rfl, rfl, rfl⟩

theorem Kept.apply (h : Kept key s) (hSound : Sound key s) (step : StoreStep)
    (hOrderly : Orderly s step) : Kept key (applyStep key s step) := by
  cases step with
  | purgeBuilding w => exact h.purgeBuilding hSound
  | openBuilding w => exact h.openBuilding hSound
  | createTables w => exact h.createTables hSound
  | stampVersion w => exact h.stampVersion
  | insertMetadata w => exact h.insertMetadata
  | appendDescriptor w descriptor flushRefused =>
      exact h.appendDescriptor hSound descriptor flushRefused
  | flushLast w => exact h.flushLast hSound
  | completeBuilding w => exact h.completeBuilding hSound
  | rename w => exact h.rename hSound hOrderly
  | syncParent w synced => exact h.syncParent hSound hOrderly
  | dropWriter w => exact h.dropWriter hSound
  | look r n => exact h.load ⟨rfl, rfl, rfl⟩
  | readHeader r => exact h.load readHeader_same
  | connectVisible r => exact h.load connectVisible_same
  | readNext r => exact h.load readNext_same
  | purgeVisible r => exact h.load purgeVisible_same

end Orderly

/-! ## Runs -/

/-- The steps of `begin`. -/
def beginSteps (w : Nat) : List StoreStep :=
  [.purgeBuilding w, .openBuilding w, .createTables w, .stampVersion w, .insertMetadata w]

/-- One frame is appended, and `finish` comes to its rename. -/
def fillSteps (w : Nat) : List StoreStep :=
  [.appendDescriptor w (shade 0 0 40) false, .flushLast w, .completeBuilding w]

/-- The second writer takes the building path over and finishes. -/
def takenOver : List StoreStep :=
  beginSteps 0 ++ beginSteps 1 ++ fillSteps 1 ++ [.rename 1, .syncParent 1 true]

/-- The state after `n` steps of it. -/
def takenOverState (n : Nat) : StoreState :=
  (takenOver.take n).foldl (applyStep sampleGlobalKey) .start

/-- The second writer begins between the last transaction of the first one and its
rename. -/
def overtakenBuilder : List StoreStep :=
  beginSteps 0 ++ fillSteps 0 ++ beginSteps 1 ++ [.rename 0, .syncParent 0 true]

/-- A second writer's rename is made and `sync_parent` is refused. -/
def refusedSync : List StoreStep :=
  beginSteps 0 ++ fillSteps 0 ++ [.rename 0, .syncParent 0 true] ++ beginSteps 1 ++ fillSteps 1 ++
    [.rename 1, .syncParent 1 false]

/-- Its `finish` fails, and the result that was complete before it began has lost the
visible name to it. -/
theorem refusedSync_replaces :
    (refusedSync.foldl (applyStep sampleGlobalKey) .start).writers 1 = .failed ∧
      (refusedSync.foldl (applyStep sampleGlobalKey) .start).before 1 = some 0 ∧
      (1, 0) ∈ (refusedSync.foldl (applyStep sampleGlobalKey) .start).touched := by
  decide +kernel

end FrameScope.Ports.GlobalWritersLaw
