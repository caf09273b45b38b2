import FrameScope.Ports.SimilarityWriters

/-!
# What concurrent writers leave behind

A writer fills a file of its own: the schema can be created only once in a file,
so no two writers are past `begin` with one file (`unique`), and no file that
was ever visible is written again.  The two calls that act by name are the
danger.  A `finish` renames whatever stands at the building path, and a visit
purges whatever stands at the visible path.  In a run in which both meet the file
that they mean, a published result stays and is what every later visit hands out.
-/

namespace FrameScope.Ports.SimilarityWritersLaw

open FrameScope.Verified.Runs
open FrameScope.Ports.Core
open FrameScope.Ports.GroupNavigation (FrameGroup Partitions)
open FrameScope.Ports.SimilarityStore
open FrameScope.Ports.SimilarityStoreLaw
open FrameScope.Ports.SimilarityWriters

variable [KeyJson]

/-- The result that a run has to keep: the one published last, or the one the
run began with. -/
def current (initial : StoreFile) (s : StoreState) : StoreFile :=
  match s.history with
  | [] => initial
  | p :: _ => p.content

/-- The calls that act by name meet the file they mean, and no visit asks for a
frame count that the visible result does not cover. -/
def Orderly (key : SimilarityStoreKey) (s : StoreState) : StoreStep → Prop
  | .rename w => ∀ file count appended, s.writers w = .sealed file count appended →
      ∀ other, s.building = some other → other = file
  | .purgeVisible r => ∀ file frames since visit, s.readers r = .judged file frames since visit →
      ∀ other, s.visible = some other → other = file
  | .judge r => ∀ frames since, s.readers r = .looked frames since →
      ∀ groups, Serves s.visibleContent key groups → Covers frames groups
  | _ => True

/-- What the store promises in a state. -/
structure PublishLaw (key : SimilarityStoreKey) (initial : StoreFile) (s : StoreState) :
    Prop where
  published : ∀ p ∈ s.history, Serves p.content key p.groups
  unchanged : ∀ groups, Serves (current initial s) key groups →
    s.visibleContent = current initial s
  visits : ∀ r frames since visit groups, s.readers r = .done frames since visit →
    since = s.history.length → Serves (current initial s) key groups → Covers frames groups →
    visit = served groups

/-! ## The invariant -/

/-- The writer has a file that is initialised and not yet published. -/
def Owns (phase : WriterPhase) (file : Nat) : Prop :=
  (∃ pending nextOrdinal appended, phase = .writing file pending nextOrdinal appended) ∨
    ∃ count appended, phase = .sealed file count appended

/-- No writer can initialise the file. -/
def Refuses (key : SimilarityStoreKey) (content : StoreFile) : Prop :=
  ∀ database, (content.connect.mapError .sqlite).bind (initialise key) ≠ .ok database

/-- A file that no writer has filled, or that one has initialised. -/
def Pristine (key : SimilarityStoreKey) (content : StoreFile) : Prop :=
  content = .empty ∨ Refuses key content

/-- The file that a visit is about to purge: nobody will write it, and it holds
no result. -/
structure Condemned (key : SimilarityStoreKey) (s : StoreState) (file : Nat) : Prop where
  lt : file < s.nextFile
  building : s.building ≠ some file
  owned : ∀ w, ¬ Owns (s.writers w) file
  opened : ∀ w, s.writers w = .opened file → Refuses key (s.files file)
  result : ∀ groups, ¬ Serves (s.files file) key groups

structure Sound (key : SimilarityStoreKey) (initial : StoreFile) (s : StoreState) : Prop where
  visible_lt : ∀ file, s.visible = some file → file < s.nextFile
  building_lt : ∀ file, s.building = some file → file < s.nextFile
  names_ne : ∀ file, s.visible = some file → s.building ≠ some file
  building_pristine : ∀ w file, s.writers w ≠ .idle → s.building = some file →
    Pristine key (s.files file)
  opened : ∀ w file, s.writers w = .opened file → file < s.nextFile ∧
    Pristine key (s.files file) ∧ (s.visible = some file → Refuses key (s.files file))
  owned : ∀ w file, Owns (s.writers w) file →
    file < s.nextFile ∧ s.visible ≠ some file ∧ Refuses key (s.files file)
  unique : ∀ w w' file, Owns (s.writers w) file → Owns (s.writers w') file → w = w'
  writing : ∀ w file pending nextOrdinal appended,
    s.writers w = .writing file pending nextOrdinal appended →
    ∃ database, s.files file = .database database ∧
      Writes key ⟨database, pending, nextOrdinal⟩ appended
  complete : ∀ w file count appended, s.writers w = .sealed file count appended →
    Serves (s.files file) key appended
  judged : ∀ r file frames since visit, s.readers r = .judged file frames since visit →
    Condemned key s file ∧ since ≤ s.history.length ∧
      (since = s.history.length → ∀ groups, ¬ Serves (current initial s) key groups)
  looked : ∀ r frames since, s.readers r = .looked frames since → since ≤ s.history.length
  done : ∀ r frames since visit, s.readers r = .done frames since visit →
    since ≤ s.history.length
  law : PublishLaw key initial s

/-! ## Files of writers -/

section Files

variable {key : SimilarityStoreKey} {written : List FrameGroup}

/-- A database with the store's tables is not initialised again. -/
theorem refuses_of_meta {content : Database} (h : content.similarityMeta ≠ none) :
    Refuses key (.database content) := by
  intro database hOk
  obtain ⟨opened, hOpened, hOk⟩ := bind_eq_ok.1 hOk
  cases hOpened
  obtain ⟨created, hCreated, -⟩ := bind_eq_ok.1 hOk
  obtain ⟨_, hFree, -⟩ := bind_eq_ok.1 hCreated
  exact h (ensure_eq_ok.1 hFree)

theorem refuses_of_serves {content : Database} {groups : List FrameGroup}
    (h : Serves (.database content) key groups) : Refuses key (.database content) := by
  apply refuses_of_meta
  intro hNone
  have hPlain := h.plain
  unfold visitGroups at hPlain
  rw [visit_database] at hPlain
  unfold visitDatabase at hPlain
  rw [hNone] at hPlain
  split_ifs at hPlain
  · cases hPlain
  · cases hPlain

theorem refuses_of_writes {writer : SimilarityStoreWriter} (h : Writes key writer written) :
    Refuses key (.database writer.database) := by
  obtain ⟨done, table, -, -, -, hDatabase⟩ := h.flushed
  apply refuses_of_meta
  rw [hDatabase]
  simp [resultDatabase]

end Files

/-! ## Steps of the invariant -/

section Steps

variable {key : SimilarityStoreKey} {initial : StoreFile} {s s' : StoreState} {w r file : Nat}
  {phase : WriterPhase} {content : StoreFile}

theorem Condemned.mono (h : Condemned key s file) (hLt : s.nextFile ≤ s'.nextFile)
    (hBuilding : s'.building = some file → s.building = some file)
    (hOwned : ∀ w, Owns (s'.writers w) file → Owns (s.writers w) file)
    (hOpened : ∀ w, s'.writers w = .opened file → s.writers w = .opened file)
    (hFiles : s'.files file = s.files file) : Condemned key s' file where
  lt := h.lt.trans_le hLt
  building := fun hSame => h.building (hBuilding hSame)
  owned := fun w hOwns => h.owned w (hOwned w hOwns)
  opened := by
    intro w hw
    rw [hFiles]
    exact h.opened w (hOpened w hw)
  result := by
    rw [hFiles]
    exact h.result

omit [KeyJson] in
theorem setWriter_of_ne {w' : Nat} (hNe : w' ≠ w) :
    (s.setWriter w phase).writers w' = s.writers w' := Function.update_of_ne hNe _ _

omit [KeyJson] in
theorem setWriter_self : (s.setWriter w phase).writers w = phase := Function.update_self _ _ _

omit [KeyJson] in
/-- What stands at the visible path depends on one file. -/
theorem contentOf_congr (h : ∀ f, s.visible = some f → s'.files f = s.files f) :
    s'.contentOf s.visible = s.visibleContent := by
  unfold StoreState.visibleContent StoreState.contentOf
  cases hVisible : s.visible with
  | none => rfl
  | some f => exact h f hVisible

/-- A writer goes to a phase in which it owns no file; it may have opened the one
at the building path. -/
theorem Sound.setWriter (h : Sound key initial s)
    (hFresh : ∀ file, s.building = some file → Pristine key (s.files file))
    (hOwns : ∀ file, ¬ Owns phase file)
    (hOpened : ∀ file, phase = .opened file → s.building = some file) :
    Sound key initial (s.setWriter w phase) := by
  have hOwned : ∀ w' file, Owns ((s.setWriter w phase).writers w') file →
      Owns (s.writers w') file := by
    intro w' file hw
    by_cases hSame : w' = w
    · subst hSame
      rw [setWriter_self] at hw
      exact absurd hw (hOwns file)
    · rwa [setWriter_of_ne hSame] at hw
  have hOther : ∀ w' phase', (s.setWriter w phase).writers w' = phase' → phase' = phase ∨
      s.writers w' = phase' := by
    intro w' phase' hw
    by_cases hSame : w' = w
    · subst hSame
      rw [setWriter_self] at hw
      exact Or.inl hw.symm
    · rw [setWriter_of_ne hSame] at hw
      exact Or.inr hw
  constructor
  · exact h.visible_lt
  · exact h.building_lt
  · exact h.names_ne
  · exact fun _ file _ hBuilding => hFresh file hBuilding
  · intro w' file hw
    rcases hOther w' _ hw with hNew | hOld
    · have hBuilding := hOpened file hNew.symm
      exact ⟨h.building_lt file hBuilding, hFresh file hBuilding, fun hVisible =>
        absurd hBuilding (h.names_ne file hVisible)⟩
    · exact h.opened w' file hOld
  · intro w' file hw
    exact h.owned w' file (hOwned w' file hw)
  · intro w₁ w₂ file h₁ h₂
    exact h.unique w₁ w₂ file (hOwned w₁ file h₁) (hOwned w₂ file h₂)
  · intro w' file pending nextOrdinal appended hw
    rcases hOther w' _ hw with hNew | hOld
    · exact absurd (Or.inl ⟨pending, nextOrdinal, appended, hNew.symm⟩) (hOwns file)
    · exact h.writing w' file pending nextOrdinal appended hOld
  · intro w' file count appended hw
    rcases hOther w' _ hw with hNew | hOld
    · exact absurd (Or.inr ⟨count, appended, hNew.symm⟩) (hOwns file)
    · exact h.complete w' file count appended hOld
  · intro r file frames since visit hr
    obtain ⟨hCondemned, hSince, hCurrent⟩ := h.judged r file frames since visit hr
    refine ⟨hCondemned.mono (le_refl _) id (fun w' => hOwned w' file) ?_ rfl, hSince, hCurrent⟩
    intro w' hw
    rcases hOther w' _ hw with hNew | hOld
    · exact absurd (hOpened file hNew.symm) hCondemned.building
    · exact hOld
  · exact h.looked
  · exact h.done
  · exact ⟨h.law.published, h.law.unchanged, h.law.visits⟩

/-- A writer writes a file that is its own, or becomes its own, and that no
visit has seen. -/
theorem Sound.write (h : Sound key initial s) (hActive : s.writers w ≠ .idle)
    (hLt : file < s.nextFile) (hVisible : s.visible ≠ some file)
    (hFree : ∀ w', w' ≠ w → ¬ Owns (s.writers w') file)
    (hUnjudged : ∀ r frames since visit, s.readers r ≠ .judged file frames since visit)
    (hRefuses : Refuses key content) (hOwns : ∀ f, Owns phase f → f = file)
    (hOpened : ∀ f, phase ≠ .opened f)
    (hWriting : ∀ f pending nextOrdinal appended,
      phase = .writing f pending nextOrdinal appended →
      ∃ database, content = .database database ∧
        Writes key ⟨database, pending, nextOrdinal⟩ appended)
    (hComplete : ∀ f count appended, phase = .sealed f count appended →
      Serves content key appended) :
    Sound key initial ((s.setFile file content).setWriter w phase) := by
  have hFiles : ∀ f, f ≠ file → ((s.setFile file content).setWriter w phase).files f = s.files f :=
    fun f hNe => Function.update_of_ne hNe _ _
  have hHere : ((s.setFile file content).setWriter w phase).files file = content :=
    Function.update_self _ _ _
  have hPristine : ∀ f, Pristine key (s.files f) →
      Pristine key (((s.setFile file content).setWriter w phase).files f) := by
    intro f hf
    by_cases hSame : f = file
    · rw [hSame, hHere]
      exact Or.inr hRefuses
    · rwa [hFiles f hSame]
  have hOther : ∀ w' phase', ((s.setFile file content).setWriter w phase).writers w' = phase' →
      (w' = w ∧ phase' = phase) ∨ (w' ≠ w ∧ s.writers w' = phase') := by
    intro w' phase' hw
    by_cases hSame : w' = w
    · subst hSame
      rw [setWriter_self] at hw
      exact Or.inl ⟨rfl, hw.symm⟩
    · rw [setWriter_of_ne hSame] at hw
      exact Or.inr ⟨hSame, hw⟩
  have hOwned : ∀ w' f, Owns (((s.setFile file content).setWriter w phase).writers w') f →
      (w' = w ∧ f = file) ∨ (w' ≠ w ∧ f ≠ file ∧ Owns (s.writers w') f) := by
    intro w' f hw
    rcases hOther w' _ rfl with ⟨hSame, hPhase⟩ | ⟨hNe, hPhase⟩
    · rw [hPhase] at hw
      exact Or.inl ⟨hSame, hOwns f hw⟩
    · rw [← hPhase] at hw
      refine Or.inr ⟨hNe, ?_, hw⟩
      rintro rfl
      exact hFree w' hNe hw
  constructor
  · exact h.visible_lt
  · exact h.building_lt
  · exact h.names_ne
  · exact fun _ f _ hf => hPristine f (h.building_pristine w f hActive hf)
  · intro w' f hw
    rcases hOther w' _ hw with ⟨-, hNew⟩ | ⟨-, hOld⟩
    · exact absurd hNew.symm (hOpened f)
    · obtain ⟨hLt', hFresh, hSeen⟩ := h.opened w' f hOld
      refine ⟨hLt', hPristine f hFresh, fun hf => ?_⟩
      have hNe : f ≠ file := by
        rintro rfl
        exact hVisible hf
      rw [hFiles f hNe]
      exact hSeen hf
  · intro w' f hw
    rcases hOwned w' f hw with ⟨-, rfl⟩ | ⟨-, hNe, hOld⟩
    · rw [hHere]
      exact ⟨hLt, hVisible, hRefuses⟩
    · rw [hFiles f hNe]
      exact h.owned w' f hOld
  · intro w₁ w₂ f h₁ h₂
    rcases hOwned w₁ f h₁ with ⟨rfl, rfl⟩ | ⟨-, hNe₁, hOld₁⟩
    · rcases hOwned w₂ f h₂ with ⟨rfl, -⟩ | ⟨-, hNe₂, -⟩
      · rfl
      · exact absurd rfl hNe₂
    · rcases hOwned w₂ f h₂ with ⟨-, rfl⟩ | ⟨-, -, hOld₂⟩
      · exact absurd rfl hNe₁
      · exact h.unique w₁ w₂ f hOld₁ hOld₂
  · intro w' f pending nextOrdinal appended hw
    rcases hOther w' _ hw with ⟨-, hNew⟩ | ⟨hNe, hOld⟩
    · rw [hOwns f (Or.inl ⟨_, _, _, hNew.symm⟩), hHere]
      exact hWriting f pending nextOrdinal appended hNew.symm
    · have hApart : f ≠ file := by
        rintro rfl
        exact hFree w' hNe (Or.inl ⟨_, _, _, hOld⟩)
      rw [hFiles f hApart]
      exact h.writing w' f pending nextOrdinal appended hOld
  · intro w' f count appended hw
    rcases hOther w' _ hw with ⟨-, hNew⟩ | ⟨hNe, hOld⟩
    · rw [hOwns f (Or.inr ⟨_, _, hNew.symm⟩), hHere]
      exact hComplete f count appended hNew.symm
    · have hApart : f ≠ file := by
        rintro rfl
        exact hFree w' hNe (Or.inr ⟨_, _, hOld⟩)
      rw [hFiles f hApart]
      exact h.complete w' f count appended hOld
  · intro r f frames since visit hr
    obtain ⟨hCondemned, hSince, hCurrent⟩ := h.judged r f frames since visit hr
    have hApart : f ≠ file := by
      rintro rfl
      exact hUnjudged r frames since visit hr
    refine ⟨hCondemned.mono (le_refl _) id ?_ ?_ (hFiles f hApart), hSince, hCurrent⟩
    · intro w' hw
      rcases hOwned w' f hw with ⟨-, hSame⟩ | ⟨-, -, hOld⟩
      · exact absurd hSame hApart
      · exact hOld
    · intro w' hw
      rcases hOther w' _ hw with ⟨-, hNew⟩ | ⟨-, hOld⟩
      · exact absurd hNew.symm (hOpened f)
      · exact hOld
  · exact h.looked
  · exact h.done
  · refine ⟨h.law.published, ?_, h.law.visits⟩
    intro groups hServes
    apply Eq.trans _ (h.law.unchanged groups hServes)
    exact contentOf_congr fun f hf => hFiles f fun hSame => hVisible (hSame ▸ hf)

/-- The building name goes away. -/
theorem Sound.unlinkBuilding (h : Sound key initial s) :
    Sound key initial { s with building := none } where
  visible_lt := h.visible_lt
  building_lt := fun _ hNone => by cases hNone
  names_ne := fun _ _ => by simp
  building_pristine := fun _ _ _ hNone => by cases hNone
  opened := h.opened
  owned := h.owned
  unique := h.unique
  writing := h.writing
  complete := h.complete
  judged := by
    intro r file frames since visit hr
    obtain ⟨hCondemned, hRest⟩ := h.judged r file frames since visit hr
    exact ⟨hCondemned.mono (le_refl _) (by simp) (fun _ => id) (fun _ => id) rfl, hRest⟩
  looked := h.looked
  done := h.done
  law := ⟨h.law.published, h.law.unchanged, h.law.visits⟩

/-- A file that nobody has a name for yet. -/
theorem Sound.createFile (h : Sound key initial s) : Sound key initial s.createFile := by
  have hFiles : ∀ f, f < s.nextFile → s.createFile.files f = s.files f :=
    fun f hLt => Function.update_of_ne (Nat.ne_of_lt hLt) _ _
  constructor
  · exact fun f hf => Nat.lt_succ_of_lt (h.visible_lt f hf)
  · exact fun f hf => Nat.lt_succ_of_lt (h.building_lt f hf)
  · exact h.names_ne
  · intro w f hw hf
    rw [hFiles f (h.building_lt f hf)]
    exact h.building_pristine w f hw hf
  · intro w f hw
    obtain ⟨hLt, hSeen⟩ := h.opened w f hw
    rw [hFiles f hLt]
    exact ⟨Nat.lt_succ_of_lt hLt, hSeen⟩
  · intro w f hw
    obtain ⟨hLt, hRest⟩ := h.owned w f hw
    rw [hFiles f hLt]
    exact ⟨Nat.lt_succ_of_lt hLt, hRest⟩
  · exact h.unique
  · intro w f pending nextOrdinal appended hw
    rw [hFiles f (h.owned w f (Or.inl ⟨_, _, _, hw⟩)).1]
    exact h.writing w f pending nextOrdinal appended hw
  · intro w f count appended hw
    rw [hFiles f (h.owned w f (Or.inr ⟨_, _, hw⟩)).1]
    exact h.complete w f count appended hw
  · intro r f frames since visit hr
    obtain ⟨hCondemned, hRest⟩ := h.judged r f frames since visit hr
    exact ⟨hCondemned.mono (Nat.le_succ _) id (fun _ => id) (fun _ => id)
      (hFiles f hCondemned.lt), hRest⟩
  · exact h.looked
  · exact h.done
  · refine ⟨h.law.published, ?_, h.law.visits⟩
    intro groups hServes
    apply Eq.trans _ (h.law.unchanged groups hServes)
    exact contentOf_congr fun f hf => hFiles f (h.visible_lt f hf)

/-- The building path names a file that no visit has seen. -/
theorem Sound.linkBuilding (h : Sound key initial s) (hLt : file < s.nextFile)
    (hFresh : Pristine key (s.files file)) (hVisible : s.visible ≠ some file)
    (hUnjudged : ∀ r frames since visit, s.readers r ≠ .judged file frames since visit) :
    Sound key initial { s with building := some file } where
  visible_lt := h.visible_lt
  building_lt := by
    intro f hf
    cases hf
    exact hLt
  names_ne := by
    intro f hf hSame
    cases hSame
    exact hVisible hf
  building_pristine := by
    intro w f _ hf
    cases hf
    exact hFresh
  opened := h.opened
  owned := h.owned
  unique := h.unique
  writing := h.writing
  complete := h.complete
  judged := by
    intro r f frames since visit hr
    obtain ⟨hCondemned, hRest⟩ := h.judged r f frames since visit hr
    refine ⟨hCondemned.mono (le_refl _) ?_ (fun _ => id) (fun _ => id) rfl, hRest⟩
    intro hSame
    cases hSame
    exact absurd hr (hUnjudged r frames since visit)
  looked := h.looked
  done := h.done
  law := ⟨h.law.published, h.law.unchanged, h.law.visits⟩

omit [KeyJson] in
theorem visibleContent_of_none (h : s.visible = none) : s.visibleContent = .missing := by
  unfold StoreState.visibleContent
  rw [h]
  rfl

/-- With nothing at the visible path there is no result to keep. -/
theorem Sound.no_current (h : Sound key initial s) (hNone : s.visible = none)
    (groups : List FrameGroup) : ¬ Serves (current initial s) key groups := by
  intro hServes
  rw [← h.law.unchanged groups hServes, visibleContent_of_none hNone] at hServes
  exact hServes.hasHeader.1 rfl

/-- A new file at the visible path, where nothing stood. -/
theorem Sound.linkVisible (h : Sound key initial s) (hNone : s.visible = none)
    (hLt : file < s.nextFile) (hBuilding : s.building ≠ some file)
    (hOwned : ∀ w, ¬ Owns (s.writers w) file) (hOpened : ∀ w, s.writers w ≠ .opened file) :
    Sound key initial { s with visible := some file } where
  visible_lt := by
    intro f hf
    cases hf
    exact hLt
  building_lt := h.building_lt
  names_ne := by
    intro f hf
    cases hf
    exact hBuilding
  building_pristine := h.building_pristine
  opened := by
    intro w f hw
    refine ⟨(h.opened w f hw).1, (h.opened w f hw).2.1, fun hSame => ?_⟩
    cases hSame
    exact absurd hw (hOpened w)
  owned := by
    intro w f hw
    obtain ⟨hLt', -, hRefuses⟩ := h.owned w f hw
    refine ⟨hLt', ?_, hRefuses⟩
    intro hSame
    cases hSame
    exact hOwned w hw
  unique := h.unique
  writing := h.writing
  complete := h.complete
  judged := by
    intro r f frames since visit hr
    obtain ⟨hCondemned, hRest⟩ := h.judged r f frames since visit hr
    exact ⟨hCondemned.mono (le_refl _) id (fun _ => id) (fun _ => id) rfl, hRest⟩
  looked := h.looked
  done := h.done
  law := by
    refine ⟨h.law.published, ?_, h.law.visits⟩
    intro groups hServes
    exact absurd hServes (h.no_current hNone groups)

/-- The visible name goes away, and with it no result. -/
theorem Sound.unlinkVisible (h : Sound key initial s)
    (hNoResult : ∀ groups, ¬ Serves (current initial s) key groups) :
    Sound key initial { s with visible := none } where
  visible_lt := fun _ hNone => by cases hNone
  building_lt := h.building_lt
  names_ne := fun _ hNone => by cases hNone
  building_pristine := h.building_pristine
  opened := fun w f hw =>
    ⟨(h.opened w f hw).1, (h.opened w f hw).2.1, fun hNone => by cases hNone⟩
  owned := by
    intro w f hw
    obtain ⟨hLt, -, hRefuses⟩ := h.owned w f hw
    exact ⟨hLt, by simp, hRefuses⟩
  unique := h.unique
  writing := h.writing
  complete := h.complete
  judged := by
    intro r f frames since visit hr
    obtain ⟨hCondemned, hRest⟩ := h.judged r f frames since visit hr
    exact ⟨hCondemned.mono (le_refl _) id (fun _ => id) (fun _ => id) rfl, hRest⟩
  looked := h.looked
  done := h.done
  law := by
    refine ⟨h.law.published, ?_, h.law.visits⟩
    intro groups hServes
    exact absurd hServes (hNoResult groups)

theorem Sound.setReader (h : Sound key initial s) {phase : ReaderPhase}
    (hJudged : ∀ file frames since visit, phase = .judged file frames since visit →
      Condemned key s file ∧ since ≤ s.history.length ∧
        (since = s.history.length → ∀ groups, ¬ Serves (current initial s) key groups))
    (hLooked : ∀ frames since, phase = .looked frames since → since ≤ s.history.length)
    (hDone : ∀ frames since visit, phase = .done frames since visit → since ≤ s.history.length ∧
      (since = s.history.length → ∀ groups, Serves (current initial s) key groups →
        Covers frames groups → visit = served groups)) :
    Sound key initial (s.setReader r phase) := by
  have hOther : ∀ r' phase', (s.setReader r phase).readers r' = phase' → phase = phase' ∨
      s.readers r' = phase' := by
    intro r' phase' hr
    by_cases hSame : r' = r
    · subst hSame
      exact Or.inl ((Function.update_self _ _ _).symm.trans hr)
    · exact Or.inr ((Function.update_of_ne hSame _ _).symm.trans hr)
  constructor
  · exact h.visible_lt
  · exact h.building_lt
  · exact h.names_ne
  · exact h.building_pristine
  · exact h.opened
  · exact h.owned
  · exact h.unique
  · exact h.writing
  · exact h.complete
  · intro r' file frames since visit hr
    have hFacts : Condemned key s file ∧ since ≤ s.history.length ∧
        (since = s.history.length → ∀ groups, ¬ Serves (current initial s) key groups) := by
      rcases hOther r' _ hr with hNew | hOld
      · exact hJudged file frames since visit hNew
      · exact h.judged r' file frames since visit hOld
    exact ⟨hFacts.1.mono (le_refl _) id (fun _ => id) (fun _ => id) rfl, hFacts.2⟩
  · intro r' frames since hr
    rcases hOther r' _ hr with hNew | hOld
    · exact hLooked frames since hNew
    · exact h.looked r' frames since hOld
  · intro r' frames since visit hr
    rcases hOther r' _ hr with hNew | hOld
    · exact (hDone frames since visit hNew).1
    · exact h.done r' frames since visit hOld
  · refine ⟨h.law.published, h.law.unchanged, ?_⟩
    intro r' frames since visit groups hr hSince hServes hCovers
    rcases hOther r' _ hr with hNew | hOld
    · exact (hDone frames since visit hNew).2 hSince groups hServes hCovers
    · exact h.law.visits r' frames since visit groups hOld hSince hServes hCovers

/-- A sealed file that nobody owns any more becomes the visible one. -/
theorem Sound.publish (h : Sound key initial s) (hBuilding : s.building = some file)
    (hFree : ∀ w, ¬ Owns (s.writers w) file) {groups : List FrameGroup}
    (hServes : Serves (s.files file) key groups) (hRefuses : Refuses key (s.files file)) :
    Sound key initial { s with
      visible := some file
      building := none
      history := ⟨groups, s.files file⟩ :: s.history } where
  visible_lt := by
    intro f hf
    cases hf
    exact h.building_lt file hBuilding
  building_lt := fun _ hNone => by cases hNone
  names_ne := fun _ _ => by simp
  building_pristine := fun _ _ _ hNone => by cases hNone
  opened := by
    intro w f hw
    refine ⟨(h.opened w f hw).1, (h.opened w f hw).2.1, fun hSame => ?_⟩
    cases hSame
    exact hRefuses
  owned := by
    intro w f hw
    obtain ⟨hLt, -, hRefuses'⟩ := h.owned w f hw
    refine ⟨hLt, ?_, hRefuses'⟩
    intro hSame
    cases hSame
    exact hFree w hw
  unique := h.unique
  writing := h.writing
  complete := h.complete
  judged := by
    intro r f frames since visit hr
    obtain ⟨hCondemned, hSince, -⟩ := h.judged r f frames since visit hr
    refine ⟨hCondemned.mono (le_refl _) (by simp) (fun _ => id) (fun _ => id) rfl,
      Nat.le_succ_of_le hSince, fun hSame => ?_⟩
    rw [hSame, List.length_cons] at hSince
    omega
  looked := fun r frames since hr => Nat.le_succ_of_le (h.looked r frames since hr)
  done := fun r frames since visit hr => Nat.le_succ_of_le (h.done r frames since visit hr)
  law := by
    refine ⟨?_, fun _ _ => rfl, ?_⟩
    · intro p hp
      rcases List.mem_cons.1 hp with rfl | hOld
      · exact hServes
      · exact h.law.published p hOld
    · -- A visit that is over began before this result was published.
      intro r frames since visit groups' hr hSince
      have hLe := h.done r frames since visit hr
      rw [hSince, List.length_cons] at hLe
      omega

end Steps

/-! ## Calls -/

section Calls

variable {key : SimilarityStoreKey} {initial : StoreFile} {s : StoreState} {w r : Nat}

theorem Sound.failWriter (h : Sound key initial s) (hActive : s.writers w ≠ .idle) :
    Sound key initial (s.setWriter w .failed) :=
  h.setWriter (fun file => h.building_pristine w file hActive) (by simp [Owns]) (by simp)

theorem Sound.purgeBuilding (h : Sound key initial s) :
    Sound key initial (s.purgeBuilding w) := by
  unfold StoreState.purgeBuilding
  split
  · exact h.unlinkBuilding.setWriter (by simp) (by simp [Owns]) (by simp)
  · exact h

theorem Sound.openBuilding (h : Sound key initial s) : Sound key initial (s.openBuilding w) := by
  unfold StoreState.openBuilding
  split
  · rename_i hPhase
    have hActive : s.writers w ≠ .idle := by simp [hPhase]
    split
    · rename_i file hBuilding
      apply h.setWriter (fun f => h.building_pristine w f hActive) (by simp [Owns])
      rintro f hf
      cases hf
      exact hBuilding
    · -- The new file has never had a name.
      have hNew : Pristine key (s.createFile.files s.nextFile) :=
        Or.inl (Function.update_self _ _ _)
      have hLinked := h.createFile.linkBuilding (Nat.lt_succ_self _) hNew
        (fun hSame => lt_irrefl _ (h.visible_lt _ hSame))
        (fun r frames since visit hr =>
          lt_irrefl _ (h.judged r _ frames since visit hr).1.lt)
      apply hLinked.setWriter _ (by simp [Owns])
      · rintro f hf
        cases hf
        rfl
      · rintro f hf
        cases hf
        exact hNew
  · exact h

/-- `begin` fills only a file without a byte. -/
theorem initialise_empty {content : StoreFile} {database : Database}
    (hPristine : Pristine key content)
    (hOk : (content.connect.mapError .sqlite).bind (initialise key) = .ok database) :
    Writes key ⟨database, [], 0⟩ [] ∧ ¬ Refuses key content := by
  refine ⟨?_, fun hRefuses => hRefuses database hOk⟩
  rcases hPristine with rfl | hRefuses
  · obtain ⟨writer, hBegin, hWrites⟩ := begin_writes key
    have hSame : begin key = .ok ⟨database, [], 0⟩ := bind_eq_ok.2 ⟨database, hOk, rfl⟩
    rw [hSame] at hBegin
    cases hBegin
    exact hWrites
  · exact absurd hOk (hRefuses database)

theorem Sound.initialiseBuilding (h : Sound key initial s) :
    Sound key initial (s.initialiseBuilding w key) := by
  unfold StoreState.initialiseBuilding
  split
  · rename_i file hPhase
    have hActive : s.writers w ≠ .idle := by simp [hPhase]
    split
    · exact h.failWriter hActive
    · rename_i database hOk
      obtain ⟨hLt, hPristine, hSeen⟩ := h.opened w file hPhase
      obtain ⟨hWrites, hAccepts⟩ := initialise_empty hPristine hOk
      apply h.write hActive hLt (fun hf => hAccepts (hSeen hf))
      · exact fun w' _ hOwns => hAccepts (h.owned w' file hOwns).2.2
      · exact fun r frames since visit hr =>
          hAccepts ((h.judged r file frames since visit hr).1.opened w hPhase)
      · exact refuses_of_writes hWrites
      · rintro f (⟨_, _, _, hf⟩ | ⟨_, _, hf⟩)
        · cases hf
          rfl
        · cases hf
      · simp
      · rintro f pending nextOrdinal appended hf
        cases hf
        exact ⟨database, rfl, hWrites⟩
      · simp
  · exact h

/-- A writer goes on with its own file. -/
theorem Sound.writeOwn (h : Sound key initial s) {file : Nat} {phase : WriterPhase}
    {content : StoreFile} (hOwn : Owns (s.writers w) file) (hRefuses : Refuses key content)
    (hOwns : ∀ f, Owns phase f → f = file) (hOpened : ∀ f, phase ≠ .opened f)
    (hWriting : ∀ f pending nextOrdinal appended,
      phase = .writing f pending nextOrdinal appended →
      ∃ database, content = .database database ∧
        Writes key ⟨database, pending, nextOrdinal⟩ appended)
    (hComplete : ∀ f count appended, phase = .sealed f count appended →
      Serves content key appended) :
    Sound key initial ((s.setFile file content).setWriter w phase) := by
  obtain ⟨hLt, hVisible, -⟩ := h.owned w file hOwn
  have hActive : s.writers w ≠ .idle := by
    intro hIdle
    rw [hIdle] at hOwn
    simp [Owns] at hOwn
  apply h.write hActive hLt hVisible _ _ hRefuses hOwns hOpened hWriting hComplete
  · exact fun w' hNe hOwn' => hNe (h.unique w' w file hOwn' hOwn)
  · exact fun r frames since visit hr => (h.judged r file frames since visit hr).1.owned w hOwn

theorem Sound.appendGroup (h : Sound key initial s) (group : FrameGroup) :
    Sound key initial (s.appendGroup w group) := by
  unfold StoreState.appendGroup
  split
  · rename_i file pending nextOrdinal appended hPhase
    have hOwn : Owns (s.writers w) file := Or.inl ⟨_, _, _, hPhase⟩
    have hActive : s.writers w ≠ .idle := by simp [hPhase]
    obtain ⟨database, hFile, hWrites⟩ := h.writing w file pending nextOrdinal appended hPhase
    rw [hFile]
    dsimp only
    split
    · rename_i writer hOk
      have hNext := hWrites.append_ok hOk
      apply h.writeOwn hOwn (refuses_of_writes hNext)
      · rintro f (⟨_, _, _, hf⟩ | ⟨_, _, hf⟩)
        · cases hf
          rfl
        · cases hf
      · simp
      · rintro f pending' nextOrdinal' appended' hf
        cases hf
        exact ⟨writer.database, rfl, hNext⟩
      · simp
    · split_ifs
      · exact h.failWriter hActive
      · exact h
  · exact h

theorem Sound.completeBuilding (hKey : KeyRoundTrips key) (h : Sound key initial s) :
    Sound key initial (s.completeBuilding w) := by
  unfold StoreState.completeBuilding
  split
  · rename_i file pending nextOrdinal appended hPhase
    have hOwn : Owns (s.writers w) file := Or.inl ⟨_, _, _, hPhase⟩
    have hActive : s.writers w ≠ .idle := by simp [hPhase]
    obtain ⟨database, hFile, hWrites⟩ := h.writing w file pending nextOrdinal appended hPhase
    rw [hFile]
    dsimp only
    split
    · rename_i count content hOk
      have hServes := hWrites.complete_ok hKey hOk
      apply h.writeOwn hOwn (refuses_of_serves hServes)
      · rintro f (⟨_, _, _, hf⟩ | ⟨_, _, hf⟩)
        · cases hf
        · cases hf
          rfl
      · simp
      · simp
      · rintro f count' appended' hf
        cases hf
        exact hServes
    · exact h.failWriter hActive
  · exact h

theorem Sound.rename (h : Sound key initial s) (hOrderly : Orderly key s (.rename w)) :
    Sound key initial (s.rename w) := by
  unfold StoreState.rename
  split
  · rename_i file count appended hPhase
    have hOwn : Owns (s.writers w) file := Or.inr ⟨_, _, hPhase⟩
    have hActive : s.writers w ≠ .idle := by simp [hPhase]
    split
    · exact h.failWriter hActive
    · rename_i other hBuilding
      obtain rfl := hOrderly file count appended hPhase other hBuilding
      have hDone : Sound key initial (s.setWriter w (.finished count)) :=
        h.setWriter (fun f => h.building_pristine w f hActive) (by simp [Owns]) (by simp)
      apply hDone.publish hBuilding _ (h.complete w _ count appended hPhase)
        (h.owned w _ hOwn).2.2
      intro w' hOwn'
      by_cases hSame : w' = w
      · subst hSame
        rw [setWriter_self] at hOwn'
        simp [Owns] at hOwn'
      · rw [setWriter_of_ne hSame] at hOwn'
        exact hSame (h.unique w' w _ hOwn' hOwn)
  · exact h

theorem Sound.dropWriter (h : Sound key initial s) : Sound key initial (s.dropWriter w) := by
  unfold StoreState.dropWriter
  split
  · exact h
  · exact h
  · rename_i hIdle _
    exact h.failWriter hIdle

/-- A visit that would purge a file that serves groups asked for the wrong
frame count. -/
theorem not_serves_of_purges {content : StoreFile} {frames : Option Nat}
    (hCovers : ∀ groups, Serves content key groups → Covers frames groups)
    (hPurges : (visitConnection content key frames).purges = true)
    (groups : List FrameGroup) : ¬ Serves content key groups := by
  intro hServes
  rw [hServes.visit (hCovers groups hServes)] at hPurges
  cases hPurges

theorem Sound.condemned (h : Sound key initial s) {file : Nat} (hVisible : s.visible = some file)
    (hResult : ∀ groups, ¬ Serves (s.files file) key groups) : Condemned key s file where
  lt := h.visible_lt file hVisible
  building := h.names_ne file hVisible
  owned := fun w hOwns => (h.owned w file hOwns).2.1 hVisible
  opened := fun w hw => (h.opened w file hw).2.2 hVisible
  result := hResult

omit [KeyJson] in
theorem visibleContent_of_some {file : Nat} (h : s.visible = some file) :
    s.visibleContent = s.files file := by
  unfold StoreState.visibleContent
  rw [h]
  rfl

/-- What is visible and serves nothing is not the result to keep. -/
theorem Sound.no_current_of_visible (h : Sound key initial s) {file : Nat}
    (hVisible : s.visible = some file) (hResult : ∀ groups, ¬ Serves (s.files file) key groups)
    (groups : List FrameGroup) : ¬ Serves (current initial s) key groups := by
  intro hServes
  apply hResult groups
  rw [← visibleContent_of_some hVisible, h.law.unchanged groups hServes]
  exact hServes

theorem Sound.look (h : Sound key initial s) (frames : Option Nat) :
    Sound key initial (s.look r frames) := by
  unfold StoreState.look
  split
  · rename_i hNone
    apply h.setReader (by simp) (by simp)
    rintro frames' since visit hPhase
    cases hPhase
    exact ⟨le_refl _, fun _ groups hServes => absurd hServes (h.no_current hNone groups)⟩
  · rename_i file hVisible
    split_ifs with hHeader
    · apply h.setReader (by simp) _ (by simp)
      rintro frames' since hPhase
      cases hPhase
      exact le_refl _
    · have hResult : ∀ groups, ¬ Serves (s.files file) key groups :=
        fun groups hServes => hHeader hServes.hasHeader.2
      apply h.setReader _ (by simp) (by simp)
      rintro file' frames' since visit hPhase
      cases hPhase
      exact ⟨h.condemned hVisible hResult, le_refl _,
        fun _ => h.no_current_of_visible hVisible hResult⟩

/-- A visit has judged the visible file. -/
theorem Sound.conclude (h : Sound key initial s) {file since : Nat} {frames : Option Nat}
    (hVisible : s.visible = some file) (hSince : since ≤ s.history.length)
    (hCovers : ∀ groups, Serves (s.files file) key groups → Covers frames groups) :
    Sound key initial
      (s.conclude r file frames since (visitConnection (s.files file) key frames)) := by
  unfold StoreState.conclude
  split_ifs with hPurges
  · have hResult := not_serves_of_purges hCovers hPurges
    apply h.setReader _ (by simp) (by simp)
    rintro file' frames' since' visit hPhase
    cases hPhase
    exact ⟨h.condemned hVisible hResult, hSince,
      fun _ => h.no_current_of_visible hVisible hResult⟩
  · apply h.setReader (by simp) (by simp)
    rintro frames' since' visit hPhase
    cases hPhase
    refine ⟨hSince, fun _ groups hServes hAsked => ?_⟩
    rw [← h.law.unchanged groups hServes, visibleContent_of_some hVisible] at hServes
    exact hServes.visit hAsked

theorem Sound.judge (h : Sound key initial s) (hOrderly : Orderly key s (.judge r)) :
    Sound key initial (s.judge key r) := by
  unfold StoreState.judge
  split
  · rename_i frames since hPhase
    have hSince := h.looked r frames since hPhase
    have hCovers := hOrderly frames since hPhase
    split
    · rename_i file hVisible
      rw [visibleContent_of_some hVisible] at hCovers
      exact h.conclude hVisible hSince hCovers
    · -- The visible path is gone: the visit opens a new file in its place.
      rename_i hNone
      have hLinked := h.createFile.linkVisible hNone (Nat.lt_succ_self _)
        (fun hSame => lt_irrefl _ (h.building_lt _ hSame))
        (fun w hOwns => lt_irrefl _ (h.owned w _ hOwns).1)
        (fun w hw => lt_irrefl _ (h.opened w _ hw).1)
      have hEmpty : s.createFile.files s.nextFile = .empty := Function.update_self _ _ _
      have hNothing : ∀ groups, Serves (s.createFile.files s.nextFile) key groups →
          Covers frames groups := by
        intro groups hServes
        rw [hEmpty] at hServes
        exact absurd hServes.hasHeader.2 (by decide)
      rw [← hEmpty]
      exact hLinked.conclude rfl hSince hNothing
  · exact h

theorem Sound.purgeVisible (h : Sound key initial s)
    (hOrderly : Orderly key s (.purgeVisible r)) : Sound key initial (s.purgeVisible r) := by
  unfold StoreState.purgeVisible
  split
  · rename_i file frames since visit hPhase
    obtain ⟨hCondemned, hSince, -⟩ := h.judged r file frames since visit hPhase
    have hNoResult : ∀ groups, ¬ Serves (current initial s) key groups := by
      cases hVisible : s.visible with
      | none => exact h.no_current hVisible
      | some other =>
          have hSame := hOrderly file frames since visit hPhase other hVisible
          rw [hSame] at hVisible
          exact h.no_current_of_visible hVisible hCondemned.result
    apply (h.unlinkVisible hNoResult).setReader (by simp) (by simp)
    rintro frames' since' visit' hDone
    cases hDone
    exact ⟨hSince, fun _ groups hServes => absurd hServes (hNoResult groups)⟩
  · exact h

theorem Sound.apply (hKey : KeyRoundTrips key) (h : Sound key initial s) (step : StoreStep)
    (hOrderly : Orderly key s step) : Sound key initial (applyStep key s step) := by
  cases step with
  | purgeBuilding w => exact h.purgeBuilding
  | openBuilding w => exact h.openBuilding
  | initialiseBuilding w => exact h.initialiseBuilding
  | appendGroup w group => exact h.appendGroup group
  | completeBuilding w => exact h.completeBuilding hKey
  | rename w => exact h.rename hOrderly
  | dropWriter w => exact h.dropWriter
  | look r frames => exact h.look frames
  | judge r => exact h.judge hOrderly
  | purgeVisible r => exact h.purgeVisible hOrderly

end Calls

theorem sound_startState (key : SimilarityStoreKey) (initial leftover : StoreFile) :
    Sound key initial (startState initial leftover) := by
  have hVisible : ∀ file, (startState initial leftover).visible = some file → file = 0 := by
    intro file hf
    unfold startState at hf
    dsimp only at hf
    split_ifs at hf
    cases hf
    rfl
  have hBuilding : ∀ file, (startState initial leftover).building = some file → file = 1 := by
    intro file hf
    unfold startState at hf
    dsimp only at hf
    split_ifs at hf
    cases hf
    rfl
  constructor
  · intro file hf
    rw [hVisible file hf]
    exact Nat.two_pos
  · intro file hf
    rw [hBuilding file hf]
    exact Nat.one_lt_two
  · intro file hf hSame
    have hZero := hVisible file hf
    have hOne := hBuilding file hSame
    omega
  · exact fun _ _ hActive => absurd rfl hActive
  · exact fun _ _ hw => by cases hw
  · rintro _ _ (⟨_, _, _, hw⟩ | ⟨_, _, hw⟩)
    · cases hw
    · cases hw
  · rintro _ _ _ (⟨_, _, _, hw⟩ | ⟨_, _, hw⟩)
    · cases hw
    · cases hw
  · exact fun _ _ _ _ _ hw => by cases hw
  · exact fun _ _ _ _ hw => by cases hw
  · exact fun _ _ _ _ _ hr => by cases hr
  · exact fun _ _ _ hr => by cases hr
  · exact fun _ _ _ _ hr => by cases hr
  · constructor
    · intro p hp
      cases hp
    · intro groups hServes
      have hThere : initial ≠ .missing := hServes.hasHeader.1
      have hName : (startState initial leftover).visible = some 0 := if_neg hThere
      rw [visibleContent_of_some hName]
      rfl
    · intro r frames since visit groups hr
      cases hr

/-- In every orderly run of any writers and readers of one result, from any
files: what was published last is what stands at the visible path and what every
later visit hands out, and without a publication the result the run began with
stays. -/
theorem concurrent_writers_publish (key : SimilarityStoreKey) (hKey : KeyRoundTrips key)
    (initial leftover : StoreFile) (steps : List StoreStep)
    (hOrderly : Meets (applyStep key) (Orderly key) (startState initial leftover) steps) :
    PublishLaw key initial (steps.foldl (applyStep key) (startState initial leftover)) := by
  have hStep : ∀ s step, Sound key initial s → Orderly key s step →
      Sound key initial (applyStep key s step) := by
    intro s step h hMeets
    exact h.apply hKey step hMeets
  exact (run_invariant hStep (sound_startState key initial leftover) hOrderly).law

/-! ## Two writers -/

/-- The steps of `begin`. -/
def beginSteps (w : Nat) : List StoreStep :=
  [.purgeBuilding w, .openBuilding w, .initialiseBuilding w]

/-- The second writer begins between the last transaction of the first one and
its rename. -/
def overtakenFinish : List StoreStep :=
  beginSteps 0 ++ [.appendGroup 0 (sampleGroup 0 0), .completeBuilding 0] ++ beginSteps 1 ++
    [.rename 0]

def overtakenState : StoreState :=
  overtakenFinish.foldl (@applyStep sampleKeyJson sampleStoreKey) (startState .missing .missing)

omit [KeyJson] in
/-- The first writer's `finish` returns, and what it has published is the
unfinished database of the second. -/
theorem overtakenFinish_publishes_unfinished :
    overtakenState.writers 0 = .finished 1 ∧
      overtakenState.history.map (·.groups) = [[sampleGroup 0 0]] ∧
      @visitGroups sampleKeyJson overtakenState.visibleContent sampleStoreKey =
        .purge .invalidatedIncomplete := by
  decide +kernel

/-- The second writer takes the building path over and finishes; a visit
follows. -/
def takenOver : List StoreStep :=
  beginSteps 0 ++ [.appendGroup 0 (sampleGroup 0 0)] ++ beginSteps 1 ++
    [.appendGroup 1 (sampleGroup 0 1), .completeBuilding 1, .rename 1, .look 0 none, .judge 0]

/-- The state after `n` steps of it. -/
def takenOverState (n : Nat) : StoreState :=
  (takenOver.take n).foldl (@applyStep sampleKeyJson sampleStoreKey) (startState .missing .missing)

omit [KeyJson] in
theorem concurrent_writers_publish_takenOver :
    @PublishLaw sampleKeyJson sampleStoreKey .missing (takenOverState 12) ∧
      (takenOverState 12).readers 0 = .done none 1 (served [sampleGroup 0 1]) := by
  constructor
  · apply @concurrent_writers_publish sampleKeyJson sampleStoreKey sampleStoreKey_roundTrips
    have hSealed : (takenOverState 9).writers 1 = .sealed 3 1 [sampleGroup 0 1] ∧
        (takenOverState 9).building = some 3 := by decide +kernel
    have hLooked : (takenOverState 11).readers 0 = .looked none 1 := by decide +kernel
    refine ⟨trivial, trivial, trivial, trivial, trivial, trivial, trivial, trivial, trivial, ?_,
      trivial, ?_, trivial⟩
    · intro file count appended hPhase other hBuilding
      cases hSealed.1.symm.trans hPhase
      cases hSealed.2.symm.trans hBuilding
      rfl
    · intro frames since hPhase groups _ frameCount hFrames
      cases hLooked.symm.trans hPhase
      cases hFrames
  · decide +kernel

end FrameScope.Ports.SimilarityWritersLaw
