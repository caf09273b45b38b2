import FrameScope.Verified.Runs
import FrameScope.Ports.GlobalStoreLaw

/-!
# Writers and readers of one global similarity store

The calls of `begin`, `append`, `finish` and `load`, cut into the transactions
and the calls of the file system that other processes can see, over one store
key.  All writers share the name `<store>.building`, which `begin` unlinks and
`finish` renames over the visible name; the names point to files, and a
connection keeps its file when the name goes to another one.  A query is a load
and then reads over a connection that cannot write, so its steps are those of a
load here.

A call that SQLite or the file system refuses ends its writer, or its load, with
an error; a flush that `append` cannot make leaves the writer as it was, with the
descriptor among the pending ones.

`completed`, `before` and `touched` record what the writers did.  No step reads
them.
-/

namespace FrameScope.Ports.GlobalWriters

open FrameScope.Verified.Runs
open FrameScope.Ports.Core
open FrameScope.Ports.GlobalDescriptors
open FrameScope.Ports.GlobalStore

/-! ## The reads of a load -/

/-- A read of `load`: it goes on, answers, or fails. -/
abbrev LoadRead :=
  GlobalDatabase → Except GlobalSimilarityError (Option GlobalSimilarityStoreLoad)

def readVersion : LoadRead := fun database =>
  .ok (if database.userVersion ≠ globalSimilarityStoreSchemaVersion then some .invalidatedStale
    else none)

def readMetadata (expected : GlobalSimilarityStoreKey) (expectedFrameCount : Nat) : LoadRead :=
  fun database =>
    match database.globalMeta with
    | none => .ok (some .invalidatedCorrupt)
    | some metadata =>
        if metadata.state ≠ stateComplete then .ok (some .invalidatedIncomplete)
        else
          match metadata.key with
          | none => .ok (some .invalidatedCorrupt)
          | some persisted =>
              if persisted ≠ expected.persisted then .ok (some .invalidatedStale)
              else do
                let descriptorCount ← fromSqlU64 metadata.descriptorCount "descriptor count"
                .ok (if descriptorCount ≠ expectedFrameCount then some .invalidatedCorrupt
                  else none)

/-- `quick_check_ok`. -/
def readQuickCheck : LoadRead := fun database =>
  .ok (if database.quickCheck ≠ "ok" then some .invalidatedCorrupt else none)

/-- `validate_rows`: the number of descriptors and their first and last ids. -/
def readFrameIds (expectedCount : Nat) : LoadRead := fun database => do
  let count ← fromSqlU64 database.descriptors.length "database descriptor count"
  if count ≠ expectedCount then .ok (some .invalidatedCorrupt)
  else do
    let filled ← frameIdsFill (database.descriptors.map (·.frameId)) expectedCount
    .ok (if filled = false then some .invalidatedCorrupt else none)

/-- `validate_rows`: the lengths of the pictures. -/
def readPictures : LoadRead := fun database =>
  .ok (if database.descriptors.any (·.normalizedRgb.length ≠ normalizedRgbBytes) then
    some .invalidatedCorrupt else none)

/-- `validate_rows`: the number of index rows. -/
def readBandCount (expectedCount : Nat) : LoadRead := fun database => do
  let expectedBands ← okOr (checkedMulU64 expectedCount indexKeysPerDescriptor)
    (.numericRange "hash band count")
  let bandCount ← fromSqlU64 database.bands.length "hash band count"
  .ok (if bandCount ≠ expectedBands then some .invalidatedCorrupt else none)

/-- `validate_rows`: the number of index rows of each frame. -/
def readBandGroups : LoadRead := fun database =>
  .ok (if wrongBandCounts database.bands = [] then none else some .invalidatedCorrupt)

/-- The reads in their order. -/
def loadReads (expected : GlobalSimilarityStoreKey) (expectedFrameCount : Nat) : List LoadRead :=
  [readVersion, readMetadata expected expectedFrameCount, readQuickCheck,
    readFrameIds expectedFrameCount, readPictures, readBandCount expectedFrameCount, readBandGroups]

/-- The reads of one database, one after the other. -/
def runReads (database : GlobalDatabase) (expectedFrameCount : Nat) :
    List LoadRead → Except GlobalSimilarityError GlobalSimilarityStoreLoad
  | [] => .ok (.reused expectedFrameCount)
  | read :: rest => do
      let answer ← read database
      match answer with
      | some answer => .ok answer
      | none => runReads database expectedFrameCount rest

section Reads

variable {database : GlobalDatabase} {expected : GlobalSimilarityStoreKey} {n : Nat}

theorem runReads_cons (read : LoadRead) (rest : List LoadRead) :
    runReads database n (read :: rest) = (read database).bind fun answer =>
      answer.elim (runReads database n rest) .ok := by
  show (read database).bind _ = _
  congr 1
  funext answer
  cases answer with
  | none => rfl
  | some answer => rfl

/-- A read that checks one thing. -/
theorem runReads_check {p : Prop} [Decidable p] {answer : GlobalSimilarityStoreLoad}
    {read : LoadRead} {rest : List LoadRead}
    (h : read database = .ok (if p then some answer else none)) :
    runReads database n (read :: rest) =
      if p then .ok answer else runReads database n rest := by
  rw [runReads_cons, h]
  by_cases hp : p
  · rw [if_pos hp, if_pos hp]
    rfl
  · rw [if_neg hp, if_neg hp]
    rfl

/-- The reads of `validate_rows`. -/
theorem runReads_rows :
    runReads database n [readFrameIds n, readPictures, readBandCount n, readBandGroups] = (do
      let valid ← validateRows database n
      if valid then .ok (.reused n) else .ok .invalidatedCorrupt) := by
  unfold validateRows
  rw [runReads_cons, readFrameIds]
  cases hCount : fromSqlU64 database.descriptors.length "database descriptor count" with
  | error error => rfl
  | ok count =>
      rw [ok_bind, ok_bind]
      by_cases hSame : count ≠ n
      · rw [if_pos hSame, if_pos hSame]
        rfl
      · rw [if_neg hSame, if_neg hSame]
        cases hFilled : frameIdsFill (database.descriptors.map (·.frameId)) n with
        | error error => rfl
        | ok filled =>
            cases filled with
            | false => rfl
            | true =>
                show runReads database n [readPictures, readBandCount n, readBandGroups] = _
                rw [runReads_check rfl, ok_bind, if_neg (show ¬true = false by decide)]
                by_cases hPictures : database.descriptors.any
                    (·.normalizedRgb.length ≠ normalizedRgbBytes) = true
                · rw [if_pos hPictures, if_pos hPictures]
                  rfl
                · rw [if_neg hPictures, if_neg hPictures, runReads_cons, readBandCount]
                  cases okOr (checkedMulU64 n indexKeysPerDescriptor)
                      (GlobalSimilarityError.numericRange "hash band count") with
                  | error error => rfl
                  | ok expectedBands =>
                      rw [ok_bind, ok_bind]
                      cases fromSqlU64 database.bands.length "hash band count" with
                      | error error => rfl
                      | ok bandCount =>
                          rw [ok_bind, ok_bind]
                          by_cases hBands : bandCount ≠ expectedBands
                          · rw [if_pos hBands, if_pos hBands]
                            rfl
                          · rw [if_neg hBands, if_neg hBands]
                            show runReads database n [readBandGroups] = _
                            rw [runReads_cons, readBandGroups, ok_bind]
                            by_cases hGroups : wrongBandCounts database.bands = []
                            · rw [if_pos hGroups, decide_eq_true hGroups]
                              rfl
                            · rw [if_neg hGroups, decide_eq_false hGroups]
                              rfl

/-- Undisturbed, the reads are `load`. -/
theorem runReads_loadReads :
    runReads database n (loadReads expected n) = load (some database) expected n := by
  unfold load loadReads
  rw [runReads_check rfl]
  by_cases hVersion : database.userVersion ≠ globalSimilarityStoreSchemaVersion
  · simp only [if_pos hVersion]
  · simp only [if_neg hVersion]
    rw [runReads_cons, readMetadata]
    cases database.globalMeta with
    | none => rfl
    | some metadata =>
        dsimp only
        by_cases hState : metadata.state ≠ stateComplete
        · rw [if_pos hState, if_pos hState]
          rfl
        · rw [if_neg hState, if_neg hState]
          cases metadata.key with
          | none => rfl
          | some persisted =>
              dsimp only
              by_cases hKey : persisted ≠ expected.persisted
              · rw [if_pos hKey, if_pos hKey]
                rfl
              · rw [if_neg hKey, if_neg hKey]
                cases fromSqlU64 metadata.descriptorCount "descriptor count" with
                | error error => rfl
                | ok count =>
                    rw [ok_bind, ok_bind]
                    by_cases hSame : count ≠ n
                    · rw [if_pos hSame, if_pos hSame]
                      rfl
                    · rw [if_neg hSame, if_neg hSame]
                      obtain rfl := not_not.1 hSame
                      show runReads database count [readQuickCheck, readFrameIds count,
                        readPictures, readBandCount count, readBandGroups] = _
                      rw [runReads_check rfl, runReads_rows]

end Reads

/-! ## States -/

/-- What a file holds: not a byte yet, or a database. -/
inductive GlobalFile where
  | empty
  | database (content : GlobalDatabase)
  deriving DecidableEq

/-- Tables without a row, as `create_schema` makes them. -/
def blankDatabase (userVersion : Int) : GlobalDatabase :=
  ⟨userVersion, none, [], [], "ok"⟩

/-- What a connection to the file reads. -/
def GlobalFile.read : GlobalFile → GlobalDatabase
  | .empty => blankDatabase 0
  | .database content => content

/-- A rename of `finish`: what its writer had appended, what the file that came to
the visible path held, and the file that was there before. -/
structure Publication where
  appended : List GlobalDescriptor
  content : GlobalFile
  replaced : Option Nat
  deriving DecidableEq

/-- Where a writer is between `begin` and the end of `finish`.  `appended` are the
descriptors that `append` has taken. -/
inductive WriterPhase where
  | idle
  | purged
  | opened (file : Nat)
  | created (file : Nat)
  | stamped (file : Nat)
  | writing (file : Nat) (nextFrameId : Nat) (pending appended : List GlobalDescriptor)
  | flushed (file : Nat) (nextFrameId : Nat) (appended : List GlobalDescriptor)
  | sealed (file : Nat) (count : Nat) (appended : List GlobalDescriptor)
  | renamed (publication : Publication)
  | finished (publication : Publication)
  | failed
  deriving DecidableEq

/-- Where a load is.  `file` is the file that it has open. -/
inductive LoadPhase where
  | idle
  | found (expectedFrameCount : Nat)
  | headed (expectedFrameCount : Nat)
  | reading (file : Nat) (expectedFrameCount : Nat) (read : Nat)
  | refused (answer : GlobalSimilarityStoreLoad)
  | reused (file : Nat) (descriptorCount : Nat)
  | answered (answer : GlobalSimilarityStoreLoad)
  | failed
  deriving DecidableEq

/-- A writer has marked its file as complete. -/
structure Completion where
  writer : Nat
  file : Nat
  appended : List GlobalDescriptor
  deriving DecidableEq

structure StoreState where
  visible : Option Nat
  building : Option Nat
  files : Nat → GlobalFile
  nextFile : Nat
  writers : Nat → WriterPhase
  loads : Nat → LoadPhase
  completed : List Completion
  /-- The complete file that was visible when the writer began. -/
  before : Nat → Option Nat
  /-- A writer and a file that it wrote, or whose visible name it took away. -/
  touched : List (Nat × Nat)

/-- A store without a file. -/
def StoreState.start : StoreState where
  visible := none
  building := none
  files := fun _ => .empty
  nextFile := 0
  writers := fun _ => .idle
  loads := fun _ => .idle
  completed := []
  before := fun _ => none
  touched := []

namespace StoreState

variable (s : StoreState) (w r : Nat)

def setWriter (phase : WriterPhase) : StoreState :=
  { s with writers := Function.update s.writers w phase }

def setLoad (phase : LoadPhase) : StoreState :=
  { s with loads := Function.update s.loads r phase }

/-- The writer changes its file, and may complete it. -/
def write (file : Nat) (content : GlobalDatabase) (phase : WriterPhase)
    (completion : Option Completion) : StoreState :=
  { s with
    files := Function.update s.files file (.database content)
    writers := Function.update s.writers w phase
    completed := completion.toList ++ s.completed
    touched := (w, file) :: s.touched }

/-- A new file without a byte. -/
def createFile : StoreState :=
  { s with
    files := Function.update s.files s.nextFile .empty
    nextFile := s.nextFile + 1 }

/-- The file at the visible path, if a writer has completed it. -/
def visibleComplete : Option Nat :=
  s.visible.filter fun file => s.completed.any (·.file = file)

/-! ## Writers -/

section Writers

variable (key : GlobalSimilarityStoreKey)

/-- `begin`: the check of the key and `purge_database_files` of the building path. -/
def purgeBuilding : StoreState :=
  match s.writers w with
  | .idle =>
      if key.source.isReuseSafe then
        { s with
          building := none
          before := Function.update s.before w s.visibleComplete }.setWriter w .purged
      else s.setWriter w .failed
  | _ => s

/-- `begin`: `Connection::open` of the building path. -/
def openBuilding : StoreState :=
  match s.writers w with
  | .purged =>
      match s.building with
      | some file => s.setWriter w (.opened file)
      | none => { s.createFile with building := some s.nextFile }.setWriter w (.opened s.nextFile)
  | _ => s

/-- `create_schema`: the tables, which a database can have only once. -/
def createTables : StoreState :=
  match s.writers w with
  | .opened file =>
      match s.files file with
      | .empty => s.write w file (blankDatabase 0) (.created file) none
      | .database _ => s.setWriter w .failed
  | _ => s

/-- `create_schema`: the schema version. -/
def stampVersion : StoreState :=
  match s.writers w with
  | .created file =>
      s.write w file
        { (s.files file).read with userVersion := globalSimilarityStoreSchemaVersion }
        (.stamped file) none
  | _ => s

/-- `begin`: the metadata row. -/
def insertMetadata : StoreState :=
  match s.writers w with
  | .stamped file =>
      s.write w file
        { (s.files file).read with globalMeta := some ⟨stateBuilding, some key.persisted, 0⟩ }
        (.writing file 0 [] []) none
  | _ => s

/-- `append`.  A descriptor that is refused leaves the writer as it was; where the
numbers run out the writer is dropped. -/
def appendDescriptor (descriptor : GlobalDescriptor) (flushRefused : Bool) : StoreState :=
  match s.writers w with
  | .writing file nextFrameId pending appended =>
      match pushDescriptor ⟨(s.files file).read, nextFrameId, pending⟩ descriptor with
      | .error (.numericRange _) => s.setWriter w .failed
      | .error _ => s
      | .ok writer =>
          let kept := s.setWriter w
            (.writing file writer.nextFrameId writer.pending (appended ++ [descriptor]))
          if writeBatchDescriptors ≤ writer.pending.length ∧ flushRefused = false then
            match writer.flushBatch with
            | .error _ => kept
            | .ok writer => s.write w file writer.database
                (.writing file writer.nextFrameId writer.pending (appended ++ [descriptor])) none
          else kept
  | _ => s

/-- `finish`: the last flush. -/
def flushLast : StoreState :=
  match s.writers w with
  | .writing file nextFrameId pending appended =>
      match GlobalSimilarityStoreWriter.flushBatch ⟨(s.files file).read, nextFrameId, pending⟩ with
      | .error _ => s.setWriter w .failed
      | .ok writer => s.write w file writer.database (.flushed file nextFrameId appended) none
  | _ => s

/-- `finish`: the update of the metadata, which ends its connection. -/
def completeBuilding : StoreState :=
  match s.writers w with
  | .flushed file nextFrameId appended =>
      match toSqlU64 nextFrameId "descriptor count" with
      | .error _ => s.setWriter w .failed
      | .ok count =>
          s.write w file (markComplete (s.files file).read count)
            (.sealed file nextFrameId appended) (some ⟨w, file, appended⟩)
  | _ => s

/-- `finish`: the rename, which takes what stands at the building path. -/
def rename : StoreState :=
  match s.writers w with
  | .sealed _ _ appended =>
      match s.building with
      | none => s.setWriter w .failed
      | some file =>
          { s with
            visible := some file
            building := none
            touched := (s.visible.map fun replaced => (w, replaced)).toList ++ s.touched }.setWriter
            w (.renamed ⟨appended, s.files file, s.visible⟩)
  | _ => s

/-- `finish`: `sync_parent`, and the return. -/
def syncParent (synced : Bool) : StoreState :=
  match s.writers w with
  | .renamed publication =>
      s.setWriter w (if synced then .finished publication else .failed)
  | _ => s

/-- The writer is dropped, or one of its calls was refused before the rename. -/
def dropWriter : StoreState :=
  match s.writers w with
  | .idle => s
  | .renamed _ => s
  | .finished _ => s
  | _ => s.setWriter w .failed

end Writers

/-! ## Loads -/

section Loads

variable (key : GlobalSimilarityStoreKey)

/-- `path.exists()`. -/
def look (expectedFrameCount : Nat) : StoreState :=
  s.setLoad r (if s.visible.isSome then .found expectedFrameCount else .answered .missing)

/-- `has_sqlite_header` of the visible path. -/
def readHeader : StoreState :=
  match s.loads r with
  | .found expectedFrameCount =>
      match s.visible with
      | none => s.setLoad r .failed
      | some file =>
          s.setLoad r (if s.files file = .empty then .refused .invalidatedCorrupt
            else .headed expectedFrameCount)
  | _ => s

/-- `Connection::open` of the visible path, which creates a missing file. -/
def connectVisible : StoreState :=
  match s.loads r with
  | .headed expectedFrameCount =>
      match s.visible with
      | some file => s.setLoad r (.reading file expectedFrameCount 0)
      | none => { s.createFile with visible := some s.nextFile }.setLoad r
          (.reading s.nextFile expectedFrameCount 0)
  | _ => s

/-- The next read of the open file. -/
def readNext : StoreState :=
  match s.loads r with
  | .reading file expectedFrameCount done =>
      match (loadReads key expectedFrameCount)[done]? with
      | none => s.setLoad r (.reused file expectedFrameCount)
      | some read =>
          match read (s.files file).read with
          | .error _ => s.setLoad r .failed
          | .ok none => s.setLoad r (.reading file expectedFrameCount (done + 1))
          | .ok (some answer) => s.setLoad r (.refused answer)
  | _ => s

/-- `purge_database_files` of the visible path, and the answer. -/
def purgeVisible : StoreState :=
  match s.loads r with
  | .refused answer => { s with visible := none }.setLoad r (.answered answer)
  | _ => s

end Loads

end StoreState

/-! ## Runs -/

inductive StoreStep where
  | purgeBuilding (w : Nat)
  | openBuilding (w : Nat)
  | createTables (w : Nat)
  | stampVersion (w : Nat)
  | insertMetadata (w : Nat)
  | appendDescriptor (w : Nat) (descriptor : GlobalDescriptor) (flushRefused : Bool)
  | flushLast (w : Nat)
  | completeBuilding (w : Nat)
  | rename (w : Nat)
  | syncParent (w : Nat) (synced : Bool)
  | dropWriter (w : Nat)
  | look (r : Nat) (expectedFrameCount : Nat)
  | readHeader (r : Nat)
  | connectVisible (r : Nat)
  | readNext (r : Nat)
  | purgeVisible (r : Nat)

def applyStep (key : GlobalSimilarityStoreKey) (s : StoreState) : StoreStep → StoreState
  | .purgeBuilding w => s.purgeBuilding w key
  | .openBuilding w => s.openBuilding w
  | .createTables w => s.createTables w
  | .stampVersion w => s.stampVersion w
  | .insertMetadata w => s.insertMetadata w key
  | .appendDescriptor w descriptor flushRefused => s.appendDescriptor w descriptor flushRefused
  | .flushLast w => s.flushLast w
  | .completeBuilding w => s.completeBuilding w
  | .rename w => s.rename w
  | .syncParent w synced => s.syncParent w synced
  | .dropWriter w => s.dropWriter w
  | .look r expectedFrameCount => s.look r expectedFrameCount
  | .readHeader r => s.readHeader r
  | .connectVisible r => s.connectVisible r
  | .readNext r => s.readNext r key
  | .purgeVisible r => s.purgeVisible r

end FrameScope.Ports.GlobalWriters
