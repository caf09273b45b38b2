import FrameScope.Verified.Runs
import FrameScope.Ports.SimilarityStoreLaw

/-!
# Writers and readers of one similarity result

The calls of `begin`, `append`, `finish` and of the visits, cut into the steps
that other processes can see, over one result key.  All writers share the name
`<result>.building`, which `begin` unlinks and `finish` renames over the visible
name; the names point to files, and a connection keeps its file when the name
goes to another one.

A step that SQLite or the file system refuses is a `drop` of the writer, so what
SQLite does about a database whose name was taken away need not be settled here.
A transaction is one step, and so is the judging of a file that a visit has open.

`history` records what `finish` has published, newest first.  No step reads it.
-/

namespace FrameScope.Ports.SimilarityWriters

open FrameScope.Verified.Runs
open FrameScope.Ports.Core
open FrameScope.Ports.GroupNavigation (FrameGroup Partitions)
open FrameScope.Ports.SimilarityStore
open FrameScope.Ports.SimilarityStoreLaw

/-- Where a writer is between `begin` and the end of `finish`.  `appended` are
the groups for which `append` returned. -/
inductive WriterPhase where
  | idle
  | purged
  | opened (file : Nat)
  | writing (file : Nat) (pending : List FrameGroup) (nextOrdinal : Nat)
      (appended : List FrameGroup)
  | sealed (file : Nat) (count : Nat) (appended : List FrameGroup)
  | finished (count : Nat)
  | failed
  deriving DecidableEq

/-- Where a visit is.  `since` is the number of results that were published when
it began. -/
inductive ReaderPhase where
  | idle
  | looked (frames : Option Nat) (since : Nat)
  | judged (file : Nat) (frames : Option Nat) (since : Nat) (visit : Visit)
  | done (frames : Option Nat) (since : Nat) (visit : Visit)
  deriving DecidableEq

/-- A result that a `finish` put in place. -/
structure Publication where
  groups : List FrameGroup
  content : StoreFile
  deriving DecidableEq

structure StoreState where
  visible : Option Nat
  building : Option Nat
  files : Nat → StoreFile
  nextFile : Nat
  writers : Nat → WriterPhase
  readers : Nat → ReaderPhase
  history : List Publication

/-- What a path name leads to. -/
def StoreState.contentOf (s : StoreState) (name : Option Nat) : StoreFile :=
  match name with
  | none => .missing
  | some file => s.files file

/-- What stands at the visible path. -/
def StoreState.visibleContent (s : StoreState) : StoreFile := s.contentOf s.visible

def StoreState.setWriter (s : StoreState) (w : Nat) (phase : WriterPhase) : StoreState :=
  { s with writers := Function.update s.writers w phase }

def StoreState.setReader (s : StoreState) (r : Nat) (phase : ReaderPhase) : StoreState :=
  { s with readers := Function.update s.readers r phase }

def StoreState.setFile (s : StoreState) (file : Nat) (content : StoreFile) : StoreState :=
  { s with files := Function.update s.files file content }

/-- A new file without a byte. -/
def StoreState.createFile (s : StoreState) : StoreState :=
  { s.setFile s.nextFile .empty with nextFile := s.nextFile + 1 }

/-! ## Writers -/

section Writers

variable (s : StoreState) (w : Nat)

/-- `begin`: `purge_database_files` of the building path. -/
def StoreState.purgeBuilding : StoreState :=
  match s.writers w with
  | .idle => { s with building := none }.setWriter w .purged
  | _ => s

/-- `begin`: `Connection::open` of the building path. -/
def StoreState.openBuilding : StoreState :=
  match s.writers w with
  | .purged =>
      match s.building with
      | some file => s.setWriter w (.opened file)
      | none => { s.createFile with building := some s.nextFile }.setWriter w (.opened s.nextFile)
  | _ => s

/-- `begin`: the schema and the metadata. -/
def StoreState.initialiseBuilding [KeyJson] (key : SimilarityStoreKey) : StoreState :=
  match s.writers w with
  | .opened file =>
      match ((s.files file).connect.mapError .sqlite).bind (initialise key) with
      | .error _ => s.setWriter w .failed
      | .ok content => (s.setFile file (.database content)).setWriter w (.writing file [] 0 [])
  | _ => s

/-- `append`.  A group that is refused leaves the writer as it was. -/
def StoreState.appendGroup (group : FrameGroup) : StoreState :=
  match s.writers w with
  | .writing file pending nextOrdinal appended =>
      match s.files file with
      | .database content =>
          match SimilarityStoreWriter.append ⟨content, pending, nextOrdinal⟩ group with
          | .ok writer =>
              (s.setFile file (.database writer.database)).setWriter w
                (.writing file writer.pending writer.nextOrdinal (appended ++ [group]))
          | .error _ =>
              if validateGroup group = .ok () then s.setWriter w .failed else s
      | _ => s.setWriter w .failed
  | _ => s

/-- `finish` up to the end of its connection. -/
def StoreState.completeBuilding : StoreState :=
  match s.writers w with
  | .writing file pending nextOrdinal appended =>
      match s.files file with
      | .database content =>
          match SimilarityStoreWriter.complete ⟨content, pending, nextOrdinal⟩ with
          | .ok (count, content) =>
              (s.setFile file (.database content)).setWriter w (.sealed file count appended)
          | .error _ => s.setWriter w .failed
      | _ => s.setWriter w .failed
  | _ => s

/-- `finish`: the rename, which takes what stands at the building path. -/
def StoreState.rename : StoreState :=
  match s.writers w with
  | .sealed _ count appended =>
      match s.building with
      | none => s.setWriter w .failed
      | some file =>
          { s with
            visible := some file
            building := none
            history := ⟨appended, s.files file⟩ :: s.history }.setWriter w (.finished count)
  | _ => s

/-- The writer is dropped, or one of its steps was refused. -/
def StoreState.dropWriter : StoreState :=
  match s.writers w with
  | .idle => s
  | .finished _ => s
  | _ => s.setWriter w .failed

end Writers

/-! ## Readers -/

section Readers

variable [KeyJson] (key : SimilarityStoreKey) (s : StoreState) (r : Nat)

/-- The look at the visible path and at the header of the file. -/
def StoreState.look (frames : Option Nat) : StoreState :=
  match s.visible with
  | none => s.setReader r (.done frames s.history.length ⟨.ok .missing, [], false⟩)
  | some file =>
      if (s.files file).hasSqliteHeader then s.setReader r (.looked frames s.history.length)
      else s.setReader r (.judged file frames s.history.length (.purge .invalidatedCorrupt))

/-- What a visit found, to be followed by a purge or not. -/
def StoreState.conclude (file : Nat) (frames : Option Nat) (since : Nat) (visit : Visit) :
    StoreState :=
  if visit.purges then s.setReader r (.judged file frames since visit)
  else s.setReader r (.done frames since visit)

/-- The visit opens the visible path, which creates a missing file, and judges
what it has open. -/
def StoreState.judge : StoreState :=
  match s.readers r with
  | .looked frames since =>
      match s.visible with
      | some file => s.conclude r file frames since (visitConnection (s.files file) key frames)
      | none =>
          { s.createFile with visible := some s.nextFile }.conclude r s.nextFile frames since
            (visitConnection .empty key frames)
  | _ => s

/-- `purge_database_files` of the visible path. -/
def StoreState.purgeVisible : StoreState :=
  match s.readers r with
  | .judged _ frames since visit => { s with visible := none }.setReader r (.done frames since visit)
  | _ => s

end Readers

/-! ## Runs -/

inductive StoreStep where
  | purgeBuilding (w : Nat)
  | openBuilding (w : Nat)
  | initialiseBuilding (w : Nat)
  | appendGroup (w : Nat) (group : FrameGroup)
  | completeBuilding (w : Nat)
  | rename (w : Nat)
  | dropWriter (w : Nat)
  | look (r : Nat) (frames : Option Nat)
  | judge (r : Nat)
  | purgeVisible (r : Nat)

def applyStep [KeyJson] (key : SimilarityStoreKey) (s : StoreState) : StoreStep → StoreState
  | .purgeBuilding w => s.purgeBuilding w
  | .openBuilding w => s.openBuilding w
  | .initialiseBuilding w => s.initialiseBuilding w key
  | .appendGroup w group => s.appendGroup w group
  | .completeBuilding w => s.completeBuilding w
  | .rename w => s.rename w
  | .dropWriter w => s.dropWriter w
  | .look r frames => s.look r frames
  | .judge r => s.judge key r
  | .purgeVisible r => s.purgeVisible r

/-- A store before any call: some file, or none, at the visible path, and what
an earlier writer may have left at the building path. -/
def startState (initial leftover : StoreFile) : StoreState where
  visible := if initial = .missing then none else some 0
  building := if leftover = .missing then none else some 1
  files := fun file => if file = 0 then initial else leftover
  nextFile := 2
  writers := fun _ => .idle
  readers := fun _ => .idle
  history := []

end FrameScope.Ports.SimilarityWriters
