import PlatformCatalog.Disk.Workspace
import PlatformCatalog.Log

namespace PlatformCatalog

structure AtomicWrite where
  target : Path
  chunks : List Bytes
  temp : Name
  deriving DecidableEq, Repr

namespace AtomicWrite

inductive Ending where
  | written
  | failed (fault : IoFault)
  | notMoved (fault : IoFault)
  deriving DecidableEq, Repr

inductive Stage where
  | parents
  | temporary
  | filling (temp : Location) (left : List Bytes)
  | syncing (temp : Location)
  | moving (temp : Location)
  | ended (ending : Ending)
  deriving DecidableEq, Repr

def parent (a : AtomicWrite) : Path :=
  match a.target.parent? with
  | some ⟨b :: bs⟩ => ⟨b :: bs⟩
  | _ => .here

-- Makes an empty temporary file next to the target, under a name that nothing has there. It is found
-- again by its whole path, so for a target that is named from the working directory, that directory
-- has to be there still.
def createTemp (a : AtomicWrite) (w : Workspace) : Except IoFault (Disk × Location) := do
  if !a.parent.isAbsolute then
    let _ ← w.workingDirectory
  let spot ← w.locate a.parent
  if w.disk.isDirectory spot.location then
    let temp := spot.location ++ [a.temp]
    if (w.disk.node? temp).isSome then throw (.os .alreadyExists)
    else return (w.disk.put temp (.file []), temp)
  else throw (.os .noEntry)

def append (d : Disk) (l : Location) (chunk : Bytes) : Disk :=
  match d.node? l with
  | some (.file contents) => d.put l (.file (contents ++ chunk))
  | _ => d

-- What the operating system refuses for reasons of its own: to make a directory that is missing, and
-- to take the step that a stage is about.
structure Refusals where
  directory : Path → Option IoFault
  stage : Stage → Option IoFault

def Refusals.none : Refusals where
  directory _ := .none
  stage _ := .none

def step (a : AtomicWrite) (cwd : Location) (refuse : Refusals) : Disk × Stage → Disk × Stage
  | (d, .parents) =>
    match refuse.stage .parents with
    | some fault => (d, .ended (.failed fault))
    | none =>
      match Workspace.makeDirectoriesUnless refuse.directory ⟨d, cwd⟩ a.parent with
      | (d, .ok ()) => (d, .temporary)
      | (d, .error fault) => (d, .ended (.failed fault))
  | (d, .temporary) =>
    match refuse.stage .temporary with
    | some fault => (d, .ended (.failed fault))
    | none =>
      match a.createTemp ⟨d, cwd⟩ with
      | .ok (d, temp) => (d, .filling temp a.chunks)
      | .error fault => (d, .ended (.failed fault))
  | (d, .filling temp []) => (d, .syncing temp)
  | (d, .filling temp (chunk :: left)) =>
    match refuse.stage (.filling temp (chunk :: left)) with
    | some fault => (d.erase temp, .ended (.failed fault))
    | none => (append d temp chunk, .filling temp left)
  | (d, .syncing temp) =>
    match refuse.stage (.syncing temp) with
    | some fault => (d.erase temp, .ended (.failed fault))
    | none => (d, .moving temp)
  | (d, .moving temp) =>
    match refuse.stage (.moving temp) with
    | some fault => (d.erase temp, .ended (.notMoved fault))
    | none =>
      match Workspace.moveFile ⟨d, cwd⟩ temp a.target with
      | .ok d => (d, .ended .written)
      | .error fault => (d.erase temp, .ended (.notMoved fault))
  | (d, .ended ending) => (d, .ended ending)

def stepCount (a : AtomicWrite) : Nat :=
  a.chunks.length + 5

def run (a : AtomicWrite) (cwd : Location) (refuse : Refusals) (d : Disk) : Disk × Stage :=
  Nat.repeat (a.step cwd refuse) a.stepCount (d, .parents)

def outcome (target : Path) : Stage → Logged Event IoFault Unit
  | .ended .written => ⟨[], .ok ()⟩
  | .ended (.failed fault) => ⟨[], .error fault⟩
  | .ended (.notMoved fault) => ⟨[.moveFailed target fault], .error fault⟩
  | _ => ⟨[], .error (.other "unfinished write")⟩

end AtomicWrite

def Workspace.writeAtomic (w : Workspace) (target : Path) (contents : Bytes) :
    Disk × Logged Event IoFault Unit :=
  let a : AtomicWrite := ⟨target, [contents], w.disk.freshName (Workspace.names target)⟩
  let (d, stage) := a.run w.cwd .none w.disk
  (d, AtomicWrite.outcome target stage)

end PlatformCatalog
