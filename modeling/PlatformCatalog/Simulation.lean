import PlatformCatalog.Operation

namespace PlatformCatalog

-- What a simulated run meets with: where it runs, what it is shown of a disk, and what the operating
-- system refuses it.
structure Conditions where
  cwd : Location
  see : Disk → FileView
  refuse : AtomicWrite.Refusals

structure World where
  disk : Disk
  stdout : String
  log : List Event

abbrev Simulation := ReaderT Conditions (StateM World)

namespace Conditions

def unlessRefused {α : Type} (c : Conditions) (stage : AtomicWrite.Stage) (s : World)
    (act : Except IoFault α × World) : Except IoFault α × World :=
  match c.refuse.stage stage with
  | some fault => (.error fault, s)
  | none => act

def makeDirectories (c : Conditions) (p : Path) (s : World) : Except IoFault Unit × World :=
  let (disk, result) := Workspace.makeDirectoriesUnless c.refuse.directory ⟨s.disk, c.cwd⟩ p
  (result, { s with disk })

def createTemp (c : Conditions) (a : AtomicWrite) (s : World) : Except IoFault Location × World :=
  match a.createTemp ⟨s.disk, c.cwd⟩ with
  | .ok (disk, temp) => (.ok temp, { s with disk })
  | .error fault => (.error fault, s)

def append (temp : Location) (s : World) : List Bytes → Except IoFault (List Bytes) × World
  | [] => (.ok [], s)
  | chunk :: left => (.ok left, { s with disk := AtomicWrite.append s.disk temp chunk })

def move (c : Conditions) (temp : Location) (target : Path) (s : World) :
    Except IoFault Unit × World :=
  match Workspace.moveFile ⟨s.disk, c.cwd⟩ temp target with
  | .ok disk => (.ok (), { s with disk })
  | .error fault => (.error fault, s)

end Conditions

instance : Host Simulation where
  workingDirectory c s := (Workspace.workingDirectory ⟨s.disk, c.cwd⟩, s)
  look paths c s := ((c.see s.disk).only paths, s)
  freshName target _ s := (s.disk.freshName (Workspace.names target), s)
  makeDirectories p c s := c.unlessRefused .parents s (c.makeDirectories p s)
  createTemp a c s := c.unlessRefused .temporary s (c.createTemp a s)
  append temp pieces c s := c.unlessRefused (.filling temp pieces) s (Conditions.append temp s pieces)
  sync temp c s := c.unlessRefused (.syncing temp) s (.ok (), s)
  move temp target c s := c.unlessRefused (.moving temp) s (c.move temp target s)
  remove temp _ s := ((), { s with disk := s.disk.erase temp })
  print text _ s := ((), { s with stdout := s.stdout ++ text })
  note event _ s := ((), { s with log := s.log ++ [event] })

def Operation.after {α : Type} (op : Operation Simulation α) (c : Conditions) (s : World) :
    Except Failure α × World :=
  op.run c s

structure Outcome (α : Type) where
  disk : Disk
  stdout : String
  log : List Event
  result : Except Failure α

def Workspace.perform {α : Type} (w : Workspace) (see : Disk → FileView)
    (refuse : AtomicWrite.Refusals) (op : Operation Simulation α) : Outcome α :=
  let (result, s) := op.after ⟨w.cwd, see, refuse⟩ ⟨w.disk, "", []⟩
  { disk := s.disk, stdout := s.stdout, log := s.log, result }

end PlatformCatalog
