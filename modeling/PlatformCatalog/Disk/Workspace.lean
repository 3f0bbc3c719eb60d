import PlatformCatalog.Disk.Disk

namespace PlatformCatalog

structure Workspace where
  disk : Disk
  cwd : Location
  deriving DecidableEq, Repr

-- Where a path leads: to a directory that its last component does not name, or to the entry of a
-- directory, perhaps with a slash after its name.
inductive Spot where
  | directory (l : Location)
  | entry (parent : Location) (name : Name) (slash : Bool)
  deriving DecidableEq, Repr

namespace Spot

def location : Spot → Location
  | .directory l => l
  | .entry parent name _ => parent ++ [name]

end Spot

namespace Workspace

def names (p : Path) : List Name :=
  (p.bytes.splitOn Path.slash).filter (· ≠ [])

def locate (w : Workspace) (p : Path) : Except IoFault Spot :=
  if p.bytes.contains 0 then .error .nulInPath
  else if p.bytes = [] then .error (.os .noEntry)
  else if Disk.maxPathLength < p.bytes.length then .error (.os .nameTooLong)
  else do
    let start := if p.isAbsolute then [] else w.cwd
    match (names p).getLast? with
    | none => return .directory start
    | some last =>
      let parent ← w.disk.walk start (names p).dropLast
      if last = [Path.dot] then return .directory parent
      else if last = [Path.dot, Path.dot] then return .directory parent.dropLast
      else return .entry parent last (p.bytes.getLast? == some Path.slash)

def status (w : Workspace) (p : Path) : Except IoFault Node := do
  match ← w.locate p with
  | .directory _ => return .directory
  | .entry parent name slash =>
    match ← w.disk.entry? parent name with
    | none => throw (.os .noEntry)
    | some .directory => return .directory
    | some (.file contents) =>
      if slash then throw (.os .notDirectory) else return .file contents

def isFile (w : Workspace) (p : Path) : Bool :=
  match w.status p with
  | .ok (.file _) => true
  | _ => false

def isDirectory (w : Workspace) (p : Path) : Bool :=
  match w.status p with
  | .ok .directory => true
  | _ => false

def read (w : Workspace) (p : Path) : Except IoFault Bytes := do
  match ← w.status p with
  | .file contents => return contents
  | .directory => throw (.os .isDirectory)

def view (w : Workspace) : FileView := ⟨w.isFile, w.read⟩

-- The path of the working directory, if it is still there.
def workingDirectory (w : Workspace) : Except IoFault Path :=
  if w.disk.isDirectory w.cwd then
    .ok ⟨if w.cwd = [] then [Path.slash] else w.cwd.flatMap (Path.slash :: ·)⟩
  else .error (.os .noEntry)

def makeDirectory (w : Workspace) (p : Path) : Except IoFault Disk := do
  match ← w.locate p with
  | .directory _ => throw (.os .alreadyExists)
  | .entry parent name _ =>
    if (← w.disk.entry? parent name).isSome then throw (.os .alreadyExists)
    else if !w.disk.isDirectory parent then throw (.os .noEntry)
    else return w.disk.put (parent ++ [name]) .directory

def tryDirectory (refuse : Path → Option IoFault) (w : Workspace) (p : Path) :
    Except IoFault Disk := do
  let d ← w.makeDirectory p
  match refuse p with
  | some fault => throw fault
  | none => return d

def ensureDirectory (refuse : Path → Option IoFault) (w : Workspace) (p : Path) :
    Except IoFault Disk :=
  match w.tryDirectory refuse p with
  | .ok d => .ok d
  | .error e => if w.isDirectory p then .ok w.disk else .error e

-- Makes a directory and those above it that are missing, as far as the operating system allows it.
-- The disk keeps the directories that were made before a failure.
def makeDirectoriesUnless (refuse : Path → Option IoFault) (w : Workspace) (p : Path) :
    Disk × Except IoFault Unit :=
  if p.bytes = [] then (w.disk, .ok ())
  else
    match w.tryDirectory refuse p with
    | .ok d => (d, .ok ())
    | .error e =>
      if e = .os .noEntry then
        match _h : p.parent? with
        | none => (w.disk, .error (.other "failed to create whole tree"))
        | some q =>
          let (d, r) := w.makeDirectoriesUnless refuse q
          match r with
          | .error e => (d, .error e)
          | .ok () =>
            match ensureDirectory refuse { w with disk := d } p with
            | .ok d => (d, .ok ())
            | .error e => (d, .error e)
      else if w.isDirectory p then (w.disk, .ok ())
      else (w.disk, .error e)
termination_by p.bytes.length
decreasing_by exact Path.length_parent?_lt _h

def makeDirectories (w : Workspace) (p : Path) : Disk × Except IoFault Unit :=
  w.makeDirectoriesUnless (fun _ => none) p

def writeFile (w : Workspace) (p : Path) (contents : Bytes) : Except IoFault Disk := do
  match ← w.locate p with
  | .directory _ => throw (.os .isDirectory)
  | .entry parent name slash =>
    if slash then throw (.os .isDirectory)
    else if (← w.disk.entry? parent name) = some .directory then throw (.os .isDirectory)
    else if !w.disk.isDirectory parent then throw (.os .noEntry)
    else return w.disk.put (parent ++ [name]) (.file contents)

-- Why the directory that a path leads to is not removed, though it has been emptied: its last
-- component does not name it.
def unnamedReason (p : Path) (l : Location) : OsError :=
  if l = [] then .busy
  else if (names p).getLast? = some [Path.dot] then .invalidArgument
  else .notEmpty

-- Removes a file, or a directory with its contents. A directory that its path does not name is
-- emptied and stays; that is no failure if the path leads nowhere any more.
def remove (w : Workspace) (p : Path) : Disk × Except IoFault Unit :=
  match w.status p, w.locate p with
  | .error e, _ => (w.disk, .error e)
  | _, .error e => (w.disk, .error e)
  | .ok (.file _), .ok spot => (w.disk.erase spot.location, .ok ())
  | .ok .directory, .ok (.entry parent name _) => (w.disk.eraseTree (parent ++ [name]), .ok ())
  | .ok .directory, .ok (.directory l) =>
    let emptied := { w with disk := w.disk.eraseBelow l }
    match emptied.locate p with
    | .error _ => (emptied.disk, .ok ())
    | .ok _ => (emptied.disk, .error (.os (unnamedReason p l)))

def enter (w : Workspace) (p : Path) : Except IoFault Workspace := do
  match ← w.status p with
  | .file _ => throw (.os .notDirectory)
  | .directory => return { w with cwd := (← w.locate p).location }

-- Removes the working directory from under the program, which stays in it: the parent can still be
-- reached, and since no path can spell an empty name, nothing that is made later takes its place.
def abandon (w : Workspace) : Workspace :=
  ⟨w.disk.eraseTree w.cwd, w.cwd.dropLast ++ [[]]⟩

def moveFile (w : Workspace) (source : Location) (p : Path) : Except IoFault Disk :=
  if p.bytes.contains 0 then .error (.os .invalidArgument)
  else do
    match ← w.locate p with
    | .directory _ => throw (.os .busy)
    | .entry parent name slash =>
      let there ← w.disk.entry? parent name
      if slash then throw (.os .notDirectory)
      else if there = some .directory then throw (.os .isDirectory)
      else
        match w.disk.node? source with
        | none => throw (.os .noEntry)
        | some node => return (w.disk.erase source).put (parent ++ [name]) node

end Workspace
end PlatformCatalog
