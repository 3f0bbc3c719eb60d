import PlatformCatalog.Disk.AtomicWrite

namespace PlatformCatalog

-- What the program asks of the system that it runs on. It is run on the real one and proved about on
-- a simulated one.
class Host (m : Type → Type) where
  workingDirectory : m (Except IoFault Path)
  -- Shows what is at some paths now, and nothing of other paths.
  look : List Path → m FileView
  -- A name for a temporary file that nothing is likely to have.
  freshName : Path → m Name
  makeDirectories : Path → m (Except IoFault Unit)
  createTemp : AtomicWrite → m (Except IoFault Location)
  -- Adds some pieces to the end of a file, and gives those that are left.
  append : Location → List Bytes → m (Except IoFault (List Bytes))
  sync : Location → m (Except IoFault Unit)
  move : Location → Path → m (Except IoFault Unit)
  remove : Location → m Unit
  print : String → m Unit
  note : Event → m Unit

namespace AtomicWrite

variable {m : Type → Type} [Monad m] [Host m]

def giveUp (temp : Location) (ending : Ending) : m Stage := do
  Host.remove temp
  return .ended ending

def advance (a : AtomicWrite) : Stage → m Stage
  | .parents => do
    match ← Host.makeDirectories a.parent with
    | .ok () => return .temporary
    | .error fault => return .ended (.failed fault)
  | .temporary => do
    match ← Host.createTemp a with
    | .ok temp => return .filling temp a.chunks
    | .error fault => return .ended (.failed fault)
  | .filling temp [] => return .syncing temp
  | .filling temp (chunk :: left) => do
    match ← Host.append temp (chunk :: left) with
    | .ok left => return .filling temp left
    | .error fault => giveUp temp (.failed fault)
  | .syncing temp => do
    match ← Host.sync temp with
    | .ok () => return .moving temp
    | .error fault => giveUp temp (.failed fault)
  | .moving temp => do
    match ← Host.move temp a.target with
    | .ok () => return .ended .written
    | .error fault => giveUp temp (.notMoved fault)
  | .ended ending => return .ended ending

def perform (a : AtomicWrite) : m Stage :=
  Nat.repeat (· >>= a.advance) a.stepCount (pure .parents)

end AtomicWrite
end PlatformCatalog
