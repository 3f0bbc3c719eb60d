import PlatformCatalog.Run

namespace PlatformCatalog.Program

def readVariable (name : String) : IO (Option Bytes) := do
  return (← IO.getEnv name).map Text.bytes

def environment : IO Environment := do
  return {
    catalogHome := ← readVariable "GAVEL_HOME"
    manifest := ← readVariable "GAVEL_MANIFEST"
    home := ← readVariable "HOME"
    userProfile := ← readVariable "USERPROFILE"
    logFilter := ← readVariable "RUST_LOG" }

def faultOf : IO.Error → IoFault
  | .noFileOrDirectory .. => .os .noEntry
  | .alreadyExists .. => .os .alreadyExists
  | .resourceBusy .. => .os .busy
  | .inappropriateType _ code _ =>
    if code.toNat = OsError.code .isDirectory then .os .isDirectory else .os .notDirectory
  | e => .other (toString e)

def attempt {α : Type} (act : IO α) : IO (Except IoFault α) := do
  match ← act.toBaseIO with
  | .ok a => return .ok a
  | .error e => return .error (faultOf e)

-- The working directory is missing only when it has been removed.
def workingDirectory : IO (Except IoFault Path) := do
  match ← IO.currentDir.toBaseIO with
  | .ok dir => return .ok (.ofString dir.toString)
  | .error _ => return .error (.os .noEntry)

def readFile (p : Path) : IO (Except IoFault Bytes) := do
  return (← attempt (IO.FS.readBinFile p.display)).map ByteArray.toList

-- Does reading show that there is a file? One that may not be read is still a file.
def showsFile : Except IoFault Bytes → Bool
  | .ok _ | .error (.other _) => true
  | .error _ => false

def look (paths : List Path) : IO FileView := do
  let seen ← paths.mapM fun p => do return (p, ← readFile p)
  let read (p : Path) : Except IoFault Bytes := (seen.lookup p).getD (.error (.os .noEntry))
  return { isFile := fun p => showsFile (read p), read }

def wayTo (l : Location) : String :=
  (Path.ofNames l).display

def makeTemp (a : AtomicWrite) : IO Location := do
  let parent ← IO.FS.realPath a.parent.display
  let temp := Workspace.names (.ofString parent.toString) ++ [a.temp]
  let _ ← IO.FS.Handle.mk (wayTo temp) .writeNew
  return temp

def appendTo (temp : Location) : List Bytes → IO (List Bytes)
  | [] => return []
  | chunk :: left => do
    let file ← IO.FS.Handle.mk (wayTo temp) .append
    file.write chunk.toByteArray
    file.flush
    return left

-- There is no call that waits for the device; what was appended has been handed over by then.
def handOver (temp : Location) : IO Unit := do
  let file ← IO.FS.Handle.mk (wayTo temp) .append
  file.flush

abbrev Native := ReaderT LogFilter IO

instance : Host Native where
  workingDirectory _ := workingDirectory
  look paths _ := look paths
  freshName _ _ := return Text.bytes s!".tmp{← IO.rand 0 0xFFFFFFFFFFFFFFF}"
  makeDirectories p _ := attempt (IO.FS.createDirAll p.display)
  createTemp a _ := attempt (makeTemp a)
  append temp pieces _ := attempt (appendTo temp pieces)
  sync temp _ := attempt (handOver temp)
  move temp target _ := attempt (IO.FS.rename (wayTo temp) target.display)
  remove temp _ := do
    let _ ← attempt (IO.FS.removeFile (wayTo temp))
  print text _ := IO.print text
  note event filter := do
    if filter.admits event then IO.eprintln event.line

def printFailure (f : Failure) : IO Unit := do
  IO.eprintln s!"Error: {f.message}"
  if let some advice := f.help then
    IO.eprintln s!"  help: {advice}"

def run (env : Environment) (inv : Invocation) (filter : LogFilter) : IO UInt32 := do
  match ← (Operation.dispatch env inv : Operation Native Unit).run filter with
  | .ok () => return 0
  | .error f =>
    printFailure f
    return 1

end PlatformCatalog.Program

open PlatformCatalog in
def main (args : List String) : IO UInt32 := do
  let env ← Program.environment
  match CommandLine.parse env.manifest args with
  | .error usage =>
    IO.print usage.stdout
    IO.eprint usage.stderr
    return usage.exitCode.toUInt32
  | .ok inv =>
    match LogFilter.ofRun? env.logFilter inv.verbose with
    | none =>
      IO.eprintln "the log filter splits a character"
      return brokenStatus.toUInt32
    | some filter => Program.run env inv filter
