import PlatformCatalog.CommandLine.Invocation
import PlatformCatalog.Host
import PlatformCatalog.Platform

namespace PlatformCatalog

-- Something that the program does, with its effects in the order in which they happen. What has been
-- done before a failure stays done.
abbrev Operation (m : Type → Type) (α : Type) := ExceptT Failure m α

def manifestCandidates : Except IoFault Path → List Path
  | .ok start => start.ancestors.map (·.join (.ofString manifestName))
  | .error _ => []

-- The manifest of a run: the one that is named, or the nearest one above the working directory.
def findManifest (named : Option Path) (cwd : Except IoFault Path) (files : FileView) :
    Except Failure Path :=
  match named with
  | some path => .ok path
  | none =>
    match cwd with
    | .error fault => .error (.workingDirectory fault)
    | .ok start =>
      match files.nearestWith start (.ofString manifestName) with
      | some root => .ok (root.join (.ofString manifestName))
      | none => .error .manifestNotFound

namespace Operation

variable {m : Type → Type} [Monad m] [Host m] {α : Type}

def ask (x : m α) : Operation m α :=
  ExceptT.lift x

def note (event : Event) : Operation m Unit :=
  ask (Host.note event)

def print (text : String) : Operation m Unit :=
  ask (Host.print text)

def take (step : Step α) : Operation m α := do
  forM step.log note
  ExceptT.mk (pure step.result)

def manifest : Option Path → Operation m Path
  | some path => return path
  | none => do
    let cwd ← ask Host.workingDirectory
    let files ← ask (Host.look (manifestCandidates cwd))
    take (.ofExcept (findManifest none cwd files))

def settings (path : Path) : Operation m Settings := do
  let files ← ask (Host.look [path])
  take (Settings.loadOrDefault files path)

def load (settings : Settings) (manifest : Path) (denyDynamic : Bool) : Operation m Platform := do
  let files ← ask (Host.look [manifest])
  take (Platform.load files settings manifest denyDynamic)

def report (settings : Settings) (manifest : Path) (format : Option Format) :
    Operation m Unit := do
  let p ← load settings manifest false
  print (p.report false (format.getD settings.output.format))

def check (settings : Settings) (manifest : Path) (denyDynamic : Bool) : Operation m Summary := do
  let p ← load settings manifest denyDynamic
  print (p.summary.text ++ "\n")
  return p.summary

def versionOf (settings : Settings) (manifest : Path) (group : String) :
    Operation m String := do
  let p ← load settings manifest false
  match p.publication.catalog.get? group with
  | none => throw (.noVersion group p.name)
  | some version =>
    print (version ++ "\n")
    return version

def writeAtomic (target : Path) (contents : Bytes) : Operation m Unit := do
  let temp ← ask (Host.freshName target)
  let stage ← ask (AtomicWrite.perform ⟨target, [contents], temp⟩)
  take ((AtomicWrite.outcome target stage).lift id (.notWritten target))

def deliver (d : Delivery) : Operation m Path := do
  writeAtomic d.target (Text.bytes d.contents)
  note (.exported d.count d.target)
  print (d.notice ++ "\n")
  return d.target

def exportCatalog (settings : Settings) (manifest : Path) (output : Option Path) :
    Operation m Path := do
  let p ← load settings manifest false
  deliver (p.delivered settings output)

def perform (settings : Settings) (manifest : Path) : Command → Operation m Unit
  | .report json => report settings manifest (if json then some .json else none)
  | .check denyDynamic => do
    let _ ← check settings manifest denyDynamic
  | .versionOf group => do
    let _ ← versionOf settings manifest group
  | .exportCatalog output => do
    let _ ← exportCatalog settings manifest output

def dispatch (env : Environment) (inv : Invocation) : Operation m Unit := do
  let manifest ← manifest inv.manifest
  let settings ← settings env.settingsFile
  perform settings manifest inv.command

end Operation
end PlatformCatalog
