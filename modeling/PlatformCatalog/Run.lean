import PlatformCatalog.CommandLine.Parse
import PlatformCatalog.LogFilter
import PlatformCatalog.Simulation

namespace PlatformCatalog

inductive Request where
  | print (text : String)
  | deliver (d : Delivery)
  deriving DecidableEq, Repr

def Command.prepare (files : FileView) (settings : Settings) (manifest : Path) :
    Command → Step Request
  | .report json => do
    let text ← Platform.reportOf files settings manifest (if json then some .json else none)
    return .print text
  | .check denyDynamic => do
    let summary ← Platform.check files settings manifest denyDynamic
    return .print (summary.text ++ "\n")
  | .versionOf group => do
    let version ← Platform.versionOf files settings manifest group
    return .print (version ++ "\n")
  | .exportCatalog output => do
    let d ← Platform.delivery files settings manifest output
    return .deliver d

theorem Command.prepare_congr {f g : FileView} {manifest : Path} (h : f.SameAt g manifest)
    (settings : Settings) (c : Command) :
    c.prepare f settings manifest = c.prepare g settings manifest := by
  cases c <;> simp only [Command.prepare, Platform.reportOf, Platform.check, Platform.versionOf,
    Platform.delivery, Platform.load_congr h]

def Invocation.prepare (inv : Invocation) (env : Environment) (cwd : Except IoFault Path)
    (files : FileView) : Step Request := do
  let manifest ← Logged.ofExcept (findManifest inv.manifest cwd files)
  let settings ← Settings.loadOrDefault files env.settingsFile
  inv.command.prepare files settings manifest

theorem Invocation.prepare_of_findManifest {inv : Invocation} {cwd : Except IoFault Path}
    {files : FileView} {manifest : Path} (h : findManifest inv.manifest cwd files = .ok manifest)
    (env : Environment) : inv.prepare env cwd files = (do
      let settings ← Settings.loadOrDefault files env.settingsFile
      inv.command.prepare files settings manifest) := by
  rw [prepare, h]
  rfl

namespace Workspace

def answer {α : Type} (w : Workspace) (step : Step α) (print : α → String) : Outcome α where
  disk := w.disk
  stdout := match step.result with
    | .ok a => print a
    | .error _ => ""
  log := step.log
  result := step.result

def deliver (w : Workspace) (d : Delivery) : Outcome Path :=
  let (disk, written) := w.writeAtomic d.target (Text.bytes d.contents)
  let finished := d.finish written.result
  { disk
    stdout := match finished.result with
      | .ok _ => d.notice ++ "\n"
      | .error _ => ""
    log := written.log ++ finished.log
    result := finished.result }

def carryOut (w : Workspace) (prepared : Step Request) : Outcome Unit :=
  match prepared.result with
  | .error failure => ⟨w.disk, "", prepared.log, .error failure⟩
  | .ok (.print text) => ⟨w.disk, text, prepared.log, .ok ()⟩
  | .ok (.deliver d) =>
    let out := w.deliver d
    { disk := out.disk
      stdout := out.stdout
      log := prepared.log ++ out.log
      result := out.result.map fun _ => () }

def exportCatalog (w : Workspace) (settings : Settings) (manifest : Path) (output : Option Path) :
    Outcome Path :=
  w.perform (fun d => view ⟨d, w.cwd⟩) .none (Operation.exportCatalog settings manifest output)

def dispatchSeeing (w : Workspace) (files : FileView) (env : Environment) (inv : Invocation) :
    Outcome Unit :=
  w.perform (fun _ => files) .none (Operation.dispatch env inv)

def dispatch (w : Workspace) (env : Environment) (inv : Invocation) : Outcome Unit :=
  w.perform (fun d => view ⟨d, w.cwd⟩) .none (Operation.dispatch env inv)

end Workspace

structure Exit where
  disk : Disk
  code : Nat
  stdout : String
  logLines : List String

def brokenStatus : Nat := 101

def Workspace.runProgram (w : Workspace) (env : Environment) (args : List String) : Exit :=
  match CommandLine.parse env.manifest args with
  | .error usage => ⟨w.disk, usage.exitCode, usage.stdout, []⟩
  | .ok inv =>
    match LogFilter.ofRun? env.logFilter inv.verbose with
    | none => ⟨w.disk, brokenStatus, "", []⟩
    | some filter =>
      let out := w.dispatch env inv
      { disk := out.disk
        code := match out.result with
          | .ok () => 0
          | .error _ => 1
        stdout := out.stdout
        logLines := (out.log.filter filter.admits).map Event.line }

end PlatformCatalog
