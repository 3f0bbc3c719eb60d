import PlatformCatalog.Build.BuildError
import PlatformCatalog.Disk.FileView
import PlatformCatalog.Toml.Record

namespace PlatformCatalog

inductive Failure where
  | workingDirectory (fault : IoFault)
  | manifestNotFound
  | manifestUnreadable (path : Path) (fault : IoFault)
  | manifestMalformed (fault : DocumentFault)
  | unknownReference (key : String) (place : Place)
  | faultyEntry (error : BuildError)
  | noVersion (group platform : String)
  | notWritten (target : Path) (fault : IoFault)
  | settingsUnreadable (path : Path) (fault : IoFault)
  | settingsMalformed (path : Path) (fault : DocumentFault)
  deriving DecidableEq, Repr

def manifestName : String := "Platform.toml"

namespace Failure

inductive Area where
  | io
  | manifest
  | catalog
  | config
  deriving DecidableEq, Repr

namespace Area

def label : Area → String
  | .io => "I/O error"
  | .manifest => "Manifest error"
  | .catalog => "Catalog error"
  | .config => "Config error"

def message (area : Area) (detail : String) : String :=
  s!"{area.label}: {detail}"

def help : Area → Option String
  | .manifest => some "Check your Platform.toml for syntax errors"
  | .config => some "Check ~/.gavel/config.toml or unset GAVEL_HOME"
  | .io | .catalog => none

end Area

def parts : Failure → BuildError ⊕ (Area × String)
  | .workingDirectory fault => .inr (.io, fault.message)
  | .manifestNotFound =>
    .inr (.manifest, s!"Could not find {manifestName} in this directory or any parent")
  | .manifestUnreadable path fault =>
    .inr (.manifest, s!"Failed to read {path.display}: {fault.message}")
  | .manifestMalformed fault =>
    .inr (.manifest, s!"Failed to parse {manifestName}: {fault.message}")
  | .unknownReference key place =>
    .inr (.manifest, "Unknown version reference '$\x7b" ++ key ++ "\x7d' in " ++ place.text)
  | .faultyEntry error => .inl error
  | .noVersion group platform =>
    .inr (.catalog, s!"No version for group '{group}' in platform {platform}")
  | .notWritten target fault =>
    .inr (.catalog, s!"Failed to write {target.display}: {fault.message}")
  | .settingsUnreadable path fault =>
    .inr (.config, s!"Failed to read {path.display}: {fault.message}")
  | .settingsMalformed path fault =>
    .inr (.config, s!"Failed to parse {path.display}: {fault.message}")

def message (f : Failure) : String :=
  match f.parts with
  | .inl error => error.message
  | .inr (area, detail) => area.message detail

def help (f : Failure) : Option String :=
  match f.parts with
  | .inl error => error.help
  | .inr (area, _) => area.help

def withoutReason : Failure → Failure
  | .manifestMalformed _ => .manifestMalformed .malformed
  | .settingsMalformed path _ => .settingsMalformed path .malformed
  | f => f

end Failure
end PlatformCatalog
