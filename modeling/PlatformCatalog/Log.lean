import PlatformCatalog.Build.Publication
import PlatformCatalog.Failure

namespace PlatformCatalog

inductive Level where
  | debug
  | info
  | warn
  deriving DecidableEq, Repr

def Level.text : Level → String
  | .debug => "DEBUG"
  | .info => "INFO"
  | .warn => "WARN"

inductive Event where
  | build (event : BuildEvent)
  | manifestLoaded (platform : String) (path : Path)
  | exported (count : Nat) (target : Path)
  | moveFailed (target : Path) (fault : IoFault)
  | settingsIgnored (reason : Failure)
  deriving DecidableEq, Repr

namespace Event

def level : Event → Level
  | .build (.dynamicVersion ..) => .warn
  | .build _ => .debug
  | .manifestLoaded .. => .info
  | .exported .. => .info
  | .moveFailed .. => .warn
  | .settingsIgnored _ => .warn

def target : Event → String
  | .build _ => "gavel_core::version_catalog"
  | .manifestLoaded .. => "gavel_core::manifest"
  | .exported .. => "gavel_ops::ops_export"
  | .moveFailed .. => "gavel_util::fs"
  | .settingsIgnored _ => "gavel::commands"

def message : Event → String
  | .build event => event.message
  | .manifestLoaded platform path => s!"Loaded platform {platform} from {path.display}"
  | .exported count target => s!"Wrote {count} group versions to {target.display}"
  | .moveFailed target fault =>
    s!"Failed to move temp file into {target.display}: {fault.message}"
  | .settingsIgnored reason =>
    s!"Failed to load global config, using defaults: {reason.message}"

def withoutReason : Event → Event
  | .settingsIgnored reason => .settingsIgnored reason.withoutReason
  | e => e

end Event

abbrev Step (α : Type) := Logged Event Failure α

end PlatformCatalog
