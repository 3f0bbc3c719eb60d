import PlatformCatalog.Build.Place
import PlatformCatalog.DependencySet

namespace PlatformCatalog

inductive BuildError where
  | malformedCoordinate (literal : String) (place : Place) (reason : Coordinate.ParseError)
  | defectiveSet (index : Nat) (defect : DependencySet.Defect)
  | dynamicVersion (literal : String) (place : Place)
  deriving DecidableEq, Repr

namespace DependencySet.Defect

def position (index : Nat) : String :=
  Place.text ⟨.dependencySets, index⟩

def invalidMessage (index : Nat) (reason : String) : String :=
  s!"Invalid dependency group at {position index}: {reason}"

def message (index : Nat) : Defect → String
  | .emptyGroup => invalidMessage index "group name is empty"
  | .emptyVersion group => invalidMessage index s!"group '{group}' has an empty version"
  | .colonInGroup group => invalidMessage index s!"group name '{group}' contains ':'"
  | .colonInVersion version => invalidMessage index s!"version '{version}' contains ':'"
  | .noModules group => s!"Dependency group '{group}' ({position index}) has no members"
  | .invalidModule group name =>
    invalidMessage index s!"member '{name}' of group '{group}' is not a valid artifact name"
  | .repeatedModule group name =>
    s!"Artifact '{name}' appears more than once in dependency group '{group}' ({position index})"

def help : Defect → Option String
  | .repeatedModule .. => some "Remove the duplicate member from the group"
  | _ => none

end DependencySet.Defect

namespace BuildError

def message : BuildError → String
  | .malformedCoordinate literal place reason =>
    s!"Malformed coordinate '{literal}' in {place.text}: {reason.message}"
  | .defectiveSet index defect => defect.message index
  | .dynamicVersion literal place =>
    s!"Dynamic version in '{literal}' ({place.text}) is not allowed"

def help : BuildError → Option String
  | .malformedCoordinate .. =>
    some "Coordinates must look like group:artifact:version with no empty fields"
  | .defectiveSet _ defect => defect.help
  | .dynamicVersion .. => some "Pin a fixed version, or turn off deny-dynamic"

def index : BuildError → Nat
  | .malformedCoordinate _ place _ => place.index
  | .defectiveSet index _ => index
  | .dynamicVersion _ place => place.index

end BuildError
end PlatformCatalog
