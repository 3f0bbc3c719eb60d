import PlatformCatalog.Coordinate
import PlatformCatalog.Value

namespace PlatformCatalog

structure DependencySet where
  group : String
  version : String
  modules : List String
  deriving DecidableEq, Repr

namespace DependencySet

inductive Defect where
  | emptyGroup
  | emptyVersion (group : String)
  | colonInGroup (group : String)
  | colonInVersion (version : String)
  | noModules (group : String)
  | invalidModule (group member : String)
  | repeatedModule (group member : String)
  deriving DecidableEq, Repr

def hasColon (s : String) : Bool :=
  s.toList.contains ':'

def isModuleName (s : String) : Bool :=
  s ≠ "" && !hasColon s

def moduleDefect? (group : String) (seen : List String) : List String → Option Defect
  | [] => none
  | m :: rest =>
    if !isModuleName m then some (.invalidModule group m)
    else if seen.contains m then some (.repeatedModule group m)
    else moduleDefect? group (m :: seen) rest

def defect? (s : DependencySet) : Option Defect :=
  if s.group = "" then some .emptyGroup
  else if s.version = "" then some (.emptyVersion s.group)
  else if hasColon s.group then some (.colonInGroup s.group)
  else if hasColon s.version then some (.colonInVersion s.version)
  else if s.modules = [] then some (.noModules s.group)
  else moduleDefect? s.group [] s.modules

def coordinates (s : DependencySet) : List Coordinate :=
  s.modules.map fun m => { group := s.group, artifact := m, version := s.version }

def toValue (s : DependencySet) : Value :=
  .table [("group", .string s.group), ("version", .string s.version),
    ("modules", .array (s.modules.map .string))]

end DependencySet
end PlatformCatalog
