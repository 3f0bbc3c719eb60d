import PlatformCatalog.Build.BuildError
import PlatformCatalog.Build.Logged
import PlatformCatalog.VersionTable

namespace PlatformCatalog

structure Inputs where
  enforcedImports : List String
  dependencySets : List DependencySet
  dependencies : List String
  deriving DecidableEq, Repr

structure Publication where
  imports : List Coordinate
  constraints : List Coordinate
  catalog : VersionTable
  deriving DecidableEq

-- Whether a dynamic version is a fault or only worth a warning.
inductive Policy where
  | permissive
  | strict
  deriving DecidableEq, Repr

def Policy.ofDeny (denyDynamic : Bool) : Policy :=
  if denyDynamic then .strict else .permissive

inductive BuildEvent where
  | started (imports sets dependencies : Nat)
  | dynamicVersion (coordinate : Coordinate) (place : Place)
  | overridden (group previous version : String)
  | finished (imports constraints groups : Nat)
  deriving DecidableEq, Repr

def BuildEvent.message : BuildEvent → String
  | .started imports sets dependencies =>
    s!"Building version catalog from {imports} enforced imports, "
      ++ s!"{sets} dependency groups, {dependencies} dependencies"
  | .dynamicVersion c place => s!"{c.text} ({place.text}) uses a dynamic version"
  | .overridden group previous version =>
    s!"Version for group {group} overridden: {previous} -> {version}"
  | .finished imports constraints groups =>
    s!"Version catalog built: {imports} imports, {constraints} constraints, {groups} groups"

inductive Entry where
  | literal (text : String)
  | set (set : DependencySet)
  deriving DecidableEq, Repr

namespace Entry

def coordinates (place : Place) : Entry → Except BuildError (List Coordinate)
  | .literal text =>
    match Coordinate.parse text with
    | .ok c => .ok [c]
    | .error reason => .error (.malformedCoordinate text place reason)
  | .set s =>
    match s.defect? with
    | none => .ok s.coordinates
    | some defect => .error (.defectiveSet place.index defect)

end Entry

namespace Inputs

def entries (inputs : Inputs) : List (Place × Entry) :=
  inputs.enforcedImports.zipIdx.map (fun e => (⟨.enforcedImports, e.2⟩, .literal e.1))
    ++ inputs.dependencySets.zipIdx.map (fun e => (⟨.dependencySets, e.2⟩, .set e.1))
    ++ inputs.dependencies.zipIdx.map (fun e => (⟨.dependencies, e.2⟩, .literal e.1))

end Inputs

namespace Publication

def empty : Publication := ⟨[], [], .empty⟩

def add (p : Publication) (list : ListName) (c : Coordinate) : Publication :=
  { imports := if list = .enforcedImports then p.imports ++ [c] else p.imports
    constraints := if list = .enforcedImports then p.constraints else p.constraints ++ [c]
    catalog := p.catalog.insert c.group c.version }

def check (policy : Policy) (place : Place) (c : Coordinate) : Logged BuildEvent BuildError Unit :=
  if c.hasDynamicVersion then
    match policy with
    | .strict => .fail (.dynamicVersion c.text place)
    | .permissive => .note (.dynamicVersion c place)
  else .ok ()

def override (p : Publication) (c : Coordinate) : List BuildEvent :=
  match p.catalog.get? c.group with
  | some previous =>
    if previous ≠ c.version then [.overridden c.group previous c.version] else []
  | none => []

def publish (policy : Policy) (place : Place) (p : Publication) (c : Coordinate) :
    Logged BuildEvent BuildError Publication := do
  check policy place c
  ⟨p.override c, .ok (p.add place.list c)⟩

def publishAll (policy : Policy) (place : Place) (p : Publication) :
    List Coordinate → Logged BuildEvent BuildError Publication
  | [] => return p
  | c :: cs => do
    let q ← p.publish policy place c
    publishAll policy place q cs

def extend (policy : Policy) (p : Publication) :
    List (Place × Entry) → Logged BuildEvent BuildError Publication
  | [] => return p
  | (place, entry) :: rest => do
    let cs ← .ofExcept (entry.coordinates place)
    let q ← p.publishAll policy place cs
    extend policy q rest

def build (policy : Policy) (inputs : Inputs) : Logged BuildEvent BuildError Publication := do
  Logged.note (.started inputs.enforcedImports.length inputs.dependencySets.length
    inputs.dependencies.length)
  let p ← extend policy empty inputs.entries
  Logged.note (.finished p.imports.length p.constraints.length p.catalog.size)
  return p

def fields (p : Publication) : List (String × Value) :=
  [("ordered_imports", .array (p.imports.map fun c => .string c.text)),
    ("constraints", .array (p.constraints.map fun c => .string c.text)),
    ("catalog", p.catalog.toValue)]

def toValue (p : Publication) : Value :=
  .table p.fields

end Publication
end PlatformCatalog
