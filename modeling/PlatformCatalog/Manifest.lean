import PlatformCatalog.Log
import PlatformCatalog.Reference

namespace PlatformCatalog

structure Metadata where
  name : String
  description : Option String
  deriving DecidableEq, Repr

structure Manifest where
  platform : Metadata
  versions : VersionTable
  enforcedImports : List String
  dependencySets : List DependencySet
  dependencies : List String
  deriving DecidableEq

namespace Coordinate

def ofValue (v : Value) : Except Misfit Coordinate := do
  let s ← v.toString?
  match parse s with
  | .ok c => return c
  | .error reason => throw (.refused reason.message)

def toValue (c : Coordinate) : Value :=
  .string c.text

end Coordinate

namespace DependencySet

def schema : Schema DependencySet where
  name := "DependencyGroup"
  blank := ⟨"", "", []⟩
  fields := [
    .mandatory "group" Value.toString? fun x s => { s with group := x },
    .mandatory "version" Value.toString? fun x s => { s with version := x },
    .mandatory "modules" (Value.toList? Value.toString?) fun x s => { s with modules := x }]

def ofValue (surplus : Surplus) : Value → Except Misfit DependencySet :=
  schema.read surplus

end DependencySet

namespace Metadata

def schema : Schema Metadata where
  name := "PlatformMetadata"
  blank := ⟨"", none⟩
  fields := [
    .mandatory "name" Value.toString? fun x m => { m with name := x },
    .optional "description" Value.toString? fun x m => { m with description := some x }]

def toValue (m : Metadata) : Value :=
  .table [("name", .string m.name),
    ("description", match m.description with
      | some d => .string d
      | none => .null)]

end Metadata

namespace Manifest

def schema : Schema Manifest where
  name := "PlatformManifest"
  blank := ⟨⟨"", none⟩, .empty, [], [], []⟩
  fields := [
    .mandatory "platform" (Metadata.schema.read .ignored) fun x m => { m with platform := x },
    .optional "versions" Value.toVersionTable? fun x m => { m with versions := x },
    .optional "enforced-imports" (Value.toList? Value.toString?)
      fun x m => { m with enforcedImports := x },
    .optional "dependency-sets" (Value.toList? (DependencySet.ofValue .ignored))
      fun x m => { m with dependencySets := x },
    .optional "dependencies" (Value.toList? Value.toString?)
      fun x m => { m with dependencies := x }]

def toValue (m : Manifest) : Value :=
  .table [("platform", m.platform.toValue),
    ("versions", m.versions.toValue),
    ("enforced-imports", .array (m.enforcedImports.map .string)),
    ("dependency-sets", .array (m.dependencySets.map DependencySet.toValue)),
    ("dependencies", .array (m.dependencies.map .string))]

def parse (text : String) : Except Failure Manifest :=
  (Toml.readRecord schema text).mapError .manifestMalformed

def load (files : FileView) (path : Path) : Step Manifest := do
  let text ← Logged.ofExcept ((files.readText path).mapError (.manifestUnreadable path))
  let m ← Logged.ofExcept (parse text)
  Logged.note (.manifestLoaded m.platform.name path)
  return m

def expand (m : Manifest) (place : Place) (s : String) : Except Failure String :=
  (Reference.expand m.versions.get? s).mapError (.unknownReference · place)

-- Expands the references of all entries in order, up to the first unknown one. Of a dependency set
-- only the version may hold references.
def resolve (m : Manifest) : Except Failure Inputs := do
  let enforcedImports ← m.enforcedImports.zipIdx.mapM fun e =>
    m.expand ⟨.enforcedImports, e.2⟩ e.1
  let dependencySets ← m.dependencySets.zipIdx.mapM fun e => do
    let version ← m.expand ⟨.dependencySets, e.2⟩ e.1.version
    return { e.1 with version }
  let dependencies ← m.dependencies.zipIdx.mapM fun e =>
    m.expand ⟨.dependencies, e.2⟩ e.1
  return { enforcedImports, dependencySets, dependencies }

def build (m : Manifest) (policy : Policy) : Step Publication := do
  let inputs ← Logged.ofExcept m.resolve
  (Publication.build policy inputs).lift .build .faultyEntry

end Manifest
end PlatformCatalog
