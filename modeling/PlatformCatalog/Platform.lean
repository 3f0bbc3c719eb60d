import PlatformCatalog.Json.Printer
import PlatformCatalog.Manifest
import PlatformCatalog.Settings
import PlatformCatalog.Text.Terminal

namespace PlatformCatalog

structure Platform where
  manifestPath : Path
  manifest : Manifest
  publication : Publication

structure Summary where
  name : String
  enforcedImports : Nat
  constraints : Nat
  groups : Nat
  deriving DecidableEq, Repr

def Summary.text (s : Summary) : String :=
  s!"Platform {s.name} OK: {s.enforcedImports} enforced imports, "
    ++ s!"{s.constraints} constraints, {s.groups} groups"

structure Delivery where
  target : Path
  contents : String
  count : Nat
  deriving DecidableEq, Repr

namespace Platform

def name (p : Platform) : String :=
  p.manifest.platform.name

def root (p : Platform) : Path :=
  p.manifestPath.parent?.getD .here

def load (files : FileView) (settings : Settings) (path : Path) (denyDynamic : Bool) :
    Step Platform := do
  let manifest ← Manifest.load files path
  let publication ← manifest.build (.ofDeny (denyDynamic || settings.catalog.denyDynamic))
  return { manifestPath := path, manifest, publication }

theorem load_congr {f g : FileView} {path : Path} (h : f.SameAt g path) (settings : Settings)
    (denyDynamic : Bool) : load f settings path denyDynamic = load g settings path denyDynamic := by
  simp only [load, Manifest.load, FileView.readText_congr h]

def heading (color : Bool) (s : String) : String :=
  if color then Terminal.bold s else s

def catalogWidth (catalog : VersionTable) : Nat :=
  (catalog.entries.map fun e => (Text.bytes e.1).length).foldl max 0

def padTo (width : Nat) (s : String) : String :=
  s ++ String.ofList (List.replicate (width - s.length) ' ')

def catalogLine (width : Nat) (e : String × String) : String :=
  "  " ++ padTo width e.1 ++ " = " ++ e.2 ++ "\n"

def coordinateLine (c : Coordinate) : String :=
  "  " ++ c.text ++ "\n"

def listing (color : Bool) (title : String) (lines : List String) : String :=
  "\n" ++ heading color title ++ "\n" ++ String.join lines

def reportText (color : Bool) (p : Platform) : String :=
  let out := p.publication
  heading color s!"Platform {p.name}" ++ "\n"
    ++ (match p.manifest.platform.description with
      | some d => "  " ++ d ++ "\n"
      | none => "")
    ++ listing color s!"Enforced imports ({out.imports.length}):" (out.imports.map coordinateLine)
    ++ listing color s!"Constraints ({out.constraints.length}):"
      (out.constraints.map coordinateLine)
    ++ listing color s!"Catalog ({out.catalog.size} groups):"
      (out.catalog.entries.map (catalogLine (catalogWidth out.catalog)))

def toValue (p : Platform) : Value :=
  .table (("name", .string p.name) :: p.publication.fields)

def report (color : Bool) (p : Platform) : Format → String
  | .text => p.reportText color
  | .json => Json.pretty p.toValue ++ "\n"

def reportOf (files : FileView) (settings : Settings) (path : Path) (format : Option Format) :
    Step String := do
  let p ← load files settings path false
  return p.report false (format.getD settings.output.format)

def summary (p : Platform) : Summary where
  name := p.name
  enforcedImports := p.publication.imports.length
  constraints := p.publication.constraints.length
  groups := p.publication.catalog.size

def check (files : FileView) (settings : Settings) (path : Path) (denyDynamic : Bool) :
    Step Summary := do
  let p ← load files settings path denyDynamic
  return p.summary

def versionOf (files : FileView) (settings : Settings) (path : Path) (group : String) :
    Step String := do
  let p ← load files settings path false
  match p.publication.catalog.get? group with
  | some v => return v
  | none => Logged.fail (.noVersion group p.name)

-- The catalog as it is exported, and the file that it goes to: the one asked for, or the one that
-- the settings name, next to the manifest.
def delivered (p : Platform) (settings : Settings) (output : Option Path) : Delivery where
  target := output.getD (p.root.join (.ofString settings.output.exportFile))
  contents := Json.pretty p.publication.catalog.toValue ++ "\n"
  count := p.publication.catalog.size

def delivery (files : FileView) (settings : Settings) (path : Path) (output : Option Path) :
    Step Delivery := do
  let p ← load files settings path false
  return p.delivered settings output

end Platform

namespace Delivery

def notice (d : Delivery) : String :=
  s!"Exported {d.count} group versions to {d.target.display}"

def finish (d : Delivery) : Except IoFault Unit → Step Path
  | .ok () => ⟨[.exported d.count d.target], .ok d.target⟩
  | .error fault => .fail (.notWritten d.target fault)

end Delivery
end PlatformCatalog
