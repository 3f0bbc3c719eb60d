import PlatformCatalog.Log

namespace PlatformCatalog

structure Environment where
  catalogHome : Option Bytes := none
  manifest : Option Bytes := none
  home : Option Bytes := none
  userProfile : Option Bytes := none
  logFilter : Option Bytes := none
  deriving DecidableEq, Repr

inductive Format where
  | text
  | json
  deriving DecidableEq, Repr

namespace Format

def name : Format → String
  | .text => "text"
  | .json => "json"

def ofName? : String → Option Format
  | "text" => some .text
  | "json" => some .json
  | _ => none

def ofVariant (name : String) : Except Misfit Format :=
  match ofName? name with
  | some f => .ok f
  | none => .error (.unknownVariant name [Format.text.name, Format.json.name])

-- A format is given by its name, alone or as the only key of a table, with nothing inside.
def ofValue : Value → Except Misfit Format
  | .string s => ofVariant s
  | .table [(k, v)] => do
    let f ← ofVariant k
    match v with
    | .table [] | .array [] => return f
    | _ => throw .unexplained
  | _ => .error .unexplained

end Format

structure CatalogSettings where
  denyDynamic : Bool := false
  deriving DecidableEq, Repr

structure OutputSettings where
  format : Format := .text
  exportFile : String := "versions.json"
  deriving DecidableEq, Repr

structure Settings where
  catalog : CatalogSettings := {}
  output : OutputSettings := {}
  deriving DecidableEq, Repr

def CatalogSettings.schema : Schema CatalogSettings where
  name := "CatalogSettings"
  blank := {}
  fields := [.optional "deny-dynamic" Value.toBool? fun x s => { s with denyDynamic := x }]

def OutputSettings.schema : Schema OutputSettings where
  name := "OutputSettings"
  blank := {}
  fields := [
    .optional "format" Format.ofValue fun x s => { s with format := x },
    .optional "export-file" Value.toString? fun x s => { s with exportFile := x }]

namespace Settings

def schema : Schema Settings where
  name := "GlobalConfig"
  blank := {}
  fields := [
    .optional "catalog" (CatalogSettings.schema.read .ignored) fun x s => { s with catalog := x },
    .optional "output" (OutputSettings.schema.read .ignored) fun x s => { s with output := x }]

def toValue (s : Settings) : Value :=
  .table [("catalog", .table [("deny-dynamic", .boolean s.catalog.denyDynamic)]),
    ("output", .table [("format", .string s.output.format.name),
      ("export-file", .string s.output.exportFile)])]

def load (files : FileView) (path : Path) : Except Failure Settings :=
  if files.isFile path then
    match files.readText path with
    | .error fault => .error (.settingsUnreadable path fault)
    | .ok text => (Toml.readRecord schema text).mapError (.settingsMalformed path)
  else .ok {}

theorem load_congr {f g : FileView} {path : Path} (h : f.SameAt g path) :
    load f path = load g path := by
  simp only [load, h.1, FileView.readText_congr h]

def loadOrDefault (files : FileView) (path : Path) : Logged Event Failure Settings :=
  match load files path with
  | .ok s => ⟨[], .ok s⟩
  | .error reason => ⟨[.settingsIgnored reason], .ok {}⟩

end Settings

namespace Environment

-- The directory that a user's files are kept in. It is named directly, or lies in the user's home,
-- as far as that is named by text; otherwise it lies in the working directory.
def settingsDirectory (env : Environment) : Path :=
  match env.catalogHome with
  | some (b :: bs) => ⟨b :: bs⟩
  | _ =>
    let home := (env.home.bind Text.decode?).or (env.userProfile.bind Text.decode?)
    (Path.ofString (home.getD ".")).join (.ofString ".gavel")

def settingsFile (env : Environment) : Path :=
  env.settingsDirectory.join (.ofString "config.toml")

end Environment
end PlatformCatalog
