import PlatformCatalog.Text.Utf8

namespace PlatformCatalog.CommandLine

-- A word as it is given, byte for byte; it need not be text.
abbrev Word := Bytes

namespace Word

def dash : UInt8 := 0x2D

def equals : UInt8 := 0x3D

inductive Shape where
  | dashes
  | long (name : Bytes) (value : Option Bytes)
  | short (letters : Bytes)
  | plain
  deriving DecidableEq, Repr

def valueIn (option : Bytes) : Option Bytes :=
  match option.dropWhile (· ≠ equals) with
  | _ :: value => some value
  | [] => none

def shape : Word → Shape
  | first :: second :: rest =>
    if first ≠ dash then .plain
    else if second ≠ dash then .short (second :: rest)
    else if rest = [] then .dashes
    else .long (rest.takeWhile (· ≠ equals)) (valueIn rest)
  | _ => .plain

end Word

inductive Subcommand where
  | report
  | check
  | versionOf
  | exportCatalog
  deriving DecidableEq, Repr

namespace Subcommand

def all : List Subcommand := [.report, .check, .versionOf, .exportCatalog]

def word : Subcommand → String
  | .report => "show"
  | .check => "check"
  | .versionOf => "version"
  | .exportCatalog => "export"

def ofWord? (w : Word) : Option Subcommand :=
  all.find? (Text.bytes ·.word = w)

def about : Subcommand → String
  | .report => "Print enforced imports, constraints and the version catalog"
  | .check => "Validate the platform manifest"
  | .versionOf => "Print the catalog version for a group"
  | .exportCatalog => "Write the version catalog as JSON"

end Subcommand

def helpWord : String := "help"

inductive Flag where
  | json
  | denyDynamic
  | output
  | verbose
  | manifest
  | help
  | programVersion
  deriving DecidableEq, Repr

namespace Flag

def long : Flag → String
  | .json => "json"
  | .denyDynamic => "deny-dynamic"
  | .output => "output"
  | .verbose => "verbose"
  | .manifest => "manifest"
  | .help => "help"
  | .programVersion => "version"

def short? : Flag → Option Char
  | .output => some 'o'
  | .verbose => some 'v'
  | .help => some 'h'
  | .programVersion => some 'V'
  | _ => none

def valueName? : Flag → Option String
  | .output => some "OUTPUT"
  | .manifest => some "MANIFEST"
  | _ => none

def takesValue (f : Flag) : Bool :=
  f.valueName?.isSome

end Flag

inductive Scope where
  | root
  | after (s : Subcommand)
  deriving DecidableEq, Repr

namespace Scope

def flags : Scope → List Flag
  | .root => [.verbose, .manifest, .help, .programVersion]
  | .after .report => [.json, .verbose, .manifest, .help]
  | .after .check => [.denyDynamic, .verbose, .manifest, .help]
  | .after .versionOf => [.verbose, .manifest, .help]
  | .after .exportCatalog => [.output, .verbose, .manifest, .help]

def long? (s : Scope) (name : Bytes) : Option Flag :=
  s.flags.find? (Text.bytes ·.long = name)

def short? (s : Scope) (letter : UInt8) : Option Flag :=
  s.flags.find? (·.short?.map Char.toUInt8 = some letter)

def takesGroup (s : Scope) : Bool :=
  s = .after .versionOf

end Scope
end PlatformCatalog.CommandLine
