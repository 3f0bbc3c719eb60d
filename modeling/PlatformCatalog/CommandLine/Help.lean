import PlatformCatalog.CommandLine.Scope
import PlatformCatalog.Text.Terminal

namespace PlatformCatalog.CommandLine.Help

open Terminal

def programName : String := "gavel"

def versionText : String := s!"{programName} 0.2.0\n"

def width (s : String) : Nat :=
  (plain s).length

def blanks (n : Nat) : List Char :=
  List.replicate n ' '

def indent (n : Nat) (s : String) : String :=
  String.ofList (s.toList.flatMap fun c => if c = '\n' then '\n' :: blanks n else [c])

def padRight (n : Nat) (s : String) : String :=
  s ++ String.ofList (blanks (n - width s))

def widest (columns : List String) : Nat :=
  (columns.map width).foldl max 0

def table (rows : List (String × String)) : String :=
  let start := widest (rows.map (·.1)) + 2
  String.join (rows.map fun (left, right) => s!"{padRight start left}{indent start right}\n")

def spelling (f : Flag) : String :=
  let short := match f.short? with
    | some c => "  " ++ bold s!"-{c}" ++ ", "
    | none => "      "
  let value := match f.valueName? with
    | some name => s!" <{name}>"
    | none => ""
  short ++ bold s!"--{f.long}" ++ value

def manifestAbout : String :=
  "Path to the platform manifest (defaults to the nearest Platform.toml)"

def manifestVariable (manifest : String) : String :=
  s!"[env: GAVEL_MANIFEST={manifest}]"

def flagAbout (helpAbout manifest : String) : Flag → String
  | .json => "Print as JSON"
  | .denyDynamic => "Reject dynamic versions such as 1.+ or latest.release"
  | .output => "Output file (defaults to versions.json next to the manifest)"
  | .verbose => "Enable verbose output"
  | .manifest => s!"{manifestAbout} {manifestVariable manifest}"
  | .help => helpAbout
  | .programVersion => "Print version"

def heading (s : String) : String :=
  bold s ++ "\n"

def options (scope : Scope) (helpAbout manifest : String) : String :=
  heading "Options:"
    ++ table (scope.flags.map fun f => (spelling f, flagAbout helpAbout manifest f))

def helpCommandAbout : String :=
  "Print this message or the help of the given subcommand(s)"

def commands : String :=
  heading "Commands:" ++ table ((Subcommand.all.map fun s => ("  " ++ bold s.word, s.about))
    ++ [("  " ++ bold helpWord, helpCommandAbout)])

def usage (words : String) : String :=
  bold "Usage:" ++ " " ++ bold programName ++ words ++ "\n"

def rootUsage : String :=
  usage " [OPTIONS] <COMMAND>"

def rootShort (manifest : String) : String :=
  "Build and inspect dependency platform catalogs\n\n" ++ rootUsage ++ "\n" ++ commands ++ "\n"
    ++ options .root "Print help (see more with '--help')" manifest

def paragraph (f : Flag) (description : String) : String :=
  spelling f ++ indent 10 ("\n" ++ description) ++ "\n"

def rootLong (manifest : String) : String :=
  "gavel reads a Platform.toml declaring enforced platform imports, dependency sets and single "
    ++ "dependencies, and publishes the ordered imports, the version constraints and the "
    ++ "group-to-version catalog derived from them.\n\n"
    ++ rootUsage ++ "\n" ++ commands ++ "\n" ++ heading "Options:"
    ++ paragraph .verbose "Enable verbose output" ++ "\n"
    ++ paragraph .manifest (manifestAbout ++ "\n\n" ++ manifestVariable manifest) ++ "\n"
    ++ paragraph .help "Print help (see a summary with '-h')" ++ "\n"
    ++ paragraph .programVersion "Print version"

def subcommand (s : Subcommand) (manifest : String) : String :=
  let argument := if Scope.takesGroup (.after s) then " <GROUP>" else ""
  let arguments :=
    if Scope.takesGroup (.after s) then
      heading "Arguments:" ++ table [("  <GROUP>", "Group name (e.g. io.grpc)")] ++ "\n"
    else ""
  s.about ++ "\n\n" ++ usage s!" {bold s.word} [OPTIONS]{argument}" ++ "\n" ++ arguments
    ++ options (.after s) "Print help" manifest

def helpCommand : String :=
  helpCommandAbout ++ "\n\n" ++ usage s!" {bold helpWord} [COMMAND]..." ++ "\n"
    ++ heading "Arguments:" ++ table [("  [COMMAND]...", "Print help for the subcommand(s)")]

inductive Page where
  | rootShort
  | rootLong
  | subcommand (s : Subcommand)
  | helpCommand
  deriving DecidableEq, Repr

def Page.styled (manifest : String) : Page → String
  | .rootShort => Help.rootShort manifest
  | .rootLong => Help.rootLong manifest
  | .subcommand s => Help.subcommand s manifest
  | .helpCommand => Help.helpCommand

def Page.text (p : Page) (manifest : String) : String :=
  plain (p.styled manifest)

end PlatformCatalog.CommandLine.Help
