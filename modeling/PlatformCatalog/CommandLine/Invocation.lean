import PlatformCatalog.Path

namespace PlatformCatalog

inductive Command where
  | report (json : Bool)
  | check (denyDynamic : Bool)
  | versionOf (group : String)
  | exportCatalog (output : Option Path)
  deriving DecidableEq, Repr

structure Invocation where
  verbose : Bool
  manifest : Option Path
  command : Command
  deriving DecidableEq, Repr

inductive UsageProblem where
  | nothingAsked
  | missingSubcommand
  | invalidSubcommand
  | unknownArgument
  | missingArgument
  | repeatedOption
  | unneededValue
  | invalidValue
  deriving DecidableEq, Repr

def UsageProblem.message : UsageProblem → String
  | .nothingAsked | .missingSubcommand => "a subcommand is required"
  | .invalidSubcommand => "there is no such subcommand"
  | .unknownArgument => "an argument is not expected"
  | .missingArgument => "a required argument is missing"
  | .repeatedOption => "an option is given more than once"
  | .unneededValue => "an option that takes no value is given one"
  | .invalidValue => "a value is missing, empty, or no text"

inductive Usage where
  | help (text : String)
  | programVersion (text : String)
  | problem (p : UsageProblem)
  deriving DecidableEq, Repr

namespace Usage

def exitCode : Usage → Nat
  | .help _ | .programVersion _ => 0
  | .problem _ => 2

def stdout : Usage → String
  | .help text | .programVersion text => text
  | .problem _ => ""

def stderr : Usage → String
  | .help _ | .programVersion _ => ""
  | .problem p => s!"error: {p.message}\n"

end Usage
end PlatformCatalog
