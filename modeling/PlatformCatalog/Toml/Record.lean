import PlatformCatalog.Schema
import PlatformCatalog.Toml.Document

namespace PlatformCatalog

def Toml.floats : Binary64.Style := ⟨.upper, none⟩

inductive DocumentFault where
  | malformed
  | misfit (m : Misfit)
  deriving DecidableEq, Repr

namespace DocumentFault

def headline : String := "TOML parse error"

def openings : List String :=
  ["missing field", "invalid type", "invalid length", "unknown variant"]

def lastLine (s : String) : List Char :=
  (s.toList.splitOn '\n').getLastD []

-- A report gives only the last line of a reason, and only if that line begins like a reason.
def reason? : DocumentFault → Option String
  | .malformed => none
  | .misfit m => do
    let line := lastLine (← m.reason? Toml.floats)
    if openings.any (·.toList.isPrefixOf line) then some (String.ofList line) else none

def message (f : DocumentFault) : String :=
  match f.reason? with
  | some reason => s!"{headline}: {reason}"
  | none => headline

end DocumentFault

def Toml.readRecord {ρ : Type} (schema : Schema ρ) (text : String) : Except DocumentFault ρ :=
  match Toml.parse? text with
  | none => .error .malformed
  | some entries => (schema.ofEntries entries).mapError .misfit

end PlatformCatalog
