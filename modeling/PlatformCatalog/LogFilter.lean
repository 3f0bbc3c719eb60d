import PlatformCatalog.Log
import PlatformCatalog.LogFilter.Directive

namespace PlatformCatalog

def Level.importance : Level → Verbosity
  | .warn => 2
  | .info => 3
  | .debug => 4

abbrev LogFilter := List Directive

def Subject.rank : Subject → Nat
  | .events => 0
  | .field _ | .spans => 1

namespace Directive

def messageField : String := "message"

-- Does the directive concern events with this target? There are no spans.
def concerns (target : String) (d : Directive) : Bool :=
  d.scope.toList.isPrefixOf target.toList &&
    match d.subject with
    | .events => true
    | .field name => name == messageField
    | .spans => false

-- The more specific of two directives that concern the same target: the one with the longer scope,
-- then the one that names a field, and else the later one.
def moreSpecific (a b : Directive) : Directive :=
  if a.scope.length = b.scope.length then
    if a.subject.rank ≤ b.subject.rank then b else a
  else if a.scope.length < b.scope.length then b else a

end Directive

namespace LogFilter

def upTo (v : Verbosity) : LogFilter := [⟨"", .events, v⟩]

-- Reads a filter; without any directive, only errors are written.
def parse (s : String) : Except Directive.Fault LogFilter := do
  let pieces := (s.toList.splitOn ',').filter (!·.isEmpty)
  let directives ← pieces.mapM Directive.parse
  return if directives.isEmpty then upTo 1 else directives

def deciding? (f : LogFilter) (target : String) : Option Directive :=
  match f.filter (Directive.concerns target) with
  | [] => none
  | d :: ds => some (ds.foldl Directive.moreSpecific d)

def admits (f : LogFilter) (e : Event) : Bool :=
  match f.deciding? e.target with
  | some d => e.level.importance ≤ d.verbosity
  | none => false

def standard (verbose : Bool) : LogFilter :=
  upTo (if verbose then 4 else 2)

-- The filter of a run: the one that the environment gives, if it can be read. A filter that would
-- split a character gives none, and the run ends there.
def ofRun? (setting : Option Bytes) (verbose : Bool) : Option LogFilter :=
  match setting.bind Text.decode? with
  | none => some (standard verbose)
  | some s =>
    match parse s with
    | .ok f => some f
    | .error .malformed => some (standard verbose)
    | .error .splitCharacter => none

end LogFilter

namespace Event

def harmless (c : Char) : List Char :=
  if c = '\x1b' ∨ c = '\x07' ∨ c = '\x08' ∨ c = '\x0c' ∨ c = '\x7f' then
    let hex := Text.hexDigits c.toNat
    ['\\', 'x'] ++ List.replicate (2 - hex.length) '0' ++ hex
  else if 0x80 ≤ c.toNat ∧ c.toNat ≤ 0x9F then
    ['\\', 'u', '\x7b'] ++ Text.hexDigits c.toNat ++ ['\x7d']
  else [c]

def firstLine (s : String) : List Char :=
  let line := s.toList.takeWhile (· ≠ '\n')
  if line.getLast? = some '\r' then line.dropLast else line

def line (e : Event) : String :=
  let headline := (firstLine e.withoutReason.message).flatMap harmless
  s!"{e.level.text} {e.target}: {String.ofList headline}"

end Event
end PlatformCatalog
