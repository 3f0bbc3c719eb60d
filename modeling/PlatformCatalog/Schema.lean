import PlatformCatalog.Value
import PlatformCatalog.VersionTable

namespace PlatformCatalog

inductive Expected where
  | string
  | boolean
  | sequence
  | map
  | record (name : String)
  deriving DecidableEq, Repr

def Expected.text : Expected → String
  | .string => "a string"
  | .boolean => "a boolean"
  | .sequence => "a sequence"
  | .map => "a map"
  | .record name => s!"struct {name}"

inductive Misfit where
  | missingField (key : String)
  | wrongType (actual : Glimpse) (expected : Expected)
  | tooShort (found : Nat) (record : String) (fields : Nat)
  | tooLong (found : Nat)
  | unknownVariant (name : String) (known : List String)
  | refused (reason : String)
  | unexplained
  deriving DecidableEq, Repr

namespace Misfit

def reason? (floats : Binary64.Style) : Misfit → Option String
  | .missingField key => some s!"missing field `{key}`"
  | .wrongType actual expected =>
    some s!"invalid type: {actual.text floats}, expected {expected.text}"
  | .tooShort found record fields =>
    let plural := if fields = 1 then "element" else "elements"
    some s!"invalid length {found}, expected struct {record} with {fields} {plural}"
  | .tooLong found => some s!"invalid length {found}, expected fewer elements in array"
  | .unknownVariant name known =>
    let names := " or ".intercalate (known.map fun k => s!"`{k}`")
    some s!"unknown variant `{name}`, expected {names}"
  | .refused reason => some reason
  | .unexplained => none

end Misfit

namespace Value

def wrongType {α : Type} (v : Value) (expected : Expected) : Except Misfit α :=
  .error (.wrongType v.glimpse expected)

def toString? : Value → Except Misfit String
  | .string s => .ok s
  | v => v.wrongType .string

def toBool? : Value → Except Misfit Bool
  | .boolean b => .ok b
  | v => v.wrongType .boolean

-- Reads the items in order, up to the first one that does not fit.
def toList? {α : Type} (read : Value → Except Misfit α) : Value → Except Misfit (List α)
  | .array items => items.mapM read
  | v => v.wrongType .sequence

def toVersionTable? (v : Value) : Except Misfit VersionTable :=
  match v.entries? with
  | some entries => do
    let pairs ← entries.mapM fun e => do return (e.1, ← e.2.toString?)
    return .ofList pairs
  | none => v.wrongType .map

end Value

structure Field (ρ : Type) where
  key : String
  required : Bool
  read : Value → Except Misfit (ρ → ρ)

namespace Field

variable {ρ α : Type}

def mandatory (key : String) (read : Value → Except Misfit α) (set : α → ρ → ρ) : Field ρ :=
  ⟨key, true, fun v => set <$> read v⟩

def optional (key : String) (read : Value → Except Misfit α) (set : α → ρ → ρ) : Field ρ :=
  ⟨key, false, fun v => set <$> read v⟩

end Field

-- What to do with items beyond the last field when a record is given as an array.
inductive Surplus where
  | ignored
  | refused
  deriving DecidableEq, Repr

structure Schema (ρ : Type) where
  name : String
  blank : ρ
  fields : List (Field ρ)

namespace Schema

variable {ρ : Type}

def readEntry (s : Schema ρ) (r : ρ) (e : String × Value) : Except Misfit ρ :=
  match s.fields.find? (·.key == e.1) with
  | some f => do
    let change ← f.read e.2
    return change r
  | none => .ok r

def missing? (s : Schema ρ) (entries : List (String × Value)) : Option (Field ρ) :=
  s.fields.find? fun f => f.required && !entries.any (·.1 == f.key)

def ofEntries (s : Schema ρ) (entries : List (String × Value)) : Except Misfit ρ := do
  let r ← entries.foldlM s.readEntry s.blank
  match s.missing? entries with
  | some f => throw (.missingField f.key)
  | none => return r

def readItems (s : Schema ρ) (surplus : Surplus) (total : Nat) :
    List (Field ρ) → List Value → ρ → Except Misfit ρ
  | [], [], r => .ok r
  | [], _ :: _, r => if surplus = .refused then .error (.tooLong total) else .ok r
  | f :: fs, [], r =>
    if f.required then .error (.tooShort total s.name s.fields.length)
    else readItems s surplus total fs [] r
  | f :: fs, v :: vs, r => do
    let change ← f.read v
    readItems s surplus total fs vs (change r)

def read (s : Schema ρ) (surplus : Surplus) (v : Value) : Except Misfit ρ :=
  match v with
  | .array items => s.readItems surplus items.length s.fields items s.blank
  | v =>
    match v.entries? with
    | some entries => s.ofEntries entries
    | none => v.wrongType (.record s.name)

end Schema
end PlatformCatalog
