import PlatformCatalog.CommandLine.Help
import PlatformCatalog.CommandLine.Invocation

namespace PlatformCatalog.CommandLine

-- What still has to be settled: an option, perhaps without its value yet, or an argument.
inductive Pending where
  | option (flag : Flag) (value : Option Bytes)
  | group (name : Word)
  deriving DecidableEq, Repr

structure Part where
  given : List (Flag × Option Bytes) := []
  group : Option String := none
  pending : Option Pending := none
  deriving DecidableEq, Repr

namespace Part

def has (p : Part) (f : Flag) : Bool :=
  p.given.any (·.1 = f)

def value? (p : Part) (f : Flag) : Option Bytes :=
  (p.given.lookup f).bind id

def awaitsValue (p : Part) : Bool :=
  match p.pending with
  | some (.option _ none) => true
  | _ => false

def hasGroup (p : Part) : Bool :=
  p.group.isSome || match p.pending with
    | some (.group _) => true
    | _ => false

-- Takes an option with its value. Values are paths, and no path is empty.
def give (p : Part) (f : Flag) (value : Bytes) : Except UsageProblem Part :=
  if p.has f then .error .repeatedOption
  else if value = [] then .error .invalidValue
  else .ok { p with given := p.given ++ [(f, some value)] }

def settle (p : Part) : Except UsageProblem Part :=
  match p.pending with
  | none => .ok p
  | some (.option _ none) => .error .invalidValue
  | some (.option f (some v)) => { p with pending := none }.give f v
  | some (.group g) =>
    match Text.decode? g with
    | some g => .ok { p with pending := none, group := some g }
    | none => .error .invalidValue

end Part

-- The help that an option asks for; only the whole program has a short and a long one.
def helpPage (scope : Scope) (long : Bool) : Help.Page :=
  match scope with
  | .root => if long then .rootLong else .rootShort
  | .after s => .subcommand s

structure Reading where
  scope : Scope
  manifest : String

namespace Reading

def refuse {α : Type} (p : UsageProblem) : Except Usage α :=
  .error (.problem p)

def settle (part : Part) : Except Usage Part :=
  part.settle.mapError .problem

def switch (r : Reading) (f : Flag) (long : Bool) (part : Part) : Except Usage Part := do
  let part ← settle part
  match f with
  | .help => throw (.help ((helpPage r.scope long).text r.manifest))
  | .programVersion => throw (.programVersion Help.versionText)
  | f =>
    if part.has f then refuse .repeatedOption
    else return { part with given := part.given ++ [(f, none)] }

def attached (f : Flag) (value : Bytes) (part : Part) : Except Usage Part := do
  let part ← settle part
  (part.give f value).mapError .problem

def await (f : Flag) (part : Part) : Except Usage Part := do
  let part ← settle part
  return { part with pending := some (.option f none) }

def longOption (r : Reading) (name : Bytes) (value : Option Bytes) (part : Part) :
    Except Usage Part :=
  match r.scope.long? name, value with
  | none, _ => refuse .unknownArgument
  | some f, some v => if f.takesValue then attached f v part else refuse .unneededValue
  | some f, none => if f.takesValue then await f part else r.switch f true part

def shortOptions (r : Reading) : Bytes → Part → Except Usage Part
  | [], part => .ok part
  | letter :: rest, part =>
    match r.scope.short? letter with
    | none => refuse .unknownArgument
    | some f =>
      if f.takesValue then
        match rest with
        | [] => await f part
        | first :: v => attached f (if first = Word.equals then v else first :: v) part
      else do r.shortOptions rest (← r.switch f false part)

-- Reads a word that is no option. After two dashes, the name of a subcommand is refused like any
-- other argument that nobody takes.
def argument (r : Reading) (word : Word) (afterDashes : Bool) (part : Part) :
    Except Usage Part := do
  if r.scope.takesGroup && !part.hasGroup then
    let part ← settle part
    return { part with pending := some (.group word) }
  else
    match r.scope with
    | .after _ => refuse .unknownArgument
    | .root =>
      if afterDashes && ((Subcommand.ofWord? word).isSome || word == Text.bytes helpWord) then
        refuse .unknownArgument
      else refuse .invalidSubcommand

def arguments (r : Reading) (words : List Word) (part : Part) : Except Usage Part :=
  words.foldlM (fun part word => r.argument word true part) part

-- What the help command prints: the help of the subcommands that follow it, one inside the other.
-- No subcommand has subcommands of its own.
def helpCommand (manifest : String) : List Word → Usage
  | [] => .help (Help.Page.rootLong.text manifest)
  | [word] =>
    match Subcommand.ofWord? word with
    | some s => .help (Help.Page.text (.subcommand s) manifest)
    | none =>
      if word = Text.bytes helpWord then .help (Help.Page.helpCommand.text manifest)
      else .problem .invalidSubcommand
  | _ => .problem .invalidSubcommand

def words (r : Reading) :
    List Word → Part → Except Usage (Part × Option (Subcommand × List Word))
  | [], part => .ok (part, none)
  | word :: rest, part =>
    if r.scope = .root ∧ !part.awaitsValue ∧ word = Text.bytes helpWord then
      .error (helpCommand r.manifest rest)
    else
      match if r.scope = .root ∧ !part.awaitsValue then Subcommand.ofWord? word else none with
      | some s => .ok (part, some (s, rest))
      | none =>
        match word.shape with
        | .dashes => (r.arguments rest part).map (·, none)
        | .long name value => do r.words rest (← r.longOption name value part)
        | .short letters => do r.words rest (← r.shortOptions letters part)
        | .plain =>
          match part.pending with
          | some (.option f none) =>
            r.words rest { part with pending := some (.option f (some word)) }
          | _ => do r.words rest (← r.argument word false part)

-- Settles a part at its end. The manifest that the environment names may not be empty, unless the
-- part names one itself.
def finish (named : Option Bytes) (part : Part) : Except Usage Part := do
  let part ← settle part
  if named = some [] ∧ !part.has .manifest then refuse .invalidValue
  else return part

end Reading

def command (s : Subcommand) (part : Part) : Except Usage Command :=
  match s with
  | .report => .ok (.report (part.has .json))
  | .check => .ok (.check (part.has .denyDynamic))
  | .versionOf =>
    match part.group with
    | some g => .ok (.versionOf g)
    | none => .error (.problem .missingArgument)
  | .exportCatalog => .ok (.exportCatalog ((part.value? .output).map .mk))

-- Reads a command line. `manifest` is the manifest that the environment names; an option wins over
-- it, and an option after the subcommand over one before it.
def parseWords (manifest : Option Bytes) (args : List Word) : Except Usage Invocation := do
  let shown := Text.decodeLossy (manifest.getD [])
  let (root, rest) ← Reading.words ⟨.root, shown⟩ args {}
  match rest with
  | some (s, args) =>
    let (sub, _) ← Reading.words ⟨.after s, shown⟩ args {}
    let sub ← Reading.finish manifest sub
    let command ← command s sub
    let root ← Reading.finish manifest root
    let named := ((sub.value? .manifest).or (root.value? .manifest)).map Path.mk
    return {
      verbose := root.has .verbose || sub.has .verbose
      manifest := named.or (manifest.map Path.mk)
      command }
  | none =>
    let root ← Reading.finish manifest root
    if root.given.isEmpty && manifest.isNone then throw (.problem .nothingAsked)
    else throw (.problem .missingSubcommand)

def parse (manifest : Option Bytes) (args : List String) : Except Usage Invocation :=
  parseWords manifest (args.map Text.bytes)

end PlatformCatalog.CommandLine
