import PlatformCatalog.Value

namespace PlatformCatalog.Toml

-- How a table came about decides who may add to it later.
inductive Origin where
  | header
  | longerHeader
  | dottedKey
  deriving DecidableEq, Repr

inductive Item where
  | value (v : Value)
  | table (origin : Origin) (entries : List (String × Item))
  | tables (elements : List (List (String × Item)))

abbrev Entries := List (String × Item)

namespace Item

mutual

def toValue : Item → Value
  | .value v => v
  | .table _ entries => .table (toValues entries)
  | .tables elements => .array (toTables elements)

def toValues : List (String × Item) → List (String × Value)
  | [] => []
  | (k, item) :: rest => (k, item.toValue) :: toValues rest

def toTables : List (List (String × Item)) → List Value
  | [] => []
  | entries :: rest => .table (toValues entries) :: toTables rest

end

end Item

namespace Entries

def has (entries : Entries) (key : String) : Bool :=
  entries.any (·.1 == key)

def set (key : String) (item : Item) : Entries → Entries
  | [] => []
  | (k, i) :: rest => if k == key then (k, item) :: rest else (k, i) :: set key item rest

def erase (key : String) (entries : Entries) : Entries :=
  entries.filter (·.1 != key)

-- Follows a path of keys from a table of origin `here` and changes the table that it leads to.
-- Tables that are missing on the way are added with origin `implied`; of an array of tables the
-- last one is meant. Dotted keys do not lead into a table that a header opened.
def descend {α : Type} (implied : Origin) (change : Origin → Entries → Option (α × Entries)) :
    List String → Origin → Entries → Option (α × Entries)
  | [], here, entries => change here entries
  | k :: path, _, entries =>
    match entries.lookup k with
    | none => do
      let (a, child) ← descend implied change path implied []
      return (a, entries ++ [(k, .table implied child)])
    | some (.value _) => none
    | some (.tables elements) => do
      let last ← elements.getLast?
      let (a, child) ← descend implied change path .header last
      return (a, set k (.tables (elements.dropLast ++ [child])) entries)
    | some (.table origin child) =>
      if implied = .dottedKey ∧ origin = .header then none
      else do
        let (a, child) ← descend implied change path origin child
        return (a, set k (.table origin child) entries)

def assign (path : List String) (key : String) (v : Value) (entries : Entries) : Option Entries :=
  let add : Origin → Entries → Option (Unit × Entries) := fun origin entries =>
    if (origin == .dottedKey) == path.isEmpty || entries.has key then none
    else some ((), entries ++ [(key, .value v)])
  (descend .dottedKey add path .header entries).map (·.2)

end Entries

structure Outline where
  closed : Entries
  header : List String
  isElement : Bool
  current : Entries

namespace Outline

def start : Outline := ⟨[], [], false, []⟩

-- Puts the open table into its place. A table that a longer header had implied moves to the end of
-- its parent.
def close (o : Outline) : Option Entries :=
  match o.header.getLast? with
  | none => some o.current
  | some key =>
    let place : Origin → Entries → Option (Unit × Entries) := fun _ entries =>
      if o.isElement then
        match entries.lookup key with
        | some (.tables elements) =>
          some ((), entries.set key (.tables (elements ++ [o.current])))
        | _ => none
      else if entries.has key then none
      else some ((), entries ++ [(key, .table .header o.current)])
    (Entries.descend .longerHeader place o.header.dropLast .header o.closed).map (·.2)

def openTable (path : List String) (o : Outline) : Option Outline := do
  let closed ← o.close
  let key ← path.getLast?
  let take : Origin → Entries → Option (Entries × Entries) := fun _ entries =>
    match entries.lookup key with
    | none => some ([], entries)
    | some (.table .longerHeader child) => some (child, entries.erase key)
    | some _ => none
  let (current, closed) ← Entries.descend .longerHeader take path.dropLast .header closed
  return { closed, header := path, isElement := false, current }

def openElement (path : List String) (o : Outline) : Option Outline := do
  let closed ← o.close
  let key ← path.getLast?
  let prepare : Origin → Entries → Option (Unit × Entries) := fun _ entries =>
    match entries.lookup key with
    | none => some ((), entries ++ [(key, .tables [])])
    | some (.tables _) => some ((), entries)
    | some _ => none
  let (_, closed) ← Entries.descend .longerHeader prepare path.dropLast .header closed
  return { closed, header := path, isElement := true, current := [] }

def assign (path : List String) (key : String) (v : Value) (o : Outline) : Option Outline := do
  let current ← o.current.assign path key v
  return { o with current }

end Outline
end PlatformCatalog.Toml
