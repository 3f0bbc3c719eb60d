import PlatformCatalog.Disk.FileView

namespace PlatformCatalog

abbrev Name := Bytes

abbrev Location := List Name

inductive Node where
  | file (contents : Bytes)
  | directory
  deriving DecidableEq, Repr

structure Disk where
  nodes : List (Location × Node)
  deriving DecidableEq, Repr

namespace Disk

def node? (d : Disk) (l : Location) : Option Node :=
  if l = [] then some .directory else d.nodes.lookup l

def isDirectory (d : Disk) (l : Location) : Bool :=
  d.node? l == some .directory

def erase (d : Disk) (l : Location) : Disk :=
  ⟨d.nodes.filter (·.1 ≠ l)⟩

def put (d : Disk) (l : Location) (n : Node) : Disk :=
  ⟨(l, n) :: (d.erase l).nodes⟩

@[simp] theorem node?_nil (d : Disk) : d.node? [] = some .directory := rfl

theorem node?_of_ne_nil (d : Disk) {l : Location} (h : l ≠ []) : d.node? l = d.nodes.lookup l := by
  simp [node?, h]

theorem lookup_filter_ne (l m : Location) (nodes : List (Location × Node)) :
    (nodes.filter (·.1 ≠ l)).lookup m = if m = l then none else nodes.lookup m := by
  induction nodes
  case nil => simp
  case cons e es hi =>
    by_cases hk : e.1 = l
    case pos =>
      rw [List.filter_cons_of_neg (by simp [hk]), hi, List.lookup_cons]
      by_cases hm : m = l
      case pos => rw [if_pos hm, if_pos hm]
      case neg => rw [beq_false_of_ne (hk ▸ hm)]
    case neg =>
      rw [List.filter_cons_of_pos (by simp [hk]), List.lookup_cons, List.lookup_cons, hi]
      by_cases hm : m = e.1
      case pos => simp [hm, hk]
      case neg => rw [beq_false_of_ne hm]

theorem node?_erase (d : Disk) (l : Location) {m : Location} (h : m ≠ []) :
    (d.erase l).node? m = if m = l then none else d.node? m := by
  rw [node?_of_ne_nil _ h, node?_of_ne_nil _ h]
  exact lookup_filter_ne l m d.nodes

theorem node?_put (d : Disk) (l : Location) (n : Node) {m : Location} (h : m ≠ []) :
    (d.put l n).node? m = if m = l then some n else d.node? m := by
  have he := node?_erase d l h
  rw [node?_of_ne_nil _ h] at he ⊢
  by_cases hm : m = l
  case pos => simp [put, hm]
  case neg => simp [put, List.lookup_cons, hm, beq_false_of_ne hm, he]

def eraseTree (d : Disk) (l : Location) : Disk :=
  ⟨d.nodes.filter fun e => !l.isPrefixOf e.1⟩

def eraseBelow (d : Disk) (l : Location) : Disk :=
  ⟨d.nodes.filter fun e => !l.isPrefixOf e.1 || e.1 == l⟩

def freshName (d : Disk) (taken : List Name) : Name :=
  let longest := ((d.nodes.flatMap (·.1) ++ taken).map List.length).foldl max 0
  Text.bytes ".tmp" ++ List.replicate (longest + 1) 0x78

def maxNameLength : Nat := 255

def maxPathLength : Nat := 4095

-- What a directory holds under a name. A name that is too long is refused, whatever is there.
def entry? (d : Disk) (parent : Location) (name : Name) : Except IoFault (Option Node) :=
  if maxNameLength < name.length then .error (.os .nameTooLong)
  else .ok (d.node? (parent ++ [name]))

-- The directory that names lead to from `l`, one after the other.
def walk (d : Disk) : Location → List Name → Except IoFault Location
  | l, [] => .ok l
  | l, n :: rest =>
    if n = [Path.dot] then d.walk l rest
    else if n = [Path.dot, Path.dot] then d.walk l.dropLast rest
    else
      match d.entry? l n with
      | .error e => .error e
      | .ok none => .error (.os .noEntry)
      | .ok (some (.file _)) => .error (.os .notDirectory)
      | .ok (some .directory) => d.walk (l ++ [n]) rest

end Disk

end PlatformCatalog
