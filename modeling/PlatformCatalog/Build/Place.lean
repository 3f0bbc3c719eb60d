namespace PlatformCatalog

inductive ListName where
  | enforcedImports
  | dependencySets
  | dependencies
  deriving DecidableEq, Repr

def ListName.text : ListName → String
  | .enforcedImports => "enforced-imports"
  | .dependencySets => "dependency-sets"
  | .dependencies => "dependencies"

structure Place where
  list : ListName
  index : Nat
  deriving DecidableEq, Repr

def Place.text (p : Place) : String :=
  s!"{p.list.text}[{p.index}]"

end PlatformCatalog
