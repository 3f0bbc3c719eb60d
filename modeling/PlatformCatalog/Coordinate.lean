import PlatformCatalog.Text.Utf8

namespace PlatformCatalog

structure Coordinate where
  group : String
  artifact : String
  version : String
  deriving DecidableEq, Repr

namespace Coordinate

inductive Field where
  | group
  | artifact
  | version
  deriving DecidableEq, Repr

def Field.name : Field → String
  | .group => "group"
  | .artifact => "artifact"
  | .version => "version"

inductive ParseError where
  | fieldCount (found : Nat)
  | emptyField (field : Field)
  deriving DecidableEq, Repr

def ParseError.message : ParseError → String
  | .fieldCount found => s!"expected 3 colon-delimited fields, found {found}"
  | .emptyField field => s!"the {field.name} field is empty"

def fields (s : String) : List String :=
  (s.toList.splitOn ':').map String.ofList

-- The first empty field is reported; the number of fields is checked before.
def parse (s : String) : Except ParseError Coordinate :=
  match fields s with
  | [group, artifact, version] =>
    if group = "" then .error (.emptyField .group)
    else if artifact = "" then .error (.emptyField .artifact)
    else if version = "" then .error (.emptyField .version)
    else .ok { group, artifact, version }
  | pieces => .error (.fieldCount pieces.length)

def text (c : Coordinate) : String :=
  c.group ++ ":" ++ c.artifact ++ ":" ++ c.version

end Coordinate

-- Selects a version rather than naming one: all versions with a common start (`1.+`), the latest of
-- some status (`latest.release`), or a range (`[1.0,)`).
def isDynamicVersion (version : String) : Bool :=
  match version.toList with
  | [] => false
  | c :: rest =>
    (c :: rest).getLast? == some '+'
      || "latest.".toList.isPrefixOf (c :: rest)
      || c == '[' || c == ']' || c == '('

namespace Coordinate

def hasDynamicVersion (c : Coordinate) : Bool :=
  isDynamicVersion c.version

def compare (a b : Coordinate) : Ordering :=
  (compareOfLessAndEq (Text.bytes a.group) (Text.bytes b.group)).then <|
    (compareOfLessAndEq (Text.bytes a.artifact) (Text.bytes b.artifact)).then <|
      compareOfLessAndEq (Text.bytes a.version) (Text.bytes b.version)

def sort (cs : List Coordinate) : List Coordinate :=
  cs.mergeSort fun a b => (compare a b).isLE

end Coordinate
end PlatformCatalog
