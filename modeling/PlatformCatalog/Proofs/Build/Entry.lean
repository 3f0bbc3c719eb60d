import PlatformCatalog.Build.Publication
import PlatformCatalog.Proofs.Coordinate

namespace PlatformCatalog

namespace DependencySet

variable {s : DependencySet}

theorem modules_ne_nil (h : s.defect? = none) : s.modules ≠ [] := by
  intro hm
  simp only [defect?, hm] at h
  split_ifs at h

end DependencySet

namespace Policy

def refuses (policy : Policy) (version : String) : Bool :=
  policy = .strict && isDynamicVersion version

@[simp]
theorem permissive_refuses (version : String) : permissive.refuses version = false := rfl

@[simp]
theorem strict_refuses (version : String) : strict.refuses version = isDynamicVersion version := rfl

-- The verdict on a literal: it is no coordinate, or it has a version that is refused. Both name the
-- literal as it was given.
def literalFault? (policy : Policy) (place : Place) (text : String) : Option BuildError :=
  match Coordinate.parse text with
  | .error reason => some (.malformedCoordinate text place reason)
  | .ok c => if policy.refuses c.version then some (.dynamicVersion text place) else none

def setFault? (policy : Policy) (place : Place) (s : DependencySet) : Option BuildError :=
  match s.defect?, s.modules with
  | some defect, _ => some (.defectiveSet place.index defect)
  -- Not reached, since a set without modules has a defect.
  | none, [] => none
  | none, m :: _ =>
    if policy.refuses s.version then
      some (.dynamicVersion (s.group ++ ":" ++ m ++ ":" ++ s.version) place)
    else none

end Policy

namespace Entry

variable {policy : Policy} {place : Place} {entry : Entry} {c : Coordinate} {cs : List Coordinate}

def fault? (policy : Policy) (place : Place) : Entry → Option BuildError
  | .literal text => policy.literalFault? place text
  | .set s => policy.setFault? place s

def parts : Entry → List Coordinate
  | .literal text => (Coordinate.parse text).toOption.toList
  | .set s => s.coordinates

structure Broken (entry : Entry) (place : Place) (e : BuildError) : Prop where
  coordinates : entry.coordinates place = .error e
  fault       : ∀ policy, entry.fault? policy place = some e

-- An entry that a policy can refuse only for the version that its coordinates share.
structure Sound (entry : Entry) (place : Place) (c : Coordinate) (cs : List Coordinate) : Prop where
  coordinates : entry.coordinates place = .ok (c :: cs)
  parts       : entry.parts = c :: cs
  version     : ∀ d ∈ c :: cs, d.version = c.version
  fault       : ∀ policy, entry.fault? policy place =
    if policy.refuses c.version then some (.dynamicVersion c.text place) else none

theorem broken_or_sound (entry : Entry) (place : Place) :
    (∃ e, entry.Broken place e) ∨ (∃ c cs, entry.Sound place c cs) := by
  cases entry
  case literal text =>
    cases hp : Coordinate.parse text
    case error reason =>
      left
      exists .malformedCoordinate text place reason
      constructor
      case coordinates => simp [Entry.coordinates, hp]
      case fault => simp [fault?, Policy.literalFault?, hp]
    case ok c =>
      right
      exists c, []
      constructor
      case coordinates => simp [Entry.coordinates, hp]
      case parts => simp [Entry.parts, hp, Except.toOption]
      case version => simp
      case fault => simp [fault?, Policy.literalFault?, hp, Coordinate.text_of_parse hp]
  case set s =>
    cases hd : s.defect?
    case some defect =>
      left
      exists .defectiveSet place.index defect
      constructor
      case coordinates => simp [Entry.coordinates, hd]
      case fault => simp [fault?, Policy.setFault?, hd]
    case none =>
      right
      obtain ⟨m, ms, hm⟩ := List.exists_cons_of_ne_nil (DependencySet.modules_ne_nil hd)
      exists ⟨s.group, m, s.version⟩, ms.map fun m => ⟨s.group, m, s.version⟩
      constructor
      case coordinates => simp [Entry.coordinates, DependencySet.coordinates, hd, hm]
      case parts => simp [Entry.parts, DependencySet.coordinates, hm]
      case version => simp
      case fault => simp [fault?, Policy.setFault?, hd, hm, Coordinate.text]

end Entry
end PlatformCatalog
