import PlatformCatalog.Proofs.Build.Contents

namespace PlatformCatalog

def Place.later (n : Nat) (place : Place) : Place :=
  { place with index := place.index + n }

def BuildError.later (n : Nat) : BuildError → BuildError
  | .malformedCoordinate literal place reason => .malformedCoordinate literal (place.later n) reason
  | .defectiveSet index defect => .defectiveSet (index + n) defect
  | .dynamicVersion literal place => .dynamicVersion literal (place.later n)

theorem Entry.fault?_later (policy : Policy) (n : Nat) (place : Place) (entry : Entry) :
    entry.fault? policy (place.later n) = (entry.fault? policy place).map (.later n) := by
  cases entry
  case literal text =>
    simp only [fault?, Policy.literalFault?]
    cases Coordinate.parse text
    case error => rfl
    case ok c => by_cases h : policy.refuses c.version <;> simp [h, BuildError.later]
  case set s =>
    simp only [fault?, Policy.setFault?]
    cases s.defect?
    case some => rfl
    case none =>
      cases s.modules
      case nil => rfl
      case cons => by_cases h : policy.refuses s.version <;> simp [h, BuildError.later]

theorem placed_append {α : Type} (list : ListName) (entry : α → Entry) (l l' : List α) :
    placed list entry (l ++ l') =
      placed list entry l ++ (placed list entry l').map fun e => (e.1.later l.length, e.2) := by
  have hl : l'.zipIdx (0 + l.length) = l'.zipIdx.map (Prod.map id (· + l.length)) := by
    rw [List.map_snd_add_zipIdx_eq_zipIdx, Nat.add_comm]
  rw [placed, List.zipIdx_append, List.map_append, hl]
  simp [placed, Place.later, Function.comp_def]

namespace Inputs

def append (inputs : Inputs) (more : List String) : Inputs :=
  { inputs with dependencies := inputs.dependencies ++ more }

theorem entries_append (inputs : Inputs) (more : List String) :
    (inputs.append more).entries =
      inputs.entries ++ (Inputs.mk [] [] more).entries.map fun e =>
        (e.1.later inputs.dependencies.length, e.2) := by
  simp only [entries_eq, append, placed_append, List.append_assoc]
  rfl

theorem fault?_append (policy : Policy) (inputs : Inputs) (more : List String) :
    (inputs.append more).fault? policy =
      (inputs.fault? policy).or
        (((Inputs.mk [] [] more).fault? policy).map (.later inputs.dependencies.length)) := by
  simp only [fault?, entries_append, List.findSome?_append, List.findSome?_map, List.map_findSome?,
    Function.comp_def, Entry.fault?_later]

end Inputs

namespace Publication

-- The publication `q` is `p` with the constraints of `p'` behind its own. Where both know a group,
-- the version of `p'` counts.
structure Joins (q p p' : Publication) : Prop where
  imports     : q.imports = p.imports
  constraints : q.constraints = p.constraints ++ p'.constraints
  catalog     : ∀ group, q.catalog.get? group =
    (p'.catalog.get? group).or (p.catalog.get? group)

theorem joins_published (inputs : Inputs) (more : List String) :
    (inputs.append more).published.Joins inputs.published (Inputs.mk [] [] more).published where
  imports := rfl
  constraints := by simp [Inputs.published, Inputs.append]
  catalog group := by
    simp [Inputs.published, Inputs.append, ←VersionTable.get?_ofCoordinates_append]

theorem build_append (policy : Policy) (inputs : Inputs) (more : List String) :
    (∀ e, (build policy inputs).result = .error e →
      (build policy (inputs.append more)).result = .error e) ∧
    (∀ p e, (build policy inputs).result = .ok p →
      (build policy ⟨[], [], more⟩).result = .error e →
      (build policy (inputs.append more)).result = .error (e.later inputs.dependencies.length)) ∧
    (∀ p p', (build policy inputs).result = .ok p → (build policy ⟨[], [], more⟩).result = .ok p' →
      ∃ q, (build policy (inputs.append more)).result = .ok q ∧ q.Joins p p') := by
  simp only [build_eq_error_iff, build_eq_ok_iff, Inputs.fault?_append]
  refine ⟨?first, ?second, ?both⟩
  case first =>
    intro e h
    rw [h, Option.some_or]
  case second =>
    intro p e ⟨h, _⟩ h'
    rw [h, h', Option.none_or, Option.map_some]
  case both =>
    intro p p' ⟨h, hp⟩ ⟨h', hp'⟩
    subst hp hp'
    rw [h, h']
    exact ⟨_, ⟨rfl, rfl⟩, joins_published inputs more⟩

def newer : List String := ["guava:guava:34", "junit:api:5"]

def broken : List String := ["guava:guava:34", "junit"]

theorem build_append_overriding :
    (∃ q, (build .permissive (overriding.append newer)).result = .ok q ∧
      q.catalog.entries = [("grpc", "1.2"), ("guava", "34"), ("junit", "5")] ∧
      q.Joins overriding.published (Inputs.mk [] [] newer).published) ∧
    (build .permissive (overriding.append broken)).result =
      .error (.malformedCoordinate "junit" ⟨.dependencies, 2⟩ (.fieldCount 1)) ∧
    (build .strict (overriding.append broken)).result =
      .error (.dynamicVersion "junit:bom:5.+" ⟨.enforcedImports, 1⟩) := by
  have h : (build .permissive overriding).result = .ok overriding.published := by decide +kernel
  refine ⟨?both, ?second, ?first⟩
  case both =>
    have h' : (build .permissive ⟨[], [], newer⟩).result = .ok (Inputs.mk [] [] newer).published := by
      decide +kernel
    have ⟨q, hq, hj⟩ := (build_append .permissive overriding newer).right.right _ _ h h'
    refine ⟨q, hq, ?_, hj⟩
    rw [(build_eq_ok_iff.mp hq).right]
    decide +kernel
  case second =>
    have h' : (build .permissive ⟨[], [], broken⟩).result =
        .error (.malformedCoordinate "junit" ⟨.dependencies, 1⟩ (.fieldCount 1)) := by
      decide +kernel
    exact (build_append .permissive overriding broken).right.left _ _ h h'
  case first => exact (build_append .strict overriding broken).left _ (by decide +kernel)

end Publication
end PlatformCatalog
