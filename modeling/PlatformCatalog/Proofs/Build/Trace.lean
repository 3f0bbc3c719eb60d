import PlatformCatalog.Log
import PlatformCatalog.Proofs.Build.Result

namespace PlatformCatalog

variable {policy : Policy} {p : Publication} {place : Place} {c : Coordinate}
variable {earlier cs : List Coordinate} {es : List (Place × Entry)}

def BuildEvent.shown (e : BuildEvent) : Level × String :=
  ((Event.build e).level, (Event.build e).message)

def placedParts (es : List (Place × Entry)) : List (Place × Coordinate) :=
  es.flatMap fun e => e.2.parts.map fun c => (e.1, c)

theorem placedParts_cons (e : Place × Entry) (es : List (Place × Entry)) :
    placedParts (e :: es) = (e.2.parts.map fun c => (e.1, c)) ++ placedParts es :=
  List.flatMap_cons

namespace Trace

def opening (imports sets dependencies : Nat) : Level × String :=
  (.debug, s!"Building version catalog from {imports} enforced imports, "
    ++ s!"{sets} dependency groups, {dependencies} dependencies")

-- What is told of a coordinate that comes after others, of which the latest is given first.
def ofCoordinate (earlier : List Coordinate) (place : Place) (c : Coordinate) :
    List (Level × String) :=
  (if isDynamicVersion c.version then
    [(.warn, s!"{c.text} ({place.text}) uses a dynamic version")]
  else []) ++
  match earlier.find? (·.group = c.group) with
  | some d =>
    if d.version ≠ c.version then
      [(.debug, s!"Version for group {c.group} overridden: {d.version} -> {c.version}")]
    else []
  | none => []

def ofCoordinates (earlier : List Coordinate) : List (Place × Coordinate) → List (Level × String)
  | [] => []
  | (place, c) :: rest => ofCoordinate earlier place c ++ ofCoordinates (c :: earlier) rest

def closing (imports constraints groups : Nat) : Level × String :=
  (.debug, s!"Version catalog built: {imports} imports, {constraints} constraints, {groups} groups")

theorem ofCoordinates_append (earlier : List Coordinate) (xs ys : List (Place × Coordinate)) :
    ofCoordinates earlier (xs ++ ys) =
      ofCoordinates earlier xs ++ ofCoordinates ((xs.map Prod.snd).reverse ++ earlier) ys := by
  induction xs generalizing earlier
  case nil => simp [ofCoordinates]
  case cons x xs hi => simp [ofCoordinates, hi]

end Trace

namespace Publication

-- The catalog holds for each group the version of its latest coordinate.
def Follows (p : Publication) (earlier : List Coordinate) : Prop :=
  ∀ group, p.catalog.get? group = (earlier.find? (·.group = group)).map Coordinate.version

theorem Follows.empty : empty.Follows [] := fun _ => rfl

theorem Follows.add (h : p.Follows earlier) (list : ListName) (c : Coordinate) :
    (p.add list c).Follows (c :: earlier) := by
  intro group
  rw [Publication.add, VersionTable.get?_insert, List.find?_cons, h group]
  by_cases hg : group = c.group
  case pos => simp [hg]
  case neg => simp [hg, Ne.symm hg]

theorem Follows.addList (h : p.Follows earlier) (list : ListName) (cs : List Coordinate) :
    (p.addList list cs).Follows (cs.reverse ++ earlier) := by
  induction cs generalizing p earlier
  case nil => exact h
  case cons c cs hi =>
    rw [List.reverse_cons, List.append_assoc]
    exact hi (h.add list c)

theorem Follows.shown_events (h : p.Follows earlier) (place : Place) (c : Coordinate) :
    (p.events place c).map BuildEvent.shown = Trace.ofCoordinate earlier place c := by
  rw [events, override, Trace.ofCoordinate, h c.group, List.map_append, apply_ite (List.map _)]
  cases earlier.find? (·.group = c.group)
  case none => rfl
  case some d =>
    simp only [Option.map_some, apply_ite (List.map BuildEvent.shown)]
    rfl

theorem Follows.shown_addAll (h : p.Follows earlier) (place : Place) (cs : List Coordinate) :
    (p.addAll place cs).1.map BuildEvent.shown =
      Trace.ofCoordinates earlier (cs.map fun c => (place, c)) := by
  induction cs generalizing p earlier
  case nil => rfl
  case cons c cs hi =>
    simp only [addAll, List.map_append, List.map_cons, Trace.ofCoordinates]
    rw [h.shown_events, hi (h.add place.list c)]

theorem Follows.shown_extend (h : p.Follows earlier)
    (hc : ∀ e ∈ es, e.2.fault? policy e.1 = none) (rest : List (Place × Entry)) :
    (extend policy p (es ++ rest)).log.map BuildEvent.shown =
      Trace.ofCoordinates earlier (placedParts es) ++
        (extend policy (es.foldl put p) rest).log.map BuildEvent.shown := by
  induction es generalizing p earlier
  case nil => rfl
  case cons e es hi =>
    have ⟨he, hes⟩ := List.forall_mem_cons.mp hc
    have hp : (p.put e).Follows (e.2.parts.reverse ++ earlier) := h.addList e.1.list e.2.parts
    have hm : (e.2.parts.map fun c => (e.1, c)).map Prod.snd = e.2.parts := by
      simp [Function.comp_def]
    rw [List.cons_append, extend_of_clean he, List.map_append, h.shown_addAll, hi hp hes,
      placedParts_cons, Trace.ofCoordinates_append, hm, List.append_assoc]
    rfl

theorem shown_started (inputs : Inputs) :
    (started inputs).shown = Trace.opening inputs.enforcedImports.length
      inputs.dependencySets.length inputs.dependencies.length := rfl

def groupCount (cs : List Coordinate) : Nat :=
  (cs.map Coordinate.group).toFinset.card

theorem shown_finish (inputs : Inputs) :
    (finish inputs.published).log.map BuildEvent.shown =
      [Trace.closing inputs.published.imports.length inputs.published.constraints.length
        (groupCount (inputs.published.imports ++ inputs.published.constraints))] := by
  have hs : groupCount (inputs.published.imports ++ inputs.published.constraints) =
      inputs.published.catalog.size := (VersionTable.summarizes_ofCoordinates _).size.symm
  rw [hs]
  rfl

theorem build_log_eq_trace (policy : Policy) (inputs : Inputs) :
    (∀ p, (build policy inputs).result = .ok p →
      (placedParts inputs.entries).map Prod.snd = p.imports ++ p.constraints ∧
      (build policy inputs).log.map BuildEvent.shown =
        Trace.opening inputs.enforcedImports.length inputs.dependencySets.length
            inputs.dependencies.length ::
          Trace.ofCoordinates [] (placedParts inputs.entries) ++
          [Trace.closing p.imports.length p.constraints.length
            (groupCount (p.imports ++ p.constraints))]) ∧
    (∀ e, (build policy inputs).result = .error e →
      ∃ before place entry after, inputs.entries = before ++ (place, entry) :: after ∧
        (∀ x ∈ before, x.2.fault? policy x.1 = none) ∧ entry.fault? policy place = some e ∧
        (build policy inputs).log.map BuildEvent.shown =
          Trace.opening inputs.enforcedImports.length inputs.dependencySets.length
              inputs.dependencies.length ::
            Trace.ofCoordinates [] (placedParts before)) := by
  simp only [←shown_started]
  constructor
  case left =>
    intro p h
    have hx : (extend policy empty inputs.entries).result = .ok p := by rw [←result_build, h]
    obtain ⟨hf, rfl⟩ := build_eq_ok_iff.mp h
    have hl := Follows.empty.shown_extend (List.findSome?_eq_none_iff.mp hf) []
    rw [List.append_nil] at hl
    constructor
    case left =>
      simp [placedParts, List.map_flatMap, Function.comp_def, Inputs.imports_append_constraints]
    case right =>
      rw [build_eq, Logged.bind_of_ok hx, List.map_append, List.map_append, hl, shown_finish]
      simp [extend_nil]
  case right =>
    intro e h
    have hx : (extend policy empty inputs.entries).result = .error e := by rw [←result_build, h]
    obtain ⟨before, ⟨place, entry⟩, after, hs, he, hb⟩ :=
      List.findSome?_eq_some_iff.mp (build_eq_error_iff.mp h)
    refine ⟨before, place, entry, after, hs, hb, he, ?_⟩
    have hl := Follows.empty.shown_extend hb ((place, entry) :: after)
    rw [←hs, extend_of_fault he] at hl
    rw [build_eq, Logged.bind_of_error hx, List.map_append, hl]
    simp

def changing : Inputs where
  enforcedImports := ["a:b:1", "a:c:2.+"]
  dependencySets := [⟨"a", "3", ["d", "e"]⟩, ⟨"a", "4", ["f", "f"]⟩]
  dependencies := ["a:b:1"]

theorem build_log_changing :
    (build .permissive changing).log.map BuildEvent.shown = [Trace.opening 2 2 1,
      (.warn, "a:c:2.+ (enforced-imports[1]) uses a dynamic version"),
      (.debug, "Version for group a overridden: 1 -> 2.+"),
      (.debug, "Version for group a overridden: 2.+ -> 3")] ∧
    ∃ before place entry after, changing.entries = before ++ (place, entry) :: after ∧
      entry.fault? .permissive place = some (.defectiveSet 1 (.repeatedModule "a" "f")) ∧
      (build .permissive changing).log.map BuildEvent.shown =
        Trace.opening 2 2 1 :: Trace.ofCoordinates [] (placedParts before) := by
  have hr : (build .permissive changing).result =
      .error (.defectiveSet 1 (.repeatedModule "a" "f")) := by decide +kernel
  have ⟨before, place, entry, after, hs, _, he, hl⟩ :=
    (build_log_eq_trace .permissive changing).right _ hr
  exact ⟨by decide +kernel, before, place, entry, after, hs, he, hl⟩

end Publication
end PlatformCatalog
