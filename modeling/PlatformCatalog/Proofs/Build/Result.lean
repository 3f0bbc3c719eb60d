import PlatformCatalog.Proofs.Build.Entry
import PlatformCatalog.Proofs.VersionTable

namespace PlatformCatalog

variable {policy : Policy} {inputs : Inputs} {p : Publication} {e : BuildError}
variable {c : Coordinate} {cs : List Coordinate}

namespace Publication

def addList (p : Publication) (list : ListName) (cs : List Coordinate) : Publication :=
  cs.foldl (fun q c => q.add list c) p

def events (p : Publication) (place : Place) (c : Coordinate) : List BuildEvent :=
  (if c.hasDynamicVersion then [.dynamicVersion c place] else []) ++ p.override c

def addAll (p : Publication) (place : Place) : List Coordinate → List BuildEvent × Publication
  | [] => ([], p)
  | c :: cs =>
    let (log, q) := addAll (p.add place.list c) place cs
    (p.events place c ++ log, q)

theorem addAll_snd (p : Publication) (place : Place) (cs : List Coordinate) :
    (p.addAll place cs).2 = p.addList place.list cs := by
  induction cs generalizing p
  case nil => rfl
  case cons c cs hi => exact hi (p.add place.list c)

theorem addList_append (p : Publication) (list : ListName) (cs ds : List Coordinate) :
    p.addList list (cs ++ ds) = (p.addList list cs).addList list ds :=
  List.foldl_append

theorem addList_eq (p : Publication) (list : ListName) (cs : List Coordinate) :
    p.addList list cs =
      { imports := if list = .enforcedImports then p.imports ++ cs else p.imports
        constraints := if list = .enforcedImports then p.constraints else p.constraints ++ cs
        catalog := cs.foldl (fun t c => t.insert c.group c.version) p.catalog } := by
  induction cs generalizing p
  case nil => simp [addList]
  case cons c cs hi =>
    have h : p.addList list (c :: cs) = (p.add list c).addList list cs := rfl
    rw [h, hi]
    by_cases hl : list = .enforcedImports
    case pos => simp [add, hl]
    case neg => simp [add, hl]

def put (p : Publication) (e : Place × Entry) : Publication :=
  p.addList e.1.list e.2.parts

theorem check_of_refuses (place : Place) (h : policy.refuses c.version = true) :
    check policy place c = .fail (.dynamicVersion c.text place) := by
  simp only [Policy.refuses, Bool.and_eq_true, decide_eq_true_eq] at h
  have hd : c.hasDynamicVersion = true := h.right
  unfold check
  rw [if_pos hd, h.left]

theorem check_of_not_refuses (place : Place) (h : policy.refuses c.version = false) :
    check policy place c =
      ⟨if c.hasDynamicVersion then [.dynamicVersion c place] else [], .ok ()⟩ := by
  unfold check
  cases hd : c.hasDynamicVersion
  case false => rfl
  case true =>
    cases policy
    case strict => exact absurd (h.symm.trans hd) Bool.false_ne_true
    case permissive => rfl

-- The loop over the coordinates of an entry stops before anything is logged, or goes through.
theorem publishAll_of_refuses (p : Publication) (place : Place) (cs : List Coordinate)
    (h : policy.refuses c.version = true) :
    publishAll policy place p (c :: cs) = ⟨[], .error (.dynamicVersion c.text place)⟩ := by
  rw [publishAll, publish, check_of_refuses place h]
  rfl

theorem publishAll_of_not_refuses (p : Publication) (place : Place)
    (h : ∀ c ∈ cs, policy.refuses c.version = false) :
    publishAll policy place p cs = ⟨(p.addAll place cs).1, .ok (p.addAll place cs).2⟩ := by
  induction cs generalizing p
  case nil => rfl
  case cons c cs hi =>
    have ⟨hc, hcs⟩ := List.forall_mem_cons.mp h
    have hp : p.publish policy place c = ⟨p.events place c, .ok (p.add place.list c)⟩ := by
      rw [publish, check_of_not_refuses place hc]
      rfl
    rw [publishAll, hp]
    simp only [bind, Logged.bind, hi _ hcs, addAll]

theorem extend_nil (policy : Policy) (p : Publication) : extend policy p [] = ⟨[], .ok p⟩ := rfl

theorem extend_of_error {place : Place} {entry : Entry} {es : List (Place × Entry)}
    (h : entry.coordinates place = .error e) :
    extend policy p ((place, entry) :: es) = ⟨[], .error e⟩ := by
  rw [extend, h]
  rfl

theorem extend_of_ok {place : Place} {entry : Entry} {es : List (Place × Entry)}
    (h : entry.coordinates place = .ok cs) :
    extend policy p ((place, entry) :: es) =
      (p.publishAll policy place cs).bind fun q => extend policy q es := by
  rw [extend, h]
  simp [bind, Logged.bind, Logged.ofExcept]

theorem extend_of_fault {place : Place} {entry : Entry} {es : List (Place × Entry)}
    (h : entry.fault? policy place = some e) :
    extend policy p ((place, entry) :: es) = ⟨[], .error e⟩ := by
  cases entry.broken_or_sound place
  case inl hb =>
    have ⟨e', hb⟩ := hb
    cases (hb.fault policy).symm.trans h
    exact extend_of_error hb.coordinates
  case inr hs =>
    have ⟨c, cs, hs⟩ := hs
    rw [hs.fault] at h
    split_ifs at h with hr
    cases h
    rw [extend_of_ok hs.coordinates, publishAll_of_refuses p place cs hr]
    rfl

theorem extend_of_clean {place : Place} {entry : Entry} {es : List (Place × Entry)}
    (h : entry.fault? policy place = none) :
    extend policy p ((place, entry) :: es) =
      ⟨(p.addAll place entry.parts).1 ++ (extend policy (p.put (place, entry)) es).log,
        (extend policy (p.put (place, entry)) es).result⟩ := by
  cases entry.broken_or_sound place
  case inl hb =>
    have ⟨e, hb⟩ := hb
    cases (hb.fault policy).symm.trans h
  case inr hs =>
    have ⟨c, cs, hs⟩ := hs
    have hr : ∀ d ∈ c :: cs, policy.refuses d.version = false := by
      intro d hd
      rw [hs.fault] at h
      simpa [hs.version d hd] using h
    rw [extend_of_ok hs.coordinates, publishAll_of_not_refuses p place hr, hs.parts, put,
      ←addAll_snd, hs.parts]
    rfl

theorem result_extend (policy : Policy) (p : Publication) (es : List (Place × Entry)) :
    (extend policy p es).result =
      match es.findSome? fun e => e.2.fault? policy e.1 with
      | some e => .error e
      | none => .ok (es.foldl put p) := by
  induction es generalizing p
  case nil => rfl
  case cons hd tl hi =>
    cases h : hd.2.fault? policy hd.1
    case some e => rw [extend_of_fault h, List.findSome?_cons_of_isSome (by simp [h]), h]
    case none =>
      rw [extend_of_clean h, List.findSome?_cons_of_isNone (by simp [h])]
      exact hi (p.put hd)

end Publication

def placed {α : Type} (list : ListName) (entry : α → Entry) (l : List α) : List (Place × Entry) :=
  l.zipIdx.map fun e => (⟨list, e.2⟩, entry e.1)

theorem flatMap_placed {α : Type} (list : ListName) (entry : α → Entry) (l : List α) :
    (placed list entry l).flatMap (fun e => e.2.parts) = l.flatMap fun x => (entry x).parts := by
  have h : l.zipIdx.map Prod.fst = l := List.zipIdx_map_fst 0 l
  conv_rhs => rw [←h]
  rw [placed, List.flatMap_map, List.flatMap_map]

namespace Publication

theorem foldl_put_of_list {list : ListName} {es : List (Place × Entry)}
    (h : ∀ e ∈ es, e.1.list = list) (p : Publication) :
    es.foldl put p = p.addList list (es.flatMap fun e => e.2.parts) := by
  induction es generalizing p
  case nil => rfl
  case cons hd tl hi =>
    rw [List.foldl_cons, List.flatMap_cons, addList_append, hi fun e he => h e (.tail _ he)]
    simp [put, h hd (.head _)]

theorem foldl_put_placed {α : Type} (list : ListName) (entry : α → Entry) (l : List α)
    (p : Publication) :
    (placed list entry l).foldl put p = p.addList list (l.flatMap fun x => (entry x).parts) := by
  have h : ∀ e ∈ placed list entry l, e.1.list = list := by
    intro e he
    have ⟨_, _, h⟩ := List.mem_map.mp he
    rw [←h]
  rw [foldl_put_of_list h, flatMap_placed]

def started (inputs : Inputs) : BuildEvent :=
  .started inputs.enforcedImports.length inputs.dependencySets.length inputs.dependencies.length

def finish (p : Publication) : Logged BuildEvent BuildError Publication :=
  ⟨[.finished p.imports.length p.constraints.length p.catalog.size], .ok p⟩

theorem build_eq (policy : Policy) (inputs : Inputs) :
    build policy inputs =
      ⟨[started inputs] ++ ((extend policy empty inputs.entries).bind finish).log,
        ((extend policy empty inputs.entries).bind finish).result⟩ := by
  rfl

theorem result_build (policy : Policy) (inputs : Inputs) :
    (build policy inputs).result = (extend policy empty inputs.entries).result := by
  rw [build_eq]
  cases h : (extend policy empty inputs.entries).result
  case error e => rw [Logged.bind_of_error h]
  case ok p => rw [Logged.bind_of_ok h, finish]

end Publication

namespace Inputs

-- What the lists of a platform amount to if all their entries are clean.
def published (inputs : Inputs) : Publication :=
  let imports := inputs.enforcedImports.flatMap fun s => (Entry.literal s).parts
  let constraints := inputs.dependencySets.flatMap DependencySet.coordinates
    ++ inputs.dependencies.flatMap fun s => (Entry.literal s).parts
  { imports, constraints, catalog := .ofCoordinates (imports ++ constraints) }

theorem entries_eq (inputs : Inputs) :
    inputs.entries = placed .enforcedImports .literal inputs.enforcedImports
      ++ placed .dependencySets .set inputs.dependencySets
      ++ placed .dependencies .literal inputs.dependencies := rfl

theorem foldl_put_entries (inputs : Inputs) :
    inputs.entries.foldl Publication.put .empty = inputs.published := by
  rw [entries_eq, List.foldl_append, List.foldl_append]
  simp only [Publication.foldl_put_placed, Publication.addList_eq]
  simp [published, Publication.empty, Entry.parts, VersionTable.ofCoordinates, VersionTable.ofList,
    List.foldl_map]

theorem imports_append_constraints (inputs : Inputs) :
    inputs.published.imports ++ inputs.published.constraints =
      inputs.entries.flatMap fun e => e.2.parts := by
  simp only [entries_eq, List.flatMap_append, flatMap_placed]
  simp [published, Entry.parts]

def fault? (policy : Policy) (inputs : Inputs) : Option BuildError :=
  inputs.entries.findSome? fun e => e.2.fault? policy e.1

end Inputs

namespace Publication

theorem build_eq_error_iff :
    ((build policy inputs).result = .error e) ↔ (inputs.fault? policy = some e) := by
  rw [result_build, result_extend, Inputs.fault?]
  cases inputs.entries.findSome? fun e => e.2.fault? policy e.1 <;> simp

theorem build_eq_ok_iff :
    ((build policy inputs).result = .ok p) ↔
      (inputs.fault? policy = none ∧ p = inputs.published) := by
  rw [result_build, result_extend, Inputs.fault?, Inputs.foldl_put_entries]
  cases inputs.entries.findSome? fun e => e.2.fault? policy e.1 <;> simp [eq_comm]

end Publication
end PlatformCatalog
