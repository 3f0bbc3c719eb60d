import Mathlib.Data.Finset.Card
import Mathlib.Data.List.Sort
import Mathlib.Tactic.Common
import PlatformCatalog.Coordinate
import PlatformCatalog.VersionTable

namespace PlatformCatalog.VersionTable

variable {t : VersionTable} {n v : String} {l : List (String × String)} {cs : List Coordinate}

def names (t : VersionTable) : List String :=
  t.entries.map Prod.fst

theorem ascending_names (t : VersionTable) : t.names.Pairwise Text.Before :=
  List.pairwise_map.mpr t.ascending

theorem nodup_names (t : VersionTable) : t.names.Nodup :=
  t.ascending_names.imp Text.Before.ne

theorem length_names (t : VersionTable) : t.names.length = t.size :=
  List.length_map _

theorem mem_entries_iff : ((n, v) ∈ t.entries) ↔ (t.get? n = some v) := by
  have ⟨l, ha⟩ := t
  simp only [get?]
  induction l
  case nil => simp
  case cons hd tl hi =>
    have ⟨hb, ht⟩ := List.pairwise_cons.mp ha
    have ⟨k, w⟩ := hd
    simp only [List.mem_cons, Prod.mk.injEq, List.lookup_cons]
    by_cases h : n = k
    case pos =>
      subst h
      have hn : (n, v) ∉ tl := fun hm => Text.not_before_self n (hb (n, v) hm)
      simp [hn, eq_comm]
    case neg => simp [h, beq_false_of_ne h, hi ht]

theorem mem_names_iff : (n ∈ t.names) ↔ (∃ v, t.get? n = some v) := by
  simp [names, mem_entries_iff]

theorem contains_eq_false_iff : (t.contains n = false) ↔ (t.get? n = none) := by
  simp [contains]

theorem ofList_concat (l : List (String × String)) (e : String × String) :
    ofList (l ++ [e]) = (ofList l).insert e.1 e.2 := by
  simp [ofList]

-- A look-up goes through the writes from the last one back.
theorem get?_ofList (l : List (String × String)) (n : String) :
    (ofList l).get? n = l.reverse.lookup n := by
  induction l using List.reverseRecOn
  case nil => rfl
  case append_singleton l e hi =>
    rw [ofList_concat, get?_insert, List.reverse_concat, List.lookup_cons, hi]
    by_cases h : n = e.1
    case pos => simp [h]
    case neg => simp [h, beq_false_of_ne h]

theorem get?_ofList_eq_none_iff : ((ofList l).get? n = none) ↔ (∀ e ∈ l, e.1 ≠ n) := by
  simp only [get?_ofList, List.lookup_eq_none_iff, List.mem_reverse, bne_iff_ne, ne_comm]

theorem get?_ofList_eq_some_iff :
    ((ofList l).get? n = some v) ↔
      (∃ before after, l = before ++ (n, v) :: after ∧ ∀ e ∈ after, e.1 ≠ n) := by
  simp only [get?_ofList, List.lookup_eq_some_iff, bne_iff_ne]
  constructor
  case mp =>
    intro ⟨after, before, hl, ha⟩
    have hl : l = before.reverse ++ (n, v) :: after.reverse := by
      rw [←List.reverse_reverse l, hl]
      simp
    exact ⟨_, _, hl, fun e he => (ha e (List.mem_reverse.mp he)).symm⟩
  case mpr =>
    intro ⟨before, after, hl, ha⟩
    have hl : l.reverse = after.reverse ++ (n, v) :: before.reverse := by simp [hl]
    exact ⟨_, _, hl, fun e he => (ha e (List.mem_reverse.mp he)).symm⟩

theorem eq_of_get?_eq {t u : VersionTable} (h : ∀ n, t.get? n = u.get? n) : t = u := by
  have hm : ∀ e, e ∈ t.entries ↔ e ∈ u.entries := by
    intro (n, v)
    rw [mem_entries_iff, mem_entries_iff, h]
  have hi : Std.Irrefl fun a b : String × String => Text.Before a.1 b.1 :=
    ⟨fun a => Text.not_before_self a.1⟩
  have ha : Std.Antisymm fun a b : String × String => Text.Before a.1 b.1 :=
    ⟨fun _ _ h h' => absurd h' h.asymm⟩
  have he : t.entries = u.entries := t.ascending.eq_of_mem_iff u.ascending hm
  cases t
  cases u
  simp_all

theorem ofList_of_perm (h : l.Perm t.entries) : ofList l = t := by
  apply eq_of_get?_eq
  intro n
  cases hn : t.get? n
  case none =>
    rw [get?_ofList_eq_none_iff]
    intro e hm he
    rw [←he, mem_entries_iff.mp (h.mem_iff.mp hm)] at hn
    cases hn
  case some v =>
    have ⟨before, after, hl⟩ := List.append_of_mem (h.mem_iff.mpr (mem_entries_iff.mpr hn))
    refine get?_ofList_eq_some_iff.mpr ⟨before, after, hl, ?_⟩
    have hk : (l.map Prod.fst).Nodup := (h.map Prod.fst).nodup_iff.mpr t.nodup_names
    rw [hl, List.map_append, List.map_cons, List.nodup_append, List.nodup_cons] at hk
    intro e he hn
    have hm : e.1 ∈ after.map Prod.fst := List.mem_map_of_mem he
    exact hk.right.left.left (hn ▸ hm)

theorem ofList_entries (t : VersionTable) : ofList t.entries = t :=
  ofList_of_perm (.refl _)

theorem size_ofList (l : List (String × String)) :
    (ofList l).size = (l.map Prod.fst).toFinset.card := by
  have hn : (ofList l).names.toFinset = (l.map Prod.fst).toFinset := by
    ext n
    have h := (get?_ofList_eq_none_iff (l := l) (n := n)).not
    simp only [ne_eq, not_forall, not_not] at h
    simp only [List.mem_toFinset, mem_names_iff, ←Option.ne_none_iff_exists', h]
    simp
  rw [←length_names, ←List.toFinset_card_of_nodup (nodup_names _), hn]

def ofCoordinates (cs : List Coordinate) : VersionTable :=
  ofList (cs.map fun c => (c.group, c.version))

-- A table that holds for each group of some coordinates the version of its last coordinate, and no
-- other entry, with the groups in the order of their bytes.
structure Summarizes (t : VersionTable) (cs : List Coordinate) : Prop where
  last : ∀ group version, (t.get? group = some version) ↔
    (∃ before c after, cs = before ++ c :: after ∧ c.group = group ∧ c.version = version ∧
      ∀ d ∈ after, d.group ≠ group)
  absent : ∀ group, (t.get? group = none) ↔ (∀ c ∈ cs, c.group ≠ group)
  contains : ∀ group, (t.contains group = false) ↔ (∀ c ∈ cs, c.group ≠ group)
  listed : ∀ group version, ((group, version) ∈ t.entries) ↔ (t.get? group = some version)
  ascending : t.entries.Pairwise fun a b => Text.bytes a.1 < Text.bytes b.1
  distinct : (t.entries.map Prod.fst).Nodup
  size : t.size = (cs.map Coordinate.group).toFinset.card

theorem get?_ofCoordinates_eq_none_iff {group : String} :
    ((ofCoordinates cs).get? group = none) ↔ (∀ c ∈ cs, c.group ≠ group) := by
  simp [ofCoordinates, get?_ofList_eq_none_iff]

theorem get?_ofCoordinates_eq_some_iff {group version : String} :
    ((ofCoordinates cs).get? group = some version) ↔
      (∃ before c after, cs = before ++ c :: after ∧ c.group = group ∧ c.version = version ∧
        ∀ d ∈ after, d.group ≠ group) := by
  rw [ofCoordinates, get?_ofList_eq_some_iff]
  constructor
  case mp =>
    intro ⟨before, after, hl, ha⟩
    have ⟨b, ca, hcs, _, hca⟩ := List.map_eq_append_iff.mp hl
    have ⟨c, a, hc, he, ha'⟩ := List.map_eq_cons_iff.mp hca
    simp only [Prod.mk.injEq] at he
    refine ⟨b, c, a, hc ▸ hcs, he.left, he.right, fun d hd => ?_⟩
    exact ha (d.group, d.version) (ha' ▸ List.mem_map_of_mem hd)
  case mpr =>
    intro ⟨before, c, after, hcs, hg, hv, ha⟩
    refine ⟨before.map fun c => (c.group, c.version), after.map fun c => (c.group, c.version), ?_⟩
    simpa [hcs, hg, hv] using ha

theorem get?_ofCoordinates_append (cs ds : List Coordinate) (group : String) :
    (ofCoordinates (cs ++ ds)).get? group =
      ((ofCoordinates ds).get? group).or ((ofCoordinates cs).get? group) := by
  simp only [ofCoordinates, get?_ofList, List.map_append, List.reverse_append, List.lookup_append]

theorem summarizes_ofCoordinates (cs : List Coordinate) : (ofCoordinates cs).Summarizes cs where
  last _ _ := get?_ofCoordinates_eq_some_iff
  absent _ := get?_ofCoordinates_eq_none_iff
  contains _ := contains_eq_false_iff.trans get?_ofCoordinates_eq_none_iff
  listed _ _ := mem_entries_iff
  ascending := (ofCoordinates cs).ascending
  distinct := (ofCoordinates cs).nodup_names
  size := by
    rw [ofCoordinates, size_ofList, List.map_map]
    rfl

end PlatformCatalog.VersionTable
