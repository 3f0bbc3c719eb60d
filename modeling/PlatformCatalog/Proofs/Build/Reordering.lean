import Mathlib.Data.List.Perm.Basic
import PlatformCatalog.Proofs.Build.Contents
import PlatformCatalog.Proofs.Build.SpelledOut

namespace PlatformCatalog

variable {α β : Type} {policy : Policy} {inputs : Inputs} {order : List Nat} {l l' : List α}

-- The elements of a list, taken up in the order of their positions in `order`.
def arrange (order : List Nat) (l : List α) : List α :=
  order.filterMap fun i => l[i]?

theorem arrange_map (f : α → β) (order : List Nat) (l : List α) :
    arrange order (l.map f) = (arrange order l).map f := by
  simp [arrange, List.map_filterMap]

theorem arrange_range (l : List α) : arrange (List.range l.length) l = l := by
  induction l using List.reverseRecOn
  case nil => rfl
  case append_singleton l x hi =>
    have hl : arrange (List.range l.length) (l ++ [x]) = arrange (List.range l.length) l := by
      apply List.filterMap_congr
      intro i h
      rw [List.getElem?_append_left (List.mem_range.mp h)]
    rw [List.length_append, List.length_singleton, List.range_succ, arrange, List.filterMap_append,
      ←arrange, hl, hi]
    simp

theorem arrange_perm (h : order.Perm (List.range l.length)) : (arrange order l).Perm l := by
  have hp := h.filterMap fun i => l[i]?
  rwa [←arrange, ←arrange, arrange_range] at hp

theorem exists_eq_arrange (h : l.Perm l') :
    ∃ order : List Nat, order.Perm (List.range l.length) ∧ l' = arrange order l := by
  have hz : l'.Perm (l.zipIdx.map Prod.fst) := by rw [List.zipIdx_map_fst]; exact h.symm
  obtain ⟨m, rfl, hm⟩ := (congrFun₂ (List.eq_map_comp_perm Prod.fst) l' l.zipIdx).mpr hz
  refine ⟨m.map Prod.snd, ?positions, ?elements⟩
  case positions =>
    have hs := hm.map Prod.snd
    rwa [List.zipIdx_map_snd, ←List.range_eq_range'] at hs
  case elements =>
    have hx : ∀ e ∈ m, l[e.2]? = some e.1 := fun e he =>
      List.mem_zipIdx_iff_getElem?.mp (hm.mem_iff.mp he)
    calc
      m.map Prod.fst = m.filterMap fun e => some e.1 := by rw [List.filterMap_eq_map']
      _ = m.filterMap fun e => l[e.2]? := (List.filterMap_congr hx).symm
      _ = arrange (m.map Prod.snd) l := by rw [arrange, List.filterMap_map]; rfl

namespace Entry

def pin? : Entry → Option (String × String)
  | .literal text => (Coordinate.parse text).toOption.map fun c => (c.group, c.version)
  | .set s => some (s.group, s.version)

def conflicts (e e' : Entry) : Bool :=
  match e.pin?, e'.pin? with
  | some (group, version), some (group', version') => group = group' && version ≠ version'
  | _, _ => false

theorem pin?_of_mem_parts {e : Entry} {c : Coordinate} (h : c ∈ e.parts) :
    e.pin? = some (c.group, c.version) := by
  cases e
  case literal text =>
    cases hp : Coordinate.parse text <;> simp [parts, hp, Except.toOption] at h
    simp [pin?, hp, Except.toOption, h]
  case set s =>
    obtain ⟨m, _, rfl⟩ := List.mem_map.mp h
    rfl

theorem conflicts_of_mem_parts {e e' : Entry} {c c' : Coordinate} (h : c ∈ e.parts)
    (h' : c' ∈ e'.parts) (hg : c.group = c'.group) (hv : c.version ≠ c'.version) :
    e.conflicts e' = true := by
  simp [conflicts, pin?_of_mem_parts h, pin?_of_mem_parts h', hg, hv]

end Entry

-- Of two entries that conflict, the one that comes first in the new order came first before, too.
def ConflictsInOrder (order : List Nat) (es : List Entry) : Prop :=
  (arrange order es.zipIdx).Pairwise fun a b => a.1.conflicts b.1 → a.2 < b.2

instance (order : List Nat) (es : List Entry) : Decidable (ConflictsInOrder order es) :=
  inferInstanceAs (Decidable (List.Pairwise _ _))

namespace VersionTable

variable {es : List Entry} {g v : String}

theorem exists_deciding (h : (ofCoordinates (es.flatMap Entry.parts)).get? g = some v) :
    ∃ before e after, es = before ++ e :: after ∧
      (∃ c ∈ e.parts, c.group = g ∧ c.version = v) ∧
      ∀ d ∈ after.flatMap Entry.parts, d.group ≠ g := by
  induction es using List.reverseRecOn
  case nil => cases h
  case append_singleton es e hi =>
    rw [List.flatMap_append, List.flatMap_singleton, get?_ofCoordinates_append] at h
    cases he : (ofCoordinates e.parts).get? g
    case none =>
      rw [he, Option.none_or] at h
      have ⟨before, e', after, hes, hc, ha⟩ := hi h
      refine ⟨before, e', after ++ [e], by simp [hes], hc, ?_⟩
      rw [List.flatMap_append, List.flatMap_singleton, List.forall_mem_append]
      exact ⟨ha, get?_ofCoordinates_eq_none_iff.mp he⟩
    case some u =>
      rw [he, Option.some_or] at h
      cases h
      have ⟨before, c, after, hc, hg, hv, _⟩ := get?_ofCoordinates_eq_some_iff.mp he
      exact ⟨es, e, [], rfl, ⟨c, by simp [hc], hg, hv⟩, by simp⟩

-- Two entries that decide about a group, one for each order, give it the same version: otherwise
-- they would conflict, and one of them would come too early to decide.
theorem eq_of_deciding {before after before' after' : List Entry} {e e' : Entry} {c c' : Coordinate}
    (ho : order.Perm (List.range es.length)) (hk : ConflictsInOrder order es)
    (hes : es = before ++ e :: after) (hes' : arrange order es = before' ++ e' :: after')
    (hc : c ∈ e.parts) (hc' : c' ∈ e'.parts) (hg : c.group = c'.group)
    (ha : ∀ d ∈ after.flatMap Entry.parts, d.group ≠ c.group)
    (ha' : ∀ d ∈ after'.flatMap Entry.parts, d.group ≠ c.group) : c.version = c'.version := by
  by_contra hv
  have hp : (arrange order es.zipIdx).Perm es.zipIdx := arrange_perm (by rwa [List.length_zipIdx])
  rw [←List.zipIdx_map_fst 0 es, arrange_map] at hes'
  obtain ⟨m₁, _, hm, rfl, hm'⟩ := List.map_eq_append_iff.mp hes'
  obtain ⟨⟨e', i⟩, m₂, rfl, rfl, rfl⟩ := List.map_eq_cons_iff.mp hm'
  have he : (e, before.length) ∈ arrange order es.zipIdx := by
    rw [hp.mem_iff, List.mem_zipIdx_iff_getElem?]
    simp [hes]
  have he' : es[i]? = some e' := by
    have hi := hp.mem_iff.mp (hm ▸ List.mem_append_right m₁ (.head _))
    exact List.mem_zipIdx_iff_getElem?.mp hi
  rw [hm, List.mem_append, List.mem_cons] at he
  rw [ConflictsInOrder, hm, List.pairwise_append] at hk
  obtain he | he | he := he
  case inl =>
    have hi : before.length < i :=
      hk.right.right _ he _ (.head _) (Entry.conflicts_of_mem_parts hc hc' hg hv)
    have hm : e' ∈ after := by
      rw [hes, List.getElem?_append_right hi.le] at he'
      obtain ⟨k, hk⟩ := Nat.exists_eq_add_of_lt hi
      rw [hk, show before.length + k + 1 - before.length = k + 1 by omega] at he'
      exact List.mem_of_getElem? he'
    exact ha c' (List.mem_flatMap_of_mem hm hc') hg.symm
  case inr.inl =>
    cases he
    have hpin := (Entry.pin?_of_mem_parts hc).symm.trans (Entry.pin?_of_mem_parts hc')
    simp [hv] at hpin
  case inr.inr =>
    have hm := List.mem_map_of_mem (f := Prod.fst) he
    exact ha' c (List.mem_flatMap_of_mem hm hc) rfl

theorem get?_ofCoordinates_arrange (ho : order.Perm (List.range es.length))
    (hk : ConflictsInOrder order es) (g : String) :
    (ofCoordinates ((arrange order es).flatMap Entry.parts)).get? g =
      (ofCoordinates (es.flatMap Entry.parts)).get? g := by
  have hp : ((arrange order es).flatMap Entry.parts).Perm (es.flatMap Entry.parts) :=
    (arrange_perm ho).flatMap_right _
  cases h : (ofCoordinates (es.flatMap Entry.parts)).get? g
  case none =>
    rw [get?_ofCoordinates_eq_none_iff] at h ⊢
    exact fun c hc => h c (hp.mem_iff.mp hc)
  case some v =>
    cases h' : (ofCoordinates ((arrange order es).flatMap Entry.parts)).get? g
    case none =>
      rw [get?_ofCoordinates_eq_none_iff] at h'
      have hn := get?_ofCoordinates_eq_none_iff.mpr fun c hc => h' c (hp.mem_iff.mpr hc)
      cases hn.symm.trans h
    case some v' =>
      obtain ⟨before, e, after, hes, ⟨c, hc, rfl, rfl⟩, ha⟩ := exists_deciding h
      obtain ⟨before', e', after', hes', ⟨c', hc', hg, rfl⟩, ha'⟩ := exists_deciding h'
      rw [eq_of_deciding ho hk hes hes' hc hc' hg.symm ha ha']

theorem get?_ofCoordinates_arrange_map (entry : α → Entry) (ho : order.Perm (List.range l.length))
    (hk : ConflictsInOrder order (l.map entry)) (g : String) :
    (ofCoordinates ((arrange order l).flatMap fun x => (entry x).parts)).get? g =
      (ofCoordinates (l.flatMap fun x => (entry x).parts)).get? g := by
  rw [←List.length_map (f := entry)] at ho
  have h := get?_ofCoordinates_arrange ho hk g
  rwa [arrange_map, List.flatMap_map, List.flatMap_map] at h

end VersionTable

structure Reordering where
  enforcedImports : List Nat
  dependencySets  : List Nat
  dependencies    : List Nat

namespace Inputs

variable {r : Reordering} {inputs' : Inputs}

def reordered (inputs : Inputs) (r : Reordering) : Inputs where
  enforcedImports := arrange r.enforcedImports inputs.enforcedImports
  dependencySets  := arrange r.dependencySets inputs.dependencySets
  dependencies    := arrange r.dependencies inputs.dependencies

structure Permuted (inputs inputs' : Inputs) : Prop where
  enforcedImports : inputs.enforcedImports.Perm inputs'.enforcedImports
  dependencySets  : inputs.dependencySets.Perm inputs'.dependencySets
  dependencies    : inputs.dependencies.Perm inputs'.dependencies

structure Permutes (inputs : Inputs) (r : Reordering) : Prop where
  enforcedImports : r.enforcedImports.Perm (List.range inputs.enforcedImports.length)
  dependencySets  : r.dependencySets.Perm (List.range inputs.dependencySets.length)
  dependencies    : r.dependencies.Perm (List.range inputs.dependencies.length)

structure KeepsConflicts (inputs : Inputs) (r : Reordering) : Prop where
  enforcedImports : ConflictsInOrder r.enforcedImports
    (inputs.enforcedImports.map .literal)
  dependencySets  : ConflictsInOrder r.dependencySets
    (inputs.dependencySets.map .set)
  dependencies    : ConflictsInOrder r.dependencies
    (inputs.dependencies.map .literal)

theorem Permutes.permuted (h : inputs.Permutes r) : inputs.Permuted (inputs.reordered r) where
  enforcedImports := (arrange_perm h.enforcedImports).symm
  dependencySets  := (arrange_perm h.dependencySets).symm
  dependencies    := (arrange_perm h.dependencies).symm

theorem Permuted.exists_eq_reordered (h : inputs.Permuted inputs') :
    ∃ r, inputs.Permutes r ∧ inputs' = inputs.reordered r := by
  have ⟨i, hi, hi'⟩ := exists_eq_arrange h.enforcedImports
  have ⟨s, hs, hs'⟩ := exists_eq_arrange h.dependencySets
  have ⟨d, hd, hd'⟩ := exists_eq_arrange h.dependencies
  refine ⟨⟨i, s, d⟩, ⟨hi, hs, hd⟩, ?_⟩
  rw [reordered, ←hi', ←hs', ←hd']

theorem Permuted.fault?_eq_none_iff (h : inputs.Permuted inputs') :
    (inputs.fault? policy = none) ↔ (inputs'.fault? policy = none) := by
  simp only [Inputs.fault?_eq_none_iff, clean_literals_iff, clean_sets_iff,
    h.enforcedImports.mem_iff, h.dependencySets.mem_iff, h.dependencies.mem_iff]

end Inputs

theorem Clean.parts_arrange {list : ListName} {l : List String}
    (h : Clean policy.literalFault? list l) (order : List Nat) :
    (arrange order l).flatMap (fun s => (Entry.literal s).parts) =
      arrange order (l.flatMap fun s => (Entry.literal s).parts) := by
  have ht := h.map_text_parts
  have hw : ∀ c ∈ l.flatMap fun s => (Entry.literal s).parts, c.WellFormed := by
    intro c hc
    obtain ⟨s, _, hc⟩ := List.mem_flatMap.mp hc
    exact Entry.wellFormed_of_mem_parts hc
  generalize l.flatMap (fun s => (Entry.literal s).parts) = cs at ht hw ⊢
  rw [←ht, arrange_map, Entry.flatMap_parts_text]
  intro c hc
  obtain ⟨i, _, hi⟩ := List.mem_filterMap.mp hc
  exact hw c (List.mem_of_getElem? hi)

theorem Inputs.catalog_reordered {r : Reordering} (hp : inputs.Permutes r)
    (hk : inputs.KeepsConflicts r) :
    (inputs.reordered r).published.catalog = inputs.published.catalog := by
  apply VersionTable.eq_of_get?_eq
  intro g
  have hi := VersionTable.get?_ofCoordinates_arrange_map _ hp.enforcedImports hk.enforcedImports g
  have hs := VersionTable.get?_ofCoordinates_arrange_map _ hp.dependencySets hk.dependencySets g
  have hd := VersionTable.get?_ofCoordinates_arrange_map _ hp.dependencies hk.dependencies g
  simp only [Entry.parts] at hs
  simp only [published, reordered, VersionTable.get?_ofCoordinates_append, hi, hs, hd]

namespace Publication

theorem build_reordered (policy : Policy) (inputs : Inputs) :
    (∀ inputs', inputs.Permuted inputs' →
      (∃ r, inputs.Permutes r ∧ inputs' = inputs.reordered r) ∧
      ((∃ p, (build policy inputs).result = .ok p) ↔
        (∃ p', (build policy inputs').result = .ok p'))) ∧
    (∀ r p, inputs.Permutes r → (build policy inputs).result = .ok p →
      ∃ (p' : Publication) (singles : List Coordinate),
        (build policy (inputs.reordered r)).result = .ok p' ∧
        p'.imports = arrange r.enforcedImports p.imports ∧
        p.constraints = (inputs.dependencySets.map DependencySet.coordinates).flatten ++ singles ∧
        singles.map Coordinate.text = inputs.dependencies ∧
        p'.constraints =
          (arrange r.dependencySets (inputs.dependencySets.map DependencySet.coordinates)).flatten
            ++ arrange r.dependencies singles ∧
        (inputs.KeepsConflicts r → p'.catalog = p.catalog)) := by
  constructor
  case left =>
    intro inputs' h
    refine ⟨h.exists_eq_reordered, ?_⟩
    simp only [build_eq_ok_iff, exists_and_left, exists_eq, and_true, h.fault?_eq_none_iff]
  case right =>
    intro r p hr h
    have ⟨hf, hp⟩ := build_eq_ok_iff.mp h
    have ⟨hi, _, hd⟩ := Inputs.fault?_eq_none_iff.mp hf
    subst hp
    refine ⟨(inputs.reordered r).published,
      inputs.dependencies.flatMap fun s => (Entry.literal s).parts, ?built, ?imports, ?before,
      ?singles, ?after, ?catalog⟩
    case built => exact build_eq_ok_iff.mpr ⟨hr.permuted.fault?_eq_none_iff.mp hf, rfl⟩
    case imports => exact hi.parts_arrange _
    case before => rfl
    case singles => exact hd.map_text_parts
    case after =>
      rw [arrange_map, ←List.flatMap_def, ←hd.parts_arrange]
      rfl
    case catalog => exact Inputs.catalog_reordered hr

def shuffling : Inputs where
  enforcedImports := ["grpc:bom:1.0", "junit:bom:5.+", "grpc:api:1.0", "grpc:core:1.2"]
  dependencySets := [⟨"guava", "33", ["guava"]⟩, ⟨"jackson", "2", ["core", "databind"]⟩]
  dependencies := ["guava:guava:32", "junit:api:5", "guava:testlib:32"]

def shuffle : Reordering where
  enforcedImports := [2, 0, 3, 1]
  dependencySets := [1, 0]
  dependencies := [2, 1, 0]

theorem build_reordered_shuffling :
    shuffling.Permutes shuffle ∧ shuffling.KeepsConflicts shuffle ∧
    ∃ p p', (build .permissive shuffling).result = .ok p ∧
      (build .permissive (shuffling.reordered shuffle)).result = .ok p' ∧
      p.catalog.entries = [("grpc", "1.2"), ("guava", "32"), ("jackson", "2"), ("junit", "5")] ∧
      p'.catalog = p.catalog ∧ p'.imports = arrange [2, 0, 3, 1] p.imports ∧
      p'.imports ≠ p.imports := by
  have hp : shuffling.Permutes shuffle := ⟨by decide, by decide, by decide⟩
  have hk : shuffling.KeepsConflicts shuffle :=
    ⟨by decide +kernel, by decide +kernel, by decide +kernel⟩
  have h : (build .permissive shuffling).result = .ok shuffling.published := by decide +kernel
  have ⟨p', _, hb, hi, _, _, _, hc⟩ :=
    (build_reordered .permissive shuffling).right shuffle shuffling.published hp h
  refine ⟨hp, hk, shuffling.published, p', h, hb, by decide +kernel, hc hk, hi, ?_⟩
  rw [hi]
  decide +kernel

end Publication
end PlatformCatalog
