import PlatformCatalog.Proofs.Build.Result

namespace PlatformCatalog

variable {α : Type} {verdict : Place → α → Option BuildError} {list : ListName} {l : List α}
variable {e : BuildError}

def Clean (verdict : Place → α → Option BuildError) (list : ListName) (l : List α) : Prop :=
  ∀ i x, l[i]? = some x → verdict ⟨list, i⟩ x = none

def FirstFault (verdict : Place → α → Option BuildError) (list : ListName) (l : List α)
    (e : BuildError) : Prop :=
  ∃ i x, l[i]? = some x ∧ verdict ⟨list, i⟩ x = some e ∧
    ∀ j < i, ∀ y, l[j]? = some y → verdict ⟨list, j⟩ y = none

theorem findSome?_eq_none_iff_clean :
    (l.zipIdx.findSome? (fun x => verdict ⟨list, x.2⟩ x.1) = none) ↔ Clean verdict list l := by
  simp only [List.findSome?_eq_none_iff, List.mem_zipIdx_iff_getElem?, Prod.forall]
  exact forall_comm

theorem findSome?_eq_some_iff_firstFault :
    (l.zipIdx.findSome? (fun x => verdict ⟨list, x.2⟩ x.1) = some e) ↔
      FirstFault verdict list l e := by
  rw [List.findSome?_eq_some_iff]
  constructor
  case mp =>
    intro ⟨before, (x, i), after, hl, hx, hb⟩
    have hi : l.zipIdx[before.length]? = some (x, i) := by simp [hl]
    have ⟨hx', hi⟩ : l[before.length]? = some x ∧ before.length = i := by
      simpa [List.getElem?_zipIdx] using hi
    subst hi
    refine ⟨before.length, x, hx', hx, fun j hj y hy => ?_⟩
    have hm : l.zipIdx[j]? = some (y, j) := by simp [List.getElem?_zipIdx, hy]
    rw [hl, List.getElem?_append_left hj] at hm
    exact hb (y, j) (List.mem_of_getElem? hm)
  case mpr =>
    intro ⟨i, x, hx, he, hb⟩
    have hm : l.zipIdx[i]? = some (x, i) := by simp [List.getElem?_zipIdx, hx]
    have ⟨hi, hm⟩ := List.getElem?_eq_some_iff.mp hm
    refine ⟨l.zipIdx.take i, (x, i), l.zipIdx.drop (i + 1), ?split, he, ?before⟩
    case split => rw [←hm, List.cons_getElem_drop_succ, List.take_append_drop]
    case before =>
      intro (y, j) hy
      have ⟨k, hy⟩ := List.mem_iff_getElem?.mp hy
      have ⟨hk, hy⟩ : k < i ∧ l[k]? = some y ∧ k = j := by
        simpa [List.getElem?_take, List.getElem?_zipIdx] using hy
      exact hy.right ▸ hb k hk y hy.left

theorem Clean.exists_verdict {x : α} (h : Clean verdict list l) (hx : x ∈ l) :
    ∃ i, verdict ⟨list, i⟩ x = none := by
  have ⟨i, hi⟩ := List.mem_iff_getElem?.mp hx
  exact ⟨i, h i x hi⟩

-- Where an element stands may show in its verdict, but does not decide whether it is faulty.
theorem clean_iff_forall_mem {P : α → Prop} (h : ∀ place x, verdict place x = none ↔ P x) :
    (Clean verdict list l) ↔ (∀ x ∈ l, P x) := by
  constructor
  case mp =>
    intro hc x hx
    have ⟨_, hv⟩ := hc.exists_verdict hx
    exact (h _ x).mp hv
  case mpr =>
    intro hp i x hx
    exact (h _ x).mpr (hp x (List.mem_of_getElem? hx))

namespace Inputs

variable {policy : Policy} {inputs : Inputs}

theorem fault?_eq_or (policy : Policy) (inputs : Inputs) :
    inputs.fault? policy =
      ((inputs.enforcedImports.zipIdx.findSome?
          fun x => policy.literalFault? ⟨.enforcedImports, x.2⟩ x.1).or
        (inputs.dependencySets.zipIdx.findSome?
          fun x => policy.setFault? ⟨.dependencySets, x.2⟩ x.1)).or
        (inputs.dependencies.zipIdx.findSome?
          fun x => policy.literalFault? ⟨.dependencies, x.2⟩ x.1) := by
  simp only [fault?, entries, List.findSome?_append, List.findSome?_map]
  rfl

theorem fault?_eq_none_iff :
    (inputs.fault? policy = none) ↔
      Clean policy.literalFault? .enforcedImports inputs.enforcedImports ∧
      Clean policy.setFault? .dependencySets inputs.dependencySets ∧
      Clean policy.literalFault? .dependencies inputs.dependencies := by
  simp only [fault?_eq_or, Option.or_eq_none_iff, findSome?_eq_none_iff_clean, and_assoc]

end Inputs

theorem Publication.build_stops_at_first_fault (policy : Policy) (inputs : Inputs) :
    ((∃ p, (build policy inputs).result = .ok p) ↔
      Clean policy.literalFault? .enforcedImports inputs.enforcedImports ∧
      Clean policy.setFault? .dependencySets inputs.dependencySets ∧
      Clean policy.literalFault? .dependencies inputs.dependencies) ∧
    ∀ e, ((build policy inputs).result = .error e) ↔
      FirstFault policy.literalFault? .enforcedImports inputs.enforcedImports e ∨
      (Clean policy.literalFault? .enforcedImports inputs.enforcedImports ∧
        FirstFault policy.setFault? .dependencySets inputs.dependencySets e) ∨
      (Clean policy.literalFault? .enforcedImports inputs.enforcedImports ∧
        Clean policy.setFault? .dependencySets inputs.dependencySets ∧
        FirstFault policy.literalFault? .dependencies inputs.dependencies e) := by
  constructor
  case left =>
    rw [←Inputs.fault?_eq_none_iff]
    simp [build_eq_ok_iff]
  case right =>
    intro e
    simp only [build_eq_error_iff, Inputs.fault?_eq_or, Option.or_eq_some_iff,
      Option.or_eq_none_iff, findSome?_eq_none_iff_clean, findSome?_eq_some_iff_firstFault,
      or_assoc, and_assoc]

end PlatformCatalog
