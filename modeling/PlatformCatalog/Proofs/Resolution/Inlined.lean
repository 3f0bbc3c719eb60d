import PlatformCatalog.Proofs.Resolution

namespace PlatformCatalog

namespace Reference

variable {s t : List Char}

-- A version that neither holds an opening nor makes one with the text around it. A closing brace
-- does no harm, since the openings that are left come after it.
def Inert (version : String) : Prop :=
  version ≠ "" ∧ '$' ∉ version.toList ∧ '\x7b' ∉ version.toList

instance (version : String) : Decidable (Inert version) :=
  inferInstanceAs (Decidable (_ ∧ _ ∧ _))

theorem Inert.prepend {version : String} (h : Inert version) (hs : ¬opening <:+: s)
    (ht : Incomplete t) : Incomplete (s ++ version.toList ++ t) := by
  have ⟨hne, hd, hb⟩ := h
  have hn : ¬opening <:+: version.toList := fun ho => hd (ho.subset (.head _))
  refine ht.prepend (not_infix_append hs hn fun _ hh => hb (List.mem_of_head? hh)) ?_
  rw [List.getLast?_append_of_ne_nil _ (by simpa using hne)]
  exact fun hl => absurd (List.mem_of_getLast? hl) hd

namespace Reading

variable {lookup : String → Option String} {r : Reading}

theorem Proper.incomplete_filled (h : r.Proper)
    (hk : ∀ x ∈ r.segments, ∃ version, lookup x.key = some version ∧ Inert version) :
    Incomplete (r.filled lookup).toList := by
  have ⟨xs, t⟩ := r
  induction xs
  case nil => exact h.tail
  case cons x xs hi =>
    have ⟨version, hv, hn⟩ := hk x (.head _)
    have hr : Incomplete (filled lookup ⟨xs, t⟩).toList :=
      hi h.of_cons fun y hy => hk y (.tail _ hy)
    have hf : (filled lookup ⟨x :: xs, t⟩).toList =
        x.literal.toList ++ version.toList ++ (filled lookup ⟨xs, t⟩).toList := by
      simp [filled, hv]
    rw [hf]
    exact hn.prepend (h.literals x (.head _)) hr

theorem of_incomplete {s : String} (h : Incomplete s.toList) : of s = ⟨[], s⟩ := by
  rw [of, ofChars_of_none (next?_eq_none_iff.mpr h), String.ofList_toList]

end Reading
end Reference

open Reference

namespace Manifest

variable {m : Manifest} {inputs : Inputs}

theorem resolve_of_incomplete (h : ∀ e ∈ m.texts, Incomplete e.2.toList) :
    m.resolve = .ok ⟨m.enforcedImports, m.dependencySets, m.dependencies⟩ := by
  apply resolve_eq_ok_iff.mpr
  constructor
  case left =>
    have hr : m.references = [] := by
      apply List.flatMap_eq_nil_iff.mpr
      intro e he
      rw [referencesIn, Reading.of_incomplete (h e he)]
      rfl
    simp [hr]
  case right =>
    have hf : ∀ e ∈ m.texts, m.filled e.2 = id e.2 := by
      intro e he
      rw [filled, Reading.of_incomplete (h e he)]
      rfl
    simp [resolved_eq hf]

def inlined (m : Manifest) (inputs : Inputs) (versions : VersionTable) : Manifest where
  platform := m.platform
  versions := versions
  enforcedImports := inputs.enforcedImports
  dependencySets := inputs.dependencySets
  dependencies := inputs.dependencies

theorem texts_inlined (m : Manifest) (versions : VersionTable) :
    (m.inlined m.resolved versions).texts = m.texts.map fun e => (e.1, m.filled e.2) := by
  simp [texts, inlined, resolved, filledSet, List.zipIdx_map, Function.comp_def]

theorem incomplete_filled (hv : ∀ e ∈ m.versions.entries, Inert e.2)
    (hk : ∀ r ∈ m.references, (m.versions.get? r.2).isSome) :
    ∀ e ∈ m.texts, Incomplete (m.filled e.2).toList := by
  intro e he
  apply (Reading.proper_of e.2).incomplete_filled
  intro x hx
  have hr : (e.1, x.key) ∈ m.references := by
    refine List.mem_flatMap.mpr ⟨e, he, ?_⟩
    exact List.mem_map_of_mem (List.mem_map_of_mem hx)
  have ⟨version, hg⟩ := Option.isSome_iff_exists.mp (hk _ hr)
  exact ⟨version, hg, hv _ (VersionTable.mem_entries_iff.mpr hg)⟩

theorem resolve_inlined (hv : ∀ e ∈ m.versions.entries, Inert e.2) (h : m.resolve = .ok inputs)
    (versions : VersionTable) :
    (∀ e ∈ (m.inlined inputs versions).texts, Incomplete e.2.toList) ∧
    (m.inlined inputs versions).resolve = .ok inputs ∧
    ∀ policy, (m.inlined inputs versions).build policy = m.build policy := by
  have ⟨hk, hi⟩ := resolve_eq_ok_iff.mp h
  have hc : ∀ e ∈ (m.inlined inputs versions).texts, Incomplete e.2.toList := by
    rw [hi, texts_inlined]
    exact List.forall_mem_map.mpr (incomplete_filled hv hk)
  have hr : (m.inlined inputs versions).resolve = .ok inputs := resolve_of_incomplete hc
  refine ⟨hc, hr, fun policy => ?_⟩
  rw [build, build, hr, h]

def seamed : Manifest where
  platform := ⟨"p", none⟩
  versions := .ofList [("v", "1")]
  enforcedImports := ["g:a:$\x7bv\x7d"]
  dependencySets := [⟨"g", "$$\x7bv\x7d\x7bv\x7d$\x7bv", ["m"]⟩]
  dependencies := ["g:\x7d$:$\x7bv\x7d$\x7bv\x7d$\x7b"]

def written : Inputs where
  enforcedImports := ["g:a:1"]
  dependencySets := [⟨"g", "$1\x7bv\x7d$\x7bv", ["m"]⟩]
  dependencies := ["g:\x7d$:11$\x7b"]

theorem resolve_inlined_seamed :
    let published : Publication := {
      imports := [⟨"g", "a", "1"⟩]
      constraints := [⟨"g", "m", "$1\x7bv\x7d$\x7bv"⟩, ⟨"g", "\x7d$", "11$\x7b"⟩]
      catalog := .ofList [("g", "11$\x7b")] }
    (∀ e ∈ seamed.versions.entries, Inert e.2) ∧ seamed.resolve = .ok written ∧
    (seamed.inlined written (.ofList [("v", "2"), ("w", "$\x7bv\x7d")])).resolve = .ok written ∧
    (seamed.inlined written .empty).build .strict = seamed.build .strict ∧
    (seamed.build .strict).result = .ok published ∧
      ((seamed.inlined written .empty).build .strict).result = .ok published := by
  intro published
  have hv : ∀ e ∈ seamed.versions.entries, Inert e.2 := by decide +kernel
  have h : seamed.resolve = .ok written := by decide +kernel
  have hb := (resolve_inlined hv h .empty).right.right .strict
  have hp : (seamed.build .strict).result = .ok published := by decide +kernel
  exact ⟨hv, h, (resolve_inlined hv h _).right.left, hb, hp, by rw [hb, hp]⟩

-- An empty version lets the dollar sign before it and the brace after it make a new reference.
example :
    let m : Manifest := ⟨⟨"p", none⟩, .ofList [("v", "")], [], [], ["g:a:$$\x7bv\x7d\x7bw\x7d"]⟩
    m.resolve = .ok ⟨[], [], ["g:a:$\x7bw\x7d"]⟩ ∧
      Manifest.resolve { m with dependencies := ["g:a:$\x7bw\x7d"] } =
        .error (.unknownReference "w" ⟨.dependencies, 0⟩) := by
  decide +kernel

end Manifest
end PlatformCatalog
