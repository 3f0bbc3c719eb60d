import Mathlib.Data.List.Find
import PlatformCatalog.Proofs.Resolution

namespace PlatformCatalog

open Reference

theorem Reference.Reading.filled_congr {lookup lookup' : String → Option String} {r : Reading}
    (h : ∀ key ∈ r.keys, lookup key = lookup' key) : r.filled lookup = r.filled lookup' := by
  have ⟨xs, t⟩ := r
  induction xs
  case nil => rfl
  case cons x xs hi =>
    have ⟨hx, hxs⟩ := List.forall_mem_cons.mp h
    have hf : filled lookup ⟨xs, t⟩ = filled lookup' ⟨xs, t⟩ := hi hxs
    simp only [filled, List.foldr_cons] at hf ⊢
    rw [hf, hx]

namespace Manifest

variable {m : Manifest} {versions : VersionTable} {key : String}

def Refers (m : Manifest) (key : String) : Prop :=
  ∃ e ∈ m.texts, ∃ r : Reading, r.Proper ∧ r.text = e.2 ∧ key ∈ r.keys

theorem refers_iff : (m.Refers key) ↔ (∃ place, (place, key) ∈ m.references) := by
  simp only [references, List.mem_flatMap, referencesIn, List.mem_map, Prod.mk.injEq]
  constructor
  case mp =>
    rintro ⟨e, he, r, hp, ht, hk⟩
    have hr : r = Reading.of e.2 :=
      hp.eq_of_text_eq (Reading.proper_of e.2) (ht.trans (Reading.text_of e.2).symm)
    exact ⟨e.1, e, he, key, hr ▸ hk, rfl, rfl⟩
  case mpr =>
    rintro ⟨_, e, he, _, hk, _, rfl⟩
    exact ⟨e, he, _, Reading.proper_of e.2, Reading.text_of e.2, hk⟩

def withVersions (m : Manifest) (versions : VersionTable) : Manifest :=
  { m with versions }

-- The versions agree wherever the manifest refers to them.
def Agrees (m : Manifest) (versions : VersionTable) : Prop :=
  ∀ key, m.Refers key → versions.get? key = m.versions.get? key

theorem Agrees.unknown? (h : m.Agrees versions) :
    (m.withVersions versions).unknown? m.references = m.unknown? m.references := by
  apply congrArg (Option.map _)
  apply List.find?_congr
  intro r hr
  have hv : versions.get? r.2 = m.versions.get? r.2 := h r.2 (refers_iff.mpr ⟨r.1, hr⟩)
  rw [withVersions, hv]

theorem Agrees.resolved (h : m.Agrees versions) :
    (m.withVersions versions).resolved = m.resolved := by
  apply resolved_eq (f := m.filled)
  intro e he
  apply Reading.filled_congr
  intro key hk
  exact h key ⟨e, he, _, Reading.proper_of e.2, Reading.text_of e.2, hk⟩

structure SameOutcome (m m' : Manifest) : Prop where
  resolve : m'.resolve = m.resolve
  build   : ∀ policy, m'.build policy = m.build policy

theorem SameOutcome.of_resolve {m' : Manifest} (h : m'.resolve = m.resolve) : m.SameOutcome m' where
  resolve := h
  build policy := by rw [Manifest.build, Manifest.build, h]

theorem Agrees.sameOutcome (h : m.Agrees versions) : m.SameOutcome (m.withVersions versions) := by
  apply SameOutcome.of_resolve
  have hr : (m.withVersions versions).references = m.references := rfl
  rw [resolve_eq, resolve_eq, hr, h.unknown?, h.resolved]

-- In particular, a version that is not referred to can be added, changed or taken away, and a table
-- that is enough to resolve a manifest can be extended.
theorem only_referenced_versions_count (m : Manifest) (versions : VersionTable) :
    (m.Agrees versions → m.SameOutcome (m.withVersions versions)) ∧
    (∀ key, ¬m.Refers key → (∀ other ≠ key, versions.get? other = m.versions.get? other) →
      m.SameOutcome (m.withVersions versions)) ∧
    (∀ inputs, m.resolve = .ok inputs →
      (∀ key version, m.versions.get? key = some version → versions.get? key = some version) →
      (m.withVersions versions).resolve = .ok inputs) := by
  refine ⟨Agrees.sameOutcome, ?edited, ?extended⟩
  case edited =>
    intro key hn ho
    apply Agrees.sameOutcome
    intro other hr
    exact ho other fun he => hn (he ▸ hr)
  case extended =>
    intro inputs h he
    have ha : m.Agrees versions := by
      intro key hr
      have ⟨place, hr⟩ := refers_iff.mp hr
      have ⟨version, hv⟩ := Option.isSome_iff_exists.mp ((resolve_eq_ok_iff.mp h).left _ hr)
      rw [hv, he key version hv]
    exact ha.sameOutcome.resolve.trans h

-- The only reference has a key that looks as if it held another one, and `c` has no closing brace.
def entangled : Manifest where
  platform := ⟨"p", none⟩
  versions := .ofList [("a$\x7bb", "1"), ("c", "9")]
  enforcedImports := ["g:a:$\x7ba$\x7bb\x7d"]
  dependencySets := [⟨"$\x7ba\x7d", "1$\x7bc", ["$\x7bb\x7d"]⟩]
  dependencies := []

def disentangled : Inputs where
  enforcedImports := ["g:a:1"]
  dependencySets := [⟨"$\x7ba\x7d", "1$\x7bc", ["$\x7bb\x7d"]⟩]
  dependencies := []

theorem refers_entangled_iff : (entangled.Refers key) ↔ (key = "a$\x7bb") := by
  have hr : entangled.references = [(⟨.enforcedImports, 0⟩, "a$\x7bb")] := by decide +kernel
  simp [refers_iff, hr]

theorem only_referenced_versions_count_entangled :
    let others := VersionTable.ofList [("a$\x7bb", "1"), ("a", "2"), ("b", "3")]
    let more := entangled.versions.insert "b" "3"
    let published : Publication := {
      imports := [⟨"g", "a", "1"⟩]
      constraints := [⟨"$\x7ba\x7d", "$\x7bb\x7d", "1$\x7bc"⟩]
      catalog := .ofList [("g", "1"), ("$\x7ba\x7d", "1$\x7bc")] }
    entangled.resolve = .ok disentangled ∧
    (entangled.Agrees others ∧ entangled.SameOutcome (entangled.withVersions others)) ∧
    (¬entangled.Refers "b" ∧ entangled.SameOutcome (entangled.withVersions more)) ∧
    (entangled.withVersions more).resolve = .ok disentangled ∧
    (entangled.build .strict).result = .ok published ∧
      ((entangled.withVersions others).build .strict).result = .ok published ∧
      ((entangled.withVersions more).build .strict).result = .ok published := by
  intro others more published
  have h : entangled.resolve = .ok disentangled := by decide +kernel
  have ha : entangled.Agrees others := by
    intro key hk
    rw [refers_entangled_iff.mp hk]
    decide +kernel
  have hb : ¬entangled.Refers "b" := fun hr => absurd (refers_entangled_iff.mp hr) (by decide)
  have hm : ∀ other ≠ "b", more.get? other = entangled.versions.get? other :=
    fun other ho => VersionTable.get?_insert_of_ne _ _ ho
  have ⟨hs, _, _⟩ := only_referenced_versions_count entangled others
  have ⟨_, hi, he⟩ := only_referenced_versions_count entangled more
  have hp : (entangled.build .strict).result = .ok published := by decide +kernel
  refine ⟨h, ⟨ha, hs ha⟩, ⟨hb, hi "b" hb hm⟩, he _ h ?_, hp, ?others, ?more⟩
  case others => rw [(hs ha).build, hp]
  case more => rw [(hi "b" hb hm).build, hp]
  intro key version hv
  have hn : key ≠ "b" := by
    intro hk
    have h₀ : entangled.versions.get? "b" = none := by decide +kernel
    cases h₀.symm.trans (hk ▸ hv)
  rw [hm key hn, hv]

end Manifest
end PlatformCatalog
