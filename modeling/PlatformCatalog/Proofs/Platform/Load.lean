import PlatformCatalog.Platform
import PlatformCatalog.Proofs.Build.Policies
import PlatformCatalog.Proofs.Logged

namespace PlatformCatalog

variable {files : FileView} {settings : Settings} {path : Path} {denyDynamic : Bool}
variable {m : Manifest} {inputs : Inputs} {p : Platform} {policy : Policy}

namespace Manifest

theorem build_eq_ok_iff {out : Publication} :
    ((m.build policy).result = .ok out) ↔
      (∃ inputs, m.resolve = .ok inputs ∧ (Publication.build policy inputs).result = .ok out) := by
  simp only [build, Logged.result_bind, Logged.result_ofExcept, Logged.result_lift, bind_eq_ok_iff,
    mapError_eq_ok_iff]

end Manifest

namespace Publication

structure Fixed (out : Publication) : Prop where
  imports     : ∀ c ∈ out.imports, isDynamicVersion c.version = false
  constraints : ∀ c ∈ out.constraints, isDynamicVersion c.version = false
  catalog     : ∀ e ∈ out.catalog.entries, isDynamicVersion e.2 = false

theorem fixed_iff {out : Publication} (h : (build policy inputs).result = .ok out) :
    out.Fixed ↔ (∀ c ∈ out.imports ++ out.constraints, isDynamicVersion c.version = false) := by
  have ⟨_, ho⟩ := build_eq_ok_iff.mp h
  constructor
  case mp => exact fun hf => List.forall_mem_append.mpr ⟨hf.imports, hf.constraints⟩
  case mpr =>
    intro hf
    have ⟨hi, hc⟩ := List.forall_mem_append.mp hf
    refine ⟨hi, hc, fun (group, version) he => ?_⟩
    subst ho
    have hs := VersionTable.summarizes_ofCoordinates
      (inputs.published.imports ++ inputs.published.constraints)
    have ⟨before, c, after, hcs, _, hv, _⟩ := (hs.last group version).mp ((hs.listed _ _).mp he)
    rw [←hv]
    exact hf c (by simp [hcs])

end Publication

namespace Platform

theorem load_eq_ok_iff :
    ((load files settings path denyDynamic).result = .ok p) ↔
      ((Manifest.load files path).result = .ok p.manifest ∧
        (p.manifest.build (.ofDeny (denyDynamic || settings.catalog.denyDynamic))).result =
          .ok p.publication ∧ p.manifestPath = path) := by
  simp only [load, Logged.result_bind, Logged.result_pure, bind_eq_ok_iff]
  constructor
  case mp =>
    rintro ⟨m, hm, out, ho, hp⟩
    cases hp
    exact ⟨hm, ho, rfl⟩
  case mpr =>
    rintro ⟨hm, ho, rfl⟩
    exact ⟨p.manifest, hm, p.publication, ho, rfl⟩

theorem result_load_of_resolve (hm : (Manifest.load files path).result = .ok m)
    (hi : m.resolve = .ok inputs) (settings : Settings) (denyDynamic : Bool) :
    (load files settings path denyDynamic).result =
      ((Publication.build (.ofDeny (denyDynamic || settings.catalog.denyDynamic)) inputs).result
        |>.mapError .faultyEntry |>.map fun out => ⟨path, m, out⟩) := by
  simp only [load, Manifest.build, Logged.result_bind, Logged.result_ofExcept, Logged.result_lift,
    hm, hi, ok_bind]
  cases (Publication.build _ inputs).result <;> rfl

theorem load_strict_eq_ok_iff :
    ((load files settings path true).result = .ok p) ↔
      ((load files settings path false).result = .ok p ∧ p.publication.Fixed) := by
  have hs (inputs : Inputs) := Publication.build_strict_eq_ok_iff_of_policy
    (.ofDeny (false || settings.catalog.denyDynamic)) inputs p.publication
  simp only [load_eq_ok_iff, Manifest.build_eq_ok_iff]
  constructor
  case mp =>
    rintro ⟨hm, ⟨inputs, hi, ho⟩, hp⟩
    have ⟨ho, hf⟩ := (hs inputs).mp ho
    exact ⟨⟨hm, ⟨inputs, hi, ho⟩, hp⟩, (Publication.fixed_iff ho).mpr hf⟩
  case mpr =>
    rintro ⟨⟨hm, ⟨inputs, hi, ho⟩, hp⟩, hf⟩
    have hf := (Publication.fixed_iff ho).mp hf
    exact ⟨hm, ⟨inputs, hi, (hs inputs).mpr ⟨ho, hf⟩⟩, hp⟩

theorem eq_dynamicVersion_of_load_strict {e : Failure}
    (h : (load files settings path false).result = .ok p)
    (he : (load files settings path true).result = .error e) :
    ∃ literal place, e = .faultyEntry (.dynamicVersion literal place) := by
  have ⟨hm, ho, _⟩ := load_eq_ok_iff.mp h
  have ⟨inputs, hi, ho⟩ := Manifest.build_eq_ok_iff.mp ho
  have hl := result_load_of_resolve hm hi settings true
  rw [he, Bool.true_or] at hl
  cases Publication.build_strict_of_ok ho
  case inl hs =>
    rw [Policy.ofDeny, if_pos rfl, hs] at hl
    cases hl
  case inr hs =>
    obtain ⟨literal, place, hs⟩ := hs
    rw [Policy.ofDeny, if_pos rfl, hs] at hl
    cases hl
    exact ⟨literal, place, rfl⟩

end Platform
end PlatformCatalog
