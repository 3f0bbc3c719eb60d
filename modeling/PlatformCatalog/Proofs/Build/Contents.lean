import PlatformCatalog.Proofs.Build.FirstFault

namespace PlatformCatalog

variable {policy : Policy} {inputs : Inputs} {p : Publication} {list : ListName} {place : Place}

theorem Policy.exists_parse_eq_ok {s : String} (h : policy.literalFault? place s = none) :
    ∃ c, Coordinate.parse s = .ok c := by
  cases hp : Coordinate.parse s
  case error => simp [literalFault?, hp] at h
  case ok c => exact ⟨c, rfl⟩

theorem Clean.map_text_parts {l : List String} (h : Clean policy.literalFault? list l) :
    (l.flatMap fun s => (Entry.literal s).parts).map Coordinate.text = l := by
  have h : ∀ s ∈ l, (Entry.literal s).parts.map Coordinate.text = [s] := by
    intro s hs
    have ⟨_, hv⟩ := h.exists_verdict hs
    have ⟨c, hc⟩ := Policy.exists_parse_eq_ok hv
    simp [Entry.parts, hc, Except.toOption, Coordinate.text_of_parse hc]
  rw [List.map_flatMap, List.flatMap_congr h, List.flatMap_singleton']

namespace Publication

theorem build_contents (h : (build policy inputs).result = .ok p) :
    (p.imports.map Coordinate.text = inputs.enforcedImports) ∧
    (∃ singles : List Coordinate,
      p.constraints = (inputs.dependencySets.flatMap fun s =>
        s.modules.map fun m => ⟨s.group, m, s.version⟩) ++ singles ∧
      singles.map Coordinate.text = inputs.dependencies) ∧
    p.catalog.Summarizes (p.imports ++ p.constraints) := by
  have ⟨hf, hp⟩ := build_eq_ok_iff.mp h
  have ⟨hi, _, hd⟩ := Inputs.fault?_eq_none_iff.mp hf
  subst hp
  refine ⟨?imports, ?constraints, ?catalog⟩
  case imports => exact hi.map_text_parts
  case constraints => exact ⟨_, rfl, hd.map_text_parts⟩
  case catalog => exact VersionTable.summarizes_ofCoordinates _

def overriding : Inputs where
  enforcedImports := ["grpc:bom:1.0", "junit:bom:5.+"]
  dependencySets := [⟨"grpc", "1.2", ["core", "api"]⟩, ⟨"guava", "33", ["guava"]⟩]
  dependencies := ["guava:guava:32"]

theorem build_contents_overriding :
    ∃ p, (build .permissive overriding).result = .ok p ∧
      p.imports.map Coordinate.text = overriding.enforcedImports ∧
      p.catalog.entries = [("grpc", "1.2"), ("guava", "32"), ("junit", "5.+")] ∧
      p.catalog.Summarizes (p.imports ++ p.constraints) := by
  have h : (build .permissive overriding).result = .ok overriding.published := by decide +kernel
  have ⟨hi, _, hc⟩ := build_contents h
  exact ⟨overriding.published, h, hi, by decide +kernel, hc⟩

end Publication
end PlatformCatalog
