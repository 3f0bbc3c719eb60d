import PlatformCatalog.Proofs.Build.FirstFault
import PlatformCatalog.Proofs.DependencySet

namespace PlatformCatalog

variable {policy : Policy} {inputs : Inputs} {p : Publication} {list : ListName} {place : Place}
variable {s : DependencySet} {c : Coordinate}

namespace Policy

def Admits (policy : Policy) (text : String) : Prop :=
  ∃ c, Coordinate.parse text = .ok c ∧ policy.refuses c.version = false

theorem literalFault?_eq_none_iff {text : String} :
    (policy.literalFault? place text = none) ↔ (policy.Admits text) := by
  cases hp : Coordinate.parse text
  case error reason => simp [literalFault?, Admits, hp]
  case ok c => simp [literalFault?, Admits, hp]

theorem setFault?_eq_none_iff :
    (policy.setFault? place s = none) ↔ (s.Publishable ∧ policy.refuses s.version = false) := by
  rw [←DependencySet.defect?_eq_none_iff]
  cases hd : s.defect?
  case some defect => simp [setFault?, hd]
  case none =>
    obtain ⟨m, ms, hm⟩ := List.exists_cons_of_ne_nil (DependencySet.modules_ne_nil hd)
    simp [setFault?, hd, hm]

theorem admits_text_iff :
    (policy.Admits c.text) ↔ (c.WellFormed ∧ policy.refuses c.version = false) := by
  constructor
  case mp =>
    intro ⟨d, hp, hr⟩
    have ⟨hd, hw⟩ := Coordinate.parse_text_eq_ok_iff.mp hp
    exact ⟨hw, hd ▸ hr⟩
  case mpr =>
    intro ⟨hw, hr⟩
    exact ⟨c, Coordinate.parse_text_eq_ok_iff.mpr ⟨rfl, hw⟩, hr⟩

-- A set is clean exactly if it could be written out, except for what only sets can get wrong.
theorem publishable_iff_admits :
    (s.Publishable ∧ policy.refuses s.version = false) ↔
      ((∀ c ∈ s.coordinates, policy.Admits c.text) ∧ s.modules ≠ [] ∧ s.modules.Nodup) := by
  have hv : ∀ c ∈ s.coordinates, c.version = s.version := by simp [DependencySet.coordinates]
  simp only [DependencySet.publishable_iff, admits_text_iff]
  constructor
  case mp =>
    rintro ⟨⟨hw, hm⟩, hr⟩
    exact ⟨fun c hc => ⟨hw c hc, hv c hc ▸ hr⟩, hm⟩
  case mpr =>
    rintro ⟨hw, hm⟩
    obtain ⟨c, hc⟩ : ∃ c, c ∈ s.coordinates := by
      simpa [DependencySet.coordinates] using List.exists_mem_of_ne_nil _ hm.left
    exact ⟨⟨fun c hc => (hw c hc).left, hm⟩, hv c hc ▸ (hw c hc).right⟩

end Policy

theorem clean_literals_iff {l : List String} :
    (Clean policy.literalFault? list l) ↔ (∀ t ∈ l, policy.Admits t) :=
  clean_iff_forall_mem fun _ _ => Policy.literalFault?_eq_none_iff

theorem clean_sets_iff {l : List DependencySet} :
    (Clean policy.setFault? list l) ↔
      (∀ s ∈ l, s.Publishable ∧ policy.refuses s.version = false) :=
  clean_iff_forall_mem fun _ _ => Policy.setFault?_eq_none_iff

theorem Entry.wellFormed_of_mem_parts {s : String} {c : Coordinate}
    (h : c ∈ (Entry.literal s).parts) : c.WellFormed := by
  cases hp : Coordinate.parse s
  case error => simp [parts, hp, Except.toOption] at h
  case ok d =>
    simp [parts, hp, Except.toOption] at h
    exact h ▸ Coordinate.wellFormed_of_parse hp

theorem Entry.flatMap_parts_text {cs : List Coordinate} (h : ∀ c ∈ cs, c.WellFormed) :
    (cs.map Coordinate.text).flatMap (fun t => (Entry.literal t).parts) = cs := by
  have h : ∀ c ∈ cs, (Entry.literal c.text).parts = [c] := by
    intro c hc
    have hp := Coordinate.parse_text_eq_ok_iff.mpr ⟨rfl, h c hc⟩
    simp [parts, hp, Except.toOption]
  rw [List.flatMap_map, List.flatMap_congr h, List.flatMap_singleton']

namespace Inputs

def setTexts (inputs : Inputs) : List String :=
  inputs.dependencySets.flatMap fun s =>
    s.modules.map fun m => s.group ++ ":" ++ m ++ ":" ++ s.version

def spelledOut (inputs : Inputs) : Inputs where
  enforcedImports := inputs.enforcedImports
  dependencySets := []
  dependencies := inputs.setTexts ++ inputs.dependencies

theorem setTexts_eq (inputs : Inputs) :
    inputs.setTexts =
      (inputs.dependencySets.flatMap DependencySet.coordinates).map Coordinate.text := by
  simp [setTexts, DependencySet.coordinates, Coordinate.text, List.map_flatMap, Function.comp_def]

theorem forall_mem_setTexts {P : String → Prop} :
    (∀ t ∈ inputs.setTexts, P t) ↔
      (∀ s ∈ inputs.dependencySets, ∀ c ∈ s.coordinates, P c.text) := by
  rw [setTexts_eq, List.forall_mem_map]
  simp only [List.mem_flatMap]
  exact ⟨fun h s hs c hc => h c ⟨s, hs, hc⟩, fun h c ⟨s, hs, hc⟩ => h s hs c hc⟩

theorem fault?_eq_none_iff_spelledOut (policy : Policy) (inputs : Inputs) :
    (inputs.fault? policy = none) ↔
      (inputs.spelledOut.fault? policy = none ∧
        ∀ s ∈ inputs.dependencySets, s.modules ≠ [] ∧ s.modules.Nodup) := by
  simp only [fault?_eq_none_iff, clean_literals_iff, clean_sets_iff, Policy.publishable_iff_admits,
    spelledOut, List.forall_mem_append, forall_mem_setTexts]
  constructor
  case mp =>
    intro ⟨hi, hs, hd⟩
    exact ⟨⟨hi, by simp, fun s h => (hs s h).left, hd⟩, fun s h => (hs s h).right⟩
  case mpr =>
    intro ⟨⟨hi, _, hs, hd⟩, hm⟩
    exact ⟨hi, fun s h => ⟨hs s h, hm s h⟩, hd⟩

theorem published_spelledOut (h : inputs.spelledOut.fault? policy = none) :
    inputs.spelledOut.published = inputs.published := by
  have ⟨_, _, hd⟩ := fault?_eq_none_iff.mp h
  have hs := (List.forall_mem_append.mp (clean_literals_iff.mp hd)).left
  have hw : ∀ c ∈ inputs.dependencySets.flatMap DependencySet.coordinates, c.WellFormed := by
    rw [setTexts_eq, List.forall_mem_map] at hs
    exact fun c hc => (Policy.admits_text_iff.mp (hs c hc)).left
  have hp := Entry.flatMap_parts_text hw
  rw [←setTexts_eq] at hp
  simp [published, spelledOut, hp]

end Inputs

namespace Publication

theorem build_eq_ok_iff_spelledOut (policy : Policy) (inputs : Inputs) (p : Publication) :
    ((build policy inputs).result = .ok p) ↔
      ((build policy inputs.spelledOut).result = .ok p ∧
        ∀ s ∈ inputs.dependencySets, s.modules ≠ [] ∧ s.modules.Nodup) := by
  simp only [build_eq_ok_iff, Inputs.fault?_eq_none_iff_spelledOut policy inputs]
  constructor
  case mp =>
    intro ⟨⟨hf, hm⟩, hp⟩
    exact ⟨⟨hf, hp.trans (Inputs.published_spelledOut hf).symm⟩, hm⟩
  case mpr =>
    intro ⟨⟨hf, hp⟩, hm⟩
    exact ⟨⟨hf, hm⟩, hp.trans (Inputs.published_spelledOut hf)⟩

def shorthand : Inputs where
  enforcedImports := ["grpc:bom:1.0"]
  dependencySets := [⟨"grpc", "1.2", ["core", "api"]⟩]
  dependencies := ["guava:guava:32"]

def repetitive : Inputs where
  enforcedImports := []
  dependencySets := [⟨"grpc", "1.2", ["core", "core"]⟩]
  dependencies := []

theorem build_eq_ok_iff_spelledOut_shorthand :
    let p : Publication := {
      imports := [⟨"grpc", "bom", "1.0"⟩]
      constraints := [⟨"grpc", "core", "1.2"⟩, ⟨"grpc", "api", "1.2"⟩, ⟨"guava", "guava", "32"⟩]
      catalog := .ofList [("grpc", "1.2"), ("guava", "32")] }
    (shorthand.spelledOut.dependencies = ["grpc:core:1.2", "grpc:api:1.2", "guava:guava:32"] ∧
      (build .strict shorthand).result = .ok p ∧
      (build .strict shorthand.spelledOut).result = .ok p) ∧
    (build .strict repetitive.spelledOut).result.isOk = true ∧
      ∀ q, (build .strict repetitive).result ≠ .ok q := by
  intro p
  have hs : (build .strict shorthand).result = .ok p := by decide +kernel
  have hl := ((build_eq_ok_iff_spelledOut .strict shorthand p).mp hs).left
  refine ⟨⟨by decide +kernel, hs, hl⟩, by decide +kernel, ?_⟩
  intro q hq
  have hm := ((build_eq_ok_iff_spelledOut .strict repetitive q).mp hq).right
  exact absurd (hm _ (.head _)).right (by decide)

end Publication
end PlatformCatalog
