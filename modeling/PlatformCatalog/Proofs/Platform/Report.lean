import PlatformCatalog.Proofs.Build.Contents
import PlatformCatalog.Proofs.Build.SpelledOut
import PlatformCatalog.Proofs.Platform.Export

namespace PlatformCatalog

variable {policy : Policy} {inputs : Inputs} {out : Publication} {p : Platform}

namespace Coordinate

variable {c : Coordinate} {cs : List Coordinate}

theorem WellFormed.parse_text (h : c.WellFormed) : parse c.text = .ok c :=
  parse_text_eq_ok_iff.mpr ⟨rfl, h⟩

theorem ofValue_toValue (c : Coordinate) :
    ofValue c.toValue = (parse c.text).mapError fun e => .refused e.message := by
  have hs : c.toValue.toString? = .ok c.text := rfl
  simp only [ofValue, hs, ok_bind]
  cases parse c.text <;> rfl

theorem WellFormed.ofValue_toValue (h : c.WellFormed) : ofValue c.toValue = .ok c := by
  rw [Coordinate.ofValue_toValue, h.parse_text]
  rfl

theorem parse?_compact (c : Coordinate) : Json.parse? (Json.compact c.toValue) = some c.toValue := by
  have ht : Json.Textual Json.maxDepth c.toValue := .string
  have hp := ht.parse?_chars .compact (List.forall_mem_nil _)
  rwa [List.append_nil] at hp

theorem mapM_parse_text (h : ∀ c ∈ cs, c.WellFormed) : (cs.map text).mapM parse = .ok cs := by
  induction cs
  case nil => rfl
  case cons c cs hi =>
    have ⟨hc, hcs⟩ := List.forall_mem_cons.mp h
    rw [List.map_cons, List.mapM_cons, hc.parse_text, ok_bind, hi hcs]
    rfl

end Coordinate

-- The sets are checked field by field, and all else has been read from a text.
theorem Publication.wellFormed_of_build (h : (build policy inputs).result = .ok out) :
    ∀ c ∈ out.imports ++ out.constraints, c.WellFormed := by
  have ⟨hf, ho⟩ := build_eq_ok_iff.mp h
  have ⟨_, hs, _⟩ := Inputs.fault?_eq_none_iff.mp hf
  have hs := clean_sets_iff.mp hs
  subst ho
  intro c hc
  simp only [Inputs.published, List.mem_append, List.mem_flatMap] at hc
  obtain ⟨_, _, hc⟩ | ⟨s, hm, hc⟩ | ⟨_, _, hc⟩ := hc
  case inl => exact Entry.wellFormed_of_mem_parts hc
  case inr.inl => exact (DependencySet.publishable_iff.mp (hs s hm).left).left c hc
  case inr.inr => exact Entry.wellFormed_of_mem_parts hc

namespace Platform

theorem textual_toValue (p : Platform) : Json.Textual Json.maxDepth p.toValue := by
  have ht (cs : List Coordinate) :
      Json.Textual 127 (.array (cs.map fun c => .string c.text)) := by
    apply Json.Textual.array
    rw [List.forall_mem_map]
    exact fun c _ => .string
  have hk : (("name", .string p.name) :: p.publication.fields).map Prod.fst =
    ["name", "ordered_imports", "constraints", "catalog"] := rfl
  apply Json.Textual.table
  case hk =>
    rw [hk]
    decide
  case h =>
    simp only [Publication.fields, List.forall_mem_cons]
    exact ⟨.string, ht _, ht _, p.publication.catalog.textual_toValue 125, nofun⟩

theorem parse?_report (color : Bool) (p : Platform) :
    Json.parse? (p.report color .json) = some p.toValue := by
  have hb : ∀ c ∈ ['\n'], Json.isBlank c = true := by simp [Json.isBlank]
  have hp := p.textual_toValue.parse?_chars .pretty hb
  rwa [String.ofList_append] at hp

theorem published_reads_back :
    (∀ (policy : Policy) (inputs : Inputs) (out : Publication),
      (Publication.build policy inputs).result = .ok out →
      ∀ c ∈ out.imports ++ out.constraints,
        c.WellFormed ∧ Json.parse? (Json.compact c.toValue) = some c.toValue ∧
        Coordinate.ofValue c.toValue = .ok c) ∧
    ∀ (files : FileView) (settings : Settings) (path : Path) (denyDynamic color : Bool)
      (p : Platform), (load files settings path denyDynamic).result = .ok p →
      ∃ (imports constraints : List String) (catalog : Value),
        Json.parse? (p.report color .json) = some (.table [("name", .string p.name),
          ("ordered_imports", .array (imports.map .string)),
          ("constraints", .array (constraints.map .string)), ("catalog", catalog)]) ∧
        imports.mapM Coordinate.parse = .ok p.publication.imports ∧
        constraints.mapM Coordinate.parse = .ok p.publication.constraints ∧
        catalog.toVersionTable? = .ok p.publication.catalog := by
  constructor
  case left =>
    intro policy inputs out h c hc
    have hw := Publication.wellFormed_of_build h c hc
    exact ⟨hw, c.parse?_compact, hw.ofValue_toValue⟩
  case right =>
    intro files settings path denyDynamic color p h
    have ⟨_, ho, _⟩ := load_eq_ok_iff.mp h
    have ⟨inputs, _, ho⟩ := Manifest.build_eq_ok_iff.mp ho
    have hw := List.forall_mem_append.mp (Publication.wellFormed_of_build ho)
    refine ⟨p.publication.imports.map Coordinate.text,
      p.publication.constraints.map Coordinate.text, p.publication.catalog.toValue, ?_,
      Coordinate.mapM_parse_text hw.left, Coordinate.mapM_parse_text hw.right,
      p.publication.catalog.toVersionTable?_toValue⟩
    rw [parse?_report, List.map_map, List.map_map]
    rfl

theorem published_reads_back_quoting :
    (Coordinate.ofValue (Coordinate.toValue ⟨"grpc", "core", "1.2"⟩) = .ok ⟨"grpc", "core", "1.2"⟩) ∧
    ∃ p, (load Workspace.quoting.view {} (.ofString "lib/Platform.toml") false).result = .ok p ∧
      p.publication.constraints = [⟨"\"\\\x01é", "a", "1.+"⟩] ∧
      ∃ (imports constraints : List String) (catalog : Value),
        Json.parse? (p.report false .json) = some (.table [("name", .string p.name),
          ("ordered_imports", .array (imports.map .string)),
          ("constraints", .array (constraints.map .string)), ("catalog", catalog)]) ∧
        constraints.mapM Coordinate.parse = .ok p.publication.constraints ∧
        catalog.toVersionTable? = .ok p.publication.catalog := by
  have ho : (Publication.build .permissive Publication.overriding).result =
    .ok Publication.overriding.published := by decide +kernel
  have ⟨hb, hl⟩ := published_reads_back
  have ⟨_, _, hv⟩ := hb _ _ _ ho ⟨"grpc", "core", "1.2"⟩ (by decide +kernel)
  refine ⟨hv, ?_⟩
  have hc : (load Workspace.quoting.view {} (.ofString "lib/Platform.toml") false).result.map
    (fun p => p.publication.constraints) = .ok [⟨"\"\\\x01é", "a", "1.+"⟩] := by decide +kernel
  cases h : (load Workspace.quoting.view {} (.ofString "lib/Platform.toml") false).result
  case error e =>
    rw [h] at hc
    cases hc
  case ok p =>
    rw [h] at hc
    have ⟨imports, constraints, catalog, hp, _, hr, ht⟩ := hl _ _ _ _ false p h
    exact ⟨p, rfl, Except.ok.inj hc, imports, constraints, catalog, hp, hr, ht⟩

end Platform
end PlatformCatalog
