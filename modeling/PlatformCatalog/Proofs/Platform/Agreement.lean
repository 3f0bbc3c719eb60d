import PlatformCatalog.Proofs.Platform.Export

namespace PlatformCatalog

variable {w : Workspace} {settings : Settings} {manifest : Path} {group : String}
variable {format : Option Format} {output : Option Path} {p : Platform} {e : Failure}

namespace Platform

variable {files : FileView} {denyDynamic : Bool}

theorem result_reportOf (files : FileView) (settings : Settings) (manifest : Path)
    (format : Option Format) :
    (reportOf files settings manifest format).result =
      (load files settings manifest false).result.map fun p =>
        p.report false (format.getD settings.output.format) := by
  simp only [reportOf, Logged.result_bind]
  cases (load files settings manifest false).result <;> rfl

theorem result_check (files : FileView) (settings : Settings) (manifest : Path)
    (denyDynamic : Bool) :
    (check files settings manifest denyDynamic).result =
      (load files settings manifest denyDynamic).result.map summary := by
  simp only [check, Logged.result_bind]
  cases (load files settings manifest denyDynamic).result <;> rfl

theorem versionOf_of_error (h : (load files settings manifest false).result = .error e)
    (group : String) : (versionOf files settings manifest group).result = .error e := by
  simp only [versionOf, Logged.result_bind, h]
  rfl

theorem versionOf_of_get?_eq_some (h : (load files settings manifest false).result = .ok p)
    {v : String} (hg : p.publication.catalog.get? group = some v) :
    (versionOf files settings manifest group).result = .ok v := by
  simp only [versionOf, Logged.result_bind, h, ok_bind, hg]
  rfl

theorem versionOf_of_get?_eq_none (h : (load files settings manifest false).result = .ok p)
    (hg : p.publication.catalog.get? group = none) :
    (versionOf files settings manifest group).result = .error (.noVersion group p.name) := by
  simp only [versionOf, Logged.result_bind, h, ok_bind, hg]
  rfl

theorem versionOf_eq_ok_iff (h : (load files settings manifest false).result = .ok p)
    {v : String} :
    ((versionOf files settings manifest group).result = .ok v) ↔
      (p.publication.catalog.get? group = some v) := by
  cases hg : p.publication.catalog.get? group
  case none => simp [versionOf_of_get?_eq_none h hg]
  case some u => simp [versionOf_of_get?_eq_some h hg]

theorem check_strict_eq_ok_iff {s : Summary} :
    ((check files settings manifest true).result = .ok s) ↔
      (∃ p, (load files settings manifest false).result = .ok p ∧ p.publication.Fixed ∧
        s = p.summary) := by
  rw [result_check]
  cases hl : (load files settings manifest true).result
  case error e =>
    constructor
    case mp => intro h; cases h
    case mpr =>
      rintro ⟨p, hp, hf, _⟩
      rw [load_strict_eq_ok_iff.mpr ⟨hp, hf⟩] at hl
      cases hl
  case ok p =>
    have ⟨hp, hf⟩ := load_strict_eq_ok_iff.mp hl
    constructor
    case mp =>
      intro h
      cases h
      exact ⟨p, hp, hf, rfl⟩
    case mpr =>
      rintro ⟨q, hq, _, rfl⟩
      rw [hp] at hq
      cases hq
      rfl

end Platform

namespace Workspace

open Platform

structure AllFail (w : Workspace) (settings : Settings) (manifest : Path) (e : Failure) : Prop where
  report   : ∀ format, (reportOf w.view settings manifest format).result = .error e
  check    : (check w.view settings manifest false).result = .error e
  version  : ∀ group, (versionOf w.view settings manifest group).result = .error e
  exported : ∀ output, (w.exportCatalog settings manifest output).result = .error e

structure AllAnswer (w : Workspace) (settings : Settings) (manifest : Path) (p : Platform) :
    Prop where
  report : ∀ format, (reportOf w.view settings manifest format).result =
    .ok (p.report false (format.getD settings.output.format))
  check : (check w.view settings manifest false).result =
    .ok ⟨p.name, p.publication.imports.length, p.publication.constraints.length,
      p.publication.catalog.size⟩
  version : ∀ group v, ((versionOf w.view settings manifest group).result = .ok v) ↔
    (p.publication.catalog.get? group = some v)
  noVersion : ∀ group, p.publication.catalog.get? group = none →
    (versionOf w.view settings manifest group).result = .error (.noVersion group p.name) ∧
    (Failure.noVersion group p.name).parts =
      .inr (.catalog, s!"No version for group '{group}' in platform {p.name}")
  exported : ∀ output t, (w.exportCatalog settings manifest output).result = .ok t →
    ∃ contents catalog,
      read ⟨(w.exportCatalog settings manifest output).disk, w.cwd⟩ t = .ok contents ∧
      VersionTable.ofFile? contents = some catalog ∧
      ∀ group v, (catalog.get? group = some v) ↔
        ((versionOf w.view settings manifest group).result = .ok v)

theorem AllFail.of_load (h : (load w.view settings manifest false).result = .error e) :
    w.AllFail settings manifest e where
  report format := by rw [result_reportOf, h]; rfl
  check := by rw [result_check, h]; rfl
  version group := versionOf_of_error h group
  exported _ := exportCatalog_of_error h

theorem AllAnswer.of_load (h : (load w.view settings manifest false).result = .ok p) :
    w.AllAnswer settings manifest p where
  report format := by rw [result_reportOf, h]; rfl
  check := by rw [result_check, h]; rfl
  version _ _ := versionOf_eq_ok_iff h
  noVersion _ hg := ⟨versionOf_of_get?_eq_none h hg, rfl⟩
  exported output t ht := by
    have ⟨hr, hd, _⟩ := exportCatalog_of_ok h output
    rw [hr] at ht
    have ⟨_, hf, _⟩ := deliver_eq_ok ht
    refine ⟨_, p.publication.catalog, hd ▸ hf, VersionTable.ofFile?_exportText _, ?_⟩
    exact fun group v => (versionOf_eq_ok_iff h).symm

theorem commands_agree (w : Workspace) (settings : Settings) (manifest : Path) :
    (∀ e, (load w.view settings manifest false).result = .error e →
      w.AllFail settings manifest e) ∧
    (∀ p, (load w.view settings manifest false).result = .ok p →
      w.AllAnswer settings manifest p) ∧
    ((∃ s, (check w.view settings manifest true).result = .ok s) ↔
      (∃ p, (load w.view settings manifest false).result = .ok p ∧ p.publication.Fixed)) ∧
    (∀ s, (check w.view settings manifest true).result = .ok s →
      (check w.view settings manifest false).result = .ok s) ∧
    (∀ p e, (load w.view settings manifest false).result = .ok p →
      (check w.view settings manifest true).result = .error e →
      ∃ literal place, e = .faultyEntry (.dynamicVersion literal place)) := by
  refine ⟨fun e => .of_load, fun p => .of_load, ?fixed, ?same, ?dynamic⟩
  case fixed =>
    simp only [check_strict_eq_ok_iff]
    exact ⟨fun ⟨_, p, hp, hf, _⟩ => ⟨p, hp, hf⟩, fun ⟨p, hp, hf⟩ => ⟨_, p, hp, hf, rfl⟩⟩
  case same =>
    intro s hs
    have ⟨p, hp, _, hs⟩ := check_strict_eq_ok_iff.mp hs
    rw [result_check, hp, hs]
    rfl
  case dynamic =>
    intro p e hp he
    rw [result_check] at he
    cases hl : (load w.view settings manifest true).result
    case ok q =>
      rw [hl] at he
      cases he
    case error e' =>
      rw [hl] at he
      cases he
      exact eq_dynamicVersion_of_load_strict hp hl

theorem commands_agree_quoting :
    (∃ p, (load quoting.view {} (.ofString "lib/Platform.toml") false).result = .ok p ∧
      quoting.AllAnswer {} (.ofString "lib/Platform.toml") p ∧ ¬p.publication.Fixed) ∧
    ∃ literal place, (check quoting.view {} (.ofString "lib/Platform.toml") true).result =
      .error (.faultyEntry (.dynamicVersion literal place)) := by
  have ⟨_, ha, hs, _, he⟩ := commands_agree quoting {} (.ofString "lib/Platform.toml")
  cases hp : (load quoting.view {} (.ofString "lib/Platform.toml") false).result
  case error e =>
    have ho : (load quoting.view {} (.ofString "lib/Platform.toml") false).result.isOk := by
      decide +kernel
    rw [hp] at ho
    cases ho
  case ok p =>
    cases hc : (check quoting.view {} (.ofString "lib/Platform.toml") true).result
    case ok s =>
      have ho : ¬(check quoting.view {} (.ofString "lib/Platform.toml") true).result.isOk := by
        decide +kernel
      rw [hc] at ho
      exact absurd rfl ho
    case error e =>
      have hf : ¬p.publication.Fixed := by
        intro hf
        have ⟨s, h⟩ := hs.mpr ⟨p, hp, hf⟩
        rw [hc] at h
        cases h
      have ⟨literal, place, he⟩ := he p e hp hc
      exact ⟨⟨p, rfl, ha p hp, hf⟩, literal, place, by rw [he]⟩

end Workspace
end PlatformCatalog
