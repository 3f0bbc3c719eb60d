import PlatformCatalog.Proofs.Path.Ascent
import PlatformCatalog.Run

namespace PlatformCatalog

namespace FileView

variable {files : FileView} {start name p : Path} {r : Option Path}

inductive Searches (files : FileView) (name : Path) : Path → Option Path → Prop
  | found {p : Path} (h : files.isFile (p.join name) = true) : Searches files name p (some p)
  | lost {p : Path} (h : files.isFile (p.join name) = false) (hp : p.parent? = none) :
    Searches files name p none
  | up {p q : Path} {r : Option Path} (h : files.isFile (p.join name) = false)
    (hp : p.parent? = some q) (hq : Searches files name q r) : Searches files name p r

theorem nearestWith_of_isFile (h : files.isFile (start.join name) = true) :
    files.nearestWith start name = some start := by
  rw [nearestWith, Path.ancestors]
  split <;> exact List.find?_cons_of_pos h

theorem nearestWith_of_not_isFile (h : files.isFile (start.join name) = false) :
    files.nearestWith start name = start.parent?.bind fun q => files.nearestWith q name := by
  rw [nearestWith, Path.ancestors]
  split
  case h_1 hp => simp [h, hp]
  case h_2 q hp => simp [h, hp, nearestWith]

theorem searches_nearestWith (files : FileView) (start name : Path) :
    Searches files name start (files.nearestWith start name) := by
  fun_induction Path.ancestors start
  case case1 p hp =>
    cases h : files.isFile (p.join name)
    case true => exact nearestWith_of_isFile h ▸ .found h
    case false =>
      rw [nearestWith_of_not_isFile h, hp]
      exact .lost h hp
  case case2 p q hp hi =>
    cases h : files.isFile (p.join name)
    case true => exact nearestWith_of_isFile h ▸ .found h
    case false =>
      rw [nearestWith_of_not_isFile h, hp]
      exact .up h hp hi

theorem Searches.eq_nearestWith (h : Searches files name start r) :
    r = files.nearestWith start name := by
  induction h
  case found h => rw [nearestWith_of_isFile h]
  case lost h hp => rw [nearestWith_of_not_isFile h, hp]; rfl
  case up h hp _ hi => rw [nearestWith_of_not_isFile h, hp, hi]; rfl

def Nearest (files : FileView) (start name p : Path) : Prop :=
  ∃ i, start.above i = some p ∧ files.isFile (p.join name) = true ∧
    ∀ j < i, ∀ q, start.above j = some q → files.isFile (q.join name) = false

def Nowhere (files : FileView) (start name : Path) : Prop :=
  ∀ i p, start.above i = some p → files.isFile (p.join name) = false

theorem nearestWith_eq_some_iff :
    (files.nearestWith start name = some p) ↔ (files.Nearest start name p) := by
  rw [nearestWith, List.find?_eq_some_iff_getElem]
  constructor
  case mp =>
    rintro ⟨hp, i, hi, he, hj⟩
    refine ⟨i, ?here, hp, ?before⟩
    case here => rw [←Path.getElem?_ancestors, List.getElem?_eq_getElem hi, he]
    case before =>
      intro j hji q hq
      rw [←Path.getElem?_ancestors, List.getElem?_eq_getElem (hji.trans hi)] at hq
      cases hq
      simpa using hj j hji
  case mpr =>
    rintro ⟨i, hi, hp, hj⟩
    have ⟨hl, he⟩ := List.getElem?_eq_some_iff.mp (start.getElem?_ancestors i ▸ hi)
    refine ⟨hp, i, hl, he, fun j hji => ?_⟩
    have hq := List.getElem?_eq_getElem (hji.trans hl)
    simpa using hj j hji _ (start.getElem?_ancestors j ▸ hq)

theorem nearestWith_eq_none_iff :
    (files.nearestWith start name = none) ↔ (files.Nowhere start name) := by
  simp only [nearestWith, List.find?_eq_none, List.mem_iff_getElem?, Path.getElem?_ancestors,
    Bool.not_eq_true]
  exact ⟨fun h i p hp => h p ⟨i, hp⟩, fun h p ⟨i, hp⟩ => h i p hp⟩

end FileView

namespace Workspace

variable {w : Workspace} {p path start : Path}

theorem isFile_of_isDirectory (h : w.isDirectory p = true) : w.view.isFile p = false := by
  unfold isDirectory at h
  split at h
  case h_1 hs => simp [view, isFile, hs]
  case h_2 => cases h

theorem findManifest_eq_ok_iff (hs : w.workingDirectory = .ok start) :
    (findManifest none w.workingDirectory w.view = .ok path) ↔
      (∃ root, w.view.Nearest start (.ofString manifestName) root ∧
        path = root.join (.ofString manifestName)) := by
  simp only [findManifest, hs, ←FileView.nearestWith_eq_some_iff]
  cases w.view.nearestWith start (.ofString manifestName) <;> simp [eq_comm]

theorem findManifest_eq_manifestNotFound_iff (hs : w.workingDirectory = .ok start) :
    (findManifest none w.workingDirectory w.view = .error .manifestNotFound) ↔
      (w.view.Nowhere start (.ofString manifestName)) := by
  simp only [findManifest, hs, ←FileView.nearestWith_eq_none_iff]
  cases w.view.nearestWith start (.ofString manifestName) <;> simp

theorem nearest_file_on_the_way_up (w : Workspace) (start name : Path) :
    (∃ n top, start.EndsAt n top) ∧
    (∀ r, (w.view.Searches name start r) ↔ (r = w.view.nearestWith start name)) ∧
    (∀ p, (w.view.nearestWith start name = some p) ↔ (w.view.Nearest start name p)) ∧
    ((w.view.nearestWith start name = none) ↔ (w.view.Nowhere start name)) ∧
    (w.isDirectory (start.join name) = true →
      w.view.nearestWith start name = start.parent?.bind fun q => w.view.nearestWith q name) ∧
    (w.workingDirectory = .ok start →
      (∀ path, (findManifest none w.workingDirectory w.view = .ok path) ↔
        (∃ root, w.view.Nearest start (.ofString manifestName) root ∧
          path = root.join (.ofString manifestName))) ∧
      ((findManifest none w.workingDirectory w.view = .error .manifestNotFound) ↔
        (w.view.Nowhere start (.ofString manifestName))) ∧
      Failure.manifestNotFound.parts = .inr (.manifest,
        "Could not find Platform.toml in this directory or any parent")) := by
  refine ⟨start.exists_endsAt, fun r => ⟨FileView.Searches.eq_nearestWith, ?ends⟩,
    fun p => FileView.nearestWith_eq_some_iff, FileView.nearestWith_eq_none_iff, ?skipped, ?manifest⟩
  case ends =>
    intro hr
    exact hr ▸ w.view.searches_nearestWith start name
  case skipped => exact fun h => FileView.nearestWith_of_not_isFile (isFile_of_isDirectory h)
  case manifest =>
    intro hs
    exact ⟨fun path => findManifest_eq_ok_iff hs, findManifest_eq_manifestNotFound_iff hs,
      by decide +kernel⟩

def shadowed : Disk :=
  ⟨[([Text.bytes "p"], .directory), ([Text.bytes "p", Text.bytes "Platform.toml"], .file []),
    ([Text.bytes "p", Text.bytes "a"], .directory),
    ([Text.bytes "p", Text.bytes "a", Text.bytes "Platform.toml"], .directory),
    ([Text.bytes "p", Text.bytes "a", Text.bytes "b"], .directory)]⟩

theorem nearest_file_on_the_way_up_shadowed :
    let w : Workspace := ⟨shadowed, [Text.bytes "p", Text.bytes "a", Text.bytes "b"]⟩
    w.workingDirectory = .ok (.ofString "/p/a/b") ∧
      w.isDirectory (.ofString "/p/a/Platform.toml") = true ∧
      w.view.nearestWith (.ofString "/p/a") (.ofString manifestName) =
        w.view.nearestWith (.ofString "/p") (.ofString manifestName) ∧
      findManifest none w.workingDirectory w.view = .ok (.ofString "/p/Platform.toml") := by
  intro w
  have hw : w.workingDirectory = .ok (.ofString "/p/a/b") := by decide +kernel
  have hd : w.isDirectory (.ofString "/p/a/Platform.toml") = true := by decide +kernel
  refine ⟨hw, hd, ?skipped, ?manifest⟩
  case skipped =>
    have ⟨_, _, _, _, hs, _⟩ :=
      nearest_file_on_the_way_up w (.ofString "/p/a") (.ofString manifestName)
    have hj : (Path.ofString "/p/a").join (.ofString manifestName) =
      .ofString "/p/a/Platform.toml" := by decide +kernel
    have hp : (Path.ofString "/p/a").parent? = some (.ofString "/p") := by decide +kernel
    rw [hs (hj ▸ hd), hp]
    rfl
  case manifest =>
    have ⟨_, _, _, _, _, hm⟩ :=
      nearest_file_on_the_way_up w (.ofString "/p/a/b") (.ofString manifestName)
    refine ((hm hw).left _).mpr ⟨.ofString "/p", ⟨2, by decide +kernel, by decide +kernel, ?before⟩,
      by decide +kernel⟩
    case before =>
      intro j hj q hq
      have h₁ : (Path.ofString "/p/a/b").above 1 = some (.ofString "/p/a") := by decide +kernel
      obtain rfl | rfl : j = 0 ∨ j = 1 := by omega
      case inl =>
        cases hq
        decide +kernel
      case inr =>
        cases h₁.symm.trans hq
        decide +kernel

end Workspace
end PlatformCatalog
