import PlatformCatalog.Proofs.Disk.Workspace
import PlatformCatalog.Proofs.Path

namespace PlatformCatalog

variable {d d₁ d₂ : Disk} {cwd l : Location} {p q : Path} {ps qs : List Path}

namespace Workspace

def LeadsTo (w : Workspace) (p : Path) (l : Location) : Prop :=
  ∃ spot, w.locate p = .ok spot ∧ spot.location = l

theorem LeadsTo.of_keepsDirectories (h : LeadsTo ⟨d, cwd⟩ p l) (hd : d.KeepsDirectories d₁) :
    LeadsTo ⟨d₁, cwd⟩ p l := by
  have ⟨spot, hs, hl⟩ := h
  exact ⟨spot, locate_of_keepsDirectories hd hs, hl⟩

end Workspace

namespace Disk

theorem KeepsDirectories.trans (h₁ : d.KeepsDirectories d₁) (h₂ : d₁.KeepsDirectories d₂) :
    d.KeepsDirectories d₂ :=
  fun l hl => h₂ l (h₁ l hl)

-- A location is as it was, or it was free and is now a directory to which one of the paths leads.
def GrowsAt (cwd : Location) (ps : List Path) (d d' : Disk) (l : Location) : Prop :=
  d'.node? l = d.node? l ∨
    (d.node? l = none ∧ d'.node? l = some .directory ∧
      ∃ p ∈ ps, Workspace.LeadsTo ⟨d', cwd⟩ p l)

def Grows (cwd : Location) (ps : List Path) (d d' : Disk) : Prop :=
  ∀ l, d.GrowsAt cwd ps d' l

theorem Grows.refl (d : Disk) : d.Grows cwd ps d :=
  fun _ => .inl rfl

theorem Grows.node?_of_some (h : d.Grows cwd ps d₁) {n : Node} (hl : d.node? l = some n) :
    d₁.node? l = some n := by
  cases h l
  case inl hs => exact hs.trans hl
  case inr hn => cases hl.symm.trans hn.left

theorem Grows.keepsDirectories (h : d.Grows cwd ps d₁) : d.KeepsDirectories d₁ :=
  fun _ hl => h.node?_of_some hl

theorem Grows.mono (h : d.Grows cwd ps d₁) (hp : ps ⊆ qs) : d.Grows cwd qs d₁ := by
  intro l
  cases h l
  case inl hs => exact .inl hs
  case inr hn =>
    have ⟨hn, hd, p, hm, hl⟩ := hn
    exact .inr ⟨hn, hd, p, hp hm, hl⟩

theorem Grows.trans (h₁ : d.Grows cwd ps d₁) (h₂ : d₁.Grows cwd ps d₂) : d.Grows cwd ps d₂ := by
  intro l
  cases h₁ l
  case inl hs =>
    rw [GrowsAt, ←hs]
    exact h₂ l
  case inr hn =>
    have ⟨hn, hd, p, hm, hl⟩ := hn
    exact .inr ⟨hn, h₂.node?_of_some hd, p, hm, hl.of_keepsDirectories h₂.keepsDirectories⟩

end Disk

namespace Workspace

variable {w : Workspace} {refuse : Path → Option IoFault}

theorem grows_makeDirectory (h : w.makeDirectory p = .ok d) (hp : p ∈ ps) :
    w.disk.Grows w.cwd ps d := by
  obtain ⟨spot, hs, h⟩ := bind_eq_ok_iff.mp h
  cases spot
  case directory => cases h
  case entry parent name slash =>
    obtain ⟨there, he, h⟩ := bind_eq_ok_iff.mp h
    have ⟨_, hn⟩ := Disk.entry?_eq_ok_iff.mp he
    split_ifs at h with ht
    cases h
    have hnone : w.disk.node? (parent ++ [name]) = none := by simpa [hn] using ht
    have hput (l : Location) (hl : l ≠ []) := Disk.node?_put w.disk (parent ++ [name]) .directory hl
    have hk : w.disk.KeepsDirectories (w.disk.put (parent ++ [name]) .directory) := by
      intro l hl
      by_cases he : l = []
      case pos => rw [he, Disk.node?_nil]
      case neg => rw [hput l he, hl, ite_self]
    intro l
    by_cases he : l = parent ++ [name]
    case pos =>
      subst he
      refine .inr ⟨hnone, by simp [hput], p, hp, ?_⟩
      exact LeadsTo.of_keepsDirectories ⟨_, hs, rfl⟩ hk
    case neg =>
      left
      by_cases hl : l = []
      case pos => rw [hl, Disk.node?_nil, Disk.node?_nil]
      case neg => rw [hput l hl, if_neg he]

theorem grows_tryDirectory (h : w.tryDirectory refuse p = .ok d) (hp : p ∈ ps) :
    w.disk.Grows w.cwd ps d := by
  obtain ⟨_, hm, h⟩ := bind_eq_ok_iff.mp h
  split at h
  case h_1 => cases h
  case h_2 =>
    cases h
    exact grows_makeDirectory hm hp

theorem grows_ensureDirectory (h : w.ensureDirectory refuse p = .ok d) (hp : p ∈ ps) :
    w.disk.Grows w.cwd ps d := by
  unfold ensureDirectory at h
  split at h
  case h_1 ht =>
    cases h
    exact grows_tryDirectory ht hp
  case h_2 =>
    split_ifs at h
    cases h
    exact .refl _

theorem grows_makeDirectoriesUnless (refuse : Path → Option IoFault) (w : Workspace) (p : Path) :
    w.disk.Grows w.cwd p.ancestors (w.makeDirectoriesUnless refuse p).1 := by
  fun_induction w.makeDirectoriesUnless refuse p
  case case2 p _ d ht => exact grows_tryDirectory ht p.mem_ancestors_self
  case case4 p _ q hq d e _ hm hi =>
    rw [hm] at hi
    exact hi.mono (Path.subset_ancestors hq)
  case case5 p _ q hq d₁ d₂ he _ hm hi =>
    rw [hm] at hi
    exact (hi.mono (Path.subset_ancestors hq)).trans (grows_ensureDirectory he p.mem_ancestors_self)
  case case6 p _ q hq d e _ _ hm hi =>
    rw [hm] at hi
    exact hi.mono (Path.subset_ancestors hq)
  -- Where no directory was made, the disk is as it was.
  all_goals exact .refl _

theorem makeDirectoriesUnless_here (refuse : Path → Option IoFault) (w : Workspace) :
    w.makeDirectoriesUnless refuse .here = (w.disk, .ok ()) := by
  have hl : w.locate .here = .ok (.directory w.cwd) := rfl
  have ht : w.tryDirectory refuse .here = .error (.os .alreadyExists) := by
    simp only [tryDirectory, makeDirectory, hl, ok_bind]
    rfl
  have hd : w.isDirectory .here = true := by
    simp only [isDirectory, status, hl, ok_bind]
    rfl
  rw [makeDirectoriesUnless, if_neg (by decide), ht]
  simp only [reduceCtorEq, IoFault.os.injEq, hd, if_false, if_true]

end Workspace
end PlatformCatalog
