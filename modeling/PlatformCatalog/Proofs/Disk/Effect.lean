import PlatformCatalog.Proofs.Disk.AtomicWrite
import PlatformCatalog.Proofs.Disk.Directories

namespace PlatformCatalog

variable {d : Disk} {l : Location} {n : Node}

namespace Disk

theorem erase_put (d : Disk) (l : Location) (n : Node) : (d.put l n).erase l = d.erase l := by
  simp [put, erase, List.filter_filter]

theorem erase_of_none (h : d.node? l = none) : d.erase l = d := by
  have hl : l ≠ [] := by
    intro hl
    rw [hl, node?_nil] at h
    cases h
  rw [node?_of_ne_nil _ hl, List.lookup_eq_none_iff] at h
  have hf : d.nodes.filter (·.1 ≠ l) = d.nodes := by
    rw [List.filter_eq_self]
    intro e he
    have hne : l ≠ e.1 := by simpa using h e he
    exact decide_eq_true hne.symm
  rw [erase, hf]

theorem keepsDirectories_of_erase (d : Disk) (l : Location) : (d.erase l).KeepsDirectories d := by
  intro m hm
  by_cases hn : m = []
  case pos => rw [hn, node?_nil]
  case neg =>
    rw [node?_erase _ _ hn] at hm
    split_ifs at hm
    exact hm

end Disk

namespace AtomicWrite

variable {a : AtomicWrite} {cwd : Location}

def Stage.temp? : Stage → Option Location
  | .filling temp _ | .syncing temp | .moving temp => some temp
  | .parents | .temporary | .ended _ => none

inductive Effect (a : AtomicWrite) (cwd : Location) : Disk × Stage → Disk × Stage → Prop
  -- The disk stays as it is.
  | rested {d s s'} (ht : s'.temp? = s.temp?) (hw : s' = .ended .written ↔ s = .ended .written) :
    Effect a cwd (d, s) (d, s')
  -- Directories above the target are made, perhaps not all of them.
  | prepared {d d' s'} (h : d.Grows cwd a.target.ancestors.tail d') (ht : s'.temp? = none)
    (hw : s' ≠ .ended .written) : Effect a cwd (d, .parents) (d', s')
  -- A temporary file is made where nothing was.
  | opened {d temp} {dir : Location} (ht : temp = dir ++ [a.temp]) (hn : d.node? temp = none) :
    Effect a cwd (d, .temporary) (d.put temp (.file []), .filling temp a.chunks)
  | filled {d temp chunk left} :
    Effect a cwd (d, .filling temp (chunk :: left)) (append d temp chunk, .filling temp left)
  -- The temporary file is taken away.
  | dropped {d s temp ending} (ht : s.temp? = some temp) (hw : ending ≠ .written) :
    Effect a cwd (d, s) (d.erase temp, .ended ending)
  | moved {d d' temp parent name node}
    (h : Workspace.Moved d cwd temp a.target d' parent name node) :
    Effect a cwd (d, .moving temp) (d', .ended .written)

theorem erase_append (d : Disk) (temp : Location) (chunk : Bytes) :
    (append d temp chunk).erase temp = d.erase temp := by
  unfold append
  split
  case h_1 => exact d.erase_put temp _
  case h_2 => rfl

-- Directories are made only above a target that is not named in the working directory.
theorem grows_parents (refuse : Path → Option IoFault) (a : AtomicWrite) (cwd : Location)
    (d : Disk) : d.Grows cwd a.target.ancestors.tail
      (Workspace.makeDirectoriesUnless refuse ⟨d, cwd⟩ a.parent).1 := by
  unfold parent
  split
  case h_1 b bs hp =>
    rw [Path.ancestors_of_parent? hp, List.tail_cons]
    exact Workspace.grows_makeDirectoriesUnless refuse ⟨d, cwd⟩ ⟨b :: bs⟩
  case h_2 =>
    rw [Workspace.makeDirectoriesUnless_here]
    exact .refl d

theorem effect_step (a : AtomicWrite) (cwd : Location) (refuse : Refusals) (s : Disk × Stage) :
    a.Effect cwd s (a.step cwd refuse s) := by
  obtain ⟨d, stage⟩ := s
  cases stage
  case parents =>
    have hg := a.grows_parents refuse.directory cwd d
    rw [step]
    split
    case h_1 => exact .rested rfl (by simp)
    case h_2 =>
      split
      case h_1 hm =>
        rw [hm] at hg
        exact .prepared hg rfl (by simp)
      case h_2 hm =>
        rw [hm] at hg
        exact .prepared hg rfl (by simp)
  case temporary =>
    rw [step]
    split
    case h_1 => exact .rested rfl (by simp)
    case h_2 =>
      split
      case h_1 hc =>
        obtain ⟨spot, _, _, ht, hn, rfl⟩ := eq_of_createTemp hc
        exact .opened ht hn
      case h_2 => exact .rested rfl (by simp)
  case filling temp left =>
    cases left
    case nil => exact .rested rfl (by simp)
    case cons chunk left =>
      rw [step]
      split
      case h_1 => exact .dropped rfl (by simp)
      case h_2 => exact .filled
  case syncing temp =>
    rw [step]
    split
    case h_1 => exact .dropped rfl (by simp)
    case h_2 => exact .rested rfl (by simp)
  case moving temp =>
    rw [step]
    split
    case h_1 => exact .dropped rfl (by simp)
    case h_2 =>
      split
      case h_1 hm =>
        obtain ⟨_, _, _, hm⟩ := Workspace.exists_moved hm
        exact .moved hm
      case h_2 => exact .dropped rfl (by simp)
  case ended ending => exact .rested rfl .rfl

section Temporary

variable {d d' : Disk} {s : Stage} {temp : Location}

theorem Kept.exists_file (h : a.Kept cwd (d, s)) (ht : s.temp? = some temp) :
    ∃ bytes, d.node? temp = some (.file bytes) := by
  cases s <;> cases ht
  case filling =>
    have ⟨written, hn, _⟩ := h
    exact ⟨written, hn⟩
  case syncing => exact ⟨_, h⟩
  case moving => exact ⟨_, h⟩

theorem Kept.congr (h : a.Kept cwd (d, s)) (ht : s.temp? = some temp)
    (hn : d'.node? temp = d.node? temp) : a.Kept cwd (d', s) := by
  cases s <;> cases ht
  case filling =>
    have ⟨written, hf, hw⟩ := h
    exact ⟨written, hn.trans hf, hw⟩
  case syncing => exact hn.trans h
  case moving => exact hn.trans h

theorem Kept.step_of_temp? {refuse : Refusals} (h : ∀ temp, s.temp? = some temp → a.Kept cwd (d, s))
    (ht : (a.step cwd refuse (d, s)).2.temp? = some temp) :
    a.Kept cwd (a.step cwd refuse (d, s)) := by
  cases s
  case parents => exact Kept.step (s := (d, .parents)) trivial refuse
  case temporary => exact Kept.step (s := (d, .temporary)) trivial refuse
  case ended => cases ht
  all_goals exact (h _ rfl).step refuse

end Temporary

namespace Effect

variable {d d' : Disk} {s s' : Stage} {l temp : Location}

-- A temporary file that was not there before is made where nothing was, under the write's own name.
theorem temp?_eq (e : a.Effect cwd (d, s) (d', s')) (h : s'.temp? = some temp) :
    s.temp? = some temp ∨ (d.node? temp = none ∧ ∃ dir, temp = dir ++ [a.temp]) := by
  cases e
  case rested ht _ => exact .inl (ht ▸ h)
  case prepared ht _ => cases ht.symm.trans h
  case opened ht hn =>
    cases h
    exact .inr ⟨hn, _, ht⟩
  case filled => exact .inl h
  all_goals cases h

theorem elsewhere (e : a.Effect cwd (d, s) (d', s')) (hp : Workspace.Descends a.target)
    (hs : s.temp? ≠ some l) (hs' : s'.temp? ≠ some l)
    (hl : s' = .ended .written → s ≠ .ended .written → l ≠ Workspace.destination cwd a.target) :
    d'.node? l = d.node? l ∨ (d.node? l = none ∧ d'.node? l = some .directory) := by
  by_cases hn : l = []
  case pos => exact .inl (by rw [hn, Disk.node?_nil, Disk.node?_nil])
  case neg =>
    cases e
    case rested => exact .inl rfl
    case prepared hg _ _ =>
      cases hg l
      case inl h => exact .inl h
      case inr h => exact .inr ⟨h.left, h.right.left⟩
    case opened temp _ _ _ =>
      have ht : l ≠ temp := fun ht => hs' (congrArg some ht.symm)
      exact .inl (by rw [Disk.node?_put _ _ _ hn, if_neg ht])
    case filled temp _ _ =>
      have ht : l ≠ temp := fun ht => hs (congrArg some ht.symm)
      left
      unfold append
      split
      case h_1 => rw [Disk.node?_put _ _ _ hn, if_neg ht]
      case h_2 => rfl
    case dropped temp _ _ ht =>
      have ht : l ≠ temp := fun he => hs (he ▸ ht)
      exact .inl (by rw [Disk.node?_erase _ _ hn, if_neg ht])
    case moved temp parent name node hm =>
      have ht : l ≠ temp := fun ht => hs (congrArg some ht.symm)
      have hd : l ≠ parent ++ [name] := hm.eq_destination hp ▸ hl rfl nofun
      left
      rw [hm.disk, Disk.node?_put _ _ _ hn, if_neg hd, Disk.node?_erase _ _ hn, if_neg ht]

theorem node?_temp (e : a.Effect cwd (d, s) (d', s')) (hp : Workspace.Descends a.target)
    (hs : s.temp? = some temp) (hs' : s'.temp? ≠ some temp) (hn : temp ≠ [])
    (hd : temp ≠ Workspace.destination cwd a.target) : d'.node? temp = none := by
  cases e
  case rested ht _ => exact absurd (ht.trans hs) hs'
  case filled => exact absurd hs hs'
  case dropped _ ht =>
    cases ht.symm.trans hs
    rw [Disk.node?_erase _ _ hn, if_pos rfl]
  case moved parent name node hm =>
    have hl : temp ≠ parent ++ [name] := hm.eq_destination hp ▸ hd
    cases hs
    rw [hm.disk, Disk.node?_put _ _ _ hn, if_neg hl, Disk.node?_erase _ _ hn, if_pos rfl]
  all_goals cases hs

theorem exists_moved (e : a.Effect cwd (d, s) (d', .ended .written)) (hs : s ≠ .ended .written)
    (hk : ∀ temp, s.temp? = some temp → a.Kept cwd (d, s)) :
    ∃ temp parent name,
      Workspace.Moved d cwd temp a.target d' parent name (.file a.chunks.flatten) := by
  cases e
  case rested _ hw => exact absurd (hw.mp rfl) hs
  case prepared _ hw => contradiction
  case dropped _ hw => contradiction
  case moved hm =>
    cases (hk _ rfl).eq_of_moved hm
    exact ⟨_, _, _, hm⟩

theorem keepsDirectories (e : a.Effect cwd (d, s) (d', s')) (hp : Workspace.Descends a.target)
    (hk : ∀ temp, s.temp? = some temp → a.Kept cwd (d, s)) : d.KeepsDirectories d' := by
  by_cases hm : s' = .ended .written ∧ s ≠ .ended .written
  case pos =>
    have ⟨hw, hs⟩ := hm
    subst hw
    have ⟨_, _, _, hm⟩ := e.exists_moved hs hk
    exact hm.keepsDirectories
  case neg =>
    intro l hl
    have hs : s.temp? ≠ some l := by
      intro ht
      have ⟨_, hf⟩ := (hk l ht).exists_file ht
      cases hl.symm.trans hf
    have hs' : s'.temp? ≠ some l := by
      intro ht
      cases e.temp?_eq ht
      case inl ht => exact hs ht
      case inr hn => cases hl.symm.trans hn.left
    cases e.elsewhere hp hs hs' fun hw hs => absurd ⟨hw, hs⟩ hm
    case inl he => exact he.trans hl
    case inr hn => cases hl.symm.trans hn.left

end Effect
end AtomicWrite
end PlatformCatalog
