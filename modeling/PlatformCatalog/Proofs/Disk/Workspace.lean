import PlatformCatalog.Disk.Workspace
import PlatformCatalog.Proofs.Logged

namespace PlatformCatalog

variable {d d' : Disk} {cwd l : Location} {p : Path}

namespace Disk

def KeepsDirectories (d d' : Disk) : Prop :=
  ∀ l, d.node? l = some .directory → d'.node? l = some .directory

theorem entry?_eq_ok_iff {parent : Location} {name : Name} {node : Option Node} :
    (d.entry? parent name = .ok node) ↔
      (name.length ≤ maxNameLength ∧ d.node? (parent ++ [name]) = node) := by
  unfold Disk.entry?
  split_ifs with hl
  case pos => simp [Nat.not_le_of_lt hl]
  case neg => simp [Nat.le_of_not_lt hl]

theorem KeepsDirectories.walk (h : KeepsDirectories d d') {start : Location} {names : List Name}
    (hw : d.walk start names = .ok l) : d'.walk start names = .ok l := by
  induction names generalizing start
  case nil => exact hw
  case cons n ns hi =>
    unfold Disk.walk at hw ⊢
    split_ifs at hw ⊢
    case pos => exact hi hw
    case pos => exact hi hw
    case neg =>
      split at hw
      case h_4 he =>
        have ⟨hl, hn⟩ := entry?_eq_ok_iff.mp he
        rw [entry?_eq_ok_iff.mpr ⟨hl, h _ hn⟩]
        exact hi hw
      all_goals contradiction

end Disk

namespace Workspace

theorem locate_of_keepsDirectories (h : d.KeepsDirectories d') {spot : Spot}
    (hl : locate ⟨d, cwd⟩ p = .ok spot) : locate ⟨d', cwd⟩ p = .ok spot := by
  unfold locate at hl ⊢
  generalize (if p.isAbsolute then [] else cwd) = start at hl ⊢
  split_ifs at hl ⊢
  cases hn : (names p).getLast?
  case none => simpa only [hn] using hl
  case some last =>
    simp only [hn] at hl ⊢
    cases hw : d.walk start (names p).dropLast
    case error e =>
      rw [hw] at hl
      cases hl
    case ok parent =>
      rw [h.walk hw]
      rwa [hw] at hl

theorem read_eq_ok_iff {contents : Bytes} :
    (read ⟨d, cwd⟩ p = .ok contents) ↔
      (∃ parent name, locate ⟨d, cwd⟩ p = .ok (.entry parent name false) ∧
        name.length ≤ Disk.maxNameLength ∧
        d.node? (parent ++ [name]) = some (.file contents)) := by
  constructor
  case mp =>
    intro h
    obtain ⟨node, hs, h⟩ := bind_eq_ok_iff.mp h
    cases node
    case directory => cases h
    case file =>
      cases h
      obtain ⟨spot, hl, hs⟩ := bind_eq_ok_iff.mp hs
      cases spot
      case directory => cases hs
      case entry parent name slash =>
        obtain ⟨there, he, hs⟩ := bind_eq_ok_iff.mp hs
        have ⟨hn, ht⟩ := Disk.entry?_eq_ok_iff.mp he
        cases there
        case none => cases hs
        case some node =>
          cases node
          case directory => cases hs
          case file =>
            cases slash
            case true => cases hs
            case false =>
              cases hs
              exact ⟨parent, name, hl, hn, ht⟩
  case mpr =>
    rintro ⟨parent, name, hl, hn, hf⟩
    have he := Disk.entry?_eq_ok_iff.mpr ⟨hn, hf⟩
    have hs : status ⟨d, cwd⟩ p = .ok (.file contents) := by
      simp only [status, hl, he, ok_bind]
      rfl
    simp only [read, hs, ok_bind]
    rfl

-- What a successful move needs, and what it does.
structure Moved (d : Disk) (cwd source : Location) (p : Path) (d' : Disk) (parent : Location)
    (name : Name) (node : Node) : Prop where
  located : locate ⟨d, cwd⟩ p = .ok (.entry parent name false)
  short   : name.length ≤ Disk.maxNameLength
  free    : d.node? (parent ++ [name]) ≠ some .directory
  found   : d.node? source = some node
  disk    : d' = (d.erase source).put (parent ++ [name]) node

theorem exists_moved {source : Location} (h : moveFile ⟨d, cwd⟩ source p = .ok d') :
    ∃ parent name node, Moved d cwd source p d' parent name node := by
  unfold moveFile at h
  split_ifs at h
  obtain ⟨spot, hl, h⟩ := bind_eq_ok_iff.mp h
  cases spot
  case directory => cases h
  case entry parent name slash =>
    obtain ⟨there, he, h⟩ := bind_eq_ok_iff.mp h
    have ⟨hs, ht⟩ := Disk.entry?_eq_ok_iff.mp he
    split_ifs at h with hslash hd
    split at h
    case h_1 => cases h
    case h_2 node hn =>
      cases h
      exact ⟨parent, name, node, by simpa [hslash] using hl, hs, ht ▸ hd, hn, rfl⟩

section Moved

variable {source parent : Location} {name : Name} {contents : Bytes}

theorem Moved.keepsDirectories (h : Moved d cwd source p d' parent name (.file contents)) :
    d.KeepsDirectories d' := by
  intro l hl
  by_cases hn : l = []
  case pos => rw [hn, Disk.node?_nil]
  case neg =>
    have ht : l ≠ parent ++ [name] := fun he => h.free (he ▸ hl)
    have hs : l ≠ source := by
      intro he
      rw [he, h.found] at hl
      cases hl
    rw [h.disk, Disk.node?_put _ _ _ hn, if_neg ht, Disk.node?_erase _ _ hn, if_neg hs, hl]

theorem Moved.read (h : Moved d cwd source p d' parent name (.file contents)) :
    read ⟨d', cwd⟩ p = .ok contents := by
  have hl := locate_of_keepsDirectories h.keepsDirectories h.located
  have hn : d'.node? (parent ++ [name]) = some (.file contents) := by
    rw [h.disk, Disk.node?_put _ _ _ (by simp), if_pos rfl]
  exact read_eq_ok_iff.mpr ⟨parent, name, hl, h.short, hn⟩

end Moved

def Descends (p : Path) : Prop :=
  [Path.dot, Path.dot] ∉ names p

def destination (cwd : Location) (p : Path) : Location :=
  (if p.isAbsolute then [] else cwd) ++ (names p).filter (· ≠ [Path.dot])

theorem eq_of_walk {start : Location} {ns : List Name} (hn : [Path.dot, Path.dot] ∉ ns)
    (h : d.walk start ns = .ok l) : l = start ++ ns.filter (· ≠ [Path.dot]) := by
  induction ns generalizing start
  case nil =>
    cases h
    simp
  case cons n ns hi =>
    have ⟨hd, hn⟩ := List.ne_and_not_mem_of_not_mem_cons hn
    unfold Disk.walk at h
    split_ifs at h with hs hu
    case pos => simpa [hs] using hi hn h
    case pos => exact absurd hu.symm hd
    case neg =>
      split at h
      case h_4 => simpa [hs] using hi hn h
      all_goals contradiction

theorem location_of_locate {spot : Spot} (hp : Descends p) (h : locate ⟨d, cwd⟩ p = .ok spot) :
    spot.location = destination cwd p := by
  unfold locate at h
  unfold destination
  generalize (if p.isAbsolute then [] else cwd) = start at h ⊢
  split_ifs at h
  cases hl : (names p).getLast?
  case none =>
    simp only [hl] at h
    cases h
    simp [Spot.location, List.getLast?_eq_none_iff.mp hl]
  case some last =>
    simp only [hl] at h
    obtain ⟨parent, hw, h⟩ := bind_eq_ok_iff.mp h
    have ⟨ns, hs⟩ := List.getLast?_eq_some_iff.mp hl
    rw [Descends, hs, List.mem_append, not_or] at hp
    rw [hs, List.dropLast_concat] at hw
    rw [hs, List.filter_append, ←List.append_assoc, ←eq_of_walk hp.left hw]
    split_ifs at h with hd hu
    case pos =>
      cases h
      simp [Spot.location, hd]
    case pos => exact absurd (List.mem_singleton.mpr hu.symm) hp.right
    case neg =>
      cases h
      simp [Spot.location, hd]

theorem Moved.eq_destination {source parent : Location} {name : Name} {node : Node}
    (h : Moved d cwd source p d' parent name node) (hp : Descends p) :
    parent ++ [name] = destination cwd p :=
  location_of_locate hp h.located

end Workspace

end PlatformCatalog
