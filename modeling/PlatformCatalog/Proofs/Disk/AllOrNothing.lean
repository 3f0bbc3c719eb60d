import PlatformCatalog.Proofs.Disk.Effect

namespace PlatformCatalog

variable {d d' : Disk} {cwd : Location}

structure AllOrNothing (w : Workspace) (target : Path) (contents : Bytes) (d : Disk)
    (result : Except IoFault Unit) : Prop where
  written : result = .ok () →
    Workspace.read ⟨d, w.cwd⟩ target = .ok contents ∧
    ∃ l, Workspace.LeadsTo ⟨d, w.cwd⟩ target l ∧ d.node? l = some (.file contents) ∧
      w.disk.node? l ≠ some .directory ∧
      ∀ m ≠ l, w.disk.GrowsAt w.cwd target.ancestors.tail d m
  failed : ∀ fault, result = .error fault → w.disk.Grows w.cwd target.ancestors.tail d

namespace AtomicWrite

variable {a : AtomicWrite} {s s' : Disk × Stage}

-- How many steps are still to be taken at most.
def rank (a : AtomicWrite) : Stage → Nat
  | .parents => a.chunks.length + 5
  | .temporary => a.chunks.length + 4
  | .filling _ left => left.length + 3
  | .syncing _ => 2
  | .moving _ => 1
  | .ended _ => 0

theorem rank_step (a : AtomicWrite) (cwd : Location) (refuse : Refusals) (s : Disk × Stage) :
    a.rank (a.step cwd refuse s).2 ≤ a.rank s.2 - 1 := by
  fun_cases a.step cwd refuse s <;> simp [rank]

theorem rank_repeat (a : AtomicWrite) (cwd : Location) (refuse : Refusals) (d : Disk) (k : Nat) :
    a.rank (Nat.repeat (a.step cwd refuse) k (d, .parents)).2 ≤ a.stepCount - k := by
  induction k
  case zero => exact Nat.le_refl _
  case succ k hi =>
    have hs := a.rank_step cwd refuse (Nat.repeat (a.step cwd refuse) k (d, .parents))
    rw [Nat.repeat]
    omega

theorem exists_ended (a : AtomicWrite) (cwd : Location) (refuse : Refusals) (d : Disk) :
    ∃ ending, (a.run cwd refuse d).2 = .ended ending := by
  have hr := a.rank_repeat cwd refuse d a.stepCount
  rw [←AtomicWrite.run, Nat.sub_self] at hr
  cases hs : (a.run cwd refuse d).2
  case ended ending => exact ⟨ending, rfl⟩
  all_goals simp [hs, rank] at hr

-- The disk that a write began with, seen again at every stage: a temporary file is all that comes on
-- top of the directories, until it takes the place of the target.
structure Intact (a : AtomicWrite) (cwd : Location) (d₀ : Disk) (s : Disk × Stage) : Prop where
  under : ∀ temp, s.2.temp? = some temp → d₀.Grows cwd a.target.ancestors.tail (s.1.erase temp)
  unwritten : s.2.temp? = none → s.2 ≠ .ended .written → d₀.Grows cwd a.target.ancestors.tail s.1
  written : s.2 = .ended .written →
    ∃ l, Workspace.LeadsTo ⟨s.1, cwd⟩ a.target l ∧ s.1.node? l = some (.file a.chunks.flatten) ∧
      d₀.node? l ≠ some .directory ∧ ∀ m ≠ l, d₀.GrowsAt cwd a.target.ancestors.tail s.1 m

variable {d₀ : Disk}

theorem Intact.moved {temp parent : Location} {name : Name} {d : Disk}
    (h : d₀.Grows cwd a.target.ancestors.tail (d.erase temp))
    (hm : Workspace.Moved d cwd temp a.target d' parent name (.file a.chunks.flatten)) :
    a.Intact cwd d₀ (d', .ended .written) where
  under := nofun
  unwritten _ hw := absurd rfl hw
  written _ := by
    have he := d.keepsDirectories_of_erase temp
    have hput (l : Location) (hl : l ≠ []) : d'.node? l =
        if l = parent ++ [name] then some (.file a.chunks.flatten) else (d.erase temp).node? l := by
      rw [hm.disk, Disk.node?_put _ _ _ hl]
    refine ⟨parent ++ [name], ?leads, ?holds, ?free, ?rest⟩
    case leads =>
      have hl := Workspace.locate_of_keepsDirectories hm.keepsDirectories hm.located
      exact ⟨_, hl, rfl⟩
    case holds => rw [hput _ (by simp), if_pos rfl]
    case free => exact fun hn => hm.free (he _ (h.keepsDirectories _ hn))
    case rest =>
      intro l hl
      have hs : d'.node? l = (d.erase temp).node? l := by
        by_cases hn : l = []
        case pos => rw [hn, Disk.node?_nil, Disk.node?_nil]
        case neg => rw [hput l hn, if_neg hl]
      rw [Disk.GrowsAt, hs]
      cases h l
      case inl hs => exact .inl hs
      case inr hg =>
        obtain ⟨hn, hd, p, hp, hl⟩ := hg
        exact .inr ⟨hn, hd, p, hp, hl.of_keepsDirectories (he.trans hm.keepsDirectories)⟩

theorem Intact.effect (h : a.Intact cwd d₀ s) (hk : a.Kept cwd s) (e : a.Effect cwd s s') :
    a.Intact cwd d₀ s' := by
  cases e
  case rested ht hw =>
    constructor
    case under => exact fun temp hs => h.under temp (ht ▸ hs)
    case unwritten => exact fun hs hn => h.unwritten (ht ▸ hs) (hw.not.mp hn)
    case written => exact fun hs => h.written (hw.mp hs)
  case prepared hg ht hw =>
    constructor
    case under => exact fun temp hs => nomatch ht.symm.trans hs
    case unwritten => exact fun _ _ => (h.unwritten rfl nofun).trans hg
    case written => exact fun hs => absurd hs hw
  case opened ht hn =>
    constructor
    case under =>
      intro temp hs
      cases hs
      rw [Disk.erase_put, Disk.erase_of_none hn]
      exact h.unwritten rfl nofun
    all_goals nofun
  case filled =>
    constructor
    case under =>
      intro temp hs
      cases hs
      rw [erase_append]
      exact h.under _ rfl
    all_goals nofun
  case dropped ht hw =>
    constructor
    case under => nofun
    case unwritten => exact fun _ _ => h.under _ ht
    case written =>
      intro hs
      cases hs
      contradiction
  case moved hm =>
    cases hk.eq_of_moved hm
    exact .moved (h.under _ rfl) hm

theorem Intact.run (a : AtomicWrite) (cwd : Location) (refuse : Refusals) (d : Disk) :
    a.Intact cwd d (a.run cwd refuse d) := by
  have h (k : Nat) : a.Kept cwd (Nat.repeat (a.step cwd refuse) k (d, .parents)) ∧
      a.Intact cwd d (Nat.repeat (a.step cwd refuse) k (d, .parents)) := by
    induction k
    case zero => exact ⟨trivial, nofun, fun _ _ => .refl d, nofun⟩
    case succ k hi =>
      have ⟨hk, h⟩ := hi
      exact ⟨hk.step refuse, h.effect hk (a.effect_step cwd refuse _)⟩
  exact (h a.stepCount).right

theorem allOrNothing_run (w : Workspace) (a : AtomicWrite) (refuse : Refusals) :
    AllOrNothing w a.target a.chunks.flatten (a.run w.cwd refuse w.disk).1
      (outcome a.target (a.run w.cwd refuse w.disk).2).result where
  written h := by
    have hw := eq_written_of_outcome h
    have hs : a.run w.cwd refuse w.disk = ((a.run w.cwd refuse w.disk).1, .ended .written) :=
      Prod.ext rfl hw
    have hk := Kept.run a w.cwd refuse w.disk
    rw [hs] at hk
    exact ⟨hk, (Intact.run a w.cwd refuse w.disk).written hw⟩
  failed fault h := by
    have ⟨ending, he⟩ := a.exists_ended w.cwd refuse w.disk
    have hw : (a.run w.cwd refuse w.disk).2 ≠ .ended .written := by
      intro hw
      rw [hw] at h
      cases h
    exact (Intact.run a w.cwd refuse w.disk).unwritten (by rw [he]; rfl) hw

end AtomicWrite

-- Whatever the operating system refuses while the steps of a write are taken, and in particular when
-- it refuses nothing.
theorem Workspace.write_all_or_nothing (w : Workspace) :
    (∀ (a : AtomicWrite) (refuse : AtomicWrite.Refusals),
      AllOrNothing w a.target a.chunks.flatten (a.run w.cwd refuse w.disk).1
        (AtomicWrite.outcome a.target (a.run w.cwd refuse w.disk).2).result) ∧
    ∀ (target : Path) (contents : Bytes),
      AllOrNothing w target contents (w.writeAtomic target contents).1
        (w.writeAtomic target contents).2.result := by
  constructor
  case left => exact fun a refuse => a.allOrNothing_run w refuse
  case right =>
    intro target contents
    let a : AtomicWrite := ⟨target, [contents], w.disk.freshName (Workspace.names target)⟩
    have h := a.allOrNothing_run w .none
    rwa [List.flatten_singleton] at h

def Workspace.existing : Workspace where
  disk := ⟨[([Text.bytes "lib"], .directory), ([Text.bytes "lib", Text.bytes "out"], .file [7])]⟩
  cwd := []

theorem Workspace.write_all_or_nothing_existing :
    let target := Path.ofString "lib/out"
    let file := [Text.bytes "lib", Text.bytes "out"]
    let a : AtomicWrite := ⟨target, [[1], [2]], Text.bytes "tmp"⟩
    let refuse : AtomicWrite.Refusals := ⟨fun _ => none, fun stage =>
      if stage = .syncing [Text.bytes "lib", Text.bytes "tmp"] then some (.os .busy) else none⟩
    ((existing.writeAtomic target [1, 2]).2.result = .ok () ∧
      Workspace.read ⟨(existing.writeAtomic target [1, 2]).1, []⟩ target = .ok [1, 2]) ∧
    (a.run [] refuse existing.disk).2 = .ended (.failed (.os .busy)) ∧
      existing.disk.Grows [] target.ancestors.tail (a.run [] refuse existing.disk).1 ∧
      (a.run [] refuse existing.disk).1.node? file = some (.file [7]) := by
  intro target file a refuse
  have hw : (existing.writeAtomic target [1, 2]).2.result = .ok () := by decide +kernel
  have hr : (a.run [] refuse existing.disk).2 = .ended (.failed (.os .busy)) := by decide +kernel
  have hf : (AtomicWrite.outcome target (a.run [] refuse existing.disk).2).result =
    .error (.os .busy) := by rw [hr]; rfl
  obtain ⟨ha, hd⟩ := write_all_or_nothing existing
  have hg := (ha a refuse).failed _ hf
  exact ⟨⟨hw, ((hd target [1, 2]).written hw).left⟩, hr, hg, hg.node?_of_some (by decide +kernel)⟩

end PlatformCatalog
