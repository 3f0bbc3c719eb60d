import Mathlib.Logic.Function.Basic
import PlatformCatalog.Proofs.Disk.Effect

namespace PlatformCatalog

open AtomicWrite Workspace

structure Writer where
  write : AtomicWrite
  cwd : Location

namespace Writer

def contents (x : Writer) : Bytes :=
  x.write.chunks.flatten

def destination (x : Writer) : Location :=
  Workspace.destination x.cwd x.write.target

end Writer

-- The disk, how far each writer has come, and the writers whose file is in its place, the last one
-- to get there first.
structure Traffic (ι : Type) where
  disk : Disk
  stage : ι → Stage
  moved : List ι

namespace Traffic

variable {ι : Type} [DecidableEq ι]

def start (d : Disk) : Traffic ι where
  disk := d
  stage _ := .parents
  moved := []

def advance (writers : ι → Writer) (t : Traffic ι) (i : ι) (refuse : Refusals) : Traffic ι :=
  let s := (writers i).write.step (writers i).cwd refuse (t.disk, t.stage i)
  { disk := s.1
    stage := Function.update t.stage i s.2
    moved := if s.2 = .ended .written ∧ t.stage i ≠ .ended .written then i :: t.moved else t.moved }

def run (writers : ι → Writer) (t : Traffic ι) (moves : List (ι × Refusals)) : Traffic ι :=
  moves.foldl (fun t m => t.advance writers m.1 m.2) t

def lastAt? (writers : ι → Writer) (t : Traffic ι) (l : Location) : Option ι :=
  t.moved.find? fun i => (writers i).destination = l

-- The location holds what was moved there last. If nothing was, it is as it was at the start, unless
-- a directory was made there.
def Shows (writers : ι → Writer) (d₀ : Disk) (t : Traffic ι) (l : Location) : Prop :=
  match t.lastAt? writers l with
  | some i => t.disk.node? l = some (.file (writers i).contents)
  | none => t.disk.node? l = d₀.node? l ∨
    (d₀.node? l = none ∧ t.disk.node? l = some .directory)

end Traffic

-- No target goes up, or is named like a temporary file.
structure Apart {ι : Type} (writers : ι → Writer) : Prop where
  descends : ∀ i, Descends (writers i).write.target
  names    : ∀ i j, (writers i).destination.getLast? ≠ some (writers j).write.temp

variable {ι : Type} {writers : ι → Writer} {d₀ : Disk} {t t' : Traffic ι} {l temp : Location}

theorem Apart.ne_destination (h : Apart writers) (i j : ι)
    (ht : ∃ dir, temp = dir ++ [(writers j).write.temp]) : temp ≠ (writers i).destination := by
  intro hd
  have ⟨dir, ht⟩ := ht
  have hl := h.names i j
  rw [←hd, ht, List.getLast?_concat] at hl
  exact hl rfl

namespace Traffic

structure Orderly (writers : ι → Writer) (d₀ : Disk) (t : Traffic ι) : Prop where
  kept : ∀ i temp, (t.stage i).temp? = some temp →
    (writers i).write.Kept (writers i).cwd (t.disk, t.stage i)
  named : ∀ i temp, (t.stage i).temp? = some temp → ∃ dir, temp = dir ++ [(writers i).write.temp]
  fresh : ∀ i temp, (t.stage i).temp? = some temp → d₀.node? temp = none
  own : ∀ i j temp, (t.stage i).temp? = some temp → (t.stage j).temp? = some temp → i = j
  shows : ∀ l, (∀ i, (t.stage i).temp? ≠ some l) → t.Shows writers d₀ l
  keeps : d₀.KeepsDirectories t.disk
  reached : ∀ i ∈ t.moved, ∃ parent name,
    locate ⟨t.disk, (writers i).cwd⟩ (writers i).write.target = .ok (.entry parent name false) ∧
    name.length ≤ Disk.maxNameLength

theorem Orderly.start (writers : ι → Writer) (d₀ : Disk) : (start d₀).Orderly writers d₀ where
  kept _ _ h := nomatch h
  named _ _ h := nomatch h
  fresh _ _ h := nomatch h
  own _ _ _ h := nomatch h
  shows _ _ := .inl rfl
  keeps _ h := h
  reached := nofun

theorem lastAt?_eq_none (h : ∀ i, l ≠ (writers i).destination) : t.lastAt? writers l = none := by
  rw [lastAt?, List.find?_eq_none]
  exact fun i _ => by simpa using (h i).symm

theorem Shows.origin (h : t.Shows writers d₀ l) :
    (∃ i ∈ t.moved, (writers i).destination = l ∧
      t.disk.node? l = some (.file (writers i).contents)) ∨
    t.disk.node? l = d₀.node? l ∨ (d₀.node? l = none ∧ t.disk.node? l = some .directory) := by
  rw [Shows] at h
  split at h
  case h_1 i hl =>
    have hd : (writers i).destination = l := by simpa using List.find?_some hl
    exact .inl ⟨i, List.mem_of_find?_eq_some hl, hd, h⟩
  case h_2 => exact .inr h

theorem Shows.of_elsewhere (h : t.Shows writers d₀ l)
    (hl : t'.lastAt? writers l = t.lastAt? writers l)
    (he : t'.disk.node? l = t.disk.node? l ∨
      (t.disk.node? l = none ∧ t'.disk.node? l = some .directory)) : t'.Shows writers d₀ l := by
  rw [Shows, hl]
  rw [Shows] at h
  split at h
  case h_1 =>
    cases he
    case inl he => exact he.trans h
    case inr he => cases he.left.symm.trans h
  case h_2 =>
    cases he
    case inl he => exact he ▸ h
    case inr he =>
      cases h
      case inl h => exact .inr ⟨h.symm.trans he.left, he.right⟩
      case inr h => cases he.left.symm.trans h.right

theorem Orderly.exists_file {i : ι} (h : t.Orderly writers d₀)
    (ht : (t.stage i).temp? = some temp) : ∃ bytes, t.disk.node? temp = some (.file bytes) :=
  (h.kept i temp ht).exists_file ht

theorem Orderly.node?_of_none (h : t.Orderly writers d₀) (hn : t.disk.node? l = none) :
    d₀.node? l = none := by
  have hs : ∀ i, (t.stage i).temp? ≠ some l := by
    intro i ht
    have ⟨_, hf⟩ := h.exists_file ht
    cases hn.symm.trans hf
  obtain ⟨_, _, _, hf⟩ | he | hd := (h.shows l hs).origin
  case inl => cases hn.symm.trans hf
  case inr.inl => exact he.symm.trans hn
  case inr.inr => exact hd.left

theorem Orderly.exists_file_of_start {bytes : Bytes} (h : t.Orderly writers d₀)
    (hf : d₀.node? l = some (.file bytes)) : ∃ bytes, t.disk.node? l = some (.file bytes) := by
  have hs : ∀ i, (t.stage i).temp? ≠ some l := by
    intro i ht
    cases hf.symm.trans (h.fresh i l ht)
  obtain ⟨i, _, _, hi⟩ | he | hd := (h.shows l hs).origin
  case inl => exact ⟨(writers i).contents, hi⟩
  case inr.inl => exact ⟨bytes, he.trans hf⟩
  case inr.inr => cases hf.symm.trans hd.left

theorem Orderly.exists_file_of_moved {i : ι} (ha : Apart writers) (h : t.Orderly writers d₀)
    (hm : i ∈ t.moved) : ∃ bytes, t.disk.node? (writers i).destination = some (.file bytes) := by
  have hs : ∀ j, (t.stage j).temp? ≠ some (writers i).destination := by
    intro j ht
    exact ha.ne_destination i j (h.named j _ ht) rfl
  cases hl : t.lastAt? writers (writers i).destination
  case none =>
    rw [lastAt?, List.find?_eq_none] at hl
    exact absurd (hl i hm) (by simp)
  case some j =>
    have hj := h.shows _ hs
    rw [Shows, hl] at hj
    exact ⟨(writers j).contents, hj⟩

section Advance

variable [DecidableEq ι] {i j : ι} {refuse : Refusals}

theorem stage_advance_of_ne (h : j ≠ i) :
    (t.advance writers i refuse).stage j = t.stage j :=
  Function.update_of_ne h _ _

theorem stage_advance_self : (t.advance writers i refuse).stage i =
    ((writers i).write.step (writers i).cwd refuse (t.disk, t.stage i)).2 :=
  Function.update_self _ _ _

theorem effect_advance (writers : ι → Writer) (t : Traffic ι) (i : ι) (refuse : Refusals) :
    (writers i).write.Effect (writers i).cwd (t.disk, t.stage i)
      ((t.advance writers i refuse).disk, (t.advance writers i refuse).stage i) := by
  rw [stage_advance_self]
  exact effect_step _ _ refuse _

theorem moved_advance (writers : ι → Writer) (t : Traffic ι) (i : ι) (refuse : Refusals) :
    (t.advance writers i refuse).moved =
      if (t.advance writers i refuse).stage i = .ended .written ∧ t.stage i ≠ .ended .written
      then i :: t.moved else t.moved := by
  rw [stage_advance_self]
  rfl

theorem temp?_advance (h : ((t.advance writers i refuse).stage j).temp? = some temp) :
    (t.stage j).temp? = some temp ∨
      (t.disk.node? temp = none ∧ ∃ dir, temp = dir ++ [(writers j).write.temp]) := by
  by_cases hj : j = i
  case pos =>
    subst hj
    exact (t.effect_advance writers j refuse).temp?_eq h
  case neg =>
    rw [stage_advance_of_ne hj] at h
    exact .inl h

theorem Orderly.own_advance (h : t.Orderly writers d₀) (hj : j ≠ i)
    (ht : (t.stage j).temp? = some temp) :
    ((t.advance writers i refuse).stage i).temp? ≠ some temp := by
  intro hi
  cases temp?_advance hi
  case inl hi => exact hj (h.own j i temp ht hi)
  case inr hn =>
    have ⟨_, hf⟩ := h.exists_file ht
    cases hn.left.symm.trans hf

theorem Orderly.node?_advance (ha : Apart writers) (h : t.Orderly writers d₀) (hj : j ≠ i)
    (ht : (t.stage j).temp? = some temp) :
    (t.advance writers i refuse).disk.node? temp = t.disk.node? temp := by
  have e := t.effect_advance writers i refuse
  have hi : (t.stage i).temp? ≠ some temp := fun hi => hj (h.own j i temp ht hi)
  have hd := ha.ne_destination i j (h.named j temp ht)
  cases e.elsewhere (ha.descends i) hi (h.own_advance hj ht) fun _ _ => hd
  case inl he => exact he
  case inr hn =>
    have ⟨_, hf⟩ := h.exists_file ht
    cases hn.left.symm.trans hf

theorem Orderly.kept_advance (ha : Apart writers) (h : t.Orderly writers d₀)
    (ht : ((t.advance writers i refuse).stage j).temp? = some temp) :
    (writers j).write.Kept (writers j).cwd
      ((t.advance writers i refuse).disk, (t.advance writers i refuse).stage j) := by
  by_cases hj : j = i
  case pos =>
    subst hj
    rw [stage_advance_self] at ht ⊢
    exact Kept.step_of_temp? (h.kept j) ht
  case neg =>
    rw [stage_advance_of_ne hj] at ht ⊢
    exact (h.kept j temp ht).congr ht (h.node?_advance ha hj ht)

theorem Orderly.exists_moved (h : t.Orderly writers d₀)
    (hw : (t.advance writers i refuse).stage i = .ended .written)
    (hs : t.stage i ≠ .ended .written) :
    ∃ temp parent name, Moved t.disk (writers i).cwd temp (writers i).write.target
      (t.advance writers i refuse).disk parent name (.file (writers i).contents) := by
  have e := t.effect_advance writers i refuse
  rw [hw] at e
  exact e.exists_moved hs (h.kept i)

theorem Orderly.shows_advance (ha : Apart writers) (h : t.Orderly writers d₀)
    (hl : ∀ j, ((t.advance writers i refuse).stage j).temp? ≠ some l) :
    (t.advance writers i refuse).Shows writers d₀ l := by
  have e := t.effect_advance writers i refuse
  have hm := t.moved_advance writers i refuse
  by_cases hw : ((t.advance writers i refuse).stage i = .ended .written ∧
    t.stage i ≠ .ended .written) ∧ (writers i).destination = l
  case pos =>
    have ⟨hw, hd⟩ := hw
    have ⟨_, parent, name, hmv⟩ := h.exists_moved hw.left hw.right
    have hlast : (t.advance writers i refuse).lastAt? writers l = some i := by
      rw [lastAt?, hm, if_pos hw, List.find?_cons_of_pos (by simpa using hd)]
    rw [Shows, hlast, ←hd, Writer.destination, ←hmv.eq_destination (ha.descends i), hmv.disk]
    simp [Disk.node?_put]
  case neg =>
    have hlast : (t.advance writers i refuse).lastAt? writers l = t.lastAt? writers l := by
      rw [lastAt?, hm]
      split_ifs with hc
      case pos =>
        rw [List.find?_cons_of_neg (by simpa using fun hd => hw ⟨hc, hd⟩)]
        rfl
      case neg => rfl
    by_cases ht : (t.stage i).temp? = some l
    case pos =>
      -- Its own temporary file was there, which is gone now.
      have hd (k : ι) := ha.ne_destination k i (h.named i l ht)
      have hn : l ≠ [] := by
        have ⟨dir, hn⟩ := h.named i l ht
        simp [hn]
      rw [Shows, hlast, lastAt?_eq_none hd, e.node?_temp (ha.descends i) ht (hl i) hn (hd i)]
      exact .inl (h.fresh i l ht).symm
    case neg =>
      have hs (j : ι) : (t.stage j).temp? ≠ some l := by
        by_cases hj : j = i
        case pos => exact hj ▸ ht
        case neg =>
          have hl := hl j
          rwa [stage_advance_of_ne hj] at hl
      apply (h.shows l hs).of_elsewhere hlast
      exact e.elsewhere (ha.descends i) ht (hl i) fun hi hs hd => hw ⟨⟨hi, hs⟩, hd.symm⟩

theorem Orderly.advance (ha : Apart writers) (h : t.Orderly writers d₀) (i : ι)
    (refuse : Refusals) : (t.advance writers i refuse).Orderly writers d₀ := by
  have e := t.effect_advance writers i refuse
  have hk := e.keepsDirectories (ha.descends i) (h.kept i)
  constructor
  case kept => exact fun j temp ht => h.kept_advance ha ht
  case named =>
    intro j temp ht
    cases temp?_advance ht
    case inl ht => exact h.named j temp ht
    case inr hn => exact hn.right
  case fresh =>
    intro j temp ht
    cases temp?_advance ht
    case inl ht => exact h.fresh j temp ht
    case inr hn => exact h.node?_of_none hn.left
  case own =>
    intro j k temp hj hk
    by_cases hji : j = i
    case pos =>
      by_cases hki : k = i
      case pos => exact hji.trans hki.symm
      case neg =>
        rw [stage_advance_of_ne hki] at hk
        exact absurd (hji ▸ hj) (h.own_advance hki hk)
    case neg =>
      rw [stage_advance_of_ne hji] at hj
      by_cases hki : k = i
      case pos => exact absurd (hki ▸ hk) (h.own_advance hji hj)
      case neg =>
        rw [stage_advance_of_ne hki] at hk
        exact h.own j k temp hj hk
  case shows => exact fun l hl => h.shows_advance ha hl
  case keeps => exact h.keeps.trans hk
  case reached =>
    intro j hj
    by_cases hold : j ∈ t.moved
    case pos =>
      have ⟨parent, name, hl, hn⟩ := h.reached j hold
      exact ⟨parent, name, locate_of_keepsDirectories hk hl, hn⟩
    case neg =>
      rw [moved_advance] at hj
      split_ifs at hj with hw
      case pos =>
        have hj : j = i := (List.mem_cons.mp hj).resolve_right hold
        have ⟨_, parent, name, hm⟩ := h.exists_moved hw.left hw.right
        rw [hj]
        exact ⟨parent, name, locate_of_keepsDirectories hk hm.located, hm.short⟩
      case neg => contradiction

theorem Orderly.run (ha : Apart writers) (h : t.Orderly writers d₀)
    (moves : List (ι × Refusals)) : (t.run writers moves).Orderly writers d₀ := by
  induction moves generalizing t
  case nil => exact h
  case cons m moves hi => exact hi (h.advance ha m.1 m.2)

end Advance

-- What readers see of the writers' work at any moment.
structure WholeFiles (writers : ι → Writer) (d₀ : Disk) (t : Traffic ι) : Prop where
  -- A file that is not a temporary one is as it was at the start, or as one writer wrote it.
  seen : ∀ cwd p bytes, Descends p →
    (∀ i, (t.stage i).temp? ≠ some (Workspace.destination cwd p)) →
    read ⟨t.disk, cwd⟩ p = .ok bytes →
    d₀.node? (Workspace.destination cwd p) = some (.file bytes) ∨
      ∃ i ∈ t.moved, (writers i).destination = Workspace.destination cwd p ∧
        bytes = (writers i).contents
  -- A file that was there at the start can always be read.
  present : ∀ cwd p bytes, read ⟨d₀, cwd⟩ p = .ok bytes →
    ∃ bytes, read ⟨t.disk, cwd⟩ p = .ok bytes
  -- So can a file from the moment on that it was moved onto its target.
  replaced : ∀ i ∈ t.moved, ∃ bytes,
    t.disk.node? (writers i).destination = some (.file bytes) ∧
    read ⟨t.disk, (writers i).cwd⟩ (writers i).write.target = .ok bytes
  -- In the end, the last move decides, and no temporary file remains.
  settled : (∀ i, ∃ ending, t.stage i = .ended ending) →
    (∀ l i, t.lastAt? writers l = some i → t.disk.node? l = some (.file (writers i).contents)) ∧
    (∀ l, t.lastAt? writers l = none → t.disk.node? l = d₀.node? l ∨
      (d₀.node? l = none ∧ t.disk.node? l = some .directory)) ∧
    ∀ i dir bytes, t.disk.node? (dir ++ [(writers i).write.temp]) = some (.file bytes) →
      d₀.node? (dir ++ [(writers i).write.temp]) = some (.file bytes)

theorem Orderly.wholeFiles (ha : Apart writers) (h : t.Orderly writers d₀) :
    t.WholeFiles writers d₀ where
  seen cwd p bytes hp ht hr := by
    have ⟨parent, name, hl, _, hf⟩ := read_eq_ok_iff.mp hr
    have hd : parent ++ [name] = Workspace.destination cwd p := location_of_locate hp hl
    rw [hd] at hf
    obtain ⟨i, hi, hl, hc⟩ | he | hn := (h.shows _ ht).origin
    case inl =>
      cases hf.symm.trans hc
      exact .inr ⟨i, hi, hl, rfl⟩
    case inr.inl => exact .inl (he.symm.trans hf)
    case inr.inr => cases hf.symm.trans hn.right
  present cwd p bytes hr := by
    have ⟨parent, name, hl, hn, hf⟩ := read_eq_ok_iff.mp hr
    have ⟨bytes, hf⟩ := h.exists_file_of_start hf
    exact ⟨bytes, read_eq_ok_iff.mpr
      ⟨parent, name, locate_of_keepsDirectories h.keeps hl, hn, hf⟩⟩
  replaced i hi := by
    have ⟨parent, name, hl, hn⟩ := h.reached i hi
    have hd : parent ++ [name] = (writers i).destination := location_of_locate (ha.descends i) hl
    have ⟨bytes, hf⟩ := h.exists_file_of_moved ha hi
    exact ⟨bytes, hf, read_eq_ok_iff.mpr ⟨parent, name, hl, hn, hd ▸ hf⟩⟩
  settled he := by
    have hs (l : Location) : t.Shows writers d₀ l := by
      apply h.shows l
      intro i ht
      have ⟨ending, he⟩ := he i
      rw [he] at ht
      cases ht
    have hfirst (l : Location) (hl : t.lastAt? writers l = none) : t.disk.node? l = d₀.node? l ∨
        (d₀.node? l = none ∧ t.disk.node? l = some .directory) := by
      simpa only [Shows, hl] using hs l
    refine ⟨?last, hfirst, ?temps⟩
    case last =>
      intro l i hl
      simpa only [Shows, hl] using hs l
    case temps =>
      intro i dir bytes hf
      have hd (k : ι) := ha.ne_destination k i ⟨dir, rfl⟩
      cases hfirst _ (lastAt?_eq_none hd)
      case inl hn => exact hn.symm.trans hf
      case inr hn => cases hf.symm.trans hn.right

theorem readers_see_whole_files [DecidableEq ι] (ha : Apart writers) (d₀ : Disk)
    (moves : List (ι × Refusals)) : ((start d₀).run writers moves).WholeFiles writers d₀ :=
  ((Orderly.start writers d₀).run ha moves).wholeFiles ha

def rivals : Bool → Writer
  | false => ⟨⟨.ofString "lib/out", [[1], [2]], Text.bytes "tmp1"⟩, []⟩
  | true => ⟨⟨.ofString "/lib//out", [[3]], Text.bytes "tmp2"⟩, [Text.bytes "lib"]⟩

def overtaking : List (Bool × Refusals) :=
  [false, false, false, true, true, true, true, false, true, true, false, false, false].map
    fun i => (i, .none)

def shelf : Disk :=
  ⟨[([Text.bytes "lib"], .directory), ([Text.bytes "lib", Text.bytes "out"], .file [9])]⟩

theorem readers_see_whole_files_overtaking :
    Apart rivals ∧ ((start shelf).run rivals overtaking).moved = [false, true] ∧
    ((start shelf).run rivals overtaking).WholeFiles rivals shelf ∧
    ((start shelf).run rivals overtaking).disk.node? [Text.bytes "lib", Text.bytes "out"] =
      some (.file [1, 2]) := by
  have ha : Apart rivals := by
    constructor
    case descends => exact fun i => by cases i <;> (rw [Descends]; decide)
    case names => decide
  have h := readers_see_whole_files ha shelf overtaking
  have he : ∀ i, ∃ ending, ((start shelf).run rivals overtaking).stage i = .ended ending := by
    intro i
    exists .written
    cases i <;> decide +kernel
  refine ⟨ha, by decide +kernel, h, ?_⟩
  exact (h.settled he).left _ false (by decide +kernel)

end Traffic
end PlatformCatalog
