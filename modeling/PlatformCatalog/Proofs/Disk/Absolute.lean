import Mathlib.Data.List.Fold
import Mathlib.Data.List.MinMax
import Mathlib.Order.Nat
import PlatformCatalog.Proofs.Disk.AllOrNothing

namespace PlatformCatalog

variable {d : Disk} {p : Path}

namespace Workspace

theorem eq_ofNames_of_workingDirectory {cwd : Location} (h : workingDirectory ⟨d, cwd⟩ = .ok p) :
    p = .ofNames cwd := by
  unfold workingDirectory at h
  split at h
  case isFalse => cases h
  case isTrue =>
    cases h
    split
    case isTrue hc =>
      subst hc
      rfl
    case isFalse hc => rw [←Path.bytes_ofNames hc]

-- Refused or not, the steps that lead to a path are the same from two working directories.
section Absolute

variable (refuse : Path → Option IoFault) (d : Disk) (cwd cwd' : Location) (hp : p.isAbsolute = true)

include hp

theorem locate_of_isAbsolute : locate ⟨d, cwd⟩ p = locate ⟨d, cwd'⟩ p := by
  simp only [locate, hp, if_true]

theorem status_of_isAbsolute : status ⟨d, cwd⟩ p = status ⟨d, cwd'⟩ p := by
  simp only [status, locate_of_isAbsolute d cwd cwd' hp]

theorem isDirectory_of_isAbsolute : isDirectory ⟨d, cwd⟩ p = isDirectory ⟨d, cwd'⟩ p := by
  simp only [isDirectory, status_of_isAbsolute d cwd cwd' hp]

theorem sameAt_of_isAbsolute : (view ⟨d, cwd⟩).SameAt (view ⟨d, cwd'⟩) p := by
  constructor
  case left => simp only [view, isFile, status_of_isAbsolute d cwd cwd' hp]
  case right => simp only [view, read, status_of_isAbsolute d cwd cwd' hp]

theorem tryDirectory_of_isAbsolute :
    tryDirectory refuse ⟨d, cwd⟩ p = tryDirectory refuse ⟨d, cwd'⟩ p := by
  simp only [tryDirectory, makeDirectory, locate_of_isAbsolute d cwd cwd' hp]

theorem ensureDirectory_of_isAbsolute :
    ensureDirectory refuse ⟨d, cwd⟩ p = ensureDirectory refuse ⟨d, cwd'⟩ p := by
  simp only [ensureDirectory, tryDirectory_of_isAbsolute refuse d cwd cwd' hp,
    isDirectory_of_isAbsolute d cwd cwd' hp]

theorem makeDirectoriesUnless_of_parent (hi : ∀ q, p.parent? = some q →
      makeDirectoriesUnless refuse ⟨d, cwd⟩ q = makeDirectoriesUnless refuse ⟨d, cwd'⟩ q) :
    makeDirectoriesUnless refuse ⟨d, cwd⟩ p = makeDirectoriesUnless refuse ⟨d, cwd'⟩ p := by
  have ht := tryDirectory_of_isAbsolute refuse d cwd cwd' hp
  have hd := isDirectory_of_isAbsolute d cwd cwd' hp
  rw [makeDirectoriesUnless, makeDirectoriesUnless, ht, hd]
  split
  case isTrue => rfl
  case isFalse =>
    split
    case h_1 => rfl
    case h_2 =>
      split_ifs
      case pos =>
        split
        case h_1 => rfl
        case h_2 q hq =>
          simp only [hi q hq, ensureDirectory_of_isAbsolute refuse _ cwd cwd' hp]
      case pos => rfl
      case neg => rfl

theorem makeDirectoriesUnless_of_isAbsolute :
    makeDirectoriesUnless refuse ⟨d, cwd⟩ p = makeDirectoriesUnless refuse ⟨d, cwd'⟩ p := by
  fun_induction Path.ancestors p
  case case1 p hn =>
    apply makeDirectoriesUnless_of_parent refuse d cwd cwd' hp
    intro q hq
    cases hn.symm.trans hq
  case case2 p q hq hi =>
    apply makeDirectoriesUnless_of_parent refuse d cwd cwd' hp
    intro r hr
    cases hq.symm.trans hr
    exact hi (Path.isAbsolute_parent hp hq)

theorem moveFile_of_isAbsolute (source : Location) :
    moveFile ⟨d, cwd⟩ source p = moveFile ⟨d, cwd'⟩ source p := by
  simp only [moveFile, locate_of_isAbsolute d cwd cwd' hp]

end Absolute

end Workspace

namespace Disk

theorem node?_freshName (d : Disk) (taken : List Name) (l : Location) :
    d.node? (l ++ [d.freshName taken]) = none := by
  rw [node?_of_ne_nil _ (by simp), List.lookup_eq_none_iff]
  intro e he
  rw [bne_iff_ne]
  intro hl
  -- A name of a node is no longer than the longest one.
  have hm : (d.freshName taken).length ∈ (d.nodes.flatMap (·.1) ++ taken).map List.length := by
    refine List.mem_map_of_mem (List.mem_append_left _ (List.mem_flatMap.mpr ⟨e, he, ?_⟩))
    rw [←hl]
    exact List.mem_concat_self
  have hf := List.le_max_of_le' 0 hm le_rfl
  rw [←List.foldl_eq_foldr] at hf
  simp only [freshName, List.length_append, List.length_replicate] at hf
  omega

theorem walk_dots (d : Disk) (l : Location) {ns : List Name} (h : ∀ n ∈ ns, n = [Path.dot]) :
    d.walk l ns = .ok l := by
  induction ns
  case nil => rfl
  case cons n ns hi =>
    have ⟨hn, hns⟩ := List.forall_mem_cons.mp h
    rw [walk, if_pos hn, hi hns]

end Disk

namespace Workspace

theorem eq_dot_of_mem_names (h : p.isAbsolute = true) (hn : p.parent? = none) :
    ∀ n ∈ names p, n = [Path.dot] := by
  obtain ⟨bs, hb⟩ := Path.isAbsolute_iff.mp h
  intro n hm
  have hs := Path.saysNothing_of_parent? hn n
  simp only [Path.bodyReversed, Path.start_of_isAbsolute h, hb, List.mem_reverse,
    List.length_singleton, List.drop_one, List.tail_cons] at hs
  simp only [names, hb, List.splitOn_cons_eq_if_modifyHead, beq_self_eq_true, if_true,
    List.mem_filter, List.mem_cons, decide_eq_true_eq] at hm
  obtain ⟨hm, hne⟩ := hm
  simpa [Path.saysNothing, hne] using hs (hm.resolve_left hne)

theorem contains_zero_of_parent?_eq_none (hn : p.parent? = none) : p.bytes.contains 0 = false := by
  rw [List.contains_eq_mem, decide_eq_false_iff_not]
  intro hz
  cases Path.eq_slash_or_dot hn 0 hz <;> contradiction

theorem locate_of_parent?_eq_none (w : Workspace) (h : p.isAbsolute = true)
    (hn : p.parent? = none) : w.locate p =
      if Disk.maxPathLength < p.bytes.length then .error (.os .nameTooLong)
      else .ok (.directory []) := by
  have hb : p.bytes ≠ [] := by
    obtain ⟨bs, hb⟩ := Path.isAbsolute_iff.mp h
    simp [hb]
  have hd := eq_dot_of_mem_names h hn
  rw [locate, contains_zero_of_parent?_eq_none hn, if_neg Bool.false_ne_true, if_neg hb, if_pos h]
  split_ifs
  case pos => rfl
  case neg =>
    cases hl : (names p).getLast?
    case none => rfl
    case some last =>
      have hw := w.disk.walk_dots [] fun n hn => hd n (List.dropLast_subset _ hn)
      simp only [hw, ok_bind, hd last (List.mem_of_getLast? hl), if_true]
      rfl

theorem exists_moveFile_eq_error (h : p.isAbsolute = true) (hn : p.parent? = none) :
    ∃ fault, ∀ w source, moveFile w source p = .error fault := by
  simp only [moveFile, contains_zero_of_parent?_eq_none hn, locate_of_parent?_eq_none _ h hn,
    Bool.false_eq_true, if_false]
  split_ifs
  case pos => exact ⟨.os .nameTooLong, fun _ _ => rfl⟩
  case neg => exact ⟨.os .busy, fun _ _ => rfl⟩

end Workspace

namespace AtomicWrite

variable {a : AtomicWrite} {cwd cwd' : Location}

theorem parent_of_parent? {q : Path} (h : a.target.isAbsolute = true)
    (hq : a.target.parent? = some q) : a.parent = q := by
  obtain ⟨bs, hb⟩ := Path.isAbsolute_iff.mp (Path.isAbsolute_parent h hq)
  obtain ⟨bytes⟩ := q
  subst hb
  simp only [parent, hq]

theorem createTemp_of_isAbsolute (d : Disk) (cwd cwd' : Location)
    (hp : a.parent.isAbsolute = true) : a.createTemp ⟨d, cwd⟩ = a.createTemp ⟨d, cwd'⟩ := by
  simp only [createTemp, hp, Workspace.locate_of_isAbsolute d cwd cwd' hp]
  rfl

theorem step_of_isAbsolute (hp : a.parent.isAbsolute = true) (ht : a.target.isAbsolute = true)
    (cwd cwd' : Location) (refuse : Refusals) : a.step cwd refuse = a.step cwd' refuse := by
  funext ⟨d, stage⟩
  cases stage
  case parents =>
    simp only [step, Workspace.makeDirectoriesUnless_of_isAbsolute _ d cwd cwd' hp]
  case temporary => simp only [step, createTemp_of_isAbsolute d cwd cwd' hp]
  case filling temp left => cases left <;> rfl
  case syncing => rfl
  case moving => simp only [step, Workspace.moveFile_of_isAbsolute d cwd cwd' ht]
  case ended => rfl

theorem createTemp_here (hp : a.parent = .here) (hc : d.isDirectory cwd = true)
    (hf : d.node? (cwd ++ [a.temp]) = none) :
    a.createTemp ⟨d, cwd⟩ = .ok (d.put (cwd ++ [a.temp]) (.file []), cwd ++ [a.temp]) := by
  have hr : Path.here.isAbsolute = false := rfl
  have hl : Workspace.locate ⟨d, cwd⟩ .here = .ok (.directory cwd) := rfl
  simp only [createTemp, hp, hr, hl, Workspace.workingDirectory, hc, hf, ok_bind, Spot.location]
  rfl

-- A write that cannot be moved onto its target: but for the temporary file, the disk is the one that
-- it began with.
def Spared (fault : IoFault) (d₀ : Disk) : Disk × Stage → Prop
  | (d, .parents) | (d, .temporary) => d = d₀
  | (d, .filling temp _) | (d, .syncing temp) | (d, .moving temp) => d.erase temp = d₀
  | (d, .ended ending) => d = d₀ ∧ ending = .notMoved fault

section Spared

variable {fault : IoFault} {s : Disk × Stage}

theorem Spared.step (hp : a.parent = .here) (hc : d.isDirectory cwd = true)
    (hf : d.node? (cwd ++ [a.temp]) = none)
    (hm : ∀ w source, Workspace.moveFile w source a.target = .error fault)
    (h : Spared fault d s) : Spared fault d (a.step cwd .none s) := by
  obtain ⟨d', stage⟩ := s
  cases stage
  case parents => simpa [AtomicWrite.step, Refusals.none, hp, Workspace.makeDirectoriesUnless_here]
  case temporary =>
    cases h
    simp only [AtomicWrite.step, Refusals.none, createTemp_here hp hc hf, Spared]
    rw [Disk.erase_put, Disk.erase_of_none hf]
  case filling temp left =>
    cases left
    case nil => exact h
    case cons chunk left => exact (erase_append d' temp chunk).trans h
  case syncing => exact h
  case moving => simpa [AtomicWrite.step, Refusals.none, hm, Spared] using h
  case ended => exact h

theorem run_eq_of_moveFile (hp : a.parent = .here) (hc : d.isDirectory cwd = true)
    (hf : d.node? (cwd ++ [a.temp]) = none)
    (hm : ∀ w source, Workspace.moveFile w source a.target = .error fault) :
    a.run cwd .none d = (d, .ended (.notMoved fault)) := by
  have hs (k : Nat) : Spared fault d (Nat.repeat (a.step cwd .none) k (d, .parents)) := by
    induction k
    case zero => rfl
    case succ k hi => exact hi.step hp hc hf hm
  have hr : Spared fault d (a.run cwd .none d) := hs a.stepCount
  obtain ⟨ending, he⟩ := a.exists_ended cwd .none d
  generalize a.run cwd .none d = s at hr he
  obtain ⟨d', stage⟩ := s
  subst he
  obtain ⟨rfl, rfl⟩ := hr
  rfl

end Spared

end AtomicWrite

theorem Workspace.writeAtomic_of_isAbsolute {cwd cwd' : Location} {target : Path}
    (h : target.isAbsolute = true) (hc : d.isDirectory cwd = true)
    (hc' : d.isDirectory cwd' = true) (contents : Bytes) :
    writeAtomic ⟨d, cwd⟩ target contents = writeAtomic ⟨d, cwd'⟩ target contents := by
  let a : AtomicWrite := ⟨target, [contents], d.freshName (names target)⟩
  have hr : a.run cwd .none d = a.run cwd' .none d := by
    cases hq : target.parent?
    case some q =>
      have hp : a.parent.isAbsolute = true := by
        rw [AtomicWrite.parent_of_parent? h hq]
        exact Path.isAbsolute_parent h hq
      rw [AtomicWrite.run, AtomicWrite.run, AtomicWrite.step_of_isAbsolute hp h cwd cwd']
    case none =>
      have hp : a.parent = .here := by simp only [AtomicWrite.parent, a, hq]
      have hf (l : Location) : d.node? (l ++ [a.temp]) = none := d.node?_freshName _ l
      obtain ⟨fault, hm⟩ := exists_moveFile_eq_error h hq
      rw [AtomicWrite.run_eq_of_moveFile hp hc (hf cwd) hm,
        AtomicWrite.run_eq_of_moveFile hp hc' (hf cwd') hm]
  change ((a.run cwd .none d).1, AtomicWrite.outcome target (a.run cwd .none d).2) = _
  rw [hr]
  rfl

end PlatformCatalog
