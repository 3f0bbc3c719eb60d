import PlatformCatalog.Disk.AtomicWrite
import PlatformCatalog.Proofs.Disk.Workspace

namespace PlatformCatalog

variable {a : AtomicWrite} {cwd temp : Location} {d : Disk}

namespace AtomicWrite

def Kept (a : AtomicWrite) (cwd : Location) : Disk × Stage → Prop
  | (d, .filling temp left) =>
    ∃ written, d.node? temp = some (.file written) ∧ written ++ left.flatten = a.chunks.flatten
  | (d, .syncing temp) | (d, .moving temp) => d.node? temp = some (.file a.chunks.flatten)
  | (d, .ended .written) => Workspace.read ⟨d, cwd⟩ a.target = .ok a.chunks.flatten
  | (_, .parents) | (_, .temporary) | (_, .ended (.failed _)) | (_, .ended (.notMoved _)) => True

theorem node?_append {written chunk : Bytes} (h : d.node? temp = some (.file written)) :
    (append d temp chunk).node? temp = some (.file (written ++ chunk)) := by
  have hn : temp ≠ [] := by
    intro hn
    rw [hn, Disk.node?_nil] at h
    cases h
  rw [append, h]
  simp [Disk.node?_put _ _ _ hn]

theorem eq_of_createTemp {d' : Disk} (h : a.createTemp ⟨d, cwd⟩ = .ok (d', temp)) :
    ∃ spot : Spot, Workspace.locate ⟨d, cwd⟩ a.parent = .ok spot ∧
      d.isDirectory spot.location = true ∧ temp = spot.location ++ [a.temp] ∧
      d.node? temp = none ∧ d' = d.put temp (.file []) := by
  -- Whether the working directory is asked for or not, the rest is the same.
  have h : ∃ spot, Workspace.locate ⟨d, cwd⟩ a.parent = .ok spot ∧
      (if d.isDirectory spot.location then
        if (d.node? (spot.location ++ [a.temp])).isSome then .error (IoFault.os .alreadyExists)
        else Except.ok (d.put (spot.location ++ [a.temp]) (.file []), spot.location ++ [a.temp])
      else .error (IoFault.os .noEntry)) = .ok (d', temp) := by
    unfold createTemp at h
    split_ifs at h
    case pos =>
      obtain ⟨_, _, h⟩ := bind_eq_ok_iff.mp h
      exact bind_eq_ok_iff.mp h
    case neg => exact bind_eq_ok_iff.mp h
  obtain ⟨spot, hl, h⟩ := h
  split_ifs at h with hd hn
  cases h
  exact ⟨spot, hl, hd, rfl, by simpa using hn, rfl⟩

theorem node?_createTemp {d' : Disk} (h : a.createTemp ⟨d, cwd⟩ = .ok (d', temp)) :
    d'.node? temp = some (.file []) := by
  obtain ⟨spot, _, _, rfl, _, rfl⟩ := eq_of_createTemp h
  rw [Disk.node?_put _ _ _ (by simp), if_pos rfl]

theorem Kept.eq_of_moved {d' : Disk} {parent : Location} {name : Name} {node : Node}
    (h : a.Kept cwd (d, .moving temp))
    (hm : Workspace.Moved d cwd temp a.target d' parent name node) :
    node = .file a.chunks.flatten :=
  Option.some.inj (hm.found.symm.trans h)

theorem Kept.step {s : Disk × Stage} (h : a.Kept cwd s) (refuse : Refusals) :
    a.Kept cwd (a.step cwd refuse s) := by
  obtain ⟨d, stage⟩ := s
  cases stage
  case parents =>
    rw [AtomicWrite.step]
    split
    case h_1 => trivial
    case h_2 => split <;> trivial
  case temporary =>
    rw [AtomicWrite.step]
    split
    case h_1 => trivial
    case h_2 =>
      split
      case h_1 hc => exact ⟨[], node?_createTemp hc, rfl⟩
      case h_2 => trivial
  case filling temp left =>
    obtain ⟨written, hn, hw⟩ := h
    cases left
    case nil => simpa [AtomicWrite.step, Kept, hn] using hw
    case cons chunk left =>
      rw [AtomicWrite.step]
      split
      case h_1 => trivial
      case h_2 => exact ⟨written ++ chunk, node?_append hn, by simpa using hw⟩
  case syncing temp =>
    rw [AtomicWrite.step]
    split
    case h_1 => trivial
    case h_2 => exact h
  case moving temp =>
    rw [AtomicWrite.step]
    split
    case h_1 => trivial
    case h_2 =>
      split
      case h_1 hm =>
        obtain ⟨parent, name, node, hm⟩ := Workspace.exists_moved hm
        cases h.eq_of_moved hm
        exact hm.read
      case h_2 => trivial
  case ended ending => exact h

theorem Kept.run (a : AtomicWrite) (cwd : Location) (refuse : Refusals) (d : Disk) :
    a.Kept cwd (a.run cwd refuse d) := by
  rw [AtomicWrite.run]
  induction a.stepCount
  case zero => trivial
  case succ n hi => exact hi.step refuse

theorem eq_written_of_outcome {target : Path} {stage : Stage}
    (h : (outcome target stage).result = .ok ()) : stage = .ended .written := by
  unfold outcome at h
  split at h
  case h_1 => rfl
  all_goals cases h

end AtomicWrite

theorem Workspace.read_writeAtomic {w : Workspace} {target : Path} {contents : Bytes}
    (h : (w.writeAtomic target contents).2.result = .ok ()) :
    read ⟨(w.writeAtomic target contents).1, w.cwd⟩ target = .ok contents := by
  let a : AtomicWrite := ⟨target, [contents], w.disk.freshName (Workspace.names target)⟩
  have hk : a.Kept w.cwd (a.run w.cwd .none w.disk) := .run ..
  have hw : (a.run w.cwd .none w.disk).2 = .ended .written :=
    AtomicWrite.eq_written_of_outcome h
  have hs : a.run w.cwd .none w.disk =
      ((w.writeAtomic target contents).1, .ended .written) := Prod.ext rfl hw
  rw [hs] at hk
  simpa [AtomicWrite.Kept, a] using hk

end PlatformCatalog
