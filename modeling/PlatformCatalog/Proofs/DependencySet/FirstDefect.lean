import Mathlib.Data.List.Nodup
import PlatformCatalog.Build.Publication
import PlatformCatalog.Proofs.DependencySet

namespace PlatformCatalog.DependencySet

open Coordinate

inductive ModuleFlaw (group : String) (ms : List String) (i : Nat) : Defect → Prop
  | invalid {m : String} :
    ms[i]? = some m → ¬IsField m → ModuleFlaw group ms i (.invalidModule group m)
  | repeated {m : String} {j : Nat} :
    ms[i]? = some m → IsField m → j < i → ms[j]? = some m →
      ModuleFlaw group ms i (.repeatedModule group m)

inductive Flaw (s : DependencySet) : Nat → Defect → Prop
  | emptyGroup     : s.group = "" → Flaw s 0 .emptyGroup
  | emptyVersion   : s.version = "" → Flaw s 1 (.emptyVersion s.group)
  | colonInGroup   : ':' ∈ s.group.toList → Flaw s 2 (.colonInGroup s.group)
  | colonInVersion : ':' ∈ s.version.toList → Flaw s 3 (.colonInVersion s.version)
  | noModules      : s.modules = [] → Flaw s 4 (.noModules s.group)
  | module {i : Nat} {d : Defect} : ModuleFlaw s.group s.modules i d → Flaw s (i + 5) d

structure FirstFlaw (s : DependencySet) (d : Defect) (rank : Nat) : Prop where
  flaw  : s.Flaw rank d
  least : ∀ r e, s.Flaw r e → rank ≤ r

variable {s : DependencySet} {d e : Defect} {rank i : Nat} {group : String}
variable {seen ms before after : List String}

theorem ModuleFlaw.unique (hd : ModuleFlaw group ms i d) (he : ModuleFlaw group ms i e) : d = e := by
  cases hd <;> cases he <;> simp_all

theorem Flaw.unique (hd : s.Flaw rank d) (he : s.Flaw rank e) : d = e := by
  cases hd <;> cases he
  case module.module hd he => exact hd.unique he
  all_goals rfl

theorem ModuleFlaw.lt_length (h : ModuleFlaw group ms i d) : i < ms.length := by
  cases h
  case invalid hm _ => exact (List.getElem?_eq_some_iff.mp hm).fst
  case repeated hm _ _ _ => exact (List.getElem?_eq_some_iff.mp hm).fst

theorem ModuleFlaw.length_le (h : ModuleFlaw group (before ++ after) i d)
    (hf : ∀ m ∈ before, IsField m) (hn : before.Nodup) : before.length ≤ i := by
  by_contra hi
  have hi : i < before.length := Nat.lt_of_not_le hi
  cases h
  case invalid m hm hx =>
    rw [List.getElem?_append_left hi] at hm
    exact hx (hf m (List.mem_of_getElem? hm))
  case repeated m j hm _ hj hr =>
    have hj' : j < before.length := Nat.lt_trans hj hi
    rw [List.getElem?_append_left hi] at hm
    rw [List.getElem?_append_left hj'] at hr
    exact Nat.ne_of_lt hj ((List.getElem?_inj hj' hn).mp (hr.trans hm.symm))

-- The scan stops at a module, after others that are in order and that it remembers.
theorem exists_of_moduleDefect? (h : moduleDefect? group seen ms = some d) :
    ∃ before m after, ms = before ++ m :: after ∧ moduleDefect? group seen before = none ∧
      ((¬IsField m ∧ d = .invalidModule group m) ∨
        (IsField m ∧ (m ∈ before ∨ m ∈ seen) ∧ d = .repeatedModule group m)) := by
  induction ms generalizing seen
  case nil => cases h
  case cons m ms hi =>
    by_cases hm : IsField m
    case neg =>
      cases (moduleDefect?_of_invalid hm).symm.trans h
      exact ⟨[], m, ms, rfl, rfl, .inl ⟨hm, rfl⟩⟩
    case pos =>
      by_cases hs : m ∈ seen
      case pos =>
        cases (moduleDefect?_of_seen hm hs).symm.trans h
        exact ⟨[], m, ms, rfl, rfl, .inr ⟨hm, .inr hs, rfl⟩⟩
      case neg =>
        rw [moduleDefect?_of_new hm hs] at h
        obtain ⟨before, x, after, hms, hb, hx⟩ := hi h
        refine ⟨m :: before, x, after, by rw [hms]; rfl, ?before, ?here⟩
        case before => rw [moduleDefect?_of_new hm hs, hb]
        case here => simpa [or_assoc, or_left_comm] using hx

theorem exists_moduleFlaw (h : moduleDefect? group [] ms = some d) :
    ∃ i, ModuleFlaw group ms i d ∧ ∀ j e, ModuleFlaw group ms j e → i ≤ j := by
  obtain ⟨before, m, after, hms, hb, hm⟩ := exists_of_moduleDefect? h
  have ⟨hf, hn, _⟩ := moduleDefect?_eq_none_iff.mp hb
  have hi : ms[before.length]? = some m := by simp [hms]
  refine ⟨before.length, ?_, fun j e he => (hms ▸ he).length_le hf hn⟩
  obtain ⟨hm, hd⟩ | ⟨hm, hr, hd⟩ := hm
  case inl => exact hd ▸ .invalid hi hm
  case inr =>
    have ⟨j, hj⟩ := List.mem_iff_getElem?.mp (hr.resolve_right List.not_mem_nil)
    have hl := (List.getElem?_eq_some_iff.mp hj).fst
    exact hd ▸ .repeated hi hm hl (by rw [hms, List.getElem?_append_left hl, hj])

theorem Publishable.not_flaw (h : s.Publishable) : ¬s.Flaw rank d := by
  intro hf
  cases hf
  case emptyGroup he => exact h.group.nonempty he
  case emptyVersion he => exact h.version.nonempty he
  case colonInGroup hc => exact h.group.no_colon hc
  case colonInVersion hc => exact h.version.no_colon hc
  case noModules hm => exact h.some hm
  case module i hm =>
    rw [←List.append_nil s.modules] at hm
    exact Nat.not_lt.mpr (hm.length_le h.modules h.nodup) (by simpa using hm.lt_length)

theorem exists_firstFlaw (h : s.defect? = some d) : ∃ rank, s.FirstFlaw d rank := by
  simp only [defect?, hasColon, List.contains_iff_mem] at h
  split_ifs at h with hg hv hgc hvc hm
  case pos =>
    cases h
    exact ⟨0, .emptyGroup hg, by simp⟩
  case pos =>
    cases h
    refine ⟨1, .emptyVersion hv, fun r e he => ?_⟩
    cases he <;> grind
  case pos =>
    cases h
    refine ⟨2, .colonInGroup hgc, fun r e he => ?_⟩
    cases he <;> grind
  case pos =>
    cases h
    refine ⟨3, .colonInVersion hvc, fun r e he => ?_⟩
    cases he <;> grind
  case pos =>
    cases h
    refine ⟨4, .noModules hm, fun r e he => ?_⟩
    cases he <;> grind
  case neg =>
    obtain ⟨i, hf, hl⟩ := exists_moduleFlaw h
    refine ⟨i + 5, .module hf, fun r e he => ?_⟩
    cases he
    case module j he => exact Nat.add_le_add_right (hl j e he) 5
    all_goals contradiction

theorem defect?_eq_some_iff : (s.defect? = some d) ↔ (∃ rank, s.FirstFlaw d rank) := by
  constructor
  case mp => exact exists_firstFlaw
  case mpr =>
    rintro ⟨rank, hd⟩
    cases h : s.defect?
    case none => exact absurd hd.flaw (defect?_eq_none_iff.mp h).not_flaw
    case some e =>
      obtain ⟨r, he⟩ := exists_firstFlaw h
      have hr : r = rank := Nat.le_antisymm (he.least _ _ hd.flaw) (hd.least _ _ he.flaw)
      subst hr
      rw [he.flaw.unique hd.flaw]

-- A set stands for its coordinates if nothing is wrong with it, and is refused otherwise for what ranks
-- first, with its own position.
theorem refused_for_first_flaw (s : DependencySet) (place : Place) :
    ((∃ cs, (Entry.set s).coordinates place = .ok cs) ↔ s.Publishable) ∧
    ∀ e, ((Entry.set s).coordinates place = .error e) ↔
      ∃ d rank, s.FirstFlaw d rank ∧ e = .defectiveSet place.index d := by
  rw [←defect?_eq_none_iff]
  simp only [exists_and_right, ←defect?_eq_some_iff, Entry.coordinates]
  cases s.defect?
  case none => simp
  case some d => simp [eq_comm]

example :
    defect? ⟨"g", "1", ["a", "b:c", "a", "b:c"]⟩ = some (.invalidModule "g" "b:c") ∧
    defect? ⟨"g", "1", ["a", "b", "b", "", "a"]⟩ = some (.repeatedModule "g" "b") ∧
    defect? ⟨"g:h", "", []⟩ = some (.emptyVersion "g:h") := by
  decide

end PlatformCatalog.DependencySet
