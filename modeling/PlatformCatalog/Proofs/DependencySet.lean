import PlatformCatalog.DependencySet
import PlatformCatalog.Proofs.Coordinate

namespace PlatformCatalog.DependencySet

open Coordinate

variable {s : DependencySet} {group m : String} {seen ms : List String}

theorem isModuleName_iff : (isModuleName m = true) ↔ (IsField m) := by
  constructor
  case mp =>
    intro h
    simp only [isModuleName, hasColon, Bool.and_eq_true, decide_eq_true_eq] at h
    exact ⟨h.left, by simpa using h.right⟩
  case mpr =>
    intro h
    simp [isModuleName, hasColon, h.nonempty, h.no_colon]

theorem moduleDefect?_of_invalid (h : ¬IsField m) :
    moduleDefect? group seen (m :: ms) = some (.invalidModule group m) := by
  have h : isModuleName m = false := Bool.eq_false_iff.mpr (isModuleName_iff.not.mpr h)
  simp [moduleDefect?, h]

theorem moduleDefect?_of_seen (h : IsField m) (hs : m ∈ seen) :
    moduleDefect? group seen (m :: ms) = some (.repeatedModule group m) := by
  simp [moduleDefect?, isModuleName_iff.mpr h, hs]

theorem moduleDefect?_of_new (h : IsField m) (hs : m ∉ seen) :
    moduleDefect? group seen (m :: ms) = moduleDefect? group (m :: seen) ms := by
  simp [moduleDefect?, isModuleName_iff.mpr h, hs]

-- The modules that come first are remembered, so what is new among the rest is also new to them.
theorem moduleDefect?_eq_none_iff :
    (moduleDefect? group seen ms = none) ↔
      ((∀ m ∈ ms, IsField m) ∧ ms.Nodup ∧ ∀ m ∈ ms, m ∉ seen) := by
  induction ms generalizing seen
  case nil => simp [moduleDefect?]
  case cons m ms hi =>
    by_cases hm : IsField m
    case neg => simp [moduleDefect?_of_invalid hm, hm]
    case pos =>
      by_cases hs : m ∈ seen
      case pos => simp [moduleDefect?_of_seen hm hs, hs]
      case neg =>
        rw [moduleDefect?_of_new hm hs, hi, List.forall_mem_cons, List.nodup_cons,
          List.forall_mem_cons]
        simp only [List.mem_cons, not_or, forall_and]
        constructor
        case mp =>
          intro ⟨hf, hn, hne, hns⟩
          exact ⟨⟨hm, hf⟩, ⟨fun h => hne m h rfl, hn⟩, hs, hns⟩
        case mpr =>
          intro ⟨⟨_, hf⟩, ⟨hne, hn⟩, _, hns⟩
          exact ⟨hf, hn, fun x hx h => hne (h ▸ hx), hns⟩

structure Publishable (s : DependencySet) : Prop where
  group   : IsField s.group
  version : IsField s.version
  some    : s.modules ≠ []
  modules : ∀ m ∈ s.modules, IsField m
  nodup   : s.modules.Nodup

theorem defect?_eq_none_iff : (s.defect? = none) ↔ s.Publishable := by
  constructor
  case mp =>
    intro h
    simp only [defect?] at h
    split_ifs at h with hg hv hgc hvc hm
    have ⟨hf, hn, _⟩ := moduleDefect?_eq_none_iff.mp h
    exact ⟨⟨hg, by simpa [hasColon] using hgc⟩, ⟨hv, by simpa [hasColon] using hvc⟩, hm, hf, hn⟩
  case mpr =>
    intro h
    have hm : moduleDefect? s.group [] s.modules = none :=
      moduleDefect?_eq_none_iff.mpr ⟨h.modules, h.nodup, by simp⟩
    simp [defect?, hasColon, hm, h.some, h.group.nonempty, h.group.no_colon, h.version.nonempty,
      h.version.no_colon]

theorem publishable_iff :
    s.Publishable ↔ ((∀ c ∈ s.coordinates, c.WellFormed) ∧ s.modules ≠ [] ∧ s.modules.Nodup) := by
  simp only [coordinates, List.forall_mem_map]
  constructor
  case mp =>
    intro h
    exact ⟨fun m hm => ⟨h.group, h.modules m hm, h.version⟩, h.some, h.nodup⟩
  case mpr =>
    intro ⟨hw, hs, hn⟩
    have ⟨m, hm⟩ := List.exists_mem_of_ne_nil _ hs
    exact ⟨(hw m hm).group, (hw m hm).version, hs, fun m hm => (hw m hm).artifact, hn⟩

end PlatformCatalog.DependencySet
