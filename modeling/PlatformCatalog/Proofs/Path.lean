import Mathlib.Data.List.Basic
import Mathlib.Data.List.Induction
import Mathlib.Data.List.TakeWhile
import Mathlib.Tactic.Common
import PlatformCatalog.Path

namespace PlatformCatalog.Path

variable {p q : Path} {name : Bytes} {names : List Bytes}

theorem ancestors_of_parent? (h : p.parent? = some q) : p.ancestors = p :: q.ancestors := by
  rw [ancestors]
  split
  case h_1 hn => cases hn.symm.trans h
  case h_2 hq => rw [Option.some.inj (hq.symm.trans h)]

theorem ancestors_of_parent?_eq_none (h : p.parent? = none) : p.ancestors = [p] := by
  rw [ancestors]
  split
  case h_1 => rfl
  case h_2 hq => cases h.symm.trans hq

theorem subset_ancestors (h : p.parent? = some q) : q.ancestors ⊆ p.ancestors := by
  rw [ancestors_of_parent? h]
  exact List.subset_cons_self _ _

theorem mem_ancestors_self (p : Path) : p ∈ p.ancestors := by
  rw [ancestors]
  split <;> exact .head _

theorem isAbsolute_iff : (p.isAbsolute = true) ↔ (∃ bs, p.bytes = slash :: bs) := by
  simp [isAbsolute, List.head?_eq_some_iff]

theorem start_of_isAbsolute (h : p.isAbsolute = true) : p.start = [slash] := by
  obtain ⟨bs, hb⟩ := isAbsolute_iff.mp h
  simp [start, hb]

theorem isAbsolute_parent (h : p.isAbsolute = true) (hq : p.parent? = some q) :
    q.isAbsolute = true := by
  rw [parent?, start_of_isAbsolute h] at hq
  split at hq
  case h_1 =>
    cases hq
    exact isAbsolute_iff.mpr ⟨_, rfl⟩
  case h_2 => simp [slash, dot] at hq

theorem isAbsolute_of_mem_ancestors (h : p.isAbsolute = true) (hq : q ∈ p.ancestors) :
    q.isAbsolute = true := by
  fun_induction ancestors p
  case case1 p _ => rwa [List.mem_singleton.mp hq]
  case case2 p r hr hi =>
    cases List.mem_cons.mp hq
    case inl hq => rwa [hq]
    case inr hq => exact hi (isAbsolute_parent h hr) hq

theorem isAbsolute_join (h : p.isAbsolute = true) (name : Path) :
    (p.join name).isAbsolute = true := by
  obtain ⟨bs, hb⟩ := isAbsolute_iff.mp h
  unfold join
  split_ifs with hn
  case pos => exact hn
  all_goals simp [isAbsolute_iff, hb]

theorem length_le_of_mem_ancestors (h : q ∈ p.ancestors) : q.bytes.length ≤ p.bytes.length := by
  fun_induction ancestors p
  case case1 p _ => rw [List.mem_singleton.mp h]
  case case2 p r hr hi =>
    cases List.mem_cons.mp h
    case inl h => rw [h]
    case inr h => exact Nat.le_trans (hi h) (Nat.le_of_lt (length_parent?_lt hr))

-- What is found first on the way up is also found first from halfway.
theorem find?_ancestors {f : Path → Bool} {found : Path} (h : p.ancestors.find? f = some found)
    (hm : q ∈ p.ancestors) (hf : found ∈ q.ancestors) : q.ancestors.find? f = some found := by
  fun_induction ancestors p
  case case1 p hn =>
    rwa [List.mem_singleton.mp hm, ancestors_of_parent?_eq_none hn]
  case case2 p r hp hi =>
    cases List.mem_cons.mp hm
    case inl hq => rwa [hq, ancestors_of_parent? hp]
    case inr hq =>
      rw [List.find?_cons] at h
      split at h
      case h_1 =>
        -- The path itself is longer than all that lies above it.
        cases h
        have hl := (length_le_of_mem_ancestors hf).trans (length_le_of_mem_ancestors hq)
        exact absurd (length_parent?_lt hp) (Nat.not_lt_of_le hl)
      case h_2 => exact hi h hq

theorem mem_joinComponents {b : UInt8} (h : b ∈ joinComponents names) :
    b = slash ∨ ∃ n ∈ names, b ∈ n := by
  unfold joinComponents at h
  induction names
  case nil => simp at h
  case cons n ns hi =>
    cases ns
    case nil => exact .inr ⟨n, .head _, by simpa using h⟩
    case cons m ms =>
      simp only [List.intercalate_cons_cons, List.mem_append, List.mem_singleton] at h
      obtain (h | h) | h := h
      case inl.inl => exact .inr ⟨n, .head _, h⟩
      case inl.inr => exact .inl h
      case inr =>
        cases hi h
        case inl hb => exact .inl hb
        case inr hb =>
          obtain ⟨k, hk, hb⟩ := hb
          exact .inr ⟨k, .tail _ hk, hb⟩

theorem joinComponents_bodyReversed (p : Path) :
    p.bytes = p.start ++ joinComponents p.bodyReversed.reverse := by
  conv_lhs => rw [←p.start_append_drop]
  rw [bodyReversed, List.reverse_reverse, joinComponents, List.intercalate_splitOn]

theorem saysNothing_of_parent? (h : p.parent? = none) : ∀ n ∈ p.bodyReversed, saysNothing n := by
  unfold parent? at h
  split at h
  case h_1 => cases h
  case h_2 hd => exact List.dropWhile_eq_nil_iff.mp hd

theorem eq_slash_or_dot (h : p.parent? = none) : ∀ b ∈ p.bytes, b = slash ∨ b = dot := by
  intro b hb
  rw [joinComponents_bodyReversed, List.mem_append] at hb
  cases hb
  case inl hb =>
    unfold start at hb
    repeat' split at hb
    all_goals simp_all
  case inr hb =>
    cases mem_joinComponents hb
    case inl hb => exact .inl hb
    case inr hb =>
      obtain ⟨n, hn, hb⟩ := hb
      have hs := saysNothing_of_parent? h n (List.mem_reverse.mp hn)
      simp only [saysNothing, Bool.or_eq_true, decide_eq_true_eq] at hs
      cases hs <;> simp_all

theorem exists_parent?_join {b : UInt8} (hb : b ∈ name) (hs : b ≠ slash) (hd : b ≠ dot) (p : Path) :
    ∃ q, (p.join ⟨name⟩).parent? = some q := by
  have hm : b ∈ (p.join ⟨name⟩).bytes := by
    unfold join
    split_ifs <;> simp [hb]
  cases h : (p.join ⟨name⟩).parent?
  case some q => exact ⟨q, rfl⟩
  case none =>
    cases eq_slash_or_dot h b hm <;> contradiction

structure IsComponent (name : Bytes) : Prop where
  no_slash : slash ∉ name
  telling  : saysNothing name = false

theorem bytes_ofNames (h : names ≠ []) : (ofNames names).bytes = names.flatMap (slash :: ·) := by
  unfold ofNames joinComponents
  induction names
  case nil => contradiction
  case cons n ns hi =>
    cases ns
    case nil => simp
    case cons m ms =>
      rw [List.flatMap_cons, ←hi (by simp), List.intercalate_cons_cons]
      simp

theorem isAbsolute_ofNames (names : List Bytes) : (ofNames names).isAbsolute = true := rfl

theorem bodyReversed_ofNames (h : ∀ n ∈ names, IsComponent n) (hn : names ≠ []) :
    (ofNames names).bodyReversed = names.reverse := by
  rw [bodyReversed, start_of_isAbsolute (isAbsolute_ofNames names), List.length_singleton, ofNames,
    List.drop_one, List.tail_cons, joinComponents, List.splitOn_intercalate _ _ hn]
  exact fun n hn => (h n hn).no_slash

theorem parent?_ofNames_concat (h : ∀ n ∈ names, IsComponent n) (hn : IsComponent name) :
    (ofNames (names ++ [name])).parent? = some (ofNames names) := by
  have hc : ∀ n ∈ names ++ [name], IsComponent n := by
    simpa [or_imp, forall_and] using ⟨h, hn⟩
  have hd : (name :: names.reverse).dropWhile saysNothing = name :: names.reverse := by
    rw [List.dropWhile_cons_of_neg (by simp [hn.telling])]
  have hr : names.reverse.dropWhile saysNothing = names.reverse := by
    cases hs : names.reverse
    case nil => rfl
    case cons n ns =>
      have ht := (h n (List.mem_reverse.mp (hs ▸ .head _))).telling
      rw [List.dropWhile_cons_of_neg (by simp [ht])]
  rw [parent?, bodyReversed_ofNames hc (by simp), List.reverse_concat, hd]
  simp only [hr, List.reverse_reverse, start_of_isAbsolute (isAbsolute_ofNames _)]
  rfl

theorem IsComponent.ne_nil (h : IsComponent name) : name ≠ [] := by
  intro hn
  have ht := h.telling
  simp [hn, saysNothing] at ht

theorem getLast?_ofNames_concat (names : List Bytes) (hn : IsComponent name) :
    (ofNames (names ++ [name])).bytes.getLast? ≠ some slash := by
  have hl : (ofNames (names ++ [name])).bytes.getLast? = name.getLast? := by
    rw [bytes_ofNames (by simp), List.flatMap_append, List.flatMap_singleton,
      List.getLast?_append_of_ne_nil _ (by simp), List.getLast?_cons_of_ne_nil hn.ne_nil]
  rw [hl]
  exact fun hs => hn.no_slash (List.mem_of_getLast? hs)

theorem join_ofNames (h : ∀ n ∈ names, IsComponent n) (hn : IsComponent name) :
    (ofNames names).join ⟨name⟩ = ofNames (names ++ [name]) := by
  have hr : ¬(isAbsolute ⟨name⟩ = true) := by
    intro ha
    obtain ⟨bs, hb : name = slash :: bs⟩ := isAbsolute_iff.mp ha
    exact hn.no_slash (hb ▸ .head _)
  rw [join, if_neg hr]
  cases names.eq_nil_or_concat'
  case inl hs =>
    subst hs
    rw [if_pos (.inr rfl)]
    simp [ofNames, joinComponents]
  case inr hs =>
    obtain ⟨ns, n, rfl⟩ := hs
    have hl := getLast?_ofNames_concat ns (h n (by simp))
    have he : (ofNames (ns ++ [n])).bytes ≠ [] := List.cons_ne_nil _ _
    rw [if_neg (not_or.mpr ⟨he, hl⟩), bytes_ofNames (by simp), Path.mk.injEq,
      bytes_ofNames (by simp)]
    simp

theorem exists_eq_ofNames (h : ∀ n ∈ names, IsComponent n) (hq : q ∈ (ofNames names).ancestors) :
    ∃ above, above <+: names ∧ q = ofNames above := by
  induction names using List.reverseRecOn
  case nil =>
    have hp : (ofNames []).parent? = none := rfl
    rw [ancestors_of_parent?_eq_none hp, List.mem_singleton] at hq
    exact ⟨[], List.prefix_rfl, hq⟩
  case append_singleton ns n hi =>
    have hns : ∀ m ∈ ns, IsComponent m := fun m hm => h m (by simp [hm])
    rw [ancestors_of_parent? (parent?_ofNames_concat hns (h n (by simp)))] at hq
    cases List.mem_cons.mp hq
    case inl hq => exact ⟨ns ++ [n], List.prefix_rfl, hq⟩
    case inr hq =>
      obtain ⟨above, ha, hq⟩ := hi hns hq
      exact ⟨above, ha.trans (List.prefix_append ns [n]), hq⟩

end PlatformCatalog.Path
