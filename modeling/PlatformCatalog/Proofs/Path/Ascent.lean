import PlatformCatalog.Proofs.Path

namespace PlatformCatalog.Path

variable {p q top : Path} {xs ys : List Bytes}

def above (p : Path) : Nat → Option Path
  | 0 => some p
  | n + 1 => (p.above n).bind parent?

theorem above_succ (p : Path) (n : Nat) : p.above (n + 1) = p.parent?.bind fun q => q.above n := by
  induction n
  case zero => cases h : p.parent? <;> simp [above, h]
  case succ n hi =>
    rw [above, hi]
    cases p.parent? <;> rfl

theorem getElem?_ancestors (p : Path) (n : Nat) : p.ancestors[n]? = p.above n := by
  fun_induction ancestors p generalizing n
  case case1 p hp =>
    cases n
    case zero => rfl
    case succ n => rw [above_succ, hp]; rfl
  case case2 p q hp hi =>
    cases n
    case zero => rfl
    case succ n => rw [above_succ, hp, List.getElem?_cons_succ, hi]; rfl

theorem joinComponents_prefix (h : xs <+: ys) : joinComponents xs <+: joinComponents ys := by
  obtain ⟨zs, rfl⟩ := h
  unfold joinComponents
  induction xs
  case nil => simp
  case cons x xs hi =>
    cases xs
    case nil => cases zs <;> simp [List.intercalate_cons_cons]
    case cons y xs => simpa [List.intercalate_cons_cons] using hi

theorem bytes_parent_prefix (h : p.parent? = some q) : q.bytes <+: p.bytes := by
  unfold parent? at h
  split at h
  case h_1 c rest hc =>
    cases h
    have hr : rest <:+ p.bodyReversed :=
      (List.suffix_cons c rest).trans (hc ▸ List.dropWhile_suffix _)
    have hs : rest.dropWhile saysNothing <:+ p.bodyReversed := (List.dropWhile_suffix _).trans hr
    rw [joinComponents_bodyReversed p, List.prefix_append_right_inj]
    exact joinComponents_prefix hs.reverse
  case h_2 =>
    split_ifs at h
    cases h
    exact List.nil_prefix

theorem isAbsolute_parent_iff (h : p.parent? = some q) :
    (q.isAbsolute = true) ↔ (p.isAbsolute = true) := by
  constructor
  case mp =>
    intro ha
    have ⟨bs, hb⟩ := isAbsolute_iff.mp ha
    have ⟨cs, hc⟩ := bytes_parent_prefix h
    exact isAbsolute_iff.mpr ⟨bs ++ cs, by rw [←hc, hb]; rfl⟩
  case mpr => exact fun ha => isAbsolute_parent ha h

structure IsRoot (p : Path) : Prop where
  absolute : p.isAbsolute = true
  bare     : ∀ component ∈ p.bytes.splitOn slash, saysNothing component

theorem isRoot_of_parent? (h : p.parent? = none) (ha : p.isAbsolute = true) : p.IsRoot where
  absolute := ha
  bare := by
    have ⟨bs, hb⟩ := isAbsolute_iff.mp ha
    have hs := saysNothing_of_parent? h
    rw [bodyReversed, start_of_isAbsolute ha, hb] at hs
    rw [hb, List.splitOn_cons_eq_if_modifyHead]
    simpa [saysNothing] using hs

theorem start_eq_nil (ha : p.isAbsolute = false) (hd : p.start ≠ [dot]) : p.start = [] := by
  cases hb : p.bytes
  case nil => simp only [start, hb]
  case cons b bs =>
    have hs : b ≠ slash := by simpa [isAbsolute, hb] using ha
    simp only [start, hb, if_neg hs] at hd ⊢
    split_ifs at hd ⊢
    case pos => exact absurd rfl hd
    case neg => rfl

theorem isAbsolute_of_bytes {x : Bytes} (h : p.bytes = joinComponents ([] :: x :: xs)) :
    p.isAbsolute = true :=
  isAbsolute_iff.mpr ⟨joinComponents (x :: xs), h⟩

theorem start_of_bytes (h : p.bytes = joinComponents ([dot] :: xs)) : p.start = [dot] := by
  cases xs <;> simp [start, h, joinComponents, List.intercalate_cons_cons, dot, slash]

theorem bytes_eq_nil_of_parent? (h : p.parent? = none) (ha : p.isAbsolute = false) :
    p.bytes = [] := by
  have hd : p.start ≠ [dot] := by
    intro hd
    unfold parent? at h
    split at h <;> simp [hd] at h
  have hj := joinComponents_bodyReversed p
  have hs : ∀ n ∈ p.bodyReversed.reverse, saysNothing n :=
    fun n hn => saysNothing_of_parent? h n (List.mem_reverse.mp hn)
  rw [start_eq_nil ha hd, List.nil_append] at hj
  generalize p.bodyReversed.reverse = ns at hs hj
  cases ns
  case nil => exact hj
  case cons n ns =>
    have hn := hs n (.head _)
    simp only [saysNothing, Bool.or_eq_true, decide_eq_true_eq] at hn
    cases hn
    case inl hn =>
      subst hn
      cases ns
      case nil => exact hj
      case cons => cases ha.symm.trans (isAbsolute_of_bytes hj)
    case inr hn =>
      subst hn
      exact absurd (start_of_bytes hj) hd

structure EndsAt (p : Path) (n : Nat) (top : Path) : Prop where
  reached  : p.above n = some top
  last     : ∀ k > n, p.above k = none
  absolute : p.isAbsolute = true → top.IsRoot
  relative : p.isAbsolute = false → top.bytes = []

theorem EndsAt.self (h : p.parent? = none) : p.EndsAt 0 p where
  reached := rfl
  last k hk := by
    obtain ⟨k, rfl⟩ := Nat.exists_eq_succ_of_ne_zero (Nat.ne_of_gt hk)
    rw [above_succ, h]
    rfl
  absolute := isRoot_of_parent? h
  relative := bytes_eq_nil_of_parent? h

theorem EndsAt.of_parent? {n : Nat} (hq : p.parent? = some q) (h : q.EndsAt n top) :
    p.EndsAt (n + 1) top where
  reached := by rw [above_succ, hq]; exact h.reached
  last k hk := by
    obtain ⟨k, rfl⟩ := Nat.exists_eq_succ_of_ne_zero (Nat.ne_zero_of_lt hk)
    rw [above_succ, hq]
    exact h.last k (Nat.lt_of_succ_lt_succ hk)
  absolute ha := h.absolute ((isAbsolute_parent_iff hq).mpr ha)
  relative ha := h.relative (by rw [Bool.eq_false_iff, ne_eq, isAbsolute_parent_iff hq]; simp [ha])

theorem exists_endsAt (p : Path) : ∃ n top, p.EndsAt n top := by
  fun_induction ancestors p
  case case1 p hn => exact ⟨0, p, .self hn⟩
  case case2 p q hq hi =>
    obtain ⟨n, top, h⟩ := hi
    exact ⟨n + 1, top, h.of_parent? hq⟩

-- Dots that say nothing go with the component before them, but one that starts the path is a step of
-- its own.
example : List.map (ofString "./a//./..").above [1, 2, 3, 4] =
    [some (ofString "./a"), some (ofString "."), some (ofString ""), none] := by
  decide +kernel

end PlatformCatalog.Path
