import Mathlib.Data.List.Infix
import Mathlib.Tactic.Common
import PlatformCatalog.Manifest

namespace PlatformCatalog
namespace Reference

variable {s t before key after : List Char}

def opening : List Char := ['$', '\x7b']

theorem opening_prefix_iff : (opening <+: s) ↔ (∃ rest, s = '$' :: '\x7b' :: rest) :=
  exists_congr fun _ => eq_comm

@[simp]
theorem splitOpening_opening (s : List Char) : splitOpening ('$' :: '\x7b' :: s) = some ([], s) := by
  simp [splitOpening]

theorem splitOpening_cons {c : Char} (h : ¬opening <+: c :: s) :
    splitOpening (c :: s) = (splitOpening s).map fun x => (c :: x.1, x.2) := by
  cases s
  case nil => rfl
  case cons d s =>
    have hn : ¬(c = '$' ∧ d = '\x7b') := by
      intro ⟨hc, hd⟩
      exact h (opening_prefix_iff.mpr ⟨s, by rw [hc, hd]⟩)
    simp [splitOpening, hn]

theorem splitOpening_eq_none_iff : (splitOpening s = none) ↔ ¬opening <:+: s := by
  induction s
  case nil => simp [splitOpening, opening]
  case cons c s hi =>
    rw [List.infix_cons_iff]
    by_cases h : opening <+: c :: s
    case pos =>
      have ⟨rest, hs⟩ := opening_prefix_iff.mp h
      have hn : splitOpening (c :: s) ≠ none := by simp [hs]
      simp [hn, h]
    case neg => simp [splitOpening_cons h, h, hi]

theorem splitOpening_append (h : ¬opening <:+: before) :
    splitOpening (before ++ '$' :: '\x7b' :: after) = some (before, after) := by
  induction before
  case nil => simp
  case cons c before hi =>
    rw [List.infix_cons_iff, not_or] at h
    have hn : ¬opening <+: c :: (before ++ '$' :: '\x7b' :: after) := by
      intro hp
      have ⟨rest, hs⟩ := opening_prefix_iff.mp hp
      -- An opening that begins in `before` also ends there.
      cases before
      case nil => simp at hs
      case cons d before =>
        simp only [List.cons_append, List.cons.injEq] at hs
        exact h.left (opening_prefix_iff.mpr ⟨before, by rw [hs.left, hs.right.left]⟩)
    rw [List.cons_append, splitOpening_cons hn, hi h.right]
    rfl

theorem not_infix_of_splitOpening (h : splitOpening s = some (before, after)) :
    ¬opening <:+: before := by
  induction s generalizing before
  case nil => simp [splitOpening] at h
  case cons c s hi =>
    by_cases hp : opening <+: c :: s
    case pos =>
      have ⟨rest, hs⟩ := opening_prefix_iff.mp hp
      rw [hs, splitOpening_opening] at h
      cases h
      simp [opening]
    case neg =>
      rw [splitOpening_cons hp] at h
      have ⟨x, hx, he⟩ := Option.map_eq_some_iff.mp h
      cases he
      rw [List.infix_cons_iff, not_or]
      refine ⟨fun ho => hp (ho.trans ?_), hi hx⟩
      rw [splitOpening_eq hx]
      simp

theorem splitClosing_eq_none_iff : (splitClosing s = none) ↔ '\x7d' ∉ s := by
  induction s
  case nil => simp [splitClosing]
  case cons c s hi =>
    by_cases h : c = '\x7d'
    case pos => simp [splitClosing, h]
    case neg => simp [splitClosing, h, hi, Ne.symm h]

theorem splitClosing_append (h : '\x7d' ∉ key) :
    splitClosing (key ++ '\x7d' :: after) = some (key, after) := by
  induction key
  case nil => simp [splitClosing]
  case cons c key hi =>
    simp only [List.mem_cons, not_or] at h
    simp [splitClosing, Ne.symm h.left, hi h.right]

theorem not_mem_of_splitClosing (h : splitClosing s = some (key, after)) : '\x7d' ∉ key := by
  induction s generalizing key
  case nil => simp [splitClosing] at h
  case cons c s hi =>
    simp only [splitClosing] at h
    split_ifs at h with hc
    case pos =>
      cases h
      simp
    case neg =>
      obtain ⟨x, hx, he⟩ := Option.map_eq_some_iff.mp h
      cases he
      simp [Ne.symm hc, hi hx]

theorem next?_eq_some_iff :
    (next? s = some (before, key, after)) ↔
      (s = before ++ '$' :: '\x7b' :: (key ++ '\x7d' :: after) ∧ ¬opening <:+: before ∧
        '\x7d' ∉ key) := by
  constructor
  case mp =>
    intro h
    refine ⟨next?_eq h, ?_⟩
    simp only [next?, Option.bind_eq_bind, Option.bind_eq_some_iff, Option.pure_def,
      Option.some.injEq, Prod.mk.injEq] at h
    obtain ⟨⟨_, rest⟩, ho, ⟨_, _⟩, hc, hb, hk, _⟩ := h
    exact ⟨hb ▸ not_infix_of_splitOpening ho, hk ▸ not_mem_of_splitClosing hc⟩
  case mpr =>
    rintro ⟨hs, hb, hk⟩
    simp [next?, hs, splitOpening_append hb, splitClosing_append hk]

def Incomplete (s : List Char) : Prop :=
  ¬opening <:+: s ∨ ∃ before after, s = before ++ '$' :: '\x7b' :: after ∧
    ¬opening <:+: before ∧ '\x7d' ∉ after

theorem next?_eq_none_iff : (next? s = none) ↔ Incomplete s := by
  constructor
  case mp =>
    intro h
    cases ho : splitOpening s
    case none => exact .inl (splitOpening_eq_none_iff.mp ho)
    case some x =>
      have hc : splitClosing x.2 = none := by
        cases hc : splitClosing x.2
        case none => rfl
        case some => simp [next?, ho, hc] at h
      exact .inr ⟨x.1, x.2, splitOpening_eq ho, not_infix_of_splitOpening ho,
        splitClosing_eq_none_iff.mp hc⟩
  case mpr =>
    intro h
    cases h
    case inl h => simp [next?, splitOpening_eq_none_iff.mpr h]
    case inr h =>
      obtain ⟨before, after, hs, hb, ha⟩ := h
      simp [next?, hs, splitOpening_append hb, splitClosing_eq_none_iff.mpr ha]

theorem not_infix_append (hs : ¬opening <:+: s) (ht : ¬opening <:+: t)
    (h : s.getLast? = some '$' → t.head? ≠ some '\x7b') : ¬opening <:+: s ++ t := by
  rw [List.infix_append_iff]
  rintro (ho | ho | ⟨l₁, l₂, ho, h₁, h₂⟩)
  case inl => exact hs ho
  case inr.inl => exact ht ho
  case inr.inr =>
    cases l₁
    case nil => exact ht (ho ▸ h₂.isInfix)
    case cons c l₁ =>
      cases l₁
      case nil =>
        cases ho
        have ⟨_, hl⟩ := h₁
        have ⟨_, hr⟩ := h₂
        exact h (by simp [←hl]) (by simp [←hr])
      case cons d l₁ =>
        simp only [opening, List.cons_append, List.cons.injEq, List.nil_eq, List.append_eq_nil_iff]
          at ho
        obtain ⟨rfl, rfl, rfl, rfl⟩ := ho
        exact hs h₁.isInfix

theorem Incomplete.prepend (h : Incomplete t) (hs : ¬opening <:+: s)
    (hst : s.getLast? = some '$' → t.head? ≠ some '\x7b') : Incomplete (s ++ t) := by
  cases h
  case inl h => exact .inl (not_infix_append hs h hst)
  case inr h =>
    obtain ⟨before, after, ht, hb, ha⟩ := h
    refine .inr ⟨s ++ before, after, by simp [ht], not_infix_append hs hb fun hl hh => ?_, ha⟩
    exact hst hl (by simp [ht, List.head?_append, hh])

-- A literal piece of a text and the key of the reference that follows it.
@[ext]
structure Segment where
  literal : String
  key : String

structure Reading where
  segments : List Segment
  tail : String

namespace Reading

def text (r : Reading) : String :=
  r.segments.foldr (fun x rest => x.literal ++ "$\x7b" ++ x.key ++ "\x7d" ++ rest) r.tail

def filled (lookup : String → Option String) (r : Reading) : String :=
  r.segments.foldr (fun x rest => x.literal ++ (lookup x.key).getD "" ++ rest) r.tail

structure Proper (r : Reading) : Prop where
  literals : ∀ x ∈ r.segments, ¬opening <:+: x.literal.toList
  keys : ∀ x ∈ r.segments, '\x7d' ∉ x.key.toList
  tail : Incomplete r.tail.toList

variable {r r' : Reading} {x : Segment} {xs : List Segment} {t : String}

theorem toList_text_cons (x : Segment) (xs : List Segment) (t : String) :
    (text ⟨x :: xs, t⟩).toList =
      x.literal.toList ++ '$' :: '\x7b' :: (x.key.toList ++ '\x7d' :: (text ⟨xs, t⟩).toList) := by
  simp [text]

theorem Proper.of_cons (h : Proper ⟨x :: xs, t⟩) : Proper ⟨xs, t⟩ where
  literals y hy := h.literals y (.tail _ hy)
  keys y hy := h.keys y (.tail _ hy)
  tail := h.tail

theorem Proper.cons (h : Proper ⟨xs, t⟩) (hl : ¬opening <:+: x.literal.toList)
    (hk : '\x7d' ∉ x.key.toList) : Proper ⟨x :: xs, t⟩ where
  literals := List.forall_mem_cons.mpr ⟨hl, h.literals⟩
  keys := List.forall_mem_cons.mpr ⟨hk, h.keys⟩
  tail := h.tail

theorem Proper.next?_nil (h : Proper ⟨[], t⟩) : next? (text ⟨[], t⟩).toList = none :=
  next?_eq_none_iff.mpr h.tail

theorem Proper.next?_cons (h : Proper ⟨x :: xs, t⟩) :
    next? (text ⟨x :: xs, t⟩).toList =
      some (x.literal.toList, x.key.toList, (text ⟨xs, t⟩).toList) :=
  next?_eq_some_iff.mpr
    ⟨toList_text_cons x xs t, h.literals x (.head _), h.keys x (.head _)⟩

-- Two proper readings of a text find the same first reference, and so on.
theorem Proper.eq_of_text_eq (h : r.Proper) (h' : r'.Proper) (ht : r.text = r'.text) : r = r' := by
  have ⟨xs, t⟩ := r
  have ⟨xs', t'⟩ := r'
  induction xs generalizing xs' <;> cases xs'
  case nil.nil =>
    have ht : t = t' := ht
    rw [ht]
  case nil.cons =>
    have hn := h.next?_nil
    rw [ht, h'.next?_cons] at hn
    cases hn
  case cons.nil =>
    have hn := h'.next?_nil
    rw [←ht, h.next?_cons] at hn
    cases hn
  case cons.cons x xs hi x' xs' =>
    have hn := h.next?_cons
    rw [ht, h'.next?_cons] at hn
    simp only [Option.some.injEq, Prod.mk.injEq, String.toList_inj] at hn
    have ⟨hl, hk, hr⟩ := hn
    have hx : x = x' := Segment.ext hl.symm hk.symm
    have he := hi h.of_cons xs' h'.of_cons hr.symm
    simp only [mk.injEq] at he
    rw [hx, he.left, he.right]

def ofChars (s : List Char) : Reading :=
  match _h : next? s with
  | none => ⟨[], String.ofList s⟩
  | some (before, key, after) =>
    let r := ofChars after
    ⟨⟨String.ofList before, String.ofList key⟩ :: r.segments, r.tail⟩
termination_by s.length
decreasing_by exact length_next?_lt _h

theorem ofChars_of_none (h : next? s = none) : ofChars s = ⟨[], String.ofList s⟩ := by
  rw [ofChars]
  split
  case h_1 => rfl
  case h_2 hn => cases h.symm.trans hn

theorem ofChars_of_some (h : next? s = some (before, key, after)) :
    ofChars s = ⟨⟨String.ofList before, String.ofList key⟩ :: (ofChars after).segments,
      (ofChars after).tail⟩ := by
  rw [ofChars]
  split
  case h_1 hn => cases hn.symm.trans h
  case h_2 hn =>
    cases hn.symm.trans h
    rfl

theorem proper_ofChars (s : List Char) :
    (ofChars s).Proper ∧ (ofChars s).text = String.ofList s := by
  cases hn : next? s
  case none =>
    rw [ofChars_of_none hn]
    exact ⟨⟨by simp, by simp, by simpa using next?_eq_none_iff.mp hn⟩, rfl⟩
  case some x =>
    have ⟨before, key, after⟩ := x
    have ⟨hs, hb, hk⟩ := next?_eq_some_iff.mp hn
    have ⟨hr, ht⟩ := proper_ofChars after
    rw [ofChars_of_some hn]
    refine ⟨hr.cons (by simpa using hb) (by simpa using hk), ?_⟩
    apply String.toList_injective
    rw [toList_text_cons, ht, hs]
    simp
termination_by s.length
decreasing_by exact length_next?_lt hn

def of (s : String) : Reading :=
  ofChars s.toList

theorem proper_of (s : String) : (of s).Proper :=
  (proper_ofChars s.toList).left

theorem text_of (s : String) : (of s).text = s :=
  (proper_ofChars s.toList).right.trans String.ofList_toList

theorem exists_proper (s : String) : ∃ r : Reading, r.Proper ∧ r.text = s :=
  ⟨of s, proper_of s, text_of s⟩

end Reading

variable {lookup : String → Option String}

theorem expandChars_of_none (h : next? s = none) : expandChars lookup s = .ok s := by
  rw [expandChars]
  split
  case h_1 => rfl
  case h_2 hn => cases h.symm.trans hn

theorem expandChars_of_some (h : next? s = some (before, key, after)) :
    expandChars lookup s =
      match lookup (String.ofList key) with
      | none => .error (String.ofList key)
      | some version =>
        (expandChars lookup after).map fun rest => before ++ version.toList ++ rest := by
  rw [expandChars]
  split
  case h_1 hn => cases hn.symm.trans h
  case h_2 hn =>
    cases hn.symm.trans h
    rfl

theorem expand_of_none {s : String} (h : next? s.toList = none) : expand lookup s = .ok s := by
  rw [expand, expandChars_of_none h]
  simp [Except.map]

theorem expand_of_some {s before key after : String}
    (h : next? s.toList = some (before.toList, key.toList, after.toList)) :
    expand lookup s =
      match lookup key with
      | none => .error key
      | some version => (expand lookup after).map fun rest => before ++ version ++ rest := by
  rw [expand, expandChars_of_some h, String.ofList_toList]
  cases lookup key
  case none => rfl
  case some version =>
    simp only [expand]
    cases expandChars lookup after.toList
    case error => rfl
    case ok rest => simp [Except.map, String.append_assoc]

namespace Reading

variable {r : Reading} {x : Segment} {xs : List Segment} {t : String}

theorem Proper.expand_nil (h : Proper ⟨[], t⟩) : expand lookup (text ⟨[], t⟩) = .ok t :=
  expand_of_none h.next?_nil

theorem Proper.expand_cons (h : Proper ⟨x :: xs, t⟩) :
    expand lookup (text ⟨x :: xs, t⟩) =
      match lookup x.key with
      | none => .error x.key
      | some version =>
        (expand lookup (text ⟨xs, t⟩)).map fun rest => x.literal ++ version ++ rest :=
  expand_of_some h.next?_cons

theorem Proper.expand_of_known (h : r.Proper) (hk : ∀ x ∈ r.segments, (lookup x.key).isSome) :
    expand lookup r.text = .ok (r.filled lookup) := by
  have ⟨xs, t⟩ := r
  induction xs
  case nil => exact h.expand_nil
  case cons x xs hi =>
    have ⟨version, hv⟩ := Option.isSome_iff_exists.mp (hk x (.head _))
    rw [h.expand_cons, hv, hi h.of_cons fun y hy => hk y (.tail _ hy)]
    simp [Except.map, filled, hv]

theorem Proper.expand_of_unknown {before after : List Segment} (h : r.Proper)
    (hs : r.segments = before ++ x :: after) (hk : ∀ y ∈ before, (lookup y.key).isSome)
    (hx : lookup x.key = none) : expand lookup r.text = .error x.key := by
  have ⟨xs, t⟩ := r
  simp only at hs
  subst hs
  induction before
  case nil =>
    rw [List.nil_append] at h ⊢
    rw [h.expand_cons, hx]
  case cons y before hi =>
    have ⟨version, hv⟩ := Option.isSome_iff_exists.mp (hk y (.head _))
    rw [List.cons_append] at h ⊢
    rw [h.expand_cons, hv, hi (fun y hy => hk y (.tail _ hy)) h.of_cons]
    rfl

end Reading
end Reference

open Reference

-- A text has one proper reading, and its expansion is that reading with the versions filled in,
-- verbatim, or the failure that names the first key without a version.
theorem Manifest.expand_eq_filled_reading (m : Manifest) (s : String) :
    (∃! r : Reading, r.Proper ∧ r.text = s) ∧
    ∀ (r : Reading) (place : Place), r.Proper → r.text = s →
      ((∀ x ∈ r.segments, (m.versions.get? x.key).isSome) →
        m.expand place s = .ok (r.filled m.versions.get?)) ∧
      (∀ before x after, r.segments = before ++ x :: after →
        (∀ y ∈ before, (m.versions.get? y.key).isSome) → m.versions.get? x.key = none →
        m.expand place s = .error (.unknownReference x.key place) ∧
        (Failure.unknownReference x.key place).parts = .inr (.manifest,
          "Unknown version reference '$\x7b" ++ x.key ++ "\x7d' in " ++ place.text)) := by
  constructor
  case left =>
    have ⟨r, hr, ht⟩ := Reading.exists_proper s
    exact ⟨r, ⟨hr, ht⟩, fun r' h => h.left.eq_of_text_eq hr (h.right.trans ht.symm)⟩
  case right =>
    intro r place hr ht
    subst ht
    constructor
    case left =>
      intro hk
      rw [expand, hr.expand_of_known hk]
      rfl
    case right =>
      intro before x after hs hk hx
      refine ⟨?_, rfl⟩
      rw [expand, hr.expand_of_unknown hs hk hx]
      rfl

def overlapping : Reading :=
  ⟨[⟨"\x7d$", "a"⟩, ⟨":", "b$\x7bc"⟩], "$\x7bd"⟩

theorem Manifest.expand_overlapping :
    overlapping.Proper ∧ overlapping.text = "\x7d$$\x7ba\x7d:$\x7bb$\x7bc\x7d$\x7bd" ∧
    (Manifest.mk ⟨"p", none⟩ (.ofList [("a", "1"), ("b$\x7bc", "$\x7ba\x7d")]) [] [] []).expand
      ⟨.dependencies, 0⟩ "\x7d$$\x7ba\x7d:$\x7bb$\x7bc\x7d$\x7bd" = .ok "\x7d$1:$\x7ba\x7d$\x7bd" := by
  have hp : overlapping.Proper := ⟨by decide, by decide, .inr ⟨[], ['d'], by decide⟩⟩
  have ht : overlapping.text = "\x7d$$\x7ba\x7d:$\x7bb$\x7bc\x7d$\x7bd" := by decide
  refine ⟨hp, ht, ?_⟩
  exact (expand_eq_filled_reading _ _).right overlapping _ hp ht |>.left (by decide)

end PlatformCatalog
