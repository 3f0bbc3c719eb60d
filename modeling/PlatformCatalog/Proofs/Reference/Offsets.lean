import PlatformCatalog.Proofs.Reference
import PlatformCatalog.Proofs.Text.Utf8

namespace PlatformCatalog.Reference

open Text

structure Offsets (rest : String) (start len : Nat) : Prop where
  opening : FirstAt (bytes "$\x7b") (bytes rest) start
  closing : FirstAt (bytes "\x7d") ((bytes rest).drop start) len

def offsets? (rest : String) : Option (Nat × Nat) := do
  let start ← find? (bytes "$\x7b") (bytes rest)
  let len ← find? (bytes "\x7d") ((bytes rest).drop start)
  return (start, len)

def cut? (rest : String) (start len : Nat) : Option (String × String × String) := do
  let before ← slice? rest 0 start
  let key ← slice? rest (start + 2) (start + len)
  let after ← slice? rest (start + len + 1) rest.utf8ByteSize
  return (before, key, after)

variable {s rest before key after : String} {start len n : Nat}

theorem size_cut?_lt (h : cut? rest start len = some (before, key, after)) :
    after.utf8ByteSize < rest.utf8ByteSize := by
  simp only [cut?, Option.bind_eq_bind, Option.bind_eq_some_iff, Option.pure_def, Option.some.injEq,
    Prod.mk.injEq] at h
  obtain ⟨_, _, _, _, _, h, _, _, rfl⟩ := h
  have hs := size_slice? h
  omega

def expandByOffsets? (lookup : String → Option String) (rest : String) :
    Option (Except String String) :=
  match offsets? rest with
  | none => some (.ok rest)
  | some (start, len) =>
    match _h : cut? rest start len with
    | none => none
    | some (before, key, after) =>
      match lookup key with
      | none => some (.error key)
      | some version =>
        (expandByOffsets? lookup after).map fun r => r.map fun text => before ++ version ++ text
termination_by rest.utf8ByteSize
decreasing_by exact size_cut?_lt _h

theorem offsets?_eq_some_iff :
    (offsets? rest = some (start, len)) ↔ (Offsets rest start len) := by
  simp only [offsets?, Option.bind_eq_bind, Option.bind_eq_some_iff, Option.pure_def,
    Option.some.injEq, Prod.mk.injEq, find?_eq_some_iff]
  constructor
  case mp =>
    rintro ⟨_, ho, _, hc, rfl, rfl⟩
    exact ⟨ho, hc⟩
  case mpr => exact fun h => ⟨start, h.opening, len, h.closing, rfl, rfl⟩

structure Around (rest before key after : String) (start len : Nat) : Prop where
  next  : next? rest.toList = some (before.toList, key.toList, after.toList)
  start : before.utf8ByteSize = start
  len   : key.utf8ByteSize + 2 = len

theorem Offsets.exists_around (h : Offsets rest start len) :
    ∃ before key after, Around rest before key after start len := by
  obtain ⟨before, opened, rfl, hs, hb⟩ := h.opening.exists_append (by decide)
  have hc := h.closing
  rw [String.append_assoc, ←hs, drop_bytes_append] at hc
  obtain ⟨x, after, ho, hl, hx⟩ := hc.exists_append (by decide)
  have ho : '$' :: '\x7b' :: opened.toList = x.toList ++ '\x7d' :: after.toList := by
    simpa using congrArg String.toList ho
  -- The closing brace is neither of the two characters of the opening.
  obtain ⟨y, hy, ho⟩ := (List.cons_eq_append_iff.mp ho).resolve_left (by simp)
  obtain ⟨key, hk, ho⟩ := (List.cons_eq_append_iff.mp ho).resolve_left (by simp)
  have hx' : x = "$\x7b" ++ String.ofList key := by
    apply String.toList_injective
    simp [hy, hk]
  refine ⟨before, String.ofList key, after, ?next, hs, ?len⟩
  case next =>
    refine next?_eq_some_iff.mpr ⟨by simp [ho], hb, fun hm => hx ?_⟩
    refine (List.singleton_infix_iff '\x7d' x.toList).mpr ?_
    simpa [hx'] using hm
  case len =>
    rw [←hl, hx', String.utf8ByteSize_append, Nat.add_comm]
    rfl

theorem Around.text_eq (h : Around rest before key after start len) :
    rest = before ++ "$\x7b" ++ key ++ "\x7d" ++ after := by
  apply String.toList_injective
  simp [(next?_eq_some_iff.mp h.next).left]

theorem Around.size_opening (h : Around rest before key after start len) :
    (before ++ "$\x7b").utf8ByteSize = start + 2 := by
  rw [String.utf8ByteSize_append, h.start]
  rfl

theorem Around.size_key (h : Around rest before key after start len) :
    (before ++ "$\x7b" ++ key).utf8ByteSize = start + len := by
  rw [String.utf8ByteSize_append, h.size_opening, ←h.len]
  omega

theorem Around.size_closing (h : Around rest before key after start len) :
    (before ++ "$\x7b" ++ key ++ "\x7d").utf8ByteSize = start + len + 1 := by
  rw [String.utf8ByteSize_append, h.size_key]
  rfl

theorem Around.size (h : Around rest before key after start len) :
    rest.utf8ByteSize = start + len + 1 + after.utf8ByteSize := by
  rw [h.text_eq, String.utf8ByteSize_append, h.size_closing]

theorem Around.cut?_eq (h : Around rest before key after start len) :
    cut? rest start len = some (before, key, after) := by
  have hb : slice? rest 0 start = some before := by
    have hs := slice?_append "" before ("$\x7b" ++ key ++ "\x7d" ++ after)
    simpa [h.text_eq, h.start, String.append_assoc] using hs
  have hk : slice? rest (start + 2) (start + len) = some key := by
    have hs := slice?_append (before ++ "$\x7b") key ("\x7d" ++ after)
    rwa [h.size_opening, h.size_key, ←String.append_assoc, ←h.text_eq] at hs
  have ha : slice? rest (start + len + 1) rest.utf8ByteSize = some after := by
    have hs := slice?_append (before ++ "$\x7b" ++ key ++ "\x7d") after ""
    rwa [h.size_closing, String.append_empty, ←h.text_eq] at hs
  simp [cut?, hb, hk, ha]

theorem exists_offsets {x y z : List Char} (h : next? rest.toList = some (x, y, z)) :
    ∃ start len, Offsets rest start len := by
  have ht : rest = String.ofList x ++ "$\x7b" ++ String.ofList y ++ "\x7d" ++ String.ofList z := by
    apply String.toList_injective
    simp [next?_eq h]
  have ho : bytes "$\x7b" <+: (bytes rest).drop (String.ofList x).utf8ByteSize := by
    rw [ht, String.append_assoc, String.append_assoc]
    exact occurs_append _ _ _
  have hc : bytes "\x7d" <+:
      (bytes rest).drop (String.ofList x ++ "$\x7b" ++ String.ofList y).utf8ByteSize :=
    ht ▸ occurs_append _ _ _
  cases hs : find? (bytes "$\x7b") (bytes rest)
  case none => exact absurd ho (find?_eq_none_iff.mp hs _)
  case some start =>
    have hs := find?_eq_some_iff.mp hs
    cases hl : find? (bytes "\x7d") ((bytes rest).drop start)
    case none =>
      -- The search for a closing brace begins before this one.
      have hle : start ≤ (String.ofList x ++ "$\x7b" ++ String.ofList y).utf8ByteSize := by
        refine Nat.le_trans (hs.least _ ho) ?_
        simp only [String.utf8ByteSize_append, Nat.add_assoc, Nat.le_add_right]
      obtain ⟨n, hn⟩ := Nat.exists_eq_add_of_le hle
      rw [hn, ←List.drop_drop] at hc
      exact absurd hc (find?_eq_none_iff.mp hl n)
    case some len => exact ⟨start, len, hs, find?_eq_some_iff.mp hl⟩

theorem offsets?_eq_none_iff : (offsets? rest = none) ↔ (next? rest.toList = none) := by
  constructor
  case mp =>
    intro h
    cases hn : next? rest.toList
    case none => rfl
    case some x =>
      obtain ⟨start, len, ho⟩ := exists_offsets hn
      cases h.symm.trans (offsets?_eq_some_iff.mpr ho)
  case mpr =>
    intro h
    cases ho : offsets? rest
    case none => rfl
    case some o =>
      obtain ⟨before, key, after, ha⟩ := (offsets?_eq_some_iff.mp ho).exists_around
      cases h.symm.trans ha.next

variable {lookup : String → Option String}

theorem expandByOffsets?_of_around (ho : offsets? rest = some (start, len))
    (h : Around rest before key after start len) :
    expandByOffsets? lookup rest =
      match lookup key with
      | none => some (.error key)
      | some version =>
        (expandByOffsets? lookup after).map fun r => r.map fun text => before ++ version ++ text := by
  rw [expandByOffsets?, ho]
  simp only
  split
  case h_1 hc => cases h.cut?_eq.symm.trans hc
  case h_2 hc =>
    cases h.cut?_eq.symm.trans hc
    rfl

theorem expandByOffsets?_eq (lookup : String → Option String) (rest : String) :
    expandByOffsets? lookup rest = some (expand lookup rest) := by
  cases ho : offsets? rest
  case none =>
    rw [expandByOffsets?, ho, expand_of_none (offsets?_eq_none_iff.mp ho)]
  case some o =>
    obtain ⟨before, key, after, h⟩ := (offsets?_eq_some_iff.mp ho).exists_around
    have hi := expandByOffsets?_eq lookup after
    rw [expandByOffsets?_of_around ho h, expand_of_some h.next]
    cases lookup key
    case none => rfl
    case some => simp [hi]
termination_by rest.utf8ByteSize
decreasing_by exact size_cut?_lt h.cut?_eq

inductive Rounds (s : String) : Nat → String → Prop
  | none : Rounds s 0 s
  | more {n start len : Nat} {rest before key after : String} : Rounds s n rest →
    Offsets rest start len → cut? rest start len = some (before, key, after) → Rounds s (n + 1) after

-- One round: the offsets lie inside of the rest and between its characters, so that all parts can be
-- taken, and at least the opening and the closing brace are left behind.
structure Safe (rest : String) (start len : Nat) : Prop where
  after_opening : start + 2 ≤ start + len
  inside        : start + len < rest.utf8ByteSize
  between       : ∀ i ∈ [start, start + 2, start + len, start + len + 1],
    (String.Pos.Raw.mk i).IsValid rest
  shorter       : ∃ before key after, cut? rest start len = some (before, key, after) ∧
    after.toList <:+ rest.toList ∧ after.utf8ByteSize + 3 ≤ rest.utf8ByteSize

theorem Around.safe (h : Around rest before key after start len) : Safe rest start len where
  after_opening := by
    have hl := h.len
    omega
  inside := by
    have hs := h.size
    omega
  between := by
    have hk := h.text_eq.trans String.append_assoc
    have ho := hk.trans String.append_assoc
    have hb := ho.trans String.append_assoc
    simp only [List.forall_mem_cons]
    refine ⟨?start, ?opening, ?key, ?closing, List.forall_mem_nil _⟩
    case start => exact h.start ▸ isValid_of_eq_append hb
    case opening => exact h.size_opening ▸ isValid_of_eq_append ho
    case key => exact h.size_key ▸ isValid_of_eq_append hk
    case closing => exact h.size_closing ▸ isValid_of_eq_append h.text_eq
  shorter := by
    refine ⟨before, key, after, h.cut?_eq, ?suffix, ?size⟩
    case suffix =>
      rw [h.text_eq, String.toList_append]
      exact List.suffix_append _ _
    case size =>
      have hs := h.size
      have hl := h.len
      omega

theorem Rounds.size_add_le (h : Rounds s n rest) : rest.utf8ByteSize + 3 * n ≤ s.utf8ByteSize := by
  induction h
  case none => simp
  case more ho hc hi =>
    obtain ⟨_, _, _, ha⟩ := ho.exists_around
    cases ha.cut?_eq.symm.trans hc
    have hs := ha.size
    have hl := ha.len
    omega

-- However a text and its versions look, no round asks for a part that cannot be taken, there are at
-- most a third as many rounds as bytes, and they give the expansion of the text.
theorem expand_slices_safely (lookup : String → Option String) (s : String) :
    expandByOffsets? lookup s = some (expand lookup s) ∧
    ∀ n rest, Rounds s n rest → rest.utf8ByteSize + 3 * n ≤ s.utf8ByteSize ∧
      ∀ start len, Offsets rest start len → Safe rest start len := by
  refine ⟨expandByOffsets?_eq lookup s, fun n rest h => ⟨h.size_add_le, fun start len ho => ?_⟩⟩
  obtain ⟨_, _, _, ha⟩ := ho.exists_around
  exact ha.safe

theorem expand_slices_safely_multibyte :
    let s := "é$\x7bü\x7d𝒫$\x7b\x7d"
    (Offsets s 2 4 ∧ Safe s 2 4) ∧ Rounds s 1 "𝒫$\x7b\x7d" ∧
    (Offsets "𝒫$\x7b\x7d" 4 2 ∧ Safe "𝒫$\x7b\x7d" 4 2) ∧
    expandByOffsets? some s = some (.ok "éü𝒫") := by
  intro s
  have hs : Offsets s 2 4 :=
    ⟨find?_eq_some_iff.mp (by decide +kernel), find?_eq_some_iff.mp (by decide +kernel)⟩
  have hr : Offsets "𝒫$\x7b\x7d" 4 2 :=
    ⟨find?_eq_some_iff.mp (by decide +kernel), find?_eq_some_iff.mp (by decide +kernel)⟩
  have ha : Around s "é" "ü" "𝒫$\x7b\x7d" 2 4 := ⟨by decide +kernel, rfl, rfl⟩
  have h₁ : Rounds s 1 "𝒫$\x7b\x7d" := .more .none hs ha.cut?_eq
  have ⟨he, h⟩ := expand_slices_safely some s
  refine ⟨⟨hs, (h 0 s .none).right 2 4 hs⟩, h₁, ⟨hr, (h 1 _ h₁).right 4 2 hr⟩, he.trans ?_⟩
  decide +kernel

end PlatformCatalog.Reference
