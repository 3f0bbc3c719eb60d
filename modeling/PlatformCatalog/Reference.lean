namespace PlatformCatalog.Reference

def splitOpening : List Char → Option (List Char × List Char)
  | [] => none
  | [_] => none
  | a :: b :: rest =>
    if a = '$' ∧ b = '\x7b' then some ([], rest)
    else (splitOpening (b :: rest)).map fun (before, after) => (a :: before, after)

def splitClosing : List Char → Option (List Char × List Char)
  | [] => none
  | c :: rest =>
    if c = '\x7d' then some ([], rest)
    else (splitClosing rest).map fun (before, after) => (c :: before, after)

def next? (s : List Char) : Option (List Char × List Char × List Char) := do
  let (before, rest) ← splitOpening s
  let (key, after) ← splitClosing rest
  return (before, key, after)

theorem splitOpening_eq {s before after : List Char} (h : splitOpening s = some (before, after)) :
    s = before ++ '$' :: '\x7b' :: after := by
  fun_induction splitOpening s generalizing before
  case case1 => simp at h
  case case2 => simp at h
  case case3 a b rest hab => simp_all
  case case4 a b rest hab hi =>
    obtain ⟨⟨before', after'⟩, h', he⟩ := Option.map_eq_some_iff.mp h
    simp only [Prod.mk.injEq] at he
    obtain ⟨rfl, rfl⟩ := he
    rw [hi h']
    rfl

theorem splitClosing_eq {s before after : List Char} (h : splitClosing s = some (before, after)) :
    s = before ++ '\x7d' :: after := by
  induction s generalizing before
  case nil => simp [splitClosing] at h
  case cons c rest hi =>
    simp only [splitClosing] at h
    split at h
    case isTrue => simp_all
    case isFalse =>
      obtain ⟨⟨before', after'⟩, h', he⟩ := Option.map_eq_some_iff.mp h
      simp only [Prod.mk.injEq] at he
      obtain ⟨rfl, rfl⟩ := he
      rw [hi h']
      rfl

theorem next?_eq {s before key after : List Char} (h : next? s = some (before, key, after)) :
    s = before ++ '$' :: '\x7b' :: (key ++ '\x7d' :: after) := by
  simp only [next?, Option.bind_eq_bind, Option.bind_eq_some_iff, Option.pure_def,
    Option.some.injEq, Prod.mk.injEq] at h
  obtain ⟨⟨b, r⟩, h₁, ⟨k, a⟩, h₂, rfl, rfl, rfl⟩ := h
  have h₂ : r = k ++ '\x7d' :: a := splitClosing_eq h₂
  rw [splitOpening_eq h₁, h₂]

theorem length_next?_lt {s before key after : List Char}
    (h : next? s = some (before, key, after)) : after.length < s.length := by
  rw [next?_eq h]
  simp
  omega

def expandChars (lookup : String → Option String) (s : List Char) : Except String (List Char) :=
  match _h : next? s with
  | none => .ok s
  | some (before, key, after) =>
    match lookup (String.ofList key) with
    | none => .error (String.ofList key)
    | some version =>
      (expandChars lookup after).map fun rest => before ++ version.toList ++ rest
termination_by s.length
decreasing_by exact length_next?_lt _h

def expand (lookup : String → Option String) (s : String) : Except String String :=
  (expandChars lookup s.toList).map String.ofList

end PlatformCatalog.Reference
