import PlatformCatalog.Text.Utf8

namespace PlatformCatalog

structure Path where
  bytes : Bytes
  deriving DecidableEq, Repr

namespace Path

def slash : UInt8 := 0x2F

def dot : UInt8 := 0x2E

def ofString (s : String) : Path := ⟨Text.bytes s⟩

def display (p : Path) : String :=
  Text.decodeLossy p.bytes

def isAbsolute (p : Path) : Bool :=
  p.bytes.head? == some slash

def here : Path := ⟨[dot]⟩

-- A path splits into its start (the root, or a dot that stands for the working directory) and a
-- body of components between slashes.
def start (p : Path) : Bytes :=
  match p.bytes with
  | b :: rest =>
    if b = slash then [slash]
    else if b = dot ∧ (rest.head? = none ∨ rest.head? = some slash) then [dot]
    else []
  | [] => []

def bodyReversed (p : Path) : List Bytes :=
  ((p.bytes.drop p.start.length).splitOn slash).reverse

def saysNothing (component : Bytes) : Bool :=
  component = [] || component = [dot]

def joinComponents (components : List Bytes) : Bytes :=
  [slash].intercalate components

def ofNames (names : List Bytes) : Path :=
  ⟨slash :: joinComponents names⟩

-- The path without its last component. The root and the empty path have no parent, and a lone
-- component has the empty path.
def parent? (p : Path) : Option Path :=
  match p.bodyReversed.dropWhile saysNothing with
  | _ :: rest => some ⟨p.start ++ joinComponents (rest.dropWhile saysNothing).reverse⟩
  | [] => if p.start = [dot] then some ⟨[]⟩ else none

def join (p name : Path) : Path :=
  if name.isAbsolute then name
  else if p.bytes = [] ∨ p.bytes.getLast? = some slash then ⟨p.bytes ++ name.bytes⟩
  else ⟨p.bytes ++ slash :: name.bytes⟩

theorem length_joinComponents_add_le (xs : List Bytes) (c : Bytes) (ys : List Bytes) :
    (joinComponents xs).length + c.length ≤ (joinComponents (xs ++ c :: ys)).length := by
  unfold joinComponents
  induction xs
  case nil => cases ys <;> simp [List.intercalate_cons_cons]
  case cons x xs hi =>
    cases xs
    case nil =>
      cases ys <;> simp only [List.nil_append, List.cons_append, List.intercalate_cons_cons]
      all_goals
        simp
        try omega
    case cons =>
      simp only [List.cons_append, List.intercalate_cons_cons, List.length_append] at hi ⊢
      omega

theorem length_joinComponents_le {xs zs : List Bytes} (h : xs <+: zs) :
    (joinComponents xs).length ≤ (joinComponents zs).length := by
  obtain ⟨ys, rfl⟩ := h
  cases ys
  case nil => simp
  case cons y ys => exact Nat.le_trans (Nat.le_add_right _ _) (length_joinComponents_add_le xs y ys)

theorem start_append_drop (p : Path) : p.start ++ p.bytes.drop p.start.length = p.bytes := by
  unfold start
  repeat' split
  all_goals simp_all

theorem length_parent?_lt {p q : Path} (h : p.parent? = some q) :
    q.bytes.length < p.bytes.length := by
  have hp := congrArg List.length p.start_append_drop
  simp only [List.length_append] at hp
  unfold parent? at h
  split at h
  case h_1 c rest hc =>
    cases h
    have hbody : joinComponents p.bodyReversed.reverse = p.bytes.drop p.start.length := by
      simp [bodyReversed, joinComponents, List.intercalate_splitOn]
    obtain ⟨said, hs⟩ := List.dropWhile_suffix (l := p.bodyReversed) saysNothing
    have hc' : saysNothing c = false := by
      have hne : p.bodyReversed.dropWhile saysNothing ≠ [] := by simp [hc]
      have := List.head_dropWhile_not saysNothing hne
      simp_all
    have hpos : 0 < c.length := by
      cases c <;> simp_all [saysNothing]
    have hsplit : rest.reverse ++ c :: said.reverse = p.bodyReversed.reverse := by
      rw [← hs, hc]; simp
    have h₁ := length_joinComponents_add_le rest.reverse c said.reverse
    rw [hsplit, hbody] at h₁
    have h₂ : (rest.dropWhile saysNothing).reverse <+: rest.reverse :=
      (List.dropWhile_suffix _).reverse
    have h₃ := length_joinComponents_le h₂
    simp only [List.length_append]
    omega
  case h_2 =>
    split at h
    case isTrue hd =>
      cases h
      rw [hd, List.length_singleton] at hp
      simp only [List.length_nil]
      omega
    case isFalse => cases h

def ancestors (p : Path) : List Path :=
  match _h : p.parent? with
  | none => [p]
  | some q => p :: ancestors q
termination_by p.bytes.length
decreasing_by exact length_parent?_lt _h

end Path
end PlatformCatalog
