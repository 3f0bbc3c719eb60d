import PlatformCatalog.Text.Utf8
import PlatformCatalog.Value

namespace PlatformCatalog

structure VersionTable where
  entries : List (String × String)
  ascending : entries.Pairwise fun a b => Text.Before a.1 b.1
  deriving DecidableEq

namespace VersionTable

def empty : VersionTable := ⟨[], .nil⟩

instance : Inhabited VersionTable := ⟨empty⟩

def get? (t : VersionTable) (name : String) : Option String :=
  t.entries.lookup name

def contains (t : VersionTable) (name : String) : Bool :=
  (t.get? name).isSome

def size (t : VersionTable) : Nat :=
  t.entries.length

def isEmpty (t : VersionTable) : Bool :=
  t.entries.isEmpty

-- Puts an entry in its place among ascending ones, over the entry of the same name.
def insertEntry (name version : String) : List (String × String) → List (String × String)
  | [] => [(name, version)]
  | (n, v) :: rest =>
    if Text.Before name n then (name, version) :: (n, v) :: rest
    else if name = n then (name, version) :: rest
    else (n, v) :: insertEntry name version rest

theorem mem_insertEntry {name version : String} {e : String × String} {l : List (String × String)}
    (h : e ∈ insertEntry name version l) : e = (name, version) ∨ e ∈ l := by
  induction l
  case nil => simpa [insertEntry] using h
  case cons hd tl hi =>
    simp only [insertEntry] at h
    split at h
    case isTrue => simpa using h
    case isFalse =>
      split at h <;> simp only [List.mem_cons] at h ⊢
      case isTrue => exact h.imp_right .inr
      case isFalse =>
        cases h
        case inl h => exact .inr (.inl h)
        case inr h => exact (hi h).imp_right .inr

theorem pairwise_insertEntry {name version : String} {l : List (String × String)}
    (h : l.Pairwise fun a b => Text.Before a.1 b.1) :
    (insertEntry name version l).Pairwise fun a b => Text.Before a.1 b.1 := by
  induction l
  case nil => simp [insertEntry]
  case cons hd tl hi =>
    have ⟨hhd, htl⟩ := List.pairwise_cons.mp h
    simp only [insertEntry]
    split
    case isTrue hb =>
      refine List.pairwise_cons.mpr ⟨?_, h⟩
      intro e he
      cases List.mem_cons.mp he
      case inl he => exact he ▸ hb
      case inr he => exact hb.trans (hhd e he)
    case isFalse hb =>
      split
      case isTrue hn =>
        subst hn
        exact List.pairwise_cons.mpr ⟨hhd, htl⟩
      case isFalse hn =>
        refine List.pairwise_cons.mpr ⟨?_, hi htl⟩
        intro e he
        cases mem_insertEntry he
        case inl he => exact he ▸ Text.before_of_not_before hb hn
        case inr he => exact hhd e he

theorem lookup_cons (name version n : String) (l : List (String × String)) :
    ((name, version) :: l).lookup n = if n = name then some version else l.lookup n := by
  by_cases h : n = name
  case pos => simp [h]
  case neg => simp [List.lookup_cons, h, beq_false_of_ne h]

theorem lookup_insertEntry (name version n : String) (l : List (String × String)) :
    (insertEntry name version l).lookup n = if n = name then some version else l.lookup n := by
  induction l
  case nil => rw [insertEntry, lookup_cons]
  case cons hd tl hi =>
    simp only [insertEntry]
    split
    case isTrue => rw [lookup_cons]
    case isFalse =>
      split
      case isTrue hk =>
        rw [lookup_cons, lookup_cons]
        by_cases h : n = name
        case pos => rw [if_pos h, if_pos h]
        case neg => rw [if_neg h, if_neg h, if_neg (hk ▸ h)]
      case isFalse hk =>
        rw [lookup_cons, lookup_cons, hi]
        by_cases h : n = hd.1
        case pos => rw [if_pos h, if_neg (h ▸ Ne.symm hk), if_pos h]
        case neg => rw [if_neg h, if_neg h]

def insert (t : VersionTable) (name version : String) : VersionTable :=
  ⟨insertEntry name version t.entries, pairwise_insertEntry t.ascending⟩

@[simp] theorem get?_empty (n : String) : empty.get? n = none := rfl

theorem get?_insert (t : VersionTable) (name version n : String) :
    (t.insert name version).get? n = if n = name then some version else t.get? n :=
  lookup_insertEntry name version n t.entries

@[simp] theorem get?_insert_self (t : VersionTable) (name version : String) :
    (t.insert name version).get? name = some version := by
  simp [get?_insert]

theorem get?_insert_of_ne (t : VersionTable) {name n : String} (version : String) (h : n ≠ name) :
    (t.insert name version).get? n = t.get? n := by
  simp [get?_insert, h]

def ofList (entries : List (String × String)) : VersionTable :=
  entries.foldl (fun t e => t.insert e.1 e.2) empty

def toValue (t : VersionTable) : Value :=
  .table (t.entries.map fun e => (e.1, .string e.2))

end VersionTable
end PlatformCatalog
