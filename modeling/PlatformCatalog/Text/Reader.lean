namespace PlatformCatalog.Text

-- Takes a value off the front of a text, and hands back the rest, or refuses the text.
abbrev Reader (α : Type) := List Char → Option (α × List Char)

namespace Reader

def char (c : Char) : Reader Unit
  | [] => none
  | d :: rest => if d = c then some ((), rest) else none

def word : List Char → Reader Unit
  | [], s => some ((), s)
  | _ :: _, [] => none
  | c :: w, d :: rest => if d = c then word w rest else none

def span (p : Char → Bool) (s : List Char) : List Char × List Char :=
  (s.takeWhile p, s.dropWhile p)

-- Repeats `p` until it refuses the text or stands still.
def many {α : Type} (p : Reader α) (s : List Char) : List α × List Char :=
  match p s with
  | none => ([], s)
  | some (a, rest) =>
    if rest.length < s.length then
      let (as, left) := many p rest
      (a :: as, left)
    else ([], s)
termination_by s.length

def separated {α : Type} (item : Reader α) (separator : Char) : Reader (List α) := fun s => do
  let (first, s) ← item s
  let (others, s) := many (fun s => do item (← char separator s).2) s
  return (first :: others, s)

def orElse {α : Type} (p : Reader α) (default : α) (s : List Char) : α × List Char :=
  (p s).getD (default, s)

theorem many_of_none {α : Type} {p : Reader α} {s : List Char} (h : p s = none) :
    many p s = ([], s) := by
  rw [many]; simp [h]

theorem many_of_some {α : Type} {p : Reader α} {s rest : List Char} {a : α}
    (h : p s = some (a, rest)) (hlt : rest.length < s.length) :
    many p s = (a :: (many p rest).1, (many p rest).2) := by
  rw [many]; simp [h, hlt]

end Reader

def digitValue? (c : Char) : Option Nat :=
  if '0' ≤ c ∧ c ≤ '9' then some (c.toNat - '0'.toNat)
  else if 'a' ≤ c ∧ c ≤ 'f' then some (c.toNat - 'a'.toNat + 10)
  else if 'A' ≤ c ∧ c ≤ 'F' then some (c.toNat - 'A'.toNat + 10)
  else none

def isDecimalDigit (c : Char) : Bool :=
  '0' ≤ c && c ≤ '9'

def numberOf (base : Nat) (digits : List Char) : Nat :=
  digits.foldl (fun n c => n * base + (digitValue? c).getD 0) 0

def charOfCode? (n : Nat) : Option Char :=
  if h : n.isValidChar then some (Char.ofNatAux n h) else none

end PlatformCatalog.Text
