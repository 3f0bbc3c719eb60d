import PlatformCatalog.Toml.Blank

namespace PlatformCatalog.Toml

open Text

def shortEscape? : Char → Option Char
  | 'b' => some '\x08'
  | 't' => some '\t'
  | 'n' => some '\n'
  | 'f' => some '\x0c'
  | 'r' => some '\r'
  | '"' => some '"'
  | '\\' => some '\\'
  | _ => none

def escapedCode? (digits : List Char) : Option Char :=
  if digits.all (fun c => (digitValue? c).isSome) then charOfCode? (numberOf 16 digits) else none

def escaped? : List Char → Option (Char × Nat)
  | 'u' :: a :: b :: c :: d :: _ => (escapedCode? [a, b, c, d]).map (·, 5)
  | 'U' :: a :: b :: c :: d :: e :: f :: g :: h :: _ =>
    (escapedCode? [a, b, c, d, e, f, g, h]).map (·, 9)
  | c :: _ => (shortEscape? c).map (·, 1)
  | [] => none

def basicTail : List Char → Option (List Char × List Char)
  | [] => none
  | '"' :: rest => some ([], rest)
  | '\\' :: rest => do
    let (c, n) ← escaped? rest
    let (cs, left) ← basicTail (rest.drop n)
    return (c :: cs, left)
  | c :: rest =>
    if isPlain c then do
      let (cs, left) ← basicTail rest
      return (c :: cs, left)
    else none
termination_by s => s.length
decreasing_by all_goals simp only [List.length_cons, List.length_drop]; omega

def literalTail : List Char → Option (List Char × List Char)
  | [] => none
  | '\x27' :: rest => some ([], rest)
  | c :: rest =>
    if isPlain c then do
      let (cs, left) ← literalTail rest
      return (c :: cs, left)
    else none

def skipFolded : List Char → List Char
  | ' ' :: rest => skipFolded rest
  | '\t' :: rest => skipFolded rest
  | '\n' :: rest => skipFolded rest
  | '\r' :: '\n' :: rest => skipFolded rest
  | s => s

theorem length_skipFolded_le (s : List Char) : (skipFolded s).length ≤ s.length := by
  fun_induction skipFolded s <;> simp <;> omega

def continuedLine? (s : List Char) : Option (List Char) := do
  let (_, rest) ← newline (skipBlanks s)
  return skipFolded rest

theorem length_newline_lt {s rest : List Char} (h : newline s = some ((), rest)) :
    rest.length < s.length := by
  unfold newline at h
  split at h <;> cases h
  case h_1 => exact Nat.lt_succ_self _
  case h_2 => exact Nat.lt_succ_of_lt (Nat.lt_succ_self _)

theorem length_continuedLine?_lt {s rest : List Char} (h : continuedLine? s = some rest) :
    rest.length < s.length := by
  unfold continuedLine? at h
  cases hn : newline (skipBlanks s)
  case none => simp [hn] at h
  case some p =>
    obtain ⟨⟨⟩, r⟩ := p
    simp [hn] at h
    subst h
    have h₁ := length_newline_lt hn
    have h₂ := length_skipFolded_le r
    have h₃ : (skipBlanks s).length ≤ s.length := (List.dropWhile_suffix _).length_le
    omega

-- Up to two more quotes may stand before the closing three; they belong to the string.
def closingQuotes (q : Char) : List Char → List Char × List Char
  | a :: b :: rest =>
    if a = q then if b = q then ([q, q], rest) else ([q], b :: rest) else ([], a :: b :: rest)
  | [a] => if a = q then ([q], []) else ([], [a])
  | [] => ([], [])

def multilineBasicTail : List Char → Option (List Char × List Char)
  | [] => none
  | '"' :: '"' :: '"' :: rest => some (closingQuotes '"' rest)
  | '\\' :: rest =>
    match _h : continuedLine? rest with
    | some rest' => multilineBasicTail rest'
    | none => do
      let (c, n) ← escaped? rest
      let (cs, left) ← multilineBasicTail (rest.drop n)
      return (c :: cs, left)
  | '\r' :: '\n' :: rest => do
    let (cs, left) ← multilineBasicTail rest
    return ('\n' :: cs, left)
  | c :: rest =>
    if isPlain c || c == '\n' then do
      let (cs, left) ← multilineBasicTail rest
      return (c :: cs, left)
    else none
termination_by s => s.length
decreasing_by
  case _ => exact Nat.lt_succ_of_lt (length_continuedLine?_lt _h)
  all_goals
    simp only [List.length_cons, List.length_drop]
    omega

def multilineLiteralTail : List Char → Option (List Char × List Char)
  | [] => none
  | '\x27' :: '\x27' :: '\x27' :: rest => some (closingQuotes '\x27' rest)
  | '\r' :: '\n' :: rest => do
    let (cs, left) ← multilineLiteralTail rest
    return ('\n' :: cs, left)
  | c :: rest =>
    if isPlain c || c == '\n' then do
      let (cs, left) ← multilineLiteralTail rest
      return (c :: cs, left)
    else none

def quotedKey : Reader String
  | '"' :: rest => (basicTail rest).map fun (cs, s) => (String.ofList cs, s)
  | '\x27' :: rest => (literalTail rest).map fun (cs, s) => (String.ofList cs, s)
  | _ => none

def string : Reader String
  | '"' :: '"' :: '"' :: rest =>
    (multilineBasicTail (Reader.orElse newline () rest).2).map fun (cs, s) => (String.ofList cs, s)
  | '\x27' :: '\x27' :: '\x27' :: rest =>
    (multilineLiteralTail (Reader.orElse newline () rest).2).map fun (cs, s) =>
      (String.ofList cs, s)
  | s => quotedKey s

end PlatformCatalog.Toml
