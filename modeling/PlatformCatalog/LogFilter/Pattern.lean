import PlatformCatalog.Text.Alphanumeric
import PlatformCatalog.Text.Reader

namespace PlatformCatalog.Pattern

open Text

structure Flags where
  verbose : Bool := false
  caseless : Bool := false
  unicode : Bool := true
  deriving DecidableEq, Repr

namespace Flags

def dropBlanks (inComment : Bool) : List Char → List Char
  | [] => []
  | c :: rest =>
    if inComment then dropBlanks (c ≠ '\n') rest
    else if isWhiteSpace c then dropBlanks false rest
    else if c = '#' then dropBlanks true rest
    else c :: rest

-- What comes next; a verbose expression may be spread out with blanks and comments.
def next (f : Flags) (s : List Char) : List Char :=
  if f.verbose then dropBlanks false s else s

def set (on : Bool) (f : Flags) (letter : Char) : Flags :=
  match letter with
  | 'x' => { f with verbose := on }
  | 'i' => { f with caseless := on }
  | 'u' => { f with unicode := on }
  | _ => f

def change (f : Flags) (letters : List Char) : Flags :=
  let on := letters.takeWhile (· ≠ '-')
  (letters.drop (on.length + 1)).foldl (set false) (on.foldl (set true) f)

end Flags

inductive Atom where
  | literal (c : Char) (byte : Bool)
  | category (negated : Bool)
  | anyChar
  | anchor
  | wordEdge
  deriving DecidableEq, Repr

-- Expressions describe sequences of characters, so a part that could match half of a character is
-- refused, and so is one that depends on tables of letters.
def Atom.isAllowed (f : Flags) : Atom → Bool
  | .literal c byte =>
    if f.unicode then !f.caseless else !byte || c.toNat < 0x80
  | .category negated => !f.unicode && !negated
  | .anyChar => f.unicode
  | .anchor => true
  | .wordEdge => !f.unicode

def Atom.isMember (f : Flags) : Atom → Bool
  | .literal c _ => f.unicode || c.toNat < 0x80
  | .category negated => !f.unicode && !negated
  | _ => false

def hexDigits (f : Flags) : Nat → Reader (List Char)
  | 0, s => some ([], s)
  | n + 1, s =>
    match f.next s with
    | [] => none
    | c :: rest =>
      if (digitValue? c).isSome then (hexDigits f n rest).map fun (ds, left) => (c :: ds, left)
      else none

def controls : List (Char × Char) :=
  [('a', '\x07'), ('f', '\x0c'), ('t', '\t'), ('n', '\n'), ('r', '\r'), ('v', '\x0b')]

def isQuotable (c : Char) : Bool :=
  c.toNat < 0x80 && !c.isAlphanum && c ≠ '<' && c ≠ '>'

def digitCount? : Char → Option Nat
  | 'x' => some 2
  | 'u' => some 4
  | 'U' => some 8
  | _ => none

def escaped (f : Flags) : Reader Atom
  | [] => none
  | c :: rest =>
    match digitCount? c with
    | some n => do
      let (digits, left) ← hexDigits f n rest
      let x ← charOfCode? (numberOf 16 digits)
      return (.literal x (c = 'x'), left)
    | none =>
      if c ∈ ['d', 's', 'w'] then some (.category false, rest)
      else if c ∈ ['D', 'S', 'W'] then some (.category true, rest)
      else if c ∈ ['A', 'z'] then some (.anchor, rest)
      else if c ∈ ['b', 'B', '<', '>'] then some (.wordEdge, rest)
      else if isQuotable c then some (.literal c false, rest)
      else (controls.lookup c).map fun x => (.literal x false, rest)

def classAtom (f : Flags) : Reader Atom
  | [] => none
  | '\\' :: rest => escaped f rest
  | c :: rest => some (.literal c false, rest)

def classNames : List String :=
  ["alnum", "alpha", "ascii", "blank", "cntrl", "digit", "graph", "lower", "print", "punct",
    "space", "upper", "word", "xdigit"]

def namedClass (s : List Char) : Option (Bool × List Char) :=
  match s with
  | ':' :: rest =>
    let (negated, rest) := match rest with
      | '^' :: r => (true, r)
      | r => (false, r)
    let (name, left) := Reader.span (· ≠ ':') rest
    match left with
    | ':' :: ']' :: left =>
      if classNames.contains (String.ofList name) then some (negated, left) else none
    | _ => none
  | _ => none

def dropDashes (f : Flags) : Nat → List Char → List Char
  | 0, s => s
  | fuel + 1, s =>
    match f.next s with
    | '-' :: rest => dropDashes f fuel rest
    | s => s

-- The head of a class after its opening bracket: dashes, or a closing bracket, stand for themselves
-- there.
def classHead (f : Flags) (s : List Char) : Option (List Char) :=
  if f.caseless && f.unicode then none
  else
    let (negated, s) := match f.next s with
      | '^' :: rest => (true, f.next rest)
      | s => (false, s)
    if negated && !f.unicode then none
    else
      match s with
      | ']' :: rest => some rest
      | s => some (dropDashes f s.length s)

def opensRange (f : Flags) (s : List Char) : Option (List Char) :=
  match s with
  | '-' :: rest =>
    match f.next rest with
    | ']' :: _ | '-' :: _ => none
    | s => some s
  | _ => none

def classMember (f : Flags) (s : List Char) : Option (List Char) := do
  let (low, s) ← classAtom f s
  if !low.isMember f then none
  else
    match opensRange f (f.next s) with
    | none => return s
    | some s =>
      let (high, s) ← classAtom f s
      match low, high with
      | .literal a _, .literal b _ => if high.isMember f && a ≤ b then some s else none
      | _, _ => none

def classTail (f : Flags) : Nat → Nat → List Char → Option (List Char)
  | 0, _, _ => none
  | fuel + 1, depth, s =>
    match f.next s with
    | [] => none
    | ']' :: rest => if depth = 0 then some rest else classTail f fuel (depth - 1) rest
    | '[' :: rest =>
      match namedClass rest with
      | some (negated, left) =>
        if negated && !f.unicode then none else classTail f fuel depth left
      | none => (classHead f rest).bind (classTail f fuel (depth + 1))
    | '&' :: '&' :: rest | '-' :: '-' :: rest | '~' :: '~' :: rest => classTail f fuel depth rest
    | s => (classMember f s).bind (classTail f fuel depth)

-- How far an expression has been read: the options in force, those in force around each open group,
-- the names of groups, and whether there is something that can be repeated.
structure Progress where
  flags : Flags := {}
  outer : List Flags := []
  names : List (List Char) := []
  operand : Bool := false
  deriving DecidableEq, Repr

namespace Progress

abbrev Step := Progress → List Char → Option (Progress × List Char)

def openGroup (p : Progress) (flags : Flags) : Progress :=
  { p with flags, outer := p.flags :: p.outer, operand := false }

def isGroupName : List Char → Bool
  | [] => false
  | c :: rest => (c == '_' || isAlphabetic c)
    && rest.all fun c => c == '_' || c == '.' || c == '[' || c == ']' || isAlphanumeric c

def namedGroup : Step := fun p s =>
  let (name, left) := Reader.span (· ≠ '>') s
  match left with
  | '>' :: rest =>
    if isGroupName name && !p.names.contains name then
      some ({ p.openGroup p.flags with names := name :: p.names }, rest)
    else none
  | _ => none

def areOptions (letters : List Char) : Bool :=
  letters.all (['-', 'i', 'm', 's', 'U', 'u', 'R', 'x'].contains ·) && letters.eraseDups == letters
    && letters.getLast? != some '-'

def options : Step := fun p s =>
  let (letters, left) := Reader.span (fun c => c ≠ ':' && c ≠ ')') s
  let flags := p.flags.change letters
  if !areOptions letters then none
  else
    match left with
    | ':' :: rest => some (p.openGroup flags, rest)
    | ')' :: rest =>
      if letters.isEmpty then none else some ({ p with flags, operand := false }, rest)
    | _ => none

def group : Step := fun p s =>
  match p.flags.next s with
  | '?' :: '=' :: _ | '?' :: '!' :: _ | '?' :: '<' :: '=' :: _ | '?' :: '<' :: '!' :: _ => none
  | '?' :: 'P' :: '<' :: rest | '?' :: '<' :: rest => p.namedGroup rest
  | '?' :: rest => p.options rest
  | s => some (p.openGroup p.flags, s)

def repetition : Step := fun p s =>
  if !p.operand then none
  else
    match s with
    | '?' :: rest => some (p, rest)
    | s => some (p, s)

def closeGroup : Step := fun p s =>
  match p.outer with
  | [] => none
  | flags :: outer => some ({ p with flags, outer, operand := true }, s)

def atom (a : Atom) : Step := fun p s =>
  if a.isAllowed p.flags then some ({ p with operand := true }, s) else none

-- Reads one part of an expression. Repetition a given number of times is refused, as is a group
-- that is closed and was never opened.
def step : Step := fun p s =>
  match s with
  | [] => none
  | '(' :: rest => p.group rest
  | ')' :: rest => p.closeGroup rest
  | '|' :: rest => some ({ p with operand := false }, rest)
  | '[' :: rest => do
    let s ← classHead p.flags rest
    let s ← classTail p.flags (s.length + 1) 0 s
    return ({ p with operand := true }, s)
  | '?' :: rest | '*' :: rest | '+' :: rest => p.repetition rest
  | '\x7b' :: _ => none
  | '\\' :: rest => do
    let (a, s) ← escaped p.flags rest
    p.atom a s
  | '.' :: rest => p.atom .anyChar rest
  | '^' :: rest | '$' :: rest => p.atom .anchor rest
  | c :: rest => p.atom (.literal c false) rest

def run : Nat → Progress → List Char → Bool
  | 0, _, _ => false
  | fuel + 1, p, s =>
    match p.flags.next s with
    | [] => p.outer.isEmpty
    | s =>
      match p.step s with
      | none => false
      | some (p, s) => run fuel p s

end Progress

-- Is the text a regular expression? Every step takes at least one character.
def isPattern (s : List Char) : Bool :=
  Progress.run (s.length + 1) {} s

end PlatformCatalog.Pattern
