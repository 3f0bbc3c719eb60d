import PlatformCatalog.Text.Reader
import PlatformCatalog.Value

namespace PlatformCatalog.Json

open Text

def maxDepth : Nat := 128

def isBlank (c : Char) : Bool :=
  c == ' ' || c == '\n' || c == '\t' || c == '\r'

def skipBlanks (s : List Char) : List Char :=
  s.dropWhile isBlank

def unit? (a b c d : Char) : Option Nat := do
  let a ← digitValue? a
  let b ← digitValue? b
  let c ← digitValue? c
  let d ← digitValue? d
  return ((a * 16 + b) * 16 + c) * 16 + d

def shortEscape? : Char → Option Char
  | '"' => some '"'
  | '\\' => some '\\'
  | '/' => some '/'
  | 'b' => some '\x08'
  | 'f' => some '\x0c'
  | 'n' => some '\n'
  | 'r' => some '\r'
  | 't' => some '\t'
  | _ => none

-- The rest of a string after its opening quote. Two escaped surrogates together make a character,
-- and a lone one is refused, as is a control that is not escaped.
def stringTail : List Char → Option (List Char × List Char)
  | [] => none
  | '"' :: rest => some ([], rest)
  | '\\' :: 'u' :: a :: b :: c :: d :: rest => do
    let n ← unit? a b c d
    if 0xD800 ≤ n ∧ n < 0xDC00 then
      match rest with
      | '\\' :: 'u' :: a' :: b' :: c' :: d' :: rest' =>
        let m ← unit? a' b' c' d'
        if 0xDC00 ≤ m ∧ m < 0xE000 then
          let x ← charOfCode? (0x10000 + (n - 0xD800) * 0x400 + (m - 0xDC00))
          let (xs, left) ← stringTail rest'
          return (x :: xs, left)
        else none
      | _ => none
    else
      let x ← charOfCode? n
      let (xs, left) ← stringTail rest
      return (x :: xs, left)
  | '\\' :: e :: rest => do
    let x ← shortEscape? e
    let (xs, left) ← stringTail rest
    return (x :: xs, left)
  | c :: rest =>
    if c.toNat < 0x20 then none
    else do
      let (xs, left) ← stringTail rest
      return (c :: xs, left)

def string : Reader String := fun s => do
  let (_, s) ← Reader.char '"' s
  let (cs, s) ← stringTail s
  return (String.ofList cs, s)

def marked (marks : List Char) (s : List Char) : Option (Option (List Char) × List Char) :=
  match s with
  | c :: rest =>
    if marks.contains c then
      let (digits, left) := Reader.span isDecimalDigit rest
      if digits.isEmpty then none else some (some digits, left)
    else some (none, s)
  | [] => some (none, s)

def exponent (s : List Char) : Option (Option Int × List Char) :=
  match s with
  | c :: rest =>
    if c = 'e' ∨ c = 'E' then
      let (negative, rest) := match rest with
        | '-' :: r => (true, r)
        | '+' :: r => (false, r)
        | r => (false, r)
      let (digits, left) := Reader.span isDecimalDigit rest
      if digits.isEmpty then none
      else
        let n : Int := numberOf 10 digits
        some (some (if negative then -n else n), left)
    else some (none, s)
  | [] => some (none, s)

def wordLimit : Nat := 0x10000000000000000

-- Takes digits for as long as the number that they spell, after those of `n`, fits in 64 bits.
def fitting (n : Nat) : List Char → Nat × List Char
  | [] => (n, [])
  | c :: rest =>
    let m := n * 10 + (digitValue? c).getD 0
    if m < wordLimit then fitting m rest else (n, c :: rest)

def maxTenPower : Nat := 308

-- `x * 10 ^ e` by one product or quotient of floats, after quotients by the largest power of ten
-- where `e` is too small for one. Refuses what is too large for a float.
def shifted (x : Binary64) (e : Int) : Option Binary64 :=
  if x.isZero then some x
  else if (maxTenPower : Int) < e then none
  else if 0 ≤ e then
    match x.mul (.ofDecimal false 1 e) with
    | .infinite _ => none
    | y => some y
  else if -(maxTenPower : Int) ≤ e then some (x.div (.ofDecimal false 1 (-e)))
  else shifted (x.div (.ofDecimal false 1 maxTenPower)) (e + maxTenPower)
termination_by (-e).toNat
decreasing_by simp only [maxTenPower] at *; omega

-- A float from the digits before and after its point. Digits beyond 64 bits are dropped; the rest
-- is rounded to a float, and then moved to its place.
def float? (negative : Bool) (whole fraction : List Char) (exponent : Int) : Option Binary64 :=
  let (n, dropped) := fitting 0 whole
  let (n, left) := fitting n fraction
  let places : Int := fraction.length - left.length
  shifted (.ofRatio negative n 1) (exponent + dropped.length - places)

-- A whole number that fits in 64 bits is an integer; anything else is a float, and one too large
-- for a float is refused.
def numberValue (negative : Bool) (whole : List Char) (fraction : Option (List Char))
    (exponent : Option Int) : Option Value :=
  let n := numberOf 10 whole
  let fits := if negative then n ≠ 0 ∧ n ≤ wordLimit / 2 else n < wordLimit
  if fraction.isNone ∧ exponent.isNone ∧ fits then
    some (.integer (if negative then -(n : Int) else n))
  else (float? negative whole (fraction.getD []) (exponent.getD 0)).map .float

def number : Reader Value := fun s => do
  let (negative, s) := match s with
    | '-' :: r => (true, r)
    | r => (false, r)
  let (whole, s) := Reader.span isDecimalDigit s
  if whole.isEmpty ∨ (whole.head? = some '0' ∧ 1 < whole.length) then none
  else
    let (fraction, s) ← marked ['.'] s
    let (e, s) ← exponent s
    let v ← numberValue negative whole fraction e
    return (v, s)

def items {α : Type} (item : Reader α) (close : Char) : Reader (List α) := fun s =>
  match Reader.char close (skipBlanks s) with
  | some (_, rest) => some ([], rest)
  | none => do
    let (xs, s) ← Reader.separated (fun s => do
      let (x, s) ← item (skipBlanks s)
      return (x, skipBlanks s)) ',' s
    let (_, s) ← Reader.char close s
    return (xs, s)

def entry (value : Reader Value) : Reader (String × Value) := fun s => do
  let (k, s) ← string s
  let (_, s) ← Reader.char ':' (skipBlanks s)
  let (v, s) ← value (skipBlanks s)
  return ((k, v), s)

def upsert (k : String) (v : Value) : List (String × Value) → List (String × Value)
  | [] => [(k, v)]
  | (k', v') :: es => if k' = k then (k, v) :: es else (k', v') :: upsert k v es

def value : Nat → Reader Value
  | 0 => fun _ => none
  | depth + 1 => fun s =>
    match s with
    | '"' :: _ => (string s).map fun (t, s) => (.string t, s)
    | '[' :: rest =>
      if depth = 0 then none
      else (items (value depth) ']' rest).map fun (xs, s) => (.array xs, s)
    | '\x7b' :: rest =>
      if depth = 0 then none
      else (items (entry (value depth)) '\x7d' rest).map fun (es, s) =>
        (.table (es.foldl (fun t e => upsert e.1 e.2 t) []), s)
    | 'n' :: _ => (Reader.word "null".toList s).map fun (_, s) => (.null, s)
    | 't' :: _ => (Reader.word "true".toList s).map fun (_, s) => (.boolean true, s)
    | 'f' :: _ => (Reader.word "false".toList s).map fun (_, s) => (.boolean false, s)
    | _ => number s

def parse? (text : String) : Option Value := do
  let (v, rest) ← value maxDepth (skipBlanks text.toList)
  if (skipBlanks rest).isEmpty then some v else none

end PlatformCatalog.Json
