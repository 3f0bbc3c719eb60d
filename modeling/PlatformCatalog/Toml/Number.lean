import PlatformCatalog.Toml.DateTime
import PlatformCatalog.Value

namespace PlatformCatalog.Toml

open Text

def moreDigits (isDigit : Char → Bool) : List Char → List Char × List Char
  | '_' :: c :: rest =>
    if isDigit c then
      let (ds, left) := moreDigits isDigit rest
      (c :: ds, left)
    else ([], '_' :: c :: rest)
  | c :: rest =>
    if isDigit c then
      let (ds, left) := moreDigits isDigit rest
      (c :: ds, left)
    else ([], c :: rest)
  | [] => ([], [])

def digits (isDigit : Char → Bool) : Reader (List Char)
  | c :: rest =>
    if isDigit c then
      let (ds, left) := moreDigits isDigit rest
      some (c :: ds, left)
    else none
  | [] => none

def sign : Reader Bool
  | '-' :: rest => some (true, rest)
  | '+' :: rest => some (false, rest)
  | s => some (false, s)

def decimal : Reader (Bool × List Char) := fun s => do
  let (negative, s) ← sign s
  match s with
  | '0' :: rest => return ((negative, ['0']), rest)
  | s =>
    let (ds, s) ← digits isDecimalDigit s
    return ((negative, ds), s)

def exponent : Reader Int
  | c :: rest => do
    if c = 'e' ∨ c = 'E' then
      let (negative, s) ← sign rest
      let (ds, s) ← digits isDecimalDigit s
      let n : Int := numberOf 10 ds
      return (if negative then -n else n, s)
    else none
  | [] => none

def fraction : Reader (List Char) := fun s => do
  let (_, s) ← Reader.char '.' s
  digits isDecimalDigit s

-- A whole number with a fraction or an exponent or both. One too large for a float is refused,
-- unless it is negative.
def float : Reader Binary64 := fun s => do
  let ((negative, whole), s) ← decimal s
  let ((part, e), s) ←
    match exponent s with
    | some (e, s) => some ((([] : List Char), e), s)
    | none => do
      let (part, s) ← fraction s
      let (e, s) := Reader.orElse exponent 0 s
      pure ((part, e), s)
  match Binary64.ofDecimal negative (numberOf 10 (whole ++ part)) (e - part.length) with
  | .infinite false => none
  | x => return (x, s)

def specialFloat : Reader Binary64 := fun s => do
  let (negative, s) ← sign s
  match Reader.word "inf".toList s with
  | some (_, s) => return (.infinite negative, s)
  | none => do
    let (_, s) ← Reader.word "nan".toList s
    return (.nan, s)

def based : Reader Nat
  | '0' :: 'x' :: rest => do
    let (ds, s) ← digits (fun c => (digitValue? c).isSome) rest
    return (numberOf 16 ds, s)
  | '0' :: 'o' :: rest => do
    let (ds, s) ← digits (fun c => '0' ≤ c && c ≤ '7') rest
    return (numberOf 8 ds, s)
  | '0' :: 'b' :: rest => do
    let (ds, s) ← digits (fun c => c == '0' || c == '1') rest
    return (numberOf 2 ds, s)
  | _ => none

def integerLimit : Int := 0x8000000000000000

def integer : Reader Int := fun s => do
  let (n, s) ←
    match based s with
    | some (n, s) => some ((n : Int), s)
    | none => do
      let ((negative, ds), s) ← decimal s
      let n : Int := numberOf 10 ds
      pure (if negative then -n else n, s)
  if -integerLimit ≤ n ∧ n < integerLimit then some (n, s) else none

def number : Reader Value := fun s =>
  match dateTime s with
  | some (d, s) => some (.dateTime d.text, s)
  | none =>
    match float s with
    | some (x, s) => some (.float x, s)
    | none =>
      match specialFloat s with
      | some (x, s) => some (.float x, s)
      | none => (integer s).map fun (n, s) => (.integer n, s)

end PlatformCatalog.Toml
