namespace PlatformCatalog

-- A 64-bit binary number; a finite one is `m * 2 ^ q` with `m < 2 ^ 53` and `-1074 ≤ q`.
inductive Binary64 where
  | nan
  | infinite (negative : Bool)
  | finite (negative : Bool) (m : Nat) (q : Int)
  deriving DecidableEq, Repr

namespace Binary64

def roundDiv (num den : Nat) : Nat :=
  let floor := num / den
  match compare (2 * (num % den)) den with
  | .lt => floor
  | .eq => if floor % 2 = 0 then floor else floor + 1
  | .gt => floor + 1

def scaleUp (n base : Nat) (i : Int) : Nat :=
  n * Nat.pow base i.toNat

def scaled (num den : Nat) (q : Int) : Nat × Nat :=
  (scaleUp num 2 (-q), scaleUp den 2 q)

def limit : Nat := 0x20000000000000

def exponentOf (num den : Nat) : Int :=
  let low : Int := Nat.log2 num - Nat.log2 den - 53
  let (n, d) := scaled num den low
  max (-1074) (if n / d < limit then low else low + 1)

def ofRatio (negative : Bool) (num den : Nat) : Binary64 :=
  if num = 0 then .finite negative 0 (-1074)
  else
    let q := exponentOf num den
    let (n, d) := scaled num den q
    let m := roundDiv n d
    let (m, q) := if m = limit then (limit / 2, q + 1) else (m, q)
    if 971 < q then .infinite negative else .finite negative m q

-- The number nearest to `digits * 10 ^ exponent`. Beyond the stated exponents the result is settled
-- without computing the power.
def ofDecimal (negative : Bool) (digits : Nat) (exponent : Int) : Binary64 :=
  let places : Int := (Nat.toDigits 10 digits).length + exponent
  if digits = 0 ∨ places < -400 then .finite negative 0 (-1074)
  else if 400 < places then .infinite negative
  else ofRatio negative (scaleUp digits 10 exponent) (scaleUp 1 10 (-exponent))

def isZero : Binary64 → Bool
  | .finite _ m _ => m = 0
  | _ => false

def mul : Binary64 → Binary64 → Binary64
  | .finite s m q, .finite t n r =>
    ofRatio (s != t) (scaleUp (m * n) 2 (q + r)) (scaleUp 1 2 (-(q + r)))
  | .finite s m _, .infinite t => if m = 0 then .nan else .infinite (s != t)
  | .infinite s, .finite t n _ => if n = 0 then .nan else .infinite (s != t)
  | .infinite s, .infinite t => .infinite (s != t)
  | _, _ => .nan

def div : Binary64 → Binary64 → Binary64
  | .finite s m q, .finite t n r =>
    if n ≠ 0 then ofRatio (s != t) (scaleUp m 2 (q - r)) (scaleUp n 2 (r - q))
    else if m = 0 then .nan
    else .infinite (s != t)
  | .finite s _ _, .infinite t => .finite (s != t) 0 (-1074)
  | .infinite s, .finite t _ _ => .infinite (s != t)
  | _, _ => .nan

def compareScaled (a : Nat) (i : Int) (n : Nat) (j : Int) : Ordering :=
  compare (scaleUp (scaleUp a 10 i) 2 (-j)) (scaleUp (scaleUp n 2 j) 10 (-i))

-- Does `digits * 10 ^ exponent` round to `m * 2 ^ q`? The ends of the interval belong to it when
-- `m` is even; below a power of two the interval is only half as wide.
def readsBack (m : Nat) (q : Int) (digits : Nat) (exponent : Int) : Bool :=
  let low := if m = limit / 2 ∧ -1074 < q then 4 * m - 1 else 4 * m - 2
  let high := 4 * m + 2
  let belowLow := compareScaled digits exponent low (q - 2)
  let aboveHigh := compareScaled digits exponent high (q - 2)
  let ends := m % 2 == 0
  (belowLow == .gt || (ends && belowLow == .eq)) && (aboveHigh == .lt || (ends && aboveHigh == .eq))

inductive Tie where
  | upper
  | even
  deriving DecidableEq, Repr

def Tie.choose (below : Nat) : Tie → Nat
  | .upper => below + 1
  | .even => if below % 2 = 0 then below else below + 1

-- The neighbours of `m * 2 ^ q` on the grid `10 ^ e`: the one that reads back, and of two the
-- nearer.
def onGrid (tie : Tie) (m : Nat) (q e : Int) : Option Nat :=
  let n := scaleUp (scaleUp m 2 q) 10 (-e)
  let d := scaleUp (scaleUp 1 2 (-q)) 10 e
  let below := n / d
  let above := below + 1
  match readsBack m q below e, readsBack m q above e with
  | true, true =>
    match compare (2 * (n % d)) d with
    | .lt => some below
    | .eq => some (tie.choose below)
    | .gt => some above
  | true, false => some below
  | false, true => some above
  | false, false => none

def placesBound (m : Nat) (q : Int) : Int :=
  let bits : Int := Nat.log2 m + 1 + q
  bits * 30103 / 100000 + 2

-- The shortest digits, with their exponent, that read back as `m * 2 ^ q`. The grids go from coarse
-- to fine, and the last one is always fine enough.
def shortest (tie : Tie) (m : Nat) (q : Int) : Nat × Int :=
  let top := placesBound m q
  let found := (List.range 24).findSome? fun (i : Nat) =>
    let e : Int := top - i
    (onGrid tie m q e).bind fun d => if d = 0 then none else some (d, e)
  found.getD (scaleUp (scaleUp m 2 q) 5 (-q), min q 0)

def stripZeros : Nat → Nat → Int → Nat × Int
  | 0, d, e => (d, e)
  | fuel + 1, d, e => if d ≠ 0 ∧ d % 10 = 0 then stripZeros fuel (d / 10) (e + 1) else (d, e)

def positional (digits : Nat) (exponent : Int) : String :=
  let ds := Nat.toDigits 10 digits
  let point : Int := ds.length + exponent
  if point ≤ 0 then
    String.ofList (['0', '.'] ++ List.replicate (-point).toNat '0' ++ ds)
  else if (ds.length : Int) ≤ point then
    String.ofList (ds ++ List.replicate (point - ds.length).toNat '0' ++ ['.', '0'])
  else
    String.ofList (ds.take point.toNat ++ '.' :: ds.drop point.toNat)

def scientific (digits : Nat) (exponent : Int) : String :=
  let ds := Nat.toDigits 10 digits
  let mantissa := match ds with
    | [] => []
    | [d] => [d]
    | d :: rest => d :: '.' :: rest
  let e : Int := exponent + ds.length - 1
  let sign := if e < 0 then "-" else "+"
  s!"{String.ofList mantissa}e{sign}{e.natAbs}"

structure Style where
  tie : Tie
  plain : Option (Int × Int)
  deriving DecidableEq, Repr

def Style.layOut (style : Style) (digits : Nat) (exponent : Int) : String :=
  let leading : Int := exponent + (Nat.toDigits 10 digits).length - 1
  match style.plain with
  | none => positional digits exponent
  | some (low, high) =>
    if low ≤ leading ∧ leading < high then positional digits exponent
    else scientific digits exponent

def text (style : Style) : Binary64 → String
  | .nan => "NaN"
  | .infinite negative => if negative then "-inf" else "inf"
  | .finite negative m q =>
    let body :=
      if m = 0 then "0.0"
      else
        let (d, e) := shortest style.tie m q
        let (d, e) := stripZeros 400 d e
        style.layOut d e
    if negative then "-" ++ body else body

end Binary64
end PlatformCatalog
