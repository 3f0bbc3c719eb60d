import PlatformCatalog.Toml.Blank

namespace PlatformCatalog.Toml

open Text

structure Date where
  year : Nat
  month : Nat
  day : Nat
  deriving DecidableEq, Repr

structure Time where
  hour : Nat
  minute : Nat
  second : Nat
  nanosecond : Nat
  deriving DecidableEq, Repr

inductive Offset where
  | utc
  | minutes (n : Int)
  deriving DecidableEq, Repr

inductive DateTime where
  | offset (date : Date) (time : Time) (offset : Offset)
  | localDateTime (date : Date) (time : Time)
  | localDate (date : Date)
  | localTime (time : Time)
  deriving DecidableEq, Repr

def padded (width n : Nat) : String :=
  let ds := Nat.toDigits 10 n
  String.ofList (List.replicate (width - ds.length) '0' ++ ds)

namespace Date

def isLeap (year : Nat) : Bool :=
  (year % 4 == 0 && year % 100 != 0) || year % 400 == 0

def daysIn (year month : Nat) : Nat :=
  if month = 2 then if isLeap year then 29 else 28
  else if month = 4 ∨ month = 6 ∨ month = 9 ∨ month = 11 then 30
  else 31

def isValid (d : Date) : Bool :=
  1 ≤ d.month && d.month ≤ 12 && 1 ≤ d.day && d.day ≤ daysIn d.year d.month

def text (d : Date) : String :=
  s!"{padded 4 d.year}-{padded 2 d.month}-{padded 2 d.day}"

end Date

namespace Time

-- The last minute of a day may have a leap second, and so may any other.
def isValid (t : Time) : Bool :=
  t.hour ≤ 23 && t.minute ≤ 59 && t.second ≤ 60

def fraction (nanosecond : Nat) : String :=
  if nanosecond = 0 then ""
  else
    let ds := (padded 9 nanosecond).toList.reverse.dropWhile (· == '0')
    "." ++ String.ofList ds.reverse

def text (t : Time) : String :=
  s!"{padded 2 t.hour}:{padded 2 t.minute}:{padded 2 t.second}{fraction t.nanosecond}"

end Time

def Offset.text : Offset → String
  | .utc => "Z"
  | .minutes n =>
    let sign := if n < 0 then "-" else "+"
    s!"{sign}{padded 2 (n.natAbs / 60)}:{padded 2 (n.natAbs % 60)}"

def DateTime.text : DateTime → String
  | .offset date time o => s!"{date.text}T{time.text}{o.text}"
  | .localDateTime date time => s!"{date.text}T{time.text}"
  | .localDate date => date.text
  | .localTime time => time.text

def fixedDigits (n : Nat) : Reader Nat := fun s =>
  let ds := s.take n
  if ds.length = n && ds.all isDecimalDigit then some (numberOf 10 ds, s.drop n) else none

def date : Reader Date := fun s => do
  let (year, s) ← fixedDigits 4 s
  let (_, s) ← Reader.char '-' s
  let (month, s) ← fixedDigits 2 s
  let (_, s) ← Reader.char '-' s
  let (day, s) ← fixedDigits 2 s
  let d : Date := { year, month, day }
  if d.isValid then some (d, s) else none

def secondFraction : Reader Nat := fun s => do
  let (_, s) ← Reader.char '.' s
  let (ds, s) := Reader.span isDecimalDigit s
  if ds.isEmpty then none
  else
    let kept := ds.take 9
    some (numberOf 10 (kept ++ List.replicate (9 - kept.length) '0'), s)

def time : Reader Time := fun s => do
  let (hour, s) ← fixedDigits 2 s
  let (_, s) ← Reader.char ':' s
  let (minute, s) ← fixedDigits 2 s
  let (_, s) ← Reader.char ':' s
  let (second, s) ← fixedDigits 2 s
  let (nanosecond, s) := Reader.orElse secondFraction 0 s
  let t : Time := { hour, minute, second, nanosecond }
  if t.isValid then some (t, s) else none

def offset : Reader Offset
  | 'Z' :: rest => some (.utc, rest)
  | 'z' :: rest => some (.utc, rest)
  | sign :: rest => do
    if sign = '+' ∨ sign = '-' then
      let (hour, s) ← fixedDigits 2 rest
      let (_, s) ← Reader.char ':' s
      let (minute, s) ← fixedDigits 2 s
      if hour ≤ 23 ∧ minute ≤ 59 then
        let n : Int := hour * 60 + minute
        some (.minutes (if sign = '-' then -n else n), s)
      else none
    else none
  | [] => none

def timeAfterDate : Reader (Time × Option Offset)
  | c :: rest => do
    if c = 'T' ∨ c = 't' ∨ c = ' ' then
      let (t, s) ← time rest
      let (o, s) := Reader.orElse (fun s => (offset s).map fun (o, s) => (some o, s)) none s
      return ((t, o), s)
    else none
  | [] => none

def dateTime : Reader DateTime := fun s =>
  match date s with
  | some (d, s) =>
    match timeAfterDate s with
    | some ((t, some o), s) => some (.offset d t o, s)
    | some ((t, none), s) => some (.localDateTime d t, s)
    | none => some (.localDate d, s)
  | none => (time s).map fun (t, s) => (.localTime t, s)

end PlatformCatalog.Toml
