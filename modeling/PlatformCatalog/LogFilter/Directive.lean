import PlatformCatalog.LogFilter.Pattern
import PlatformCatalog.Text.Utf8

namespace PlatformCatalog

-- The least important level that is written: 0 is nothing, 5 is everything.
abbrev Verbosity := Nat

namespace Verbosity

def everything : Verbosity := 5

def names : List (String × Verbosity) :=
  [("off", 0), ("error", 1), ("warn", 2), ("info", 3), ("debug", 4), ("trace", 5)]

def ofName? (s : String) : Option Verbosity :=
  let digits := match s.toList with
    | '+' :: rest => rest
    | cs => cs
  if !digits.isEmpty && digits.all Text.isDecimalDigit then
    let n := Text.numberOf 10 digits
    if n ≤ everything then some n else none
  else names.lookup (String.ofList (s.toList.map Char.toLower))

end Verbosity

inductive Subject where
  | events
  | field (name : String)
  | spans
  deriving DecidableEq, Repr

structure Directive where
  scope : String
  subject : Subject
  verbosity : Verbosity
  deriving DecidableEq, Repr

namespace Directive

-- Why a text is no directive: it is not written like one, or a name that is cut out of it would
-- begin or end inside a character.
inductive Fault where
  | malformed
  | splitCharacter
  deriving DecidableEq, Repr

def isBoundary (text : Bytes) (i : Nat) : Bool :=
  match text[i]? with
  | none => i = text.length
  | some b => (Text.continuation? b).isNone

def cut (text : Bytes) (start stop : Nat) : Except Fault String :=
  if isBoundary text start && isBoundary text stop then
    match Text.decode? ((text.take stop).drop start) with
    | some s => .ok s
    | none => .error .splitCharacter
  else .error .splitCharacter

def byteLength (s : List Char) : Nat :=
  (Text.bytes (String.ofList s)).length

def level (text : Bytes) (start : Nat) : Except Fault Verbosity := do
  let word ← cut text start text.length
  if word = "" then return .everything
  else
    match Verbosity.ofName? word with
    | some v => return v
    | none => throw .malformed

def isUnsignedNumber (s : List Char) : Bool :=
  let word := String.ofList (s.map Char.toLower)
  if word = "inf" ∨ word = "infinity" ∨ word = "nan" then true
  else
    let (whole, s) := Text.Reader.span Text.isDecimalDigit s
    let (fraction, s) := match s with
      | '.' :: rest => Text.Reader.span Text.isDecimalDigit rest
      | s => ([], s)
    let exponent := match s with
      | [] => true
      | c :: rest =>
        let digits := match rest with
          | '+' :: r | '-' :: r => r
          | r => r
        (c == 'e' || c == 'E') && !digits.isEmpty && digits.all Text.isDecimalDigit
    !(whole.isEmpty && fraction.isEmpty) && exponent

def isFieldValue (s : List Char) : Bool :=
  let unsigned := match s with
    | '+' :: rest | '-' :: rest => rest
    | s => s
  isUnsignedNumber unsigned || Pattern.isPattern s

def field (s : String) : Except Fault Subject :=
  match s.toList.splitOn '=' with
  | _ :: value :: _ => if isFieldValue value then .ok .spans else .error .malformed
  | _ => if s = "" then .error .malformed else .ok (.field s)

def afterSelection (text : Bytes) (scope : String) (subject : Subject) (i : Nat) :
    List Char → Except Fault Directive
  | [] => .ok ⟨scope, subject, .everything⟩
  | '=' :: _ => do return ⟨scope, subject, ← level text (i + 1)⟩
  | _ => .error .malformed

def selection (text : Bytes) (scope : String) (i : Nat) (s : List Char) :
    Except Fault Directive := do
  let (span, s) := Text.Reader.span (fun c => c ≠ ']' && c ≠ '\x7b') s
  let j := i + byteLength span
  match s with
  | ']' :: rest =>
    let _ ← cut text i j
    afterSelection text scope .spans (j + 1) rest
  | '\x7b' :: rest =>
    let name ← cut text i j
    let (inside, s) := Text.Reader.span (· ≠ '\x7d') rest
    let k := j + 1 + byteLength inside
    match s with
    | '\x7d' :: rest =>
      let subject ← field (← cut text (j + 1) k)
      match rest with
      | ']' :: rest =>
        afterSelection text scope (if name = "" then subject else .spans) (k + 2) rest
      | _ => throw .malformed
    | _ => throw .malformed
  | _ => throw .malformed

def isTargetStart (c : Char) : Bool :=
  c == '-' || c == ':' || c == '_' || Text.isAlphanumeric c

def trim (s : List Char) : List Char :=
  ((s.dropWhile Text.isWhiteSpace).reverse.dropWhile Text.isWhiteSpace).reverse

def parse (given : List Char) : Except Fault Directive := do
  let text := Text.bytes (String.ofList given)
  match trim given with
  | [] => throw .malformed
  | '[' :: rest => selection text "" 1 rest
  | c :: rest =>
    if !isTargetStart c then throw .malformed
    else
      let (target, s) := Text.Reader.span (fun c => c ≠ '=' && c ≠ '[') (c :: rest)
      let i := byteLength target
      match s with
      | '=' :: _ =>
        let scope ← cut text 0 i
        return ⟨scope, .events, ← level text (i + 1)⟩
      | '[' :: rest => selection text (← cut text 0 i) (i + 1) rest
      | _ =>
        let word := String.ofList given
        match Verbosity.ofName? word with
        | some v => return ⟨"", .events, v⟩
        | none => return ⟨word, .events, .everything⟩

end Directive
end PlatformCatalog
