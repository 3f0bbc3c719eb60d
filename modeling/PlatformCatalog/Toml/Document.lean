import PlatformCatalog.Toml.Number
import PlatformCatalog.Toml.Outline
import PlatformCatalog.Toml.Quotation

namespace PlatformCatalog.Toml

open Text

def maxDepth : Nat := 79

def isBareKeyChar (c : Char) : Bool :=
  ('A' ≤ c && c ≤ 'Z') || ('a' ≤ c && c ≤ 'z') || isDecimalDigit c || c == '_' || c == '-'

def keyPart : Reader String := fun s => do
  let s := skipBlanks s
  let (part, s) ←
    match quotedKey s with
    | some r => some r
    | none =>
      let (cs, s) := Reader.span isBareKeyChar s
      if cs.isEmpty then none else some (String.ofList cs, s)
  return (part, skipBlanks s)

-- A key: the path to its table, and its own name in that table.
def key : Reader (List String × String) := fun s => do
  let (parts, s) ← Reader.separated keyPart '.' s
  if maxDepth < parts.length then none
  else
    let last ← parts.getLast?
    return ((parts.dropLast, last), s)

def keyValue (value : Reader Value) : Reader (List String × String × Value) := fun s => do
  let ((path, name), s) ← key s
  let (_, s) ← Reader.char '=' s
  let (v, s) ← value (skipBlanks s)
  return ((path, name, v), s)

def arrayTail (value : Reader Value) : Reader Value := fun s => do
  let item : Reader Value := fun s => do
    let (v, s) ← value (skipLines s)
    return (v, skipLines s)
  let (items, s) := Reader.orElse (Reader.separated item ',') [] s
  let (_, s) := if items.isEmpty then ((), s) else Reader.orElse (Reader.char ',') () s
  let (_, s) ← Reader.char ']' (skipLines s)
  return (.array items, s)

def inlineTail (value : Reader Value) : Reader Value := fun s => do
  let entry : Reader (List String × String × Value) := fun s => do
    let (e, s) ← keyValue value s
    return (e, skipBlanks s)
  let (pairs, s) := Reader.orElse (Reader.separated entry ',') [] s
  let (_, s) ← Reader.char '\x7d' (skipBlanks s)
  let entries ← pairs.foldlM (fun es (path, name, v) => Entries.assign path name v es) []
  return (.table (Item.toValues entries), s)

def value (depth : Nat) : Reader Value := fun s =>
  match s, depth with
  | '[' :: rest, d + 1 => arrayTail (value d) rest
  | '\x7b' :: rest, d + 1 => inlineTail (value d) rest
  | c :: _, _ =>
    if c = '"' ∨ c = '\x27' then (string s).map fun (t, s) => (.string t, s)
    else if c = 't' then (Reader.word "true".toList s).map fun (_, s) => (.boolean true, s)
    else if c = 'f' then (Reader.word "false".toList s).map fun (_, s) => (.boolean false, s)
    else number s
  | [], _ => none

inductive Line where
  | empty
  | assignment (path : List String) (name : String) (v : Value)
  | table (path : List String)
  | element (path : List String)

def header : Reader Line
  | '[' :: '[' :: rest => do
    let ((path, name), s) ← key rest
    let (_, s) ← Reader.word [']', ']'] s
    return (.element (path ++ [name]), s)
  | '[' :: rest => do
    let ((path, name), s) ← key rest
    let (_, s) ← Reader.char ']' s
    return (.table (path ++ [name]), s)
  | _ => none

def line : Reader Line := fun s =>
  match skipBlanks s with
  | [] => none
  | '#' :: rest => (restOfLine ('#' :: rest)).map fun (_, s) => (.empty, s)
  | '\n' :: rest => some (.empty, rest)
  | '\r' :: '\n' :: rest => some (.empty, rest)
  | '[' :: rest => do
    let (l, s) ← header ('[' :: rest)
    let (_, s) ← restOfLine s
    return (l, s)
  | s => do
    let ((path, name, v), s) ← keyValue (value maxDepth) s
    let (_, s) ← restOfLine s
    return (.assignment path name v, s)

def Outline.addLine (o : Outline) : Line → Option Outline
  | .empty => some o
  | .assignment path name v => o.assign path name v
  | .table path => o.openTable path
  | .element path => o.openElement path

def parse? (text : String) : Option (List (String × Value)) := do
  let s := match text.toList with
    | '\uFEFF' :: rest => rest
    | s => s
  let (lines, rest) := Reader.many line s
  if !(skipBlanks rest).isEmpty then none
  else
    let o ← lines.foldlM Outline.addLine Outline.start
    let entries ← o.close
    return Item.toValues entries

end PlatformCatalog.Toml
