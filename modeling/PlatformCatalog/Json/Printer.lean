import PlatformCatalog.Value

namespace PlatformCatalog.Json

def floats : Binary64.Style := ⟨.even, some (-5, 16)⟩

inductive Layout where
  | compact
  | pretty
  deriving DecidableEq, Repr

namespace Layout

def lineBreak (depth : Nat) : Layout → List Char
  | .compact => []
  | .pretty => '\n' :: List.replicate (2 * depth) ' '

def colon : Layout → List Char
  | .compact => [':']
  | .pretty => [':', ' ']

end Layout

def hexDigit (n : Nat) : Char :=
  if n < 10 then Char.ofNat ('0'.toNat + n) else Char.ofNat ('a'.toNat + (n - 10))

def escape (c : Char) : List Char :=
  if c = '"' then ['\\', '"']
  else if c = '\\' then ['\\', '\\']
  else if c = '\x08' then ['\\', 'b']
  else if c = '\t' then ['\\', 't']
  else if c = '\n' then ['\\', 'n']
  else if c = '\x0c' then ['\\', 'f']
  else if c = '\r' then ['\\', 'r']
  else if c.toNat < 0x20 then
    ['\\', 'u', '0', '0', hexDigit (c.toNat / 16), hexDigit (c.toNat % 16)]
  else [c]

def stringChars (s : String) : List Char :=
  '"' :: s.toList.flatMap escape ++ ['"']

mutual

def chars (layout : Layout) (depth : Nat) : Value → List Char
  | .null => "null".toList
  | .boolean b => if b then "true".toList else "false".toList
  | .integer n => (toString n).toList
  | .float x => (x.text floats).toList
  | .string s => stringChars s
  | .dateTime text => stringChars text
  | .array [] => ['[', ']']
  | .array (x :: xs) =>
    '[' :: layout.lineBreak (depth + 1) ++ chars layout (depth + 1) x
      ++ itemChars layout (depth + 1) xs ++ layout.lineBreak depth ++ [']']
  | .table [] => ['\x7b', '\x7d']
  | .table ((k, v) :: es) =>
    '\x7b' :: layout.lineBreak (depth + 1) ++ stringChars k ++ layout.colon
      ++ chars layout (depth + 1) v ++ entryChars layout (depth + 1) es
      ++ layout.lineBreak depth ++ ['\x7d']

def itemChars (layout : Layout) (depth : Nat) : List Value → List Char
  | [] => []
  | x :: xs => ',' :: layout.lineBreak depth ++ chars layout depth x ++ itemChars layout depth xs

def entryChars (layout : Layout) (depth : Nat) : List (String × Value) → List Char
  | [] => []
  | (k, v) :: es =>
    ',' :: layout.lineBreak depth ++ stringChars k ++ layout.colon ++ chars layout depth v
      ++ entryChars layout depth es

end

def compact (v : Value) : String :=
  String.ofList (chars .compact 0 v)

def pretty (v : Value) : String :=
  String.ofList (chars .pretty 0 v)

end PlatformCatalog.Json
