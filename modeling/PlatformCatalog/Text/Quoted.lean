import PlatformCatalog.Text.Hidden

namespace PlatformCatalog.Text

def hexDigits (n : Nat) : List Char :=
  Nat.toDigits 16 n

def shortEscape? : Char → Option (List Char)
  | '"' => some ['\\', '"']
  | '\\' => some ['\\', '\\']
  | '\n' => some ['\\', 'n']
  | '\r' => some ['\\', 'r']
  | '\t' => some ['\\', 't']
  | '\x00' => some ['\\', '0']
  | _ => none

def escapeChar (c : Char) : List Char :=
  match shortEscape? c with
  | some e => e
  | none => if isHidden c then ['\\', 'u', '\x7b'] ++ hexDigits c.toNat ++ ['\x7d'] else [c]

def quoted (s : String) : String :=
  String.ofList ('"' :: s.toList.flatMap escapeChar ++ ['"'])

end PlatformCatalog.Text
