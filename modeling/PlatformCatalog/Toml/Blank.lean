import PlatformCatalog.Text.Reader

namespace PlatformCatalog.Toml

open Text

def isBlank (c : Char) : Bool :=
  c == ' ' || c == '\t'

def skipBlanks (s : List Char) : List Char :=
  s.dropWhile isBlank

def isPlain (c : Char) : Bool :=
  c == '\t' || (0x20 ≤ c.toNat && c.toNat ≠ 0x7F)

def newline : Reader Unit
  | '\n' :: rest => some ((), rest)
  | '\r' :: '\n' :: rest => some ((), rest)
  | _ => none

def comment : Reader Unit
  | '#' :: rest => some ((), rest.dropWhile isPlain)
  | _ => none

def lineEnd : Reader Unit
  | [] => some ((), [])
  | s => newline s

def restOfLine : Reader Unit := fun s =>
  lineEnd (Reader.orElse comment () (skipBlanks s)).2

def skipLines (s : List Char) : List Char :=
  let emptyLine : Reader Unit := fun s =>
    newline (Reader.orElse comment () (skipBlanks s)).2
  skipBlanks (Reader.many emptyLine s).2

end PlatformCatalog.Toml
