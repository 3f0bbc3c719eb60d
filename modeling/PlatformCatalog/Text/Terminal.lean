namespace PlatformCatalog.Terminal

inductive State where
  | ground
  | escape
  | intermediate
  | sequence
  | command
  | message
  deriving DecidableEq, Repr

def isSpacing (c : Char) : Bool :=
  c == '\t' || c == '\n' || c == '\x0c' || c == '\r'

def isControl (c : Char) : Bool :=
  c.toNat < 0x20 || c == '\x7f'

def afterEscape (c : Char) : State :=
  if c == '[' then .sequence
  else if c == ']' then .command
  else if c == 'P' || c == 'X' || c == '^' || c == '_' then .message
  else if c.toNat < 0x30 then .intermediate
  else .ground

def State.advance (c : Char) : State → State
  | .ground => .ground
  | .escape => afterEscape c
  | .intermediate => if c.toNat < 0x30 then .intermediate else .ground
  | .sequence => if c.toNat < 0x40 then .sequence else .ground
  | .command => .command
  | .message => .message

-- Where the terminal is after a character, and whether it shows the character. Spacing breaks a
-- sequence off, and what belongs to a command or a message is never shown.
def State.step (s : State) (c : Char) : State × Bool :=
  if c == '\x1b' then (.escape, false)
  else if c == '\x18' || c == '\x1a' then (.ground, false)
  else
    match s with
    | .ground => (.ground, isSpacing c || !isControl c)
    | .command => (if c == '\x07' then .ground else .command, false)
    | .message => (.message, false)
    | s =>
      if isSpacing c then (.ground, true)
      else if isControl c || 0x80 ≤ c.toNat then (s, false)
      else (s.advance c, false)

def shown : State → List Char → List Char
  | _, [] => []
  | s, c :: cs =>
    let (next, visible) := s.step c
    if visible then c :: shown next cs else shown next cs

def plain (s : String) : String :=
  String.ofList (shown .ground s.toList)

def bold (s : String) : String := s!"\x1b[1m{s}\x1b[0m"

end PlatformCatalog.Terminal
