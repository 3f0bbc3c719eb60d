import PlatformCatalog.Number.Binary64
import PlatformCatalog.Text.Quoted

namespace PlatformCatalog

inductive Value where
  | null
  | boolean (b : Bool)
  | integer (n : Int)
  | float (x : Binary64)
  | string (s : String)
  | dateTime (text : String)
  | array (items : List Value)
  | table (entries : List (String × Value))

inductive Glimpse where
  | null
  | boolean (b : Bool)
  | integer (n : Int)
  | float (x : Binary64)
  | string (s : String)
  | sequence
  | map
  deriving DecidableEq, Repr

def Glimpse.text (floats : Binary64.Style) : Glimpse → String
  | .null => "null"
  | .boolean b => s!"boolean `{b}`"
  | .integer n => s!"integer `{n}`"
  | .float x => s!"floating point `{x.text floats}`"
  | .string s => s!"string {Text.quoted s}"
  | .sequence => "sequence"
  | .map => "map"

namespace Value

def glimpse : Value → Glimpse
  | .null => .null
  | .boolean b => .boolean b
  | .integer n => .integer n
  | .float x => .float x
  | .string s => .string s
  | .array _ => .sequence
  | .dateTime _ | .table _ => .map

def dateTimeKey : String := "$__toml_private_datetime"

-- The entries of a table. A date or time counts as a table with one entry, its text.
def entries? : Value → Option (List (String × Value))
  | .table entries => some entries
  | .dateTime text => some [(dateTimeKey, .string text)]
  | _ => none

def get? (key : String) : Value → Option Value
  | .table entries => entries.lookup key
  | _ => none

end Value
end PlatformCatalog
