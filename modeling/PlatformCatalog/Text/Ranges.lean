namespace PlatformCatalog.Text

abbrev Ranges := List (Nat × Nat)

-- Is the code point in one of the ranges? The ranges are ascending, so the search ends early.
def Ranges.contains (n : Nat) : Ranges → Bool
  | [] => false
  | (lo, hi) :: rest => if n < lo then false else n ≤ hi || Ranges.contains n rest

end PlatformCatalog.Text
