import RouterConf.Text.Boundaries

/-!
# Columns of a text

How many columns a text takes when it is shown in cells of one width: two for East Asian wide
characters, none for marks and controls, one for all others.
-/

namespace RouterConf.Text

-- Sums of numbers start with the numeral.
attribute [local instance(2000)] Zero.ofOfNat0

def charColumns (c : Char) : Nat :=
  if inClass c.toNat narrowestBoundaries then 0
  else if inClass c.toNat wideBoundaries then 2
  else 1

def columns (s : String) : Nat :=
  (s.toList.map charColumns).sum

end RouterConf.Text
