/-!
# Character ranges

A property of characters given as data: a list of inclusive ranges of code
points, in increasing order.
-/

namespace MuxConsole.Text

abbrev Ranges := List (Nat × Nat)

def Ranges.contains (table : Ranges) (c : Char) : Bool :=
  table.any fun (low, high) => low ≤ c.toNat && c.toNat ≤ high

end MuxConsole.Text
