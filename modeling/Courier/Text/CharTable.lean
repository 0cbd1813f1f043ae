/-!
# Tables of characters

A class of characters that no short rule describes is kept as a list of closed ranges of code
points. `CharTable.has` decides membership; the other modules of this folder name the classes.
-/

namespace Courier

/-- Closed ranges of code points, in increasing order. -/
abbrev CharTable := List (Nat × Nat)

namespace CharTable

/-- Whether a character lies in one of the ranges. -/
def has (table : CharTable) (c : Char) : Bool :=
  table.any fun r => r.1 ≤ c.toNat && c.toNat ≤ r.2

end CharTable

end Courier
