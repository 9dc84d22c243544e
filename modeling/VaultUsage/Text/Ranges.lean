/-!
# Ranges of characters
-/

namespace VaultUsage.Text

/-- Ranges of code points, each by its first and last one, in ascending order and apart from each other. -/
abbrev Ranges := Array (Nat × Nat)

def Ranges.contains (ranges : Ranges) (c : Char) : Bool := ranges.any fun r => r.1 ≤ c.toNat && c.toNat ≤ r.2

end VaultUsage.Text
