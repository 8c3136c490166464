/-!
Ranges of characters.
-/

set_option autoImplicit false
set_option relaxedAutoImplicit false

namespace LintBridge.Text

/-- Whether a character is in one of the ranges, both ends of each included. -/
def inRanges (ranges : List (Nat × Nat)) (c : Char) : Bool :=
  ranges.any fun r => r.1 ≤ c.toNat && c.toNat ≤ r.2

end LintBridge.Text
