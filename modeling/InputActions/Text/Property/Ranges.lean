/-!
# Ranges of code points

A property of characters is a table of closed ranges, in ascending order and apart from each
other. A character has the property when one of the ranges holds its code point, so the tables
are data of the character standard and nothing else decides about a character.
-/

namespace InputActions.Text

/-- Closed ranges of code points. -/
abbrev Ranges := List (Nat × Nat)

/-- Whether one of the ranges holds the character's code point. -/
def Ranges.holds (ranges : Ranges) (c : Char) : Bool :=
  ranges.any fun range => range.1 ≤ c.toNat && c.toNat ≤ range.2

theorem Ranges.holds_iff (ranges : Ranges) (c : Char) :
    ranges.holds c = true ↔ ∃ range ∈ ranges, range.1 ≤ c.toNat ∧ c.toNat ≤ range.2 := by
  simp [Ranges.holds]

end InputActions.Text
