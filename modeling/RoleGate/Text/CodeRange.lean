/-!
# Ranges of code points

A property of characters is given as a list of ranges of code points in ascending order. A search
stops at the first range that begins beyond the code point looked for.
-/

namespace RoleGate.Text

/-- Ranges of code points in ascending order, given by their first and last member. -/
abbrev CodeRanges := List (Nat × Nat)

/-- The code point lies in one of the ranges. -/
def CodeRanges.covers : CodeRanges → Nat → Bool
  | [], _ => false
  | (first, last) :: rest, n => first ≤ n && (n ≤ last || CodeRanges.covers rest n)

end RoleGate.Text
