/-!
# Character classes given by ranges

A character class beyond ASCII is a list of closed ranges of code points, in increasing order.
-/

namespace FilterQuery.Text

/-- Closed ranges of code points. -/
abbrev Ranges := List (Nat × Nat)

/-- Whether a character lies in one of the ranges. -/
def Ranges.contains (ranges : Ranges) (c : Char) : Bool :=
  ranges.any fun r => r.1 ≤ c.toNat && c.toNat ≤ r.2

theorem Ranges.contains_iff {ranges : Ranges} {c : Char} :
    ranges.contains c = true ↔ ∃ r ∈ ranges, r.1 ≤ c.toNat ∧ c.toNat ≤ r.2 := by
  simp [Ranges.contains]

end FilterQuery.Text
