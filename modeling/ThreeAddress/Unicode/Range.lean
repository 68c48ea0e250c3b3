/-!
# Sets of code points

Character properties are stored as lists of closed ranges of code points.
-/

namespace ThreeAddress.Unicode

/-- A set of code points given by closed ranges. -/
abbrev RangeSet := List (Nat × Nat)

/-- Tests whether a character lies in one of the ranges. -/
def RangeSet.contains (s : RangeSet) (c : Char) : Bool :=
  s.any fun r => decide (r.1 ≤ c.toNat) && decide (c.toNat ≤ r.2)

theorem RangeSet.contains_iff {s : RangeSet} {c : Char} :
    s.contains c = true ↔ ∃ r ∈ s, r.1 ≤ c.toNat ∧ c.toNat ≤ r.2 := by
  simp [RangeSet.contains]

end ThreeAddress.Unicode
