/-!
# Sets of characters as ranges

The character properties of Unicode are sets of code points, and the tables in this folder write
each of them as a list of closed ranges. Membership is the only operation. Every table starts
above ASCII: the ASCII part of a property is always spelled out where the property is defined, so
that reasoning about identifiers and keywords never has to look into a table.
-/

namespace JavaBuilder.Unicode

/-- A set of code points, as closed ranges in increasing order. -/
abbrev Ranges := List (Nat × Nat)

/-- The character lies in one of the ranges. -/
def Ranges.mem (ranges : Ranges) (c : Char) : Bool :=
  ranges.any fun r ↦ r.1 ≤ c.toNat && c.toNat ≤ r.2

theorem Ranges.mem_iff (ranges : Ranges) (c : Char) :
    ranges.mem c = true ↔ ∃ r ∈ ranges, r.1 ≤ c.toNat ∧ c.toNat ≤ r.2 := by
  simp [Ranges.mem]

def isAscii (c : Char) : Bool := c.toNat < 128

end JavaBuilder.Unicode
