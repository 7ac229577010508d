/-!
# Character classes as ranges of code points

A class of characters that a standard fixes is written down as its ranges of code points.
-/

namespace RamlClient.Text

/-- Ranges of code points, each with its first and its last member. -/
abbrev CodeRanges := List (Nat × Nat)

/-- Whether a character lies in one of the ranges. -/
def CodeRanges.contains (ranges : CodeRanges) (c : Char) : Bool :=
  ranges.any fun r => r.1 ≤ c.toNat && c.toNat ≤ r.2

/-- Runs of code points at a fixed distance: first member, last member, distance. -/
abbrev CodeRuns := List (Nat × Nat × Nat)

/-- Whether a character lies on one of the runs. -/
def CodeRuns.contains (runs : CodeRuns) (c : Char) : Bool :=
  runs.any fun r => r.1 ≤ c.toNat && c.toNat ≤ r.2.1 && (c.toNat - r.1) % r.2.2 == 0

end RamlClient.Text
