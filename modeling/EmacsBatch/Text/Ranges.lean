/-!
# Ranges of characters

Character properties are given as lists of code point ranges, in ascending order in the
tables. Membership is a linear search, so every fact about a property is a fact about one
finite list.
-/

namespace EmacsBatch.Text

/-- Closed ranges of code points. -/
abbrev CharRanges := List (Nat × Nat)

/-- Whether the character's code point lies in one of the ranges. -/
def CharRanges.contains (ranges : CharRanges) (c : Char) : Bool :=
  ranges.any fun range => range.1 ≤ c.toNat && c.toNat ≤ range.2

end EmacsBatch.Text
