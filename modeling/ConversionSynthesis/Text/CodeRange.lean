/-! # Ranges of code points

A character class beyond ASCII is a list of closed ranges of code points.
-/

namespace ConversionSynthesis.Text

/-- The code points from the first number to the second, both included. -/
abbrev CodeRange := Nat × Nat

def CodeRange.holds (range : CodeRange) (c : Char) : Bool :=
  decide (range.1 ≤ c.toNat) && decide (c.toNat ≤ range.2)

def inRanges (ranges : List CodeRange) (c : Char) : Bool :=
  ranges.any (·.holds c)

end ConversionSynthesis.Text
