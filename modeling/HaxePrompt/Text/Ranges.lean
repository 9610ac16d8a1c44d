import HaxePrompt.Text.Basic

/-! # Ranges of code points

A property of characters that no rule describes is given by a table: the first and the last code
point of every run of characters that have it, in increasing order. -/

namespace HaxePrompt.Text

/-- The first and the last code points of the runs of a property. -/
abbrev Ranges := List (Nat × Nat)

def inRanges (ranges : Ranges) (n : Nat) : Bool :=
  ranges.any fun range => range.1 ≤ n && n ≤ range.2

end HaxePrompt.Text
