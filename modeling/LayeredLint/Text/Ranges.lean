/-!
# Ranges of characters

Properties of characters are tables of ranges of code points.

- `inRanges`: whether a character lies in one of some inclusive ranges.
-/

namespace LayeredLint.Text

/-- A character in one of some inclusive ranges. -/
def inRanges (ranges : List (Nat × Nat)) (c : Char) : Bool :=
  ranges.any fun range => range.1 ≤ c.toNat && c.toNat ≤ range.2

end LayeredLint.Text
