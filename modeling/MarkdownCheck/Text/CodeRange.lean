/-!
# Ranges of code points

A property of characters is a table of closed ranges of code points, ascending and apart.
-/

namespace MarkdownCheck

/-- Closed ranges of code points, ascending and apart. -/
abbrev CodeRanges := List (Nat × Nat)

/-- Whether the code point of `c` lies in one of the ranges. -/
def CodeRanges.covers (rs : CodeRanges) (c : Char) : Bool :=
  rs.any fun r => r.1 ≤ c.toNat && c.toNat ≤ r.2

end MarkdownCheck
