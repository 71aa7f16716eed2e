/-
OpBindings.Text.CodeRanges — sets of code points as lists of closed ranges.

A Unicode property is data: the tables of this folder are values of
`CodeRanges`, and `CodeRanges.contains` is the one way to ask them.
-/

namespace OpBindings.Text

/-- Closed ranges of code points, ascending and apart from each other. -/
abbrev CodeRanges := List (Nat × Nat)

/-- Whether some range holds the code point of `c`. -/
def CodeRanges.contains (ranges : CodeRanges) (c : Char) : Bool :=
  ranges.any fun range => range.1 ≤ c.toNat && c.toNat ≤ range.2

end OpBindings.Text
