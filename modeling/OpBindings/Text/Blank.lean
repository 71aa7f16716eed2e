/-
OpBindings.Text.Blank — blank characters, and text without its blank edges.

Blank is the White_Space property: 25 characters, the six of ASCII among
them. `trim` takes blanks off both ends and leaves the inside alone.
-/
import OpBindings.Text.CodeRanges

namespace OpBindings.Text

/-- The White_Space property. -/
def blankRanges : CodeRanges :=
   [(0x9, 0xD), (0x20, 0x20), (0x85, 0x85), (0xA0, 0xA0), (0x1680, 0x1680), (0x2000, 0x200A),
    (0x2028, 0x2029), (0x202F, 0x202F), (0x205F, 0x205F), (0x3000, 0x3000)]

/-- A character that only sets others apart. -/
def isBlank (c : Char) : Bool := blankRanges.contains c

/-- The text from its first character that is not blank. -/
def dropBlanks (cs : List Char) : List Char := cs.dropWhile isBlank

/-- The text without the blanks at its end. -/
def dropTrailingBlanks (cs : List Char) : List Char := (dropBlanks cs.reverse).reverse

/-- The text without the blanks at either end. -/
def trim (cs : List Char) : List Char := dropTrailingBlanks (dropBlanks cs)

theorem isBlank_of_isWhitespace (c : Char) (h : c.isWhitespace = true) : isBlank c = true := by
  simp only [Char.isWhitespace, Bool.or_eq_true, decide_eq_true_eq] at h
  rcases h with (((rfl | rfl) | rfl) | rfl) <;> decide

end OpBindings.Text
