/-
OpBindings.Declaration.Nesting — how deep a character of a declaration stands.

Parentheses and square brackets nest, quotes hide everything up to the next
quote of the same kind. One automaton answers both questions that are asked
of a declaration: where its parameter group ends (`group`), and where its
commas separate (`splitCommas`). A closing bracket that closes nothing
leaves the depth at zero.
-/
import OpBindings.Text.Blank

namespace OpBindings.Declaration

/-- What is open before the next character. -/
structure Nesting where
  depth : Nat := 0
  /-- The quote that hides what follows. -/
  quote : Option Char := none
deriving DecidableEq, Repr

/-- The bracket depth after `c`, where quotes do not count. -/
def bracketDepth (depth : Nat) (c : Char) : Nat :=
  if c = '(' || c = '[' then depth + 1
  else if c = ')' || c = ']' then depth - 1
  else depth

namespace Nesting

/-- Nothing is open. -/
def outside : Nesting := {}

/-- What is open after `c`. -/
def step (n : Nesting) (c : Char) : Nesting :=
  match n.quote with
  | some q => if c = q then { n with quote := none } else n
  | none =>
    if c = '"' || c = '\'' then { n with quote := some c }
    else { n with depth := bracketDepth n.depth c }

/-- Whether nothing is open. -/
def isOutside (n : Nesting) : Bool := n.quote.isNone && n.depth == 0

/-- The text up to the parenthesis that closes the group, and what follows it. -/
def group (n : Nesting) : List Char → Option (List Char × List Char)
  | [] => none
  | c :: cs =>
    if n.isOutside && c == ')' then some ([], cs)
    else ((n.step c).group cs).map fun (inner, rest) => (c :: inner, rest)

/-- The pieces between the commas that stand outside. -/
def pieces (n : Nesting) : List Char → List (List Char)
  | [] => [[]]
  | c :: cs =>
    if n.isOutside && c == ',' then [] :: n.pieces cs
    else
      match (n.step c).pieces cs with
      | [] => [[c]]
      | piece :: rest => (c :: piece) :: rest

end Nesting

/-- The items of a list, without the blanks around them; blank text holds none. -/
def splitCommas (cs : List Char) : List (List Char) :=
  match (Nesting.outside.pieces cs).map Text.trim with
  | [[]] => []
  | items => items

end OpBindings.Declaration
