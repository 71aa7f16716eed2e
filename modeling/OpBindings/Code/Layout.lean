/-
OpBindings.Code.Layout — lines of code and their indentation.

Code is a list of lines and changes of depth. `Code.lines` lays it out with
two spaces for each level; a line without text stays empty. Code is built
from lines and blocks, so that every level that is opened is closed.
-/

namespace OpBindings

/-- A piece of code. -/
inductive CodeItem where
  | line (text : String)
  | indent
  | dedent
deriving DecidableEq, Repr

/-- Pieces of code, one after the other. -/
abbrev Code := List CodeItem

namespace Code

/-- One line. -/
def line (text : String) : Code := [.line text]

/-- Code one level deeper. -/
def nested (inner : Code) : Code := .indent :: inner ++ [.dedent]

/-- Code between an opening and a closing line. -/
def block (opening : String) (inner : Code) (closing : String) : Code :=
  line opening ++ nested inner ++ line closing

/-- The spaces before a line. -/
def margin (depth : Nat) : String := String.join (List.replicate depth "  ")

/-- The lines of the code that starts at `depth`. -/
def lines (depth : Nat) : Code → List String
  | [] => []
  | .line text :: rest => (if text.isEmpty then "" else margin depth ++ text) :: lines depth rest
  | .indent :: rest => lines (depth + 1) rest
  | .dedent :: rest => lines (depth - 1) rest

/-- The text of the code: every line ends with a line feed. -/
def text (code : Code) : String := String.join ((code.lines 0).map (· ++ "\n"))

end Code

end OpBindings
