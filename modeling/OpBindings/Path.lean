/-
OpBindings.Path — paths as text.

A path is cut at its slashes. Its `steps` are the parts that make a
difference to where it leads: not the empty ones between doubled slashes or
after the last one, and no dot but one that the path starts with. `same`
compares two paths step by step, `above` lists the steps to the directories
on the way, and `join` puts a name into a directory.
-/
import OpBindings.Text.Cut

namespace OpBindings.Path

/-- The parts of a path between its slashes. -/
def parts (path : String) : List String :=
  (Text.cutEvery '/' path.toList).map String.ofList

/-- The parts with something in them. -/
def filled (path : String) : List String := (parts path).filter (· != "")

/-- Whether the path starts at the root. -/
def isRooted (path : String) : Bool := path.toList.head? == some '/'

def endsWithSlash (path : String) : Bool := path.toList.getLast? == some '/'

/-- The parts that make a difference: a dot is kept only at the start of a
path that does not begin at the root. -/
def steps (path : String) : List String :=
  if isRooted path then (filled path).filter (· != ".")
  else (filled path).take 1 ++ ((filled path).drop 1).filter (· != ".")

/-- Whether two paths start at the same place and have the same steps. -/
def same (path other : String) : Bool :=
  isRooted path == isRooted other && steps path == steps other

/-- The steps to each of the directories above, the nearest first. -/
def above (path : String) : List (List String) :=
  let all := steps path
  (List.range all.length).reverse.map all.take

/-- The path of `name` in the directory `dir`; a name that starts at the root stays as it is. -/
def join (dir name : String) : String :=
  if isRooted name then name
  else if dir.isEmpty || endsWithSlash dir then dir ++ name
  else dir ++ "/" ++ name

theorem parts_ne_nil (path : String) : parts path ≠ [] := by
  simp [parts, Text.cutEvery_ne_nil]

theorem same_iff {path other : String} :
    same path other = true ↔ isRooted path = isRooted other ∧ steps path = steps other := by
  simp [same]

@[simp] theorem same_self (path : String) : same path path = true := same_iff.2 ⟨rfl, rfl⟩

theorem join_of_isRooted {name : String} (dir : String) (h : isRooted name = true) :
    join dir name = name := by
  simp [join, h]

end OpBindings.Path
