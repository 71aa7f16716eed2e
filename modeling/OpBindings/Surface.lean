/-
OpBindings.Surface — where an operator can be bound.

A surface is one generated unit: three namespaces of functions, and the
tensor itself, whose methods take the receiver as `self`.
-/

namespace OpBindings

/-- A generation target with a registration function of its own. -/
inductive Surface where
  /-- The top-level namespace. -/
  | torch
  /-- The methods of a tensor. -/
  | tensor
  /-- The neural-network namespace. -/
  | nn
  /-- The linear-algebra namespace. -/
  | linalg
deriving DecidableEq, Repr

namespace Surface

/-- Every surface, in the order of every listing. -/
def all : List Surface := [torch, tensor, nn, linalg]

def name : Surface → String
  | torch => "torch"
  | tensor => "tensor"
  | nn => "nn"
  | linalg => "linalg"

/-- The surface of that name. -/
def ofName? (name : String) : Option Surface := all.find? (·.name == name)

/-- What is said of a name that no surface has. -/
def unknownName (name : String) : String :=
  "unknown surface '" ++ name ++ "' (expected torch, tensor, nn or linalg)"

/-- Operators are bound as instance methods, with `self` as the receiver. -/
def bindsMethods : Surface → Bool
  | tensor => true
  | _ => false

/-- The host function that attaches a binding. -/
def defineFunction (s : Surface) : String :=
  if s.bindsMethods then "define_method" else "define_singleton_method"

theorem mem_all (s : Surface) : s ∈ all := by cases s <;> decide

theorem ofName?_name (s : Surface) : ofName? s.name = some s := by cases s <;> decide

end Surface

end OpBindings
