/-
OpBindings.Declaration.Basic — the declaration of an operator, as a value.

    name[.overload](Type[(alias)][?] name[=default], ..., *, ...) -> results
    results := () | Type[(alias)] [name] | (Type [name], Type [name], ...)

A `Declaration` is what such a line says and nothing more; what the binding
rules make of it is `OpBindings.Operator`.
-/

namespace OpBindings

/-- One parameter of an operator. -/
structure Param where
  name : String
  /-- The type without its alias annotation and its `?`, such as `Tensor` or `int[2]`. -/
  type : String
  optional : Bool
  default : Option String
  /-- The alias annotation, such as `a!`. -/
  aliasing : Option String
  keywordOnly : Bool
  /-- The `n` of a list type `T[n]`. -/
  listSize : Option Nat
deriving DecidableEq, Repr

/-- One value that an operator returns. -/
structure Result where
  name : Option String
  type : String
  aliasing : Option String
deriving DecidableEq, Repr

/-- A declaration as it is written. -/
structure Declaration where
  name : String
  params : List Param
  results : List Result
deriving DecidableEq, Repr

namespace Param

/-- The operator writes to the argument: its alias annotation says so with `!`. -/
def isMutated (p : Param) : Bool := p.aliasing.any (·.toList.contains '!')

end Param

end OpBindings
