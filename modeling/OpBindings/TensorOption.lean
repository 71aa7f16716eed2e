/-
OpBindings.TensorOption — the options that a new tensor is made with.

A native call takes them as one value, built by setters in a fixed order. A
parameter is an option by its name alone.
-/
import OpBindings.Declaration.Basic

namespace OpBindings

/-- An option of a new tensor, in the order in which the options are set. -/
inductive TensorOption where
  | dtype
  | device
  | layout
  | requiresGrad
  | pinMemory
deriving DecidableEq, Repr

namespace TensorOption

def all : List TensorOption := [dtype, device, layout, requiresGrad, pinMemory]

/-- The name of the parameter that carries the option. -/
def paramName : TensorOption → String
  | dtype => "dtype"
  | device => "device"
  | layout => "layout"
  | requiresGrad => "requires_grad"
  | pinMemory => "pin_memory"

/-- The name of the setter. -/
def setter : TensorOption → String
  | pinMemory => "pinned_memory"
  | option => option.paramName

/-- The accessor of the argument parser; the element type may be left open
by an operator that finds it out from its arguments. -/
def accessor (opensDtype : Bool) : TensorOption → String
  | dtype => if opensDtype then "scalartypeOptional" else "scalartype"
  | device => "device"
  | layout => "layoutOptional"
  | requiresGrad | pinMemory => "toBool"

/-- The option has a value even where none is passed, so that its `?` says nothing. -/
def isAlwaysSupplied : TensorOption → Bool
  | requiresGrad => false
  | _ => true

/-- The option that a parameter name stands for. -/
def ofName? (name : String) : Option TensorOption := all.find? (·.paramName == name)

theorem mem_all (option : TensorOption) : option ∈ all := by cases option <;> decide

theorem ofName?_paramName (option : TensorOption) : ofName? option.paramName = some option := by
  cases option <;> decide

end TensorOption

namespace Param

/-- The option that the parameter carries, if any. -/
def option? (p : Param) : Option TensorOption := TensorOption.ofName? p.name

/-- The parameter carries an option. -/
def carriesOption (p : Param) : Bool := p.option?.isSome

/-- The parameter carries an option whose `?` is dropped: the options value always supplies it. -/
def isSuppliedOption (p : Param) : Bool := p.option?.any (·.isAlwaysSupplied)

end Param

/-- The parameter that completes a full set of options. -/
def requiresGradParam : Param where
  name := "requires_grad"
  type := "bool"
  optional := false
  default := some "False"
  aliasing := none
  keywordOnly := true
  listSize := none

end OpBindings
