/-
OpBindings.ArgumentLayout — how the arguments of an operator are laid out.

`Operator.slots` puts the parameters into the argument parser's order,
positional ones before those passed by name, and numbers them. The receiver
of a method has no slot, several tensor outputs share one slot named `out`,
and with `Outputs.elided` the outputs have none.
-/
import OpBindings.Operator
import OpBindings.Surface

namespace OpBindings

/-- Whether the parameters that receive results are part of a layout. -/
inductive Outputs where
  | kept
  | elided
deriving DecidableEq, Repr

/-- A parameter with the place at which the argument parser keeps it. -/
structure Slot where
  param : Param
  position : Nat
deriving DecidableEq, Repr

/-- The keyword that stands for `size` tensor outputs. -/
def packedParam (size : Nat) : Param where
  name := "out"
  type := "Tensor[" ++ toString size ++ "]"
  optional := false
  default := none
  aliasing := none
  keywordOnly := true
  listSize := some size

namespace Operator

/-- The parameters in declaration order, with the outputs kept, packed into one or left out. -/
def shownParams (o : Operator) (outputs : Outputs) : List Param :=
  match o.outSpan? with
  | none => o.params
  | some (first, last) =>
    match outputs with
    | .elided => o.params.take first ++ o.params.drop last
    | .kept =>
      if o.packsOutputs then
        o.params.take first ++ packedParam (last - first) :: o.params.drop last
      else o.params

/-- The receiver of a method is not passed as an argument. -/
def isReceiver (surface : Surface) (p : Param) : Bool := surface.bindsMethods && p.name == "self"

/-- The parameters in the parser's order: positional ones, then those passed by name. -/
def orderedParams (o : Operator) (surface : Surface) (outputs : Outputs) : List Param :=
  let passed := (o.shownParams outputs).filter (!isReceiver surface ·)
  passed.filter (!·.keywordOnly) ++ passed.filter (·.keywordOnly)

/-- The layout of the arguments: every parameter that is passed, at its place. -/
def slots (o : Operator) (surface : Surface) (outputs : Outputs) : List Slot :=
  (o.orderedParams surface outputs).zipIdx.map fun (param, position) => { param, position }

/-- The position of the slot named `name`. -/
def positionIn (layout : List Slot) (name : String) : Option Nat :=
  (layout.find? (·.param.name == name)).map (·.position)

/-- The slot of the parameter `p` at `index`; an output that is packed has
the slot of the pack. -/
def position? (o : Operator) (layout : List Slot) (index : Nat) (p : Param) : Option Nat :=
  positionIn layout (if o.packsOutputs && o.isOutputAt index then "out" else p.name)

/-- The slot that the parameter is read from; one without a slot is read from its own place. -/
def position (o : Operator) (layout : List Slot) (index : Nat) (p : Param) : Nat :=
  (o.position? layout index p).getD index

/-- The slot of the first output. -/
def firstOutPosition? (o : Operator) (layout : List Slot) : Option Nat := do
  let index ← o.firstOut?
  o.position? layout index (← o.params[index]?)

end Operator

end OpBindings
