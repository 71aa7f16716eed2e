/-
OpBindings.Scope — which operators are bound, and on which surfaces.

`Operator.exclusion?` drops what the bindings never show. What is left is
routed: a module tag decides by itself, and an operator without one goes
where its declared variants say. A tag that nobody knows ends the run.
-/
import OpBindings.Signature

namespace OpBindings

/-! ## Exclusion -/

/-- Why an operator is left out. -/
inductive Exclusion where
  | privateName
  | autogradHelper
  | boundByHand
  | unsupportedType
deriving DecidableEq, Repr

namespace Exclusion

def reason : Exclusion → String
  | privateName => "private"
  | autogradHelper => "autograd helper"
  | boundByHand => "bound by hand"
  | unsupportedType => "unsupported type"

/-- The parts of a name that mark a step of differentiation. -/
def autogradMarks : List String := ["_backward", "_forward"]

/-- The names that are bound by hand. -/
def handBoundNames : List String := ["to", "record_stream", "index", "index_put_", "index_put"]

/-- The types that a declaration cannot be bound with. -/
def unsupportedTypes : List String := ["Dimname", "ConstQuantizerPtr"]

end Exclusion

/-- The first reason to leave `o` out, if there is one. -/
def Operator.exclusion? (o : Operator) : Option Exclusion :=
  let name := o.baseName.toList
  if name.head? == some '_' then some .privateName
  else if Exclusion.autogradMarks.any fun mark => Text.occurs mark.toList name then
    some .autogradHelper
  else if Exclusion.handBoundNames.contains o.baseName then some .boundByHand
  else if Exclusion.unsupportedTypes.any fun type => Text.occurs type.toList o.text.toList then
    some .unsupportedType
  else none

/-! ## Routing -/

/-- A module that a record can be tagged with. -/
inductive ModuleTag where
  | nn
  | linalg
  | fft
  | special
deriving DecidableEq, Repr

namespace ModuleTag

def all : List ModuleTag := [nn, linalg, fft, special]

/-- The tag in a record. -/
def tag : ModuleTag → String
  | nn => "nn"
  | linalg => "linalg"
  | fft => "fft"
  | special => "special"

/-- The name in a note. -/
def label : ModuleTag → String
  | nn => "Nn"
  | linalg => "Linalg"
  | fft => "Fft"
  | special => "Special"

def ofTag? (tag : String) : Option ModuleTag := all.find? (·.tag == tag)

/-- The surface of the module, if it is bound at all. -/
def surface? : ModuleTag → Option Surface
  | nn => some .nn
  | linalg => some .linalg
  | fft | special => none

end ModuleTag

namespace Operator

/-- The module that `o` is tagged with. -/
def module? (o : Operator) : Except Fault (Option ModuleTag) :=
  match o.moduleTag with
  | none => .ok none
  | some tag =>
    match ModuleTag.ofTag? tag with
    | some module => .ok (some module)
    | none => .error (.foreignModule tag o.name)

/-- The surfaces of an operator without a module: those that its variants ask for. -/
def callSurfaces (o : Operator) : List Surface :=
  (if o.calls.function then [.torch] else []) ++ (if o.calls.method then [.tensor] else [])

/-- The surfaces that `o` is bound on. -/
def surfaces (o : Operator) : Except Fault (List Surface) := do
  match ← o.module? with
  | some module => .ok module.surface?.toList
  | none => .ok o.callSurfaces

end Operator

end OpBindings
