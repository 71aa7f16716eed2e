/-
OpBindings.Binding.Plan — the function bound under one public name.

A binding has one arm for each overload family: the signature by which the
argument parser recognises the family, and the calls that the family makes.
A family with a plain operator and a writer makes one of two calls, by
whether the writer's first output was passed.
-/
import OpBindings.NativeCall
import OpBindings.OverloadFamily

namespace OpBindings

/-- The calls of one overload family. -/
inductive FamilyCall where
  /-- The same call every time. -/
  | always (call : NativeCall)
  /-- The plain call where the argument at `position` is omitted, the writer's where it is not. -/
  | byOutput (position : Nat) (plain writer : NativeCall)
deriving DecidableEq, Repr

namespace FamilyCall

def readsParser : FamilyCall → Bool
  | always call => call.readsParser
  | byOutput .. => true

/-- The calls of a family whose members are known. Both calls of a split
family read the arguments that the writer's signature laid out. -/
def ofMembers (surface : Surface) : Members → Run FamilyCall
  | .plain o | .writer o => do pure (always (← o.call surface))
  | .both o w => do
    Run.tally .split
    let layout := w.slots surface .kept
    let writerCall ← w.callIn surface layout
    let plainCall ← o.callIn surface layout
    pure (byOutput ((w.firstOutPosition? layout).getD 0) plainCall writerCall)

end FamilyCall

/-- One overload of a binding. -/
structure Arm where
  signature : Signature
  call : FamilyCall
deriving DecidableEq, Repr

/-- The function bound under one public name on one surface. -/
structure Binding where
  name : String
  surface : Surface
  arms : List Arm
deriving DecidableEq, Repr

/-- How a binding finds its arm: there is only one, or the parser says which. -/
inductive Selection where
  | sole (call : FamilyCall)
  | byIndex (calls : List FamilyCall)
deriving DecidableEq, Repr

/-- Everything that is printed of a function. -/
structure FunctionPlan where
  name : String
  /-- The C symbol of the function. -/
  symbol : String
  surface : Surface
  /-- The signatures that the argument parser is given, in the order in which it tries them. -/
  signatures : List Signature
  /-- The room for parsed arguments. -/
  capacity : Nat
  selection : Selection
deriving DecidableEq, Repr

/-- The code of the function uses what the argument parser returned. -/
def FunctionPlan.readsParser (p : FunctionPlan) : Bool :=
  match p.selection with
  | .sole call => call.readsParser
  | .byIndex _ => true

/-- The C symbol of the function for `name`. -/
def cSymbol (name : String) (surface : Surface) : String :=
  if surface = .linalg && "linalg_".toList.isPrefixOf name.toList then name
  else surface.name ++ "_" ++ name

namespace Binding

def symbol (b : Binding) : String := cSymbol b.name b.surface

def selection (b : Binding) : Selection :=
  match b.arms with
  | [arm] => .sole arm.call
  | arms => .byIndex (arms.map (·.call))

/-- The room for parsed arguments: enough for every overload, and never none. -/
def capacity (b : Binding) : Nat := max 1 ((b.arms.map (·.signature.arity)).foldr max 0)

/-- The plan of the bound function. -/
def plan (b : Binding) : FunctionPlan where
  name := b.name
  symbol := b.symbol
  surface := b.surface
  signatures := b.arms.map (·.signature)
  capacity := b.capacity
  selection := b.selection

/-- The code uses what the argument parser returned. -/
def readsParser (b : Binding) : Bool := b.plan.readsParser

/-- The arm of one overload family. -/
def arm (surface : Surface) (f : OverloadFamily) : Run Arm := do
  let call ← FamilyCall.ofMembers surface f.members
  pure { signature := f.signature, call }

/-- The binding of a name, from its overload families in order. -/
def ofFamilies (name : String) (surface : Surface) (families : List OverloadFamily) :
    Run Binding := do
  let arms ← Run.each (arm surface) families
  Run.tally (.named surface families.length)
  pure { name, surface, arms }

end Binding

end OpBindings
