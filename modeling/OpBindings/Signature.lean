/-
OpBindings.Signature — the overload signature that the argument parser is given.

    add(Tensor input, Tensor other, *, Scalar alpha=1, Tensor out=None)

`Operator.signature` prints a layout of arguments. The text without outputs
is the key by which a plain operator and the operator that writes the same
results into arguments are found to belong together.
-/
import OpBindings.ArgumentLayout
import OpBindings.ParamType

namespace OpBindings

/-- The text of a signature and the number of its slots. -/
structure Signature where
  text : String
  arity : Nat
deriving DecidableEq, Repr

/-! ## Items -/

namespace Param

/-- The name in a signature: the receiver is shown as an input. -/
def shownName (p : Param) : String := if p.name == "self" then "input" else p.name

/-- The text after `=` in a signature, in the words of the argument parser. -/
def shownDefault (p : Param) : Option String :=
  match p.default with
  | none => if p.name == "out" then some "None" else none
  | some "[]" => some "None"
  | some "Mean" => some "at::Reduction::Mean"
  | some text => some text

/-- The type in a signature, with its list size and its `?`. -/
def shownType (p : Param) (o : Operator) : Except Fault String := do
  let type ← ParamType.of p o
  let size :=
    match p.listSize with
    | none => ""
    | some size => "[" ++ toString size ++ "]"
  .ok (type.parserSpelling ++ size ++ (if p.optional then "?" else ""))

/-- The parameter as a signature shows it. -/
def shown (p : Param) (o : Operator) : Except Fault String := do
  let type ← p.shownType o
  let default :=
    match p.shownDefault with
    | none => ""
    | some text => "=" ++ text
  .ok (type ++ " " ++ p.shownName ++ default)

end Param

/-! ## The text -/

namespace Operator

/-- The items of a signature: the parameters, with a `*` before the first
one that is passed by name. -/
def signatureItems (o : Operator) (byName : Bool) : List Param → Except Fault (List String)
  | [] => .ok []
  | p :: ps => do
    let item ← p.shown o
    let items ← o.signatureItems (byName || p.keywordOnly) ps
    .ok (if p.keywordOnly && !byName then "*" :: item :: items else item :: items)

/-- The signature of `o` on a surface. -/
def signature (o : Operator) (surface : Surface) (outputs : Outputs) : Except Fault Signature := do
  let params := o.orderedParams surface outputs
  let items ← o.signatureItems false params
  .ok { text := o.baseName ++ "(" ++ ", ".intercalate items ++ ")", arity := params.length }

end Operator

end OpBindings
