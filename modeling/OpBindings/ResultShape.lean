/-
OpBindings.ResultShape — the closed list of things that a native call returns.
-/
import OpBindings.Operator

namespace OpBindings

/-- What a native call returns. -/
inductive ResultShape where
  | void
  | bool
  | int
  | float
  | scalar
  | scalarType
  | qScheme
  | tensor
  | tensorList
  /-- Two to five tensors. -/
  | tensors (size : Nat)
  /-- Two tensors, a float and an integer. -/
  | twoTensorsFloatInt
  | twoFloats
deriving DecidableEq, Repr

namespace ResultShape

/-- The shape of a list of result types. -/
def ofTypes? : List String → Option ResultShape
  | [] => some void
  | ["bool"] => some bool
  | ["int"] => some int
  | ["float"] => some float
  | ["Scalar"] => some scalar
  | ["ScalarType"] => some scalarType
  | ["QScheme"] => some qScheme
  | ["Tensor"] => some tensor
  | ["Tensor[]"] => some tensorList
  | ["Tensor", "Tensor", "float", "int"] => some twoTensorsFloatInt
  | ["float", "float"] => some twoFloats
  | types =>
    if 2 ≤ types.length && types.length ≤ 5 && types.all (· == "Tensor") then
      some (tensors types.length)
    else none

/-- The shape of what `o` returns. -/
def of (o : Operator) : Except Fault ResultShape :=
  let types := o.results.map (·.type)
  match ofTypes? types with
  | some shape => .ok shape
  | none => .error (.foreignResults types o.name)

/-- The native return type. -/
def nativeSpelling : ResultShape → String
  | void => "void"
  | bool => "bool"
  | int => "int64_t"
  | float => "double"
  | scalar => "Scalar"
  | scalarType => "ScalarType"
  | qScheme => "QScheme"
  | tensor => "Tensor"
  | tensorList => "std::vector<Tensor>"
  | tensors size => "std::tuple<" ++ ",".intercalate (List.replicate size "Tensor") ++ ">"
  | twoTensorsFloatInt => "std::tuple<Tensor,Tensor,double,int64_t>"
  | twoFloats => "std::tuple<double,double>"

end ResultShape

end OpBindings
