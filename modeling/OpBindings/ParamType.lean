/-
OpBindings.ParamType — the closed vocabulary of parameter types.

`ParamType.ofText?` knows every type that can be bound. Each type has three
spellings: in the signature that the argument parser is given (`parserSpelling`),
as the type of a native parameter (`nativeSpelling`), and as the parser's
accessor (`accessorSpelling`). A type outside the vocabulary fails the run.
-/
import OpBindings.Operator

namespace OpBindings

/-- A type that a parameter can have. -/
inductive ParamType where
  | tensor
  | tensorList
  | scalar
  | scalarList
  | int
  | intList
  | float
  | floatList
  | str
  | bool
  | scalarType
  | layout
  | device
  | storage
  | generator
  | memoryFormat
deriving DecidableEq, Repr

namespace ParamType

/-! ## Reading -/

/-- The types that are written in one way only. -/
def fixedSpellings : List (String × ParamType) :=
  [("Tensor", tensor), ("Scalar", scalar), ("Scalar[]", scalarList), ("int", int),
    ("float", float), ("float[]", floatList), ("str", str), ("bool", bool),
    ("ScalarType", scalarType), ("Layout", layout), ("Device", device),
    ("Storage", storage), ("Generator", generator), ("MemoryFormat", memoryFormat)]

/-- A list type `T[]` or `T[n]`, by its element type. -/
def ofListText? (text : List Char) : Option ParamType := do
  let (element, size) ← Text.cutAt '[' (← Text.cutEnd ']' text)
  if !size.all Char.isDigit then none
  else if element = "Tensor".toList then some tensorList
  else if element = "int".toList then some intList
  else none

/-- The type that a text names; alias annotation and `?` are already taken off. -/
def ofText? (text : String) : Option ParamType :=
  match fixedSpellings.lookup text with
  | some type => some type
  | none => ofListText? text.toList

/-- The type of a parameter of `o`. -/
def of (p : Param) (o : Operator) : Except Fault ParamType :=
  match ofText? p.type with
  | some type => .ok type
  | none => .error (.foreignType p.type o.name)

/-! ## Spellings -/

/-- The type in a signature of the argument parser. -/
def parserSpelling : ParamType → String
  | tensor => "Tensor"
  | tensorList => "TensorList"
  | scalar => "Scalar"
  | scalarList => "ScalarList"
  | int => "int64_t"
  | intList => "IntArrayRef"
  | float => "double"
  | floatList => "ArrayRef<double>"
  | str => "std::string"
  | bool => "bool"
  | scalarType => "ScalarType"
  | layout => "Layout"
  | device => "Device"
  | storage => "Storage"
  | generator => "Generator"
  | memoryFormat => "MemoryFormat"

/-- The native type of a required parameter. It differs from the signature's
word for a tensor only, which is passed by reference. -/
def nativeSpelling : ParamType → String
  | tensor => "const Tensor &"
  | type => type.parserSpelling

/-- The accessor of the argument parser for a required parameter. -/
def accessorSpelling : ParamType → String
  | tensor => "tensor"
  | tensorList => "tensorlist"
  | scalar => "scalar"
  | scalarList => "scalarlist"
  | int => "toInt64"
  | intList => "intlist"
  | float => "toDouble"
  | floatList => "doublelist"
  | str => "string"
  | bool => "toBool"
  | scalarType => "scalartype"
  | layout => "layout"
  | device => "device"
  | storage => "storage"
  | generator => "generator"
  | memoryFormat => "memoryformat"

/-- The accessor takes an absent argument as it is. -/
def acceptsAbsent : ParamType → Bool
  | generator | tensorList | intList => true
  | _ => false

/-! ## Parameters of a native call -/

/-- The native type of a tensor parameter of `o`. An output of several is a
reference, any other aliased tensor a value; an optional tensor is passed as
a plain one where the operator writes to its arguments. -/
def nativeTensorType (p : Param) (o : Operator) : String :=
  if p.optional then
    if o.hasOutputs then "const Tensor &" else "const OptionalTensor &"
  else if p.aliasing.isSome then
    if p.isMutated && 1 < o.results.length then "Tensor &" else "Tensor"
  else "const Tensor &"

/-- The native type of a parameter of `o`. -/
def nativeType (type : ParamType) (p : Param) (o : Operator) : String :=
  match type with
  | tensor => nativeTensorType p o
  | type =>
    if p.optional then "c10::optional<" ++ type.nativeSpelling ++ ">" else type.nativeSpelling

/-- The accessor that reads a parameter of `o`. -/
def accessor (type : ParamType) (p : Param) (o : Operator) : String :=
  if !p.optional then type.accessorSpelling
  else
    match type with
    | tensor => if o.hasOutputs then tensor.accessorSpelling else "optionalTensor"
    | type =>
      if type.acceptsAbsent then type.accessorSpelling else type.accessorSpelling ++ "Optional"

end ParamType

/-- What a native call needs to know of a parameter. -/
structure NativeParam where
  type : ParamType
  nativeType : String
  accessor : String
deriving DecidableEq, Repr

/-- The native side of a parameter of `o`. -/
def Param.native (p : Param) (o : Operator) : Except Fault NativeParam := do
  let type ← ParamType.of p o
  .ok { type, nativeType := type.nativeType p o, accessor := type.accessor p o }

end OpBindings
