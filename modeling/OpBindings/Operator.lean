/-
OpBindings.Operator — an operator of the table, with the table's rules applied.

A declaration becomes an operator by three rules: the options that a tensor
is made with are never optional, the flag for gradients is added where all
the other options are declared, and some factories of indices make integers
unless told otherwise. Everything else that is asked of an operator (its
base name, its outputs) is computed from the declaration.
-/
import OpBindings.Declaration.Parser
import OpBindings.Fault
import OpBindings.TensorOption

namespace OpBindings

/-! ## Parameters -/

/-- The factories whose results are 64-bit integers unless a type is given. -/
def makesIndices (baseName : String) : Bool :=
  "randperm".toList.isPrefixOf baseName.toList ||
    baseName == "tril_indices" || baseName == "triu_indices"

/-- The parameter under the rules for tensor options. -/
def Param.settle (baseName : String) (p : Param) : Param :=
  { p with
    optional := p.optional && !p.isSuppliedOption
    default := if p.name == "dtype" && makesIndices baseName then some "torch.int64"
      else p.default }

/-- The parameters of an operator: each settled, and the gradient flag at
the end where four options are always supplied and it is not declared. -/
def settleParams (baseName : String) (declared : List Param) : List Param :=
  let params := declared.map (Param.settle baseName)
  if params.countP (·.isSuppliedOption) == 4 && !params.any (·.name == "requires_grad") then
    params ++ [requiresGradParam]
  else params

/-! ## Operators -/

/-- The kinds of call that a record declares. -/
structure CallKinds where
  function : Bool := false
  method : Bool := false
deriving DecidableEq, Repr

/-- An operator of the table. -/
structure Operator where
  /-- The full name, such as `add.out`. -/
  name : String
  /-- The declaration as the table writes it. -/
  text : String
  params : List Param
  results : List Result
  calls : CallKinds
  moduleTag : Option String
deriving DecidableEq, Repr

/-- The characters before the dot that separates the overload's name. -/
def baseCharsOf (name : String) : List Char := name.toList.takeWhile (· != '.')

/-- The name before the dot that separates the overload's name. -/
def baseNameOf (name : String) : String := String.ofList (baseCharsOf name)

namespace Operator

/-- The name that all overloads share. -/
def baseName (o : Operator) : String := baseNameOf o.name

/-- The base name ends with `_`: the operator changes its argument in place. -/
def isInPlace (o : Operator) : Bool := (baseCharsOf o.name).getLast? == some '_'

/-- The place of the first output: the first written parameter of an
operator that returns something and does not work in place. -/
def firstOut? (o : Operator) : Option Nat :=
  if o.isInPlace || o.results.isEmpty then none else o.params.findIdx? (·.isMutated)

/-- The operator writes its results into arguments. -/
def hasOutputs (o : Operator) : Bool := o.firstOut?.isSome

/-- The first output and the place after the last: one output for each
result, as far as there are parameters. -/
def outSpan? (o : Operator) : Option (Nat × Nat) :=
  o.firstOut?.map fun first => (first, min (first + o.results.length) o.params.length)

/-- Whether the parameter at `index` receives a result. -/
def isOutputAt (o : Operator) (index : Nat) : Bool :=
  match o.outSpan? with
  | none => false
  | some (first, last) => first ≤ index && index < last

/-- The parameters that receive the results. -/
def outputParams (o : Operator) : List Param :=
  match o.outSpan? with
  | none => []
  | some (first, last) => (o.params.take last).drop first

/-- Several tensor outputs are passed as one list under the keyword `out`. -/
def packsOutputs (o : Operator) : Bool :=
  o.hasOutputs && 1 < o.results.length &&
    o.outputParams.all (·.type == "Tensor") && o.results.all (·.type == "Tensor")

/-! ## From the table -/

/-- The calls that a list of variant names allows, or the first name that is none. -/
def readCallKinds (names : List String) : Except String CallKinds :=
  names.foldlM (fun calls name =>
    match name with
    | "function" => .ok { calls with function := true }
    | "method" => .ok { calls with method := true }
    | other => .error other) {}

/-- The calls that a record asks for. Without `variants` it asks for a function. -/
def readVariants (text : String) : Option VariantSpec → Except RecordFault CallKinds
  | none => .ok { function := true }
  | some spec => (readCallKinds spec.names).mapError (.unknownVariant text)

/-- The operator that a declaration makes. -/
def ofDeclaration (text : String) (d : Declaration) (calls : CallKinds)
    (moduleTag : Option String) : Operator where
  name := d.name
  text := text
  params := settleParams (baseNameOf d.name) d.params
  results := d.results
  calls := calls
  moduleTag := moduleTag

/-- The operator of a record. -/
def ofRecord (r : Record) : Except RecordFault Operator :=
  match r.declaration with
  | none => .error .noDeclaration
  | some text => do
    let declaration ← (Declaration.parse text).mapError (.malformed text)
    let calls ← readVariants text r.variants
    if r.moduleTag.any fun tag => (Text.trim tag.toList).isEmpty then
      .error (.emptyModule text)
    else .ok (ofDeclaration text declaration calls r.moduleTag)

end Operator

end OpBindings
