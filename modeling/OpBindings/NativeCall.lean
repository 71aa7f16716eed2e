/-
OpBindings.NativeCall — one call of a native function.

A call stands inside a dispatcher, a local function whose parameters are
those of the operator; a gathered set of options takes the place of its
members. For each parameter the plan says where its argument comes from: the
receiver, the options value, an element of the pack of outputs, or a slot of
the argument parser. The arguments may have been laid out by the signature
of another operator, a writer of the same family; so slots are found by
parameter name.
-/
import OpBindings.ResultShape
import OpBindings.Run
import OpBindings.Signature

namespace OpBindings

/-- Where an argument of the dispatcher comes from. -/
inductive Argument where
  /-- The receiver of a method. -/
  | receiver
  /-- The options value. -/
  | gathered
  /-- An element of the pack of outputs. -/
  | packed (index : Nat)
  /-- A slot of the argument parser, read by an accessor. -/
  | slot (accessor : String) (position : Nat)
deriving DecidableEq, Repr

/-- The argument as an expression. -/
def Argument.text : Argument → String
  | receiver => "self"
  | gathered => "options"
  | packed index => "out[" ++ toString index ++ "]"
  | slot accessor position => "_r." ++ accessor ++ "(" ++ toString position ++ ")"

def Argument.isSlot : Argument → Bool
  | slot .. => true
  | _ => false

/-- What the dispatcher does with a parameter. -/
inductive Passing where
  /-- The native function is called on it. -/
  | receiver
  /-- It is passed before all inputs. -/
  | output
  /-- It is passed on. -/
  | input
deriving DecidableEq, Repr

/-- A parameter of the dispatcher, and its argument. -/
structure DispatchParam where
  nativeType : String
  name : String
  source : Argument
  passing : Passing
deriving DecidableEq, Repr

/-- One link of the chain that builds the options value. -/
structure OptionLink where
  setter : String
  accessor : String
  position : Nat
deriving DecidableEq, Repr

/-- The outputs that are passed as one list: how many, and in which slot. -/
structure OutputPack where
  size : Nat
  position : Nat
deriving DecidableEq, Repr

/-- One native call with everything that it needs. -/
structure NativeCall where
  /-- The declaration, which the generated code repeats as a comment. -/
  declaration : String
  dispatcher : String
  params : List DispatchParam
  returns : ResultShape
  function : String
  /-- Empty unless the call takes an options value. -/
  options : List OptionLink
  outputPack : Option OutputPack
deriving DecidableEq, Repr

namespace NativeCall

/-- The arguments of the native function: outputs first, then inputs. -/
def nativeArgs (c : NativeCall) : List String :=
  (c.params.filter (·.passing == .output) ++ c.params.filter (·.passing == .input)).map (·.name)

/-- The arguments of the dispatcher. -/
def args (c : NativeCall) : List Argument := c.params.map (·.source)

/-- The code of the call uses what the argument parser returned. -/
def readsParser (c : NativeCall) : Bool :=
  !c.options.isEmpty || c.outputPack.isSome || c.args.any (·.isSlot)

end NativeCall

namespace Operator

/-! ## Options -/

/-- The options are gathered into one value where there are at least four. -/
def gathersOptions (o : Operator) : Bool := 4 ≤ o.params.countP (·.carriesOption)

/-- The operator finds out the element type from its arguments. -/
def opensDtype (o : Operator) : Bool := o.baseName == "arange"

/-- The setters of the options value, in the order of the options. -/
def optionLinks (o : Operator) (layout : List Slot) : List OptionLink :=
  TensorOption.all.flatMap fun option =>
    (o.params.zipIdx.filter fun (p, _) => p.option? == some option).map fun (p, index) =>
      { setter := option.setter
        accessor := option.accessor o.opensDtype
        position := o.position layout index p }

/-! ## The dispatcher -/

/-- The parameter that takes the options value. -/
def optionsParam : DispatchParam where
  nativeType := "const TensorOptions &"
  name := "options"
  source := .gathered
  passing := .input

/-- Where the argument of the parameter `p` at `index` comes from. -/
def source (o : Operator) (surface : Surface) (layout : List Slot) (index : Nat) (p : Param)
    (accessor : String) : Argument :=
  if isReceiver surface p then .receiver
  else if o.packsOutputs && o.isOutputAt index then .packed (index - o.firstOut?.getD 0)
  else .slot accessor (o.position layout index p)

/-- What the dispatcher does with the parameter `p` at `index`. -/
def passing (o : Operator) (surface : Surface) (index : Nat) (p : Param) : Passing :=
  if isReceiver surface p then .receiver
  else if o.isOutputAt index then .output
  else .input

/-- The dispatcher's parameter for the parameter `p` at `index`. -/
def dispatchParam (o : Operator) (surface : Surface) (layout : List Slot) (index : Nat)
    (p : Param) : Except Fault DispatchParam := do
  let native ← p.native o
  .ok {
    nativeType := native.nativeType
    name := p.name
    source := o.source surface layout index p native.accessor
    passing := o.passing surface index p }

/-- The dispatcher's parameters for the parameters from `index` on. The options
value stands at the place of the first option, once. -/
def dispatchParams (o : Operator) (surface : Surface) (layout : List Slot) (placed : Bool)
    (index : Nat) : List Param → Except Fault (List DispatchParam)
  | [] => .ok []
  | p :: ps =>
    if o.gathersOptions && p.carriesOption then do
      let rest ← o.dispatchParams surface layout true (index + 1) ps
      .ok (if placed then rest else optionsParam :: rest)
    else do
      let param ← o.dispatchParam surface layout index p
      let rest ← o.dispatchParams surface layout placed (index + 1) ps
      .ok (param :: rest)

/-! ## The call -/

/-- The native function's own name. -/
def nativeFunction (o : Operator) : String :=
  if o.hasOutputs then o.baseName ++ "_out" else o.baseName

/-- What the native function is called on. -/
def qualifier (o : Operator) (surface : Surface) : String :=
  if surface.bindsMethods then "self." else if o.gathersOptions then "torch::" else "at::"

/-- The pack of outputs, where they are passed as one. -/
def outputPack? (o : Operator) (layout : List Slot) : Option OutputPack :=
  if o.packsOutputs then
    (o.firstOutPosition? layout).map fun position => { size := o.results.length, position }
  else none

/-- The call of `o` with arguments that the parser keeps as `layout` says. -/
def callIn (o : Operator) (surface : Surface) (layout : List Slot) : Run NativeCall := do
  let params ← Run.lift (o.dispatchParams surface layout false 0 o.params)
  if o.gathersOptions then Run.tally .gatheredOptions
  Run.note (.planned o.name (o.qualifier surface ++ o.nativeFunction))
  let returns ← Run.lift (ResultShape.of o)
  pure {
    declaration := o.text
    dispatcher := "dispatch_" ++ o.nativeFunction
    params, returns
    function := o.qualifier surface ++ o.nativeFunction
    options := if o.gathersOptions then o.optionLinks layout else []
    outputPack := o.outputPack? layout }

/-- The call of `o` with arguments that its own signature laid out. -/
def call (o : Operator) (surface : Surface) : Run NativeCall :=
  o.callIn surface (o.slots surface .kept)

end Operator

end OpBindings
