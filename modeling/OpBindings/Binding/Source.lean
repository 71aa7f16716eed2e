/-
OpBindings.Binding.Source — the code of a binding.

The code is printed from the plan and decides nothing: `FunctionPlan.code` states
the function, `FamilyCall.code` an arm, `NativeCall.code` a call.
-/
import OpBindings.Binding.Plan
import OpBindings.Code.Layout
import OpBindings.Code.Literal

namespace OpBindings

/-! ## Calls -/

namespace OptionLink

def text (s : OptionLink) : String :=
  "." ++ s.setter ++ "(_r." ++ s.accessor ++ "(" ++ toString s.position ++ "))"

/-- The links of the chain; the last one ends the statement. -/
def chain : List OptionLink → Code
  | [] => []
  | [s] => Code.line (s.text ++ ";")
  | s :: rest => Code.line s.text ++ chain rest

end OptionLink

namespace NativeCall

/-- The statement that makes the options value. -/
def optionsCode (c : NativeCall) : Code :=
  if c.options.isEmpty then []
  else
    Code.line "const auto options = TensorOptions()" ++
      Code.nested (Code.nested (OptionLink.chain c.options))

/-- The statement that takes the pack of outputs from the parser. -/
def outputPackCode (c : NativeCall) : Code :=
  match c.outputPack with
  | none => []
  | some out =>
    Code.line ("auto out = _r.tensorlist_n<" ++ toString out.size ++ ">(" ++
      toString out.position ++ ");")

/-- The head of the dispatcher. -/
def dispatchHead (c : NativeCall) : String :=
  "auto " ++ c.dispatcher ++ " = [](" ++
    ", ".intercalate (c.params.map fun p => p.nativeType ++ " " ++ p.name) ++
    ") -> " ++ c.returns.nativeSpelling ++ " \x7b"

/-- The native call inside the dispatcher. -/
def nativeText (c : NativeCall) : String :=
  c.function ++ "(" ++ ", ".intercalate c.nativeArgs ++ ");"

/-- The call of the dispatcher. -/
def invocation (c : NativeCall) : String :=
  c.dispatcher ++ "(" ++ ", ".intercalate (c.args.map (·.text)) ++ ")"

/-- The code of a call. -/
def code (c : NativeCall) : Code :=
  Code.line ("// " ++ c.declaration) ++ c.optionsCode ++ c.outputPackCode ++
  Code.block c.dispatchHead
    (Code.line "// in future, release GVL" ++
      Code.line (if c.returns = .void then c.nativeText else "return " ++ c.nativeText))
    "\x7d;" ++
  (if c.returns = .void then Code.line (c.invocation ++ ";") ++ Code.line "RETURN_NIL"
    else Code.line ("return wrap(" ++ c.invocation ++ ");"))

end NativeCall

/-! ## Arms -/

/-- The code of a family. -/
def FamilyCall.code : FamilyCall → Code
  | always call => call.code
  | byOutput position plain writer =>
    Code.line ("if (_r.isNone(" ++ toString position ++ ")) \x7b") ++ Code.nested plain.code ++
    Code.line "\x7d else \x7b" ++ Code.nested writer.code ++ Code.line "\x7d"

/-! ## The function -/

namespace Binding

/-- The signatures that the parser is given, as literals with commas between them. -/
def signatureCode : List Signature → Code
  | [] => []
  | [s] => Code.line (Code.literal s.text)
  | s :: rest => Code.line (Code.literal s.text ++ ",") ++ signatureCode rest

/-- The cases of a switch, numbered from `index`. -/
def caseCode (index : Nat) : List FamilyCall → Code
  | [] => []
  | call :: rest =>
    Code.block ("case " ++ toString index ++ ": \x7b") call.code "\x7d" ++ caseCode (index + 1) rest

def selectionCode : Selection → Code
  | .sole call => call.code
  | .byIndex calls =>
    Code.block "switch (_r.idx) \x7b" (caseCode 0 calls) "\x7d" ++ Code.line "RETURN_NIL"

end Binding

open Binding in
/-- The code of a function. -/
def FunctionPlan.code (p : FunctionPlan) : Code :=
  Code.line ("// " ++ p.name) ++
  Code.line ("static VALUE " ++ p.symbol ++ "(int argc, VALUE* argv, VALUE self_)") ++
  Code.block "\x7b"
    (Code.line "HANDLE_TH_ERRORS" ++
      (if p.surface.bindsMethods then
        Code.line "Tensor& self = Rice::detail::From_Ruby<Tensor&>().convert(self_);" else []) ++
      Code.block "static RubyArgParser parser(\x7b" (signatureCode p.signatures) "\x7d);" ++
      Code.line ("ParsedArgs<" ++ toString p.capacity ++ "> parsed_args;") ++
      Code.line ((if p.readsParser then "auto _r = " else "") ++
        "parser.parse(self_, argc, argv, parsed_args);") ++
      selectionCode p.selection ++
      Code.line "END_HANDLE_TH_ERRORS")
    "\x7d"

/-- The text of a function. -/
def FunctionPlan.text (p : FunctionPlan) : String := p.code.text

namespace Binding

/-- The code of a binding. -/
def code (b : Binding) : Code := b.plan.code

/-- The text of the bound function. -/
def text (b : Binding) : String := b.code.text

end Binding

end OpBindings
