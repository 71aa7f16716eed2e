/-
OpBindings.Proofs.Strict.Code — code whose levels are all opened and closed.

A level that is closed and was not opened leaves the printed depth at zero, and so does
not show. Strictly, code has lines only where each level that is closed is open, and
none is open at the end (`Strict.lines`). The last link of an options value is found by
its number, which there is only where there is a link (`Strict.chain`). The code of a
function has its lines: a call without links makes no options value (`code_eq`), and the
code is made of lines and closed blocks (`FunctionPlan.nests_code`), which end at the
depth where they start, whatever follows them (`lines_append_of_nests`).
-/
import OpBindings.Proofs.CodeScope
import OpBindings.Proofs.CodeText
import OpBindings.Proofs.Strict.Call

namespace OpBindings.Strict

/-- The lines of the code that starts at `depth`. -/
def lines (depth : Nat) : Code → Option (List String)
  | [] => if depth = 0 then some [] else none
  | .line text :: rest => (lines depth rest).map (Code.laid depth text :: ·)
  | .indent :: rest => lines (depth + 1) rest
  | .dedent :: rest => if 0 < depth then lines (depth - 1) rest else none

/-! ## The code of a function -/

/-- The links of the chain; the one with the last number ends the statement. -/
def chain (links : List OptionLink) : Option Code := do
  let last ← minus links.length 1
  some (links.zipIdx.flatMap fun (link, number) =>
    Code.line (if number = last then link.text ++ ";" else link.text))

def optionsCode (c : NativeCall) : Option Code :=
  if c.options.isEmpty then some []
  else do
    let links ← chain c.options
    some (Code.line "const auto options = TensorOptions()" ++ Code.nested (Code.nested links))

def callCode (c : NativeCall) : Option Code := do
  let options ← optionsCode c
  some (Code.line ("// " ++ c.declaration) ++ options ++ c.outputPackCode ++
    Code.block c.dispatchHead
      (Code.line "// in future, release GVL" ++
        Code.line (if c.returns = .void then c.nativeText else "return " ++ c.nativeText))
      "\x7d;" ++
    (if c.returns = .void then Code.line (c.invocation ++ ";") ++ Code.line "RETURN_NIL"
      else Code.line ("return wrap(" ++ c.invocation ++ ");")))

def familyCode : FamilyCall → Option Code
  | .always call => callCode call
  | .byOutput position plain writer => do
    let plain ← callCode plain
    let writer ← callCode writer
    some (Code.line ("if (_r.isNone(" ++ toString position ++ ")) \x7b") ++ Code.nested plain ++
      Code.line "\x7d else \x7b" ++ Code.nested writer ++ Code.line "\x7d")

def caseCode (index : Nat) : List FamilyCall → Option Code
  | [] => some []
  | call :: rest => do
    let call ← familyCode call
    let rest ← caseCode (index + 1) rest
    some (Code.block ("case " ++ toString index ++ ": \x7b") call "\x7d" ++ rest)

def selectionCode : Selection → Option Code
  | .sole call => familyCode call
  | .byIndex calls => do
    let cases ← caseCode 0 calls
    some (Code.block "switch (_r.idx) \x7b" cases "\x7d" ++ Code.line "RETURN_NIL")

def code (p : FunctionPlan) : Option Code := do
  let selection ← selectionCode p.selection
  some (Code.line ("// " ++ p.name) ++
    Code.line ("static VALUE " ++ p.symbol ++ "(int argc, VALUE* argv, VALUE self_)") ++
    Code.block "\x7b"
      (Code.line "HANDLE_TH_ERRORS" ++
        (if p.surface.bindsMethods then
          Code.line "Tensor& self = Rice::detail::From_Ruby<Tensor&>().convert(self_);" else []) ++
        Code.block "static RubyArgParser parser(\x7b" (Binding.signatureCode p.signatures)
          "\x7d);" ++
        Code.line ("ParsedArgs<" ++ toString p.capacity ++ "> parsed_args;") ++
        Code.line ((if p.readsParser then "auto _r = " else "") ++
          "parser.parse(self_, argc, argv, parsed_args);") ++
        selection ++
        Code.line "END_HANDLE_TH_ERRORS")
      "\x7d")

/-- The text of a function. -/
def text (p : FunctionPlan) : Option String := do
  let lines ← lines 0 (← code p)
  some (String.join (lines.map (· ++ "\n")))

/-! ## Levels -/

theorem depthAfter_of_nests {code : Code} (h : code.Nests) (depth : Nat) :
    Code.depthAfter depth code = depth := by
  induction h generalizing depth with
  | nil => rfl
  | line text => rfl
  | append _ _ ih ih' => rw [Code.depthAfter_append, ih, ih']
  | nested _ ih => rw [Code.depthAfter_nested, ih, Nat.add_sub_cancel]

/-- **Code of closed blocks ends at the depth where it starts**: what follows it goes
on there. -/
theorem lines_append_of_nests {code : Code} (h : code.Nests) (depth : Nat) (rest : Code) :
    lines depth (code ++ rest) = (lines depth rest).map (code.lines depth ++ ·) := by
  induction h generalizing depth rest with
  | nil => simp
  | line text => rfl
  | append h _ ih ih' =>
    rw [List.append_assoc, ih, ih', Option.map_map, Code.lines_append, depthAfter_of_nests h]
    congr 1
    funext later
    simp
  | @nested inner _ ih =>
    have opened : lines depth (Code.nested inner ++ rest) =
        lines (depth + 1) (inner ++ .dedent :: rest) := by simp [Code.nested, lines]
    have closed : lines (depth + 1) (.dedent :: rest) = lines depth rest := by simp [lines]
    rw [opened, ih, closed, Code.lines_nested]

/-- **Every level of a function is opened before it is closed, and closed at the end.** -/
theorem lines_code (p : FunctionPlan) : lines 0 p.code = some (p.code.lines 0) := by
  have whole := lines_append_of_nests p.nests_code 0 []
  rw [List.append_nil] at whole
  simpa [lines] using whole

-- Code that closes one level more than it opens has no lines.
example : lines 0 (Code.nested (Code.line "return self;") ++ [.dedent]) = none := by decide

/-! ## They do not stop -/

/-- The link whose number is the last is the last link. -/
theorem flatMap_zipIdx_links (links : List OptionLink) (start : Nat) :
    ((links.zipIdx start).flatMap fun (link, number) => Code.line
      (if number + 1 = start + links.length then link.text ++ ";" else link.text)) =
      OptionLink.chain links := by
  induction links generalizing start with
  | nil => rfl
  | cons link rest ih =>
    have behind := ih (start + 1)
    have shift : start + (link :: rest).length = start + 1 + rest.length := by
      rw [List.length_cons]
      omega
    rw [List.zipIdx_cons, List.flatMap_cons, shift, behind]
    cases rest with
    | nil => simp [OptionLink.chain]
    | cons next later => simp [OptionLink.chain]

theorem chain_eq {links : List OptionLink} (linked : links ≠ []) :
    chain links = some (OptionLink.chain links) := by
  have first : 1 ≤ links.length := List.length_pos_iff.mpr linked
  have last (number : Nat) : number = links.length - 1 ↔ number + 1 = 0 + links.length := by omega
  rw [chain, minus, if_pos first, ← flatMap_zipIdx_links links 0]
  simp only [Option.bind_eq_bind, Option.bind_some, last]

theorem optionsCode_eq (c : NativeCall) : optionsCode c = some c.optionsCode := by
  unfold optionsCode NativeCall.optionsCode
  split
  · rfl
  · rename_i linked
    rw [chain_eq (by simpa using linked)]
    rfl

theorem callCode_eq (c : NativeCall) : callCode c = some c.code := by
  rw [callCode, optionsCode_eq]
  rfl

theorem familyCode_eq (call : FamilyCall) : familyCode call = some call.code := by
  cases call with
  | always c => exact callCode_eq c
  | byOutput position plain writer =>
    rw [familyCode, callCode_eq, callCode_eq]
    rfl

theorem caseCode_eq (index : Nat) (calls : List FamilyCall) :
    caseCode index calls = some (Binding.caseCode index calls) := by
  induction calls generalizing index with
  | nil => rfl
  | cons call rest ih =>
    rw [caseCode, familyCode_eq, ih]
    rfl

theorem selectionCode_eq (selection : Selection) :
    selectionCode selection = some (Binding.selectionCode selection) := by
  cases selection with
  | sole call => exact familyCode_eq call
  | byIndex calls =>
    rw [selectionCode, caseCode_eq]
    rfl

/-- **A call whose last link is asked for has a link.** -/
theorem code_eq (p : FunctionPlan) : code p = some p.code := by
  rw [code, selectionCode_eq]
  rfl

theorem text_eq (p : FunctionPlan) : text p = some p.text := by
  rw [text, code_eq]
  simp only [Option.bind_eq_bind, Option.bind_some, lines_code]
  rfl

end OpBindings.Strict
