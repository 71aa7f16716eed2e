/-
OpBindings.Proofs.CodeScope — which lines a place of the code sees.

A name that a line declares can be used below it, in the block of the line and
in the blocks inside. Code is a list of lines and changes of depth, so the blocks
that are open at a place are found by one walk (`Blocks.after`), and the place sees
their lines (`Code.visible`).

Two facts about a piece of code are all that is needed to follow a line through a
function: what was seen above is still seen below (`Code.Keeps`), and a line of it
can be seen below (`Code.Shows`). Code that is made of lines and closed blocks
(`Code.Nests`) keeps what was seen, and the printer makes nothing else. So whatever
stands in a block sees what stood before the block (`Code.Contains`), down to the
code of a single call (`Binding.contains_selectionCode`).
-/
import OpBindings.Binding.Source
import OpBindings.Proofs.Report

namespace OpBindings

/-! ## Open blocks -/

/-- The lines of the blocks that are open at a place: of the innermost block, and
of those around it. -/
structure Blocks where
  here : List String
  outer : List (List String)

namespace Blocks

def lines (b : Blocks) : List String := b.here ++ b.outer.flatten

def step (b : Blocks) : CodeItem → Blocks
  | .line text => { b with here := b.here ++ [text] }
  | .indent => { here := [], outer := b.here :: b.outer }
  | .dedent =>
    match b.outer with
    | [] => b
    | here :: outer => { here, outer }

/-- The open blocks after more code. -/
def after (b : Blocks) (code : Code) : Blocks := code.foldl step b

theorem after_append (b : Blocks) (first rest : Code) :
    b.after (first ++ rest) = (b.after first).after rest := List.foldl_append

end Blocks

namespace Code

variable {code first rest inner : Code} {text : String}

/-- The lines that the place after the code sees. -/
def visible (code : Code) : List String := (Blocks.after ⟨[], []⟩ code).lines

/-- What is seen before the code is seen after it. -/
def Keeps (code : Code) : Prop := ∀ b : Blocks, b.lines ⊆ (b.after code).lines

/-- The line is one of the code that is seen after it. -/
def Shows (code : Code) (text : String) : Prop := ∀ b : Blocks, text ∈ (b.after code).lines

/-- The code closes the blocks that it opens, and no others. -/
def IsWhole (code : Code) : Prop :=
  ∃ own, ∀ b : Blocks, b.after code = { b with here := b.here ++ own }

theorem Shows.mem_visible (h : code.Shows text) : text ∈ code.visible := h ⟨[], []⟩

/-! ### Code that keeps -/

theorem Keeps.append (h : first.Keeps) (h' : rest.Keeps) : (first ++ rest).Keeps := by
  intro b
  rw [Blocks.after_append]
  exact List.Subset.trans (h b) (h' _)

theorem keeps_indent : Code.Keeps [.indent] := by
  intro b
  simp [Blocks.after, Blocks.step, Blocks.lines]

theorem Shows.append (h : first.Shows text) (keeps : rest.Keeps) :
    (first ++ rest).Shows text := by
  intro b
  rw [Blocks.after_append]
  exact keeps _ (h b)

theorem Shows.of_append (h : rest.Shows text) : (first ++ rest).Shows text := by
  intro b
  rw [Blocks.after_append]
  exact h _

theorem shows_line (text : String) : (line text).Shows text := by
  intro b
  simp [Blocks.after, Blocks.step, Blocks.lines, line]

/-! ### Whole code -/

theorem IsWhole.keeps (h : code.IsWhole) : code.Keeps := by
  obtain ⟨own, whole⟩ := h
  intro b text mem
  rw [whole b]
  simp only [Blocks.lines, List.mem_append] at mem ⊢
  exact mem.imp .inl id

theorem isWhole_nil : Code.IsWhole [] := ⟨[], fun b => by simp [Blocks.after]⟩

theorem isWhole_line (text : String) : (line text).IsWhole := ⟨[text], fun _ => rfl⟩

theorem IsWhole.append (h : first.IsWhole) (h' : rest.IsWhole) : (first ++ rest).IsWhole := by
  obtain ⟨own, whole⟩ := h
  obtain ⟨own', whole'⟩ := h'
  refine ⟨own ++ own', fun b => ?_⟩
  rw [Blocks.after_append, whole, whole', List.append_assoc]

/-- A block that is closed leaves what was open. -/
theorem IsWhole.nested (h : inner.IsWhole) : (nested inner).IsWhole := by
  obtain ⟨own, whole⟩ := h
  refine ⟨[], fun b => ?_⟩
  have split : Code.nested inner = [.indent] ++ (inner ++ [.dedent]) := rfl
  rw [split, Blocks.after_append, Blocks.after_append, whole, List.append_nil]
  rfl

/-- The code is made of lines and of blocks that it closes. -/
inductive Nests : Code → Prop
  | nil : Nests []
  | line (text : String) : Nests (line text)
  | append {first rest : Code} (h : Nests first) (h' : Nests rest) : Nests (first ++ rest)
  | nested {inner : Code} (h : Nests inner) : Nests (nested inner)

theorem Nests.block (h : inner.Nests) (opening closing : String) :
    (block opening inner closing).Nests :=
  ((Nests.line opening).append h.nested).append (Nests.line closing)

theorem Nests.isWhole (h : code.Nests) : code.IsWhole := by
  induction h with
  | nil => exact isWhole_nil
  | line text => exact isWhole_line text
  | append _ _ ih ih' => exact ih.append ih'
  | nested _ ih => exact ih.nested

theorem Nests.keeps (h : code.Nests) : code.Keeps := h.isWhole.keeps

/-! ### Code within code -/

/-- The part stands somewhere in the code, where what was seen before the code is seen. -/
def Contains (code part : Code) : Prop :=
  ∃ before after : Code, code = before ++ (part ++ after) ∧ before.Keeps

variable {part : Code}

theorem contains_self (code : Code) : code.Contains code :=
  ⟨[], [], by simp, isWhole_nil.keeps⟩

theorem Contains.trans {outer : Code} (h : outer.Contains inner) (h' : inner.Contains part) :
    outer.Contains part := by
  obtain ⟨before, after, rfl, keeps⟩ := h
  obtain ⟨before', after', rfl, keeps'⟩ := h'
  exact ⟨before ++ before', after' ++ after, by simp, keeps.append keeps'⟩

theorem Contains.append (h : first.Contains part) (rest : Code) :
    (first ++ rest).Contains part := by
  obtain ⟨before, after, rfl, keeps⟩ := h
  exact ⟨before, after ++ rest, by simp, keeps⟩

theorem Contains.of_append (h : rest.Contains part) (keeps : first.Keeps) :
    (first ++ rest).Contains part := by
  obtain ⟨before, after, rfl, kept⟩ := h
  exact ⟨first ++ before, after, by simp, keeps.append kept⟩

theorem Contains.nested (h : inner.Contains part) : (nested inner).Contains part :=
  (h.append [.dedent]).of_append keeps_indent

theorem Contains.block (h : inner.Contains part) (opening closing : String) :
    (block opening inner closing).Contains part :=
  (h.nested.of_append (isWhole_line opening).keeps).append (line closing)

end Code

/-! ## The blocks of a function -/

open Code

theorem OptionLink.nests_chain (links : List OptionLink) : (chain links).Nests := by
  induction links with
  | nil => exact Nests.nil
  | cons link rest ih =>
    cases rest with
    | nil => exact Nests.line _
    | cons next rest => exact (Nests.line _).append ih

namespace NativeCall

variable (c : NativeCall)

theorem nests_optionsCode : c.optionsCode.Nests := by
  unfold optionsCode
  split
  · exact Nests.nil
  · exact (Nests.line _).append (OptionLink.nests_chain c.options).nested.nested

theorem nests_outputPackCode : c.outputPackCode.Nests := by
  unfold outputPackCode
  split
  · exact Nests.nil
  · exact Nests.line _

/-- The line that calls the dispatcher. -/
def callLine : String :=
  if c.returns = .void then c.invocation ++ ";" else "return wrap(" ++ c.invocation ++ ");"

/-- **The code of a call:** the line that calls the dispatcher comes after the
statements that make the options value and take the pack of outputs, and after the
dispatcher. -/
theorem exists_code_eq : ∃ body ending : Code, body.Nests ∧ ending.Nests ∧
    c.code = (line ("// " ++ c.declaration) ++ c.optionsCode ++ c.outputPackCode ++
      block c.dispatchHead body "\x7d;") ++ (line c.callLine ++ ending) := by
  refine ⟨_, if c.returns = .void then line "RETURN_NIL" else [],
    (Nests.line "// in future, release GVL").append (Nests.line (if c.returns = .void then
      c.nativeText else "return " ++ c.nativeText)), ?_, ?_⟩
  · split
    · exact Nests.line _
    · exact Nests.nil
  · unfold code callLine
    split <;> simp

theorem nests_code : c.code.Nests := by
  obtain ⟨body, ending, whole, wholeEnding, code⟩ := c.exists_code_eq
  rw [code]
  exact ((((Nests.line _).append c.nests_optionsCode).append c.nests_outputPackCode).append
    (whole.block _ _)).append ((Nests.line _).append wholeEnding)

end NativeCall

namespace FamilyCall

theorem nests_code (call : FamilyCall) : call.code.Nests := by
  cases call with
  | always c => exact c.nests_code
  | byOutput position plain writer =>
    exact ((((Nests.line _).append plain.nests_code.nested).append (Nests.line _)).append
      writer.nests_code.nested).append (Nests.line _)

/-- The code of a family contains that of its calls. -/
theorem contains_code {call : FamilyCall} {c : NativeCall} (mem : c ∈ call.calls) :
    call.code.Contains c.code := by
  cases call with
  | always d =>
    obtain rfl := List.mem_singleton.mp mem
    exact contains_self c.code
  | byOutput position plain writer =>
    have test := Nests.line ("if (_r.isNone(" ++ toString position ++ ")) \x7b")
    rcases List.mem_cons.mp mem with rfl | mem
    · have branch := (contains_self c.code).nested.of_append test.keeps
      exact ((branch.append _).append _).append _
    · obtain rfl := List.mem_singleton.mp mem
      have above := (test.append plain.nests_code.nested).append (Nests.line "\x7d else \x7b")
      exact ((contains_self c.code).nested.of_append above.keeps).append _

end FamilyCall

namespace Binding

theorem nests_signatureCode (signatures : List Signature) :
    (signatureCode signatures).Nests := by
  induction signatures with
  | nil => exact Nests.nil
  | cons s rest ih =>
    cases rest with
    | nil => exact Nests.line _
    | cons t rest => exact (Nests.line _).append ih

theorem nests_caseCode (index : Nat) (calls : List FamilyCall) : (caseCode index calls).Nests := by
  induction calls generalizing index with
  | nil => exact Nests.nil
  | cons call rest ih => exact (call.nests_code.block _ _).append (ih (index + 1))

theorem nests_selectionCode (selection : Selection) : (selectionCode selection).Nests := by
  cases selection with
  | sole call => exact call.nests_code
  | byIndex calls => exact ((nests_caseCode 0 calls).block _ _).append (Nests.line _)

/-- The cases of a switch contain the code of every family. -/
theorem contains_caseCode {call : FamilyCall} {calls : List FamilyCall} (mem : call ∈ calls)
    (index : Nat) : (caseCode index calls).Contains call.code := by
  induction calls generalizing index with
  | nil => cases mem
  | cons first rest ih =>
    rcases List.mem_cons.mp mem with rfl | mem
    · exact ((contains_self call.code).block _ _).append _
    · exact (ih mem (index + 1)).of_append (first.nests_code.block _ _).keeps

/-- **The code that selects an arm contains the code of every call.** -/
theorem contains_selectionCode {b : Binding} {c : NativeCall} (mem : c ∈ b.calls) :
    (selectionCode b.selection).Contains c.code := by
  obtain ⟨a, among, mem⟩ := List.mem_flatMap.mp mem
  refine Contains.trans ?_ (FamilyCall.contains_code mem)
  unfold selection
  split
  · rename_i only alone
    rw [alone, List.mem_singleton] at among
    exact among ▸ contains_self a.call.code
  · have here : a.call ∈ b.arms.map (·.call) := List.mem_map_of_mem among
    exact ((contains_caseCode here 0).block _ _).append _

end Binding

/-- **The code of a function is made of lines and closed blocks.** -/
theorem FunctionPlan.nests_code (p : FunctionPlan) : p.code.Nests := by
  have receiver : Code.Nests (if p.surface.bindsMethods then
      Code.line "Tensor& self = Rice::detail::From_Ruby<Tensor&>().convert(self_);" else []) := by
    split
    · exact Nests.line _
    · exact Nests.nil
  have signatures := (Binding.nests_signatureCode p.signatures).block
    "static RubyArgParser parser(\x7b" "\x7d);"
  have selection := Binding.nests_selectionCode p.selection
  have body := (((((Nests.line "HANDLE_TH_ERRORS").append receiver).append signatures).append
    (Nests.line ("ParsedArgs<" ++ toString p.capacity ++ "> parsed_args;"))).append
    (Nests.line ((if p.readsParser then "auto _r = " else "") ++
      "parser.parse(self_, argc, argv, parsed_args);"))).append selection
  exact ((Nests.line _).append (Nests.line _)).append
    ((body.append (Nests.line "END_HANDLE_TH_ERRORS")).block _ _)

end OpBindings
