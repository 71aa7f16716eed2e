/-
OpBindings.Proofs.LineComment — the declarations in the generated code.

Each call is printed below its operator's declaration, which stands in a line
comment. A comment ends with its line. `withoutComments` is what a compiler is left
with, and `FunctionPlan.undeclared` is the plan without its declarations: these add
nothing to the code exactly when the two plans print the same text up to comments.

The two pieces of code differ in the comment lines only (`Code.Redeclares`). Where no
declaration holds a line feed, the comment is all of its line, whatever the line says
and however deep it stands. Leaving out comments leaves all line feeds, so a
declaration that holds one cannot go unseen. So the line feed decides
(`FunctionPlan.withoutComments_text_iff`), and the reader of declarations skips it
like any other space.
-/
import OpBindings.Proofs.CodeText
import OpBindings.Proofs.Ledger
import OpBindings.Proofs.Report
import OpBindings.Proofs.SplitFamily

namespace OpBindings

/-! ## Comments -/

namespace Code

/-- The text without what stands from `//` to the end of a line. -/
def withoutComments (inComment : Bool) : List Char → List Char
  | [] => []
  | c :: cs =>
    if c = '\n' then c :: withoutComments false cs
    else if inComment then withoutComments true cs
    else if c = '/' && cs.head? = some '/' then withoutComments true cs
    else c :: withoutComments false cs

/-- A new line starts outside a comment. -/
theorem withoutComments_append_line (inComment : Bool) (before rest : List Char) :
    withoutComments inComment (before ++ '\n' :: rest) =
      withoutComments inComment before ++ '\n' :: withoutComments false rest := by
  induction before generalizing inComment with
  | nil => simp [withoutComments]
  | cons c before ih =>
    have next : (before ++ '\n' :: rest).head? = some '/' ↔ before.head? = some '/' := by
      cases before <;> simp
    simp only [List.cons_append, withoutComments, ih, next]
    split_ifs <;> rfl

theorem count_withoutComments (inComment : Bool) (cs : List Char) :
    (withoutComments inComment cs).count '\n' = cs.count '\n' := by
  induction cs generalizing inComment with
  | nil => rfl
  | cons c cs ih =>
    simp only [withoutComments]
    split_ifs with feed <;> simp [ih, feed]

/-- A comment goes on to the end of its line. -/
theorem withoutComments_true {cs : List Char} (line : '\n' ∉ cs) :
    withoutComments true cs = [] := by
  induction cs with
  | nil => rfl
  | cons c cs ih =>
    obtain ⟨other, line⟩ := not_or.mp (mt List.mem_cons.mpr line)
    simp [withoutComments, Ne.symm other, ih line]

/-- Of a comment that is all of its line, only the margin is left. -/
theorem withoutComments_comment {cs : List Char} (line : '\n' ∉ cs) (spaces : Nat) :
    withoutComments false (List.replicate spaces ' ' ++ '/' :: '/' :: cs) =
      List.replicate spaces ' ' := by
  induction spaces with
  | zero => simp [withoutComments, withoutComments_true line]
  | succ spaces ih => simpa [List.replicate_succ, withoutComments] using ih

/-! ## Code with other declarations -/

/-- The second piece of code is the first one with an empty comment in place of each
of the declarations. -/
inductive Redeclares : List String → Code → Code → Prop
  | nil : Redeclares [] [] []
  | same {declarations : List String} {code code' : Code} (item : CodeItem) :
      Redeclares declarations code code' → Redeclares declarations (item :: code) (item :: code')
  | comment {declarations : List String} {code code' : Code} (declaration : String) :
      Redeclares declarations code code' → Redeclares (declaration :: declarations)
        (.line ("// " ++ declaration) :: code) (.line ("// " ++ "") :: code')

namespace Redeclares

variable {ds ds' : List String} {code code' rest rest' inner inner' : Code}

theorem refl (code : Code) : Redeclares [] code code := by
  induction code with
  | nil => exact .nil
  | cons item code ih => exact .same item ih

theorem append (h : Redeclares ds code code') (h' : Redeclares ds' rest rest') :
    Redeclares (ds ++ ds') (code ++ rest) (code' ++ rest') := by
  induction h with
  | nil => exact h'
  | same item _ ih => exact .same item ih
  | comment declaration _ ih => exact .comment declaration ih

theorem append_same (h : Redeclares ds code code') (rest : Code) :
    Redeclares ds (code ++ rest) (code' ++ rest) := by
  simpa using h.append (refl rest)

theorem same_append (h : Redeclares ds rest rest') (code : Code) :
    Redeclares ds (code ++ rest) (code ++ rest') := (refl code).append h

theorem nested (h : Redeclares ds inner inner') :
    Redeclares ds (nested inner) (Code.nested inner') :=
  .same .indent (h.append_same [.dedent])

theorem block (h : Redeclares ds inner inner') (opening closing : String) :
    Redeclares ds (block opening inner closing) (Code.block opening inner' closing) :=
  (h.nested.same_append (line opening)).append_same (line closing)

/-- A comment line: two slashes and what they hide. -/
theorem toList_laid_comment (depth : Nat) (declaration : String) :
    (laid depth ("// " ++ declaration)).toList =
      List.replicate (2 * depth) ' ' ++ '/' :: '/' :: ' ' :: declaration.toList := by
  rw [toList_laid, if_neg (by simp [String.ext_iff]), String.toList_append]
  rfl

/-- **Declarations of one line stay in their comments.** -/
theorem withoutComments_eq (h : Redeclares ds code code')
    (lines : ∀ declaration ∈ ds, '\n' ∉ declaration.toList) (depth : Nat) :
    withoutComments false (code.chars depth) = withoutComments false (code'.chars depth) := by
  induction h generalizing depth with
  | nil => rfl
  | same item _ ih =>
    cases item with
    | line text =>
      rw [chars_cons_line, chars_cons_line, withoutComments_append_line,
        withoutComments_append_line, ih lines]
    | indent => exact ih lines _
    | dedent => exact ih lines _
  | comment declaration _ ih =>
    obtain ⟨line, lines⟩ := List.forall_mem_cons.mp lines
    rw [chars_cons_line, chars_cons_line, withoutComments_append_line,
      withoutComments_append_line, ih lines, toList_laid_comment, toList_laid_comment,
      withoutComments_comment (by simpa using line), withoutComments_comment (by simp)]

/-- The line feeds of the declarations are in the code. -/
theorem count_chars (h : Redeclares ds code code') (depth : Nat) : (code.chars depth).count '\n' =
    (code'.chars depth).count '\n' + (ds.flatMap (·.toList)).count '\n' := by
  induction h generalizing depth with
  | nil => rfl
  | same item _ ih =>
    cases item with
    | line text =>
      simp only [chars_cons_line, List.count_append, List.count_cons_self, ih]
      omega
    | indent => exact ih _
    | dedent => exact ih _
  | comment declaration _ ih =>
    simp only [chars_cons_line, List.count_append, List.count_cons_self, ih, toList_laid_comment,
      List.flatMap_cons]
    simp
    omega

/-- **The declarations stay in their comments** exactly when each is a single line. -/
theorem withoutComments_text_iff (h : Redeclares ds code code') :
    withoutComments false code.text.toList = withoutComments false code'.text.toList ↔
      ∀ declaration ∈ ds, '\n' ∉ declaration.toList := by
  rw [toList_text, toList_text]
  refine ⟨fun same declaration mem feed => ?_, fun lines => h.withoutComments_eq lines 0⟩
  have counts := congrArg (List.count '\n') same
  rw [count_withoutComments, count_withoutComments, h.count_chars] at counts
  have some : 0 < (ds.flatMap (·.toList)).count '\n' :=
    List.count_pos_iff.mpr (List.mem_flatMap.mpr ⟨declaration, mem, feed⟩)
  omega

end Redeclares

end Code

/-! ## Plans without declarations -/

open Code

/-- The call without its declaration. -/
def NativeCall.undeclared (c : NativeCall) : NativeCall := { c with declaration := "" }

theorem NativeCall.redeclares (c : NativeCall) :
    Redeclares [c.declaration] c.code c.undeclared.code := by
  have comment : Redeclares [c.declaration] (line ("// " ++ c.declaration)) (line ("// " ++ "")) :=
    .comment c.declaration .nil
  exact (((comment.append_same _).append_same _).append_same _).append_same _

namespace FamilyCall

@[inherit_doc NativeCall.undeclared]
def undeclared : FamilyCall → FamilyCall
  | always call => always call.undeclared
  | byOutput position plain writer => byOutput position plain.undeclared writer.undeclared

theorem redeclares (call : FamilyCall) :
    Redeclares (call.calls.map (·.declaration)) call.code call.undeclared.code := by
  cases call with
  | always c => exact c.redeclares
  | byOutput position plain writer =>
    have test := plain.redeclares.nested.same_append
      (line ("if (_r.isNone(" ++ toString position ++ ")) \x7b"))
    exact ((test.append_same _).append writer.redeclares.nested).append_same _

end FamilyCall

namespace Selection

@[inherit_doc NativeCall.undeclared]
def undeclared : Selection → Selection
  | sole call => sole call.undeclared
  | byIndex calls => byIndex (calls.map (·.undeclared))

theorem redeclares_caseCode (calls : List FamilyCall) (index : Nat) :
    Redeclares ((calls.flatMap (·.calls)).map (·.declaration)) (Binding.caseCode index calls)
      (Binding.caseCode index (calls.map (·.undeclared))) := by
  induction calls generalizing index with
  | nil => exact .nil
  | cons call calls ih =>
    rw [List.flatMap_cons, List.map_append]
    exact (call.redeclares.block _ _).append (ih (index + 1))

theorem redeclares (s : Selection) : Redeclares (s.calls.map (·.declaration))
    (Binding.selectionCode s) (Binding.selectionCode s.undeclared) := by
  cases s with
  | sole call => exact call.redeclares
  | byIndex calls => exact ((redeclares_caseCode calls 0).block _ _).append_same _

end Selection

namespace FunctionPlan

/-- The plan without the declarations of its calls. -/
def undeclared (p : FunctionPlan) : FunctionPlan := { p with selection := p.selection.undeclared }

theorem readsParser_undeclared (p : FunctionPlan) : p.undeclared.readsParser = p.readsParser := by
  obtain ⟨_, _, _, _, _, selection⟩ := p
  cases selection with
  | sole call => cases call <;> rfl
  | byIndex calls => rfl

theorem redeclares (p : FunctionPlan) :
    Redeclares (p.selection.calls.map (·.declaration)) p.code p.undeclared.code := by
  unfold code
  rw [readsParser_undeclared]
  exact (((p.selection.redeclares.same_append _).append_same _).block _ _).same_append _

/-- **Declarations add nothing to the code of a function** exactly when each is a single line. -/
theorem withoutComments_text_iff (p : FunctionPlan) :
    withoutComments false p.text.toList = withoutComments false p.undeclared.text.toList ↔
      ∀ c ∈ p.selection.calls, '\n' ∉ c.declaration.toList := by
  rw [text, text, p.redeclares.withoutComments_text_iff, List.forall_mem_map]

end FunctionPlan

/-! ## Plans of a table's operators -/

theorem Operator.declaration_of_callIn {o : Operator} {surface : Surface} {layout : List Slot}
    {c : NativeCall} (planned : (o.callIn surface layout).outcome = .ok c) :
    c.declaration = o.text := by
  obtain ⟨params, returns, -, -, rfl⟩ := exists_of_callIn planned
  rfl

/-- The calls of a family repeat the declarations of its members. -/
theorem FamilyCall.map_declaration_of_ofMembers {surface : Surface} {members : Members}
    {call : FamilyCall} (planned : (ofMembers surface members).outcome = .ok call) :
    call.calls.map (·.declaration) = members.operators.map (·.text) := by
  cases members with
  | plain o =>
    obtain ⟨c, own, planned⟩ := Run.outcome_bind.mp planned
    cases planned
    exact congrArg (fun text => [text]) (Operator.declaration_of_callIn own)
  | writer w =>
    obtain ⟨c, own, planned⟩ := Run.outcome_bind.mp planned
    cases planned
    exact congrArg (fun text => [text]) (Operator.declaration_of_callIn own)
  | both o w =>
    obtain ⟨plain, writer, rfl, ofPlain, ofWriter⟩ := ofMembers_both planned
    simp [calls, Members.operators, Operator.declaration_of_callIn ofPlain,
      Operator.declaration_of_callIn ofWriter]

/-- The calls of arms repeat the declarations of their families' members. -/
theorem Binding.map_declaration_of_arms {surface : Surface} {families : List OverloadFamily}
    {arms : List Arm}
    (made : List.Forall₂ (fun f a => (Binding.arm surface f).outcome = .ok a) families arms) :
    (arms.flatMap (·.call.calls)).map (·.declaration) =
      (OverloadFamily.operators families).map (·.text) := by
  induction made with
  | nil => rfl
  | cons first _ ih =>
    obtain ⟨call, planned, first⟩ := Run.outcome_bind.mp first
    cases first
    rw [List.flatMap_cons, List.map_append, ih, OverloadFamily.operators_cons, List.map_append,
      FamilyCall.map_declaration_of_ofMembers planned]

/-- What holds of the declarations in a binding holds of those of the families' members. -/
theorem Binding.forall_declaration_iff {name : String} {surface : Surface}
    {families : List OverloadFamily} {b : Binding}
    (planned : (Binding.ofFamilies name surface families).outcome = .ok b) (P : String → Prop) :
    (∀ c ∈ b.calls, P c.declaration) ↔ ∀ o ∈ OverloadFamily.operators families, P o.text := by
  obtain ⟨arms, made, planned⟩ := Run.outcome_bind.mp planned
  obtain ⟨-, -, planned⟩ := Run.outcome_bind.mp planned
  cases planned
  have repeated := Binding.map_declaration_of_arms (Run.outcome_each.mp made)
  calc (∀ c ∈ arms.flatMap (·.call.calls), P c.declaration)
      ↔ ∀ text ∈ (arms.flatMap (·.call.calls)).map (·.declaration), P text := by
        rw [List.forall_mem_map]
    _ ↔ ∀ text ∈ (OverloadFamily.operators families).map (·.text), P text := by rw [repeated]
    _ ↔ ∀ o ∈ OverloadFamily.operators families, P o.text := List.forall_mem_map

/-- The declaration goes on in the next line. -/
def Record.breaksLine (r : Record) : Bool := r.declaration.any (·.toList.contains '\n')

theorem Operator.breaksLine_of_ofRecord {r : Record} {o : Operator} (built : ofRecord r = .ok o) :
    r.breaksLine = true ↔ '\n' ∈ o.text.toList := by
  obtain ⟨text, d, calls, declared, -, rfl⟩ := ofRecord_eq_ok built
  simp [Record.breaksLine, declared, ofDeclaration]

/-- **When declarations stay in their comments.** For the binding of operators of the
table, up to comments the text is that of the plan without declarations, unless one of
the records goes on in the next line and its operator is a member of a family. -/
theorem withoutComments_text_of_ofFamilies {policy : LoneWriter} {name : String}
    {surface : Surface} {rs : List Record} {os : List Operator} {families : List OverloadFamily}
    {b : Binding} (read : List.Forall₂ (fun r o => Operator.ofRecord r = .ok o) rs os)
    (gathered : (OverloadFamily.ofOperators policy name surface os).outcome = .ok families)
    (planned : (Binding.ofFamilies name surface families).outcome = .ok b) :
    withoutComments false b.text.toList = withoutComments false b.plan.undeclared.text.toList ↔
      ∀ r ∈ rs, (∃ o ∈ OverloadFamily.operators families, Operator.ofRecord r = .ok o) →
        r.breaksLine = false := by
  have members : withoutComments false b.text.toList =
      withoutComments false b.plan.undeclared.text.toList ↔
        ∀ o ∈ OverloadFamily.operators families, '\n' ∉ o.text.toList := by
    rw [← Binding.forall_declaration_iff planned (fun text => '\n' ∉ text.toList), ← b.calls_plan]
    exact b.plan.withoutComments_text_iff
  rw [members]
  constructor
  · rintro lines r - ⟨o, mem, built⟩
    exact Bool.eq_false_iff.mpr fun breaks =>
      lines o mem ((Operator.breaksLine_of_ofRecord built).mp breaks)
  · intro lines o mem feed
    obtain ⟨ignored, account⟩ :=
      OverloadFamily.isAccount_of_ofOperators gathered (Run.notedIn_self _)
    have given : o ∈ os := account.whole.subset (List.mem_append_left _ mem)
    obtain ⟨r, hr, built⟩ := forall₂_mem_right read given
    exact Bool.eq_false_iff.mp (lines r hr ⟨o, mem, built⟩)
      ((Operator.breaksLine_of_ofRecord built).mpr feed)

-- a declaration is read as the list of its characters, and the ones here are long
set_option maxRecDepth 1000

/-- Two slashes in a default, and tabs between the parts of the declaration. -/
def fetch : Operator where
  name := "fetch"
  text := "fetch(Tensor self,\t*, str base=\"http://x\")\t-> Tensor"
  params := [
    ⟨"self", "Tensor", false, none, none, false, none⟩,
    ⟨"base", "str", false, some "\"http://x\"", none, true, none⟩]
  results := [⟨none, "Tensor", none⟩]
  calls := { function := true }
  moduleTag := none

theorem withoutComments_text_fetch : ∃ families b,
    Operator.ofRecord { declaration := fetch.text } = .ok fetch ∧
    (OverloadFamily.ofOperators .refuse "fetch" .torch [fetch]).outcome = .ok families ∧
    (Binding.ofFamilies "fetch" .torch families).outcome = .ok b ∧
    b.calls.map (·.declaration) = [fetch.text] ∧
    withoutComments false b.text.toList =
      withoutComments false b.plan.undeclared.text.toList := by
  have built : Operator.ofRecord { declaration := fetch.text } = .ok fetch := by rfl
  obtain ⟨families, b, gathered, planned, repeated⟩ : ∃ families b,
      (OverloadFamily.ofOperators .refuse "fetch" .torch [fetch]).outcome = .ok families ∧
      (Binding.ofFamilies "fetch" .torch families).outcome = .ok b ∧
      b.calls.map (·.declaration) = [fetch.text] := ⟨_, _, by rfl, by rfl, by rfl⟩
  refine ⟨families, b, built, gathered, planned, repeated, ?_⟩
  refine (withoutComments_text_of_ofFamilies (.cons built .nil) gathered planned).mpr ?_
  rintro r mem -
  obtain rfl := List.mem_singleton.mp mem
  decide

/-- The result stands in a line of its own. -/
def twoLineAbs : Operator where
  name := "abs"
  text := "abs(Tensor self)\n-> Tensor"
  params := [⟨"self", "Tensor", false, none, none, false, none⟩]
  results := [⟨none, "Tensor", none⟩]
  calls := { function := true }
  moduleTag := none

/-- Only the first line of the declaration is in the comment. -/
theorem withoutComments_text_ne_twoLineAbs :
    Operator.ofRecord { declaration := twoLineAbs.text } = .ok twoLineAbs ∧
    ∃ families b,
      (OverloadFamily.ofOperators .refuse "abs" .torch [twoLineAbs]).outcome = .ok families ∧
      (Binding.ofFamilies "abs" .torch families).outcome = .ok b ∧
      (b.code.lines 0)[9]? = some "  // abs(Tensor self)\n-> Tensor" ∧
      withoutComments false b.text.toList ≠
        withoutComments false b.plan.undeclared.text.toList := by
  refine ⟨by rfl, _, _, by rfl, by rfl, by rfl, fun same => ?_⟩
  have lines := (FunctionPlan.withoutComments_text_iff _).mp same
  rw [Binding.calls_plan] at lines
  exact absurd lines (by decide)

end OpBindings
