/-
OpBindings.Proofs.CallScope — which names a call may use, and where they come from.

A call stands in two scopes. The dispatcher captures nothing, so the native call
inside it sees the dispatcher's own parameters only. The line that calls the
dispatcher sees what the function declares above it: the receiver of a method, what
the argument parser returned, the options value and the pack of outputs.

The outer scope is always right (`NativeCall.InvokesInScope`), and the code declares
each of the names in a line that the call sees (`Binding.Scopes`). The inner one is
not: a method calls the native function on `self` because of its surface, and takes
`self` as a parameter because of a parameter's name, and the table may hold a
method without such a parameter (`isClosed_iff`).
-/
import OpBindings.Proofs.CodeScope
import OpBindings.Proofs.NativeArgs
import OpBindings.Proofs.OutputSpan
import OpBindings.Scope

namespace OpBindings

/-! ## The dispatcher -/

namespace NativeCall

/-- The names in the native call: what the function is called on, and its arguments. -/
def usedNames (c : NativeCall) : List String :=
  (if "self.".toList.isPrefixOf c.function.toList then ["self"] else []) ++ c.nativeArgs

/-- **The native call uses parameters of the dispatcher only.** -/
def IsClosed (c : NativeCall) : Prop := ∀ name ∈ c.usedNames, name ∈ c.params.map (·.name)

/-- Its arguments always are. -/
theorem nativeArgs_subset (c : NativeCall) : c.nativeArgs ⊆ c.params.map (·.name) := by
  intro name mem
  obtain ⟨e, passed, rfl⟩ := List.mem_map.mp mem
  refine List.mem_map_of_mem ?_
  rcases List.mem_append.mp passed with output | input
  · exact (List.mem_filter.mp output).1
  · exact (List.mem_filter.mp input).1

/-! ## The line that calls the dispatcher -/

/-- What the arguments of the dispatcher need is there: a receiver on the surface of
methods, an options value that is built, and a pack of outputs that has the element. -/
structure InvokesInScope (c : NativeCall) (surface : Surface) : Prop where
  receiver : .receiver ∈ c.args → surface.bindsMethods = true
  gathered : .gathered ∈ c.args → c.options ≠ []
  packed : ∀ i, .packed i ∈ c.args → ∃ pack, c.outputPack = some pack ∧ i < pack.size

end NativeCall

/-- The line declares the name. -/
def Declares (text name : String) : Prop :=
  ∃ kind ∈ ["auto", "const auto", "Tensor&"], ∃ value, text = kind ++ " " ++ name ++ " = " ++ value

/-- The expression is the name, an element of it or a member of it. -/
def Uses (expression name : String) : Prop :=
  ∃ access, expression = name ++ access ∧ ∀ c ∈ access.toList.head?, c = '[' ∨ c = '.'

/-- **The code of the binding declares what the call uses:** the line that calls the
dispatcher sees a declaration of the dispatcher, and of the name in each argument. -/
def Binding.Scopes (b : Binding) (c : NativeCall) : Prop :=
  ∃ before after : Code, b.code = before ++ (Code.line c.callLine ++ after) ∧
    (∃ text ∈ before.visible, Declares text c.dispatcher) ∧
    ∀ a ∈ c.args, ∃ name, Uses a.text name ∧ ∃ text ∈ before.visible, Declares text name

/-! ## Declarations -/

theorem declares_receiver :
    Declares "Tensor& self = Rice::detail::From_Ruby<Tensor&>().convert(self_);" "self" :=
  ⟨"Tensor&", by simp, "Rice::detail::From_Ruby<Tensor&>().convert(self_);", by decide⟩

theorem declares_parsed :
    Declares "auto _r = parser.parse(self_, argc, argv, parsed_args);" "_r" :=
  ⟨"auto", by simp, "parser.parse(self_, argc, argv, parsed_args);", by decide⟩

theorem declares_options : Declares "const auto options = TensorOptions()" "options" :=
  ⟨"const auto", by simp, "TensorOptions()", by decide⟩

theorem declares_outputs (pack : OutputPack) : Declares ("auto out = _r.tensorlist_n<" ++
    toString pack.size ++ ">(" ++ toString pack.position ++ ");") "out" := by
  refine ⟨"auto", by simp, "_r.tensorlist_n<" ++ toString pack.size ++ ">(" ++
    toString pack.position ++ ");", ?_⟩
  rw [← String.toList_inj]
  simp

theorem declares_dispatcher (c : NativeCall) : Declares c.dispatchHead c.dispatcher := by
  refine ⟨"auto", by simp, "[](" ++
    ", ".intercalate (c.params.map fun p => p.nativeType ++ " " ++ p.name) ++
      ") -> " ++ c.returns.nativeSpelling ++ " \x7b", ?_⟩
  rw [← String.toList_inj]
  simp [NativeCall.dispatchHead]

/-- The name that an argument uses. -/
def Argument.root : Argument → String
  | receiver => "self"
  | gathered => "options"
  | packed _ => "out"
  | slot .. => "_r"

theorem Argument.uses_root (a : Argument) : Uses a.text a.root := by
  cases a with
  | receiver => exact ⟨"", rfl, by simp⟩
  | gathered => exact ⟨"", rfl, by simp⟩
  | packed index =>
    refine ⟨"[" ++ toString index ++ "]", ?_, by simp⟩
    rw [← String.toList_inj]
    simp [text, root]
  | slot accessor position =>
    refine ⟨"." ++ accessor ++ "(" ++ toString position ++ ")", ?_, by simp⟩
    rw [← String.toList_inj]
    simp [text, root]

namespace Operator

variable {o : Operator} {surface : Surface} {layout : List Slot} {c : NativeCall} {p : Param}
  {a : Argument} {i : Nat}

/-! ## Receivers -/

/-- **A dispatcher has the parameter `self`** exactly when the operator has. -/
theorem self_mem_params_iff (planned : (o.callIn surface layout).outcome = .ok c) :
    "self" ∈ c.params.map (·.name) ↔ ∃ p ∈ o.params, p.name = "self" := by
  constructor
  · intro mem
    obtain ⟨e, mem, named⟩ := List.mem_map.mp mem
    rcases eq_or_exists_of_mem_params planned mem with rfl | ⟨p, i, hp, -, taken, -⟩
    · exact absurd named (by decide)
    · exact ⟨p, List.mem_of_getElem? hp, taken.name.symm.trans named⟩
  · rintro ⟨p, mem, named⟩
    obtain ⟨i, hp⟩ := List.mem_iff_getElem?.mp mem
    have noOption : p.carriesOption = false := by
      rw [Param.carriesOption, Param.option?, named]
      rfl
    obtain ⟨e, mem, same, -⟩ := exists_mem_params planned hp (by simp [passesAlone, noOption])
    exact List.mem_map.mpr ⟨e, mem, same.trans named⟩

/-- The native function is called on the receiver on the surface of methods. -/
theorem isPrefixOf_function (planned : (o.callIn surface layout).outcome = .ok c) :
    "self.".toList.isPrefixOf c.function.toList = surface.bindsMethods := by
  obtain ⟨params, returns, -, -, rfl⟩ := exists_of_callIn planned
  simp only [qualifier, String.toList_append]
  cases surface.bindsMethods with
  | true => simp
  | false => cases o.gathersOptions <;> simp [List.isPrefixOf]

/-! ## Arguments -/

/-- Where an argument of the dispatcher comes from. -/
theorem eq_or_exists_of_mem_args (planned : (o.callIn surface layout).outcome = .ok c)
    (mem : a ∈ c.args) : a = .gathered ∧ o.gathersOptions = true ∨
      ∃ p i accessor, o.params[i]? = some p ∧ a = o.source surface layout i p accessor := by
  obtain ⟨e, he, rfl⟩ := List.mem_map.mp mem
  obtain ⟨entry, among, made⟩ := forall₂_mem_right (callIn_eq_ok planned).1 he
  cases entry with
  | none =>
    cases made
    refine .inl ⟨rfl, ?_⟩
    unfold dispatched at among
    split at among
    · assumption
    · simp at among
  | some placed =>
    obtain ⟨p, i⟩ := placed
    obtain ⟨native, -, made⟩ := bind_eq_ok.mp made
    cases made
    exact .inr ⟨p, i, _, (mem_dispatched.mp among).1, rfl⟩

/-- An output that is packed has its number among the outputs. -/
theorem elementOf_lt (output : o.isOutputAt i = true) : o.elementOf (p, i) < o.results.length := by
  cases span : o.outSpan? with
  | none => simp [isOutputAt, span] at output
  | some ends =>
    obtain ⟨first, last⟩ := ends
    obtain ⟨start, hstart, whole⟩ := Option.map_eq_some_iff.mp span
    cases whole
    rw [isOutputAt_eq span] at output
    simp only [Bool.and_eq_true, decide_eq_true_eq] at output
    simp only [elementOf, hstart, Option.getD_some]
    omega

/-- In an operator's own layout the pack of its outputs is found. -/
theorem exists_outputPack? (packs : o.packsOutputs = true) (surface : Surface) :
    ∃ pack, o.outputPack? (o.slots surface .kept) = some pack ∧ pack.size = o.results.length := by
  obtain ⟨s, output⟩ := exists_isOutputSlot_of_packsOutputs packs surface
  obtain ⟨position, found⟩ := exists_positionIn output.shown
  rw [← firstOutPosition?_eq_positionIn output] at found
  exact ⟨⟨o.results.length, position⟩, by simp [outputPack?, packs, found], rfl⟩

/-- **What the dispatcher is given is in scope**, where the call reads the operator's
own layout, or that of a writer for an operator without outputs. -/
theorem invokesInScope (own : layout = o.slots surface .kept ∨ o.hasOutputs = false)
    (planned : (o.callIn surface layout).outcome = .ok c) : c.InvokesInScope surface where
  receiver mem := by
    rcases eq_or_exists_of_mem_args planned mem with ⟨same, -⟩ | ⟨p, i, accessor, -, same⟩
    · cases same
    · unfold source at same
      split at same
      · rename_i receiver
        exact (isReceiver_eq_true_iff.mp receiver).1
      · split at same <;> cases same
  gathered mem := by
    rcases eq_or_exists_of_mem_args planned mem with ⟨-, gathers⟩ | ⟨p, i, accessor, -, same⟩
    · rw [(callIn_eq_ok planned).2.1, if_pos gathers]
      exact optionLinks_ne_nil gathers
    · unfold source at same
      split at same
      · cases same
      · split at same <;> cases same
  packed k mem := by
    rcases eq_or_exists_of_mem_args planned mem with ⟨same, -⟩ | ⟨p, i, accessor, -, same⟩
    · cases same
    · have element := packed?_source o surface layout p i accessor
      rw [← same] at element
      split at element
      · rename_i reads
        obtain ⟨packs, output⟩ := Bool.and_eq_true_iff.mp (Bool.and_eq_true_iff.mp reads).2
        rcases own with rfl | plain
        · obtain ⟨pack, found, size⟩ := exists_outputPack? packs surface
          refine ⟨pack, (callIn_eq_ok planned).2.2.trans found, ?_⟩
          rw [size, Option.some.inj element]
          exact elementOf_lt output
        · rw [hasOutputs_of_packsOutputs packs] at plain
          cases plain
      · cases element

end Operator

/-! ## The code -/

namespace NativeCall

variable {c : NativeCall} {surface : Surface}

/-- The code of the call down to the line that calls the dispatcher. -/
theorem exists_preamble (c : NativeCall) : ∃ preamble ending : Code,
    c.code = preamble ++ (Code.line c.callLine ++ ending) ∧ preamble.Keeps ∧
    preamble.Shows c.dispatchHead ∧
    (c.options ≠ [] → preamble.Shows "const auto options = TensorOptions()") ∧
    ∀ pack, c.outputPack = some pack → preamble.Shows
      ("auto out = _r.tensorlist_n<" ++ toString pack.size ++ ">(" ++ toString pack.position ++
        ");") := by
  obtain ⟨body, ending, whole, -, code⟩ := c.exists_code_eq
  have comment := Code.Nests.line ("// " ++ c.declaration)
  have block := whole.block c.dispatchHead "\x7d;"
  have options := c.nests_optionsCode
  have pack := c.nests_outputPackCode
  refine ⟨_, ending, code, (((comment.append options).append pack).append block).keeps, ?_, ?_, ?_⟩
  · refine .of_append (.append (.append (Code.shows_line _) whole.nested.keeps) ?_)
    exact (Code.Nests.line _).keeps
  · intro some
    refine .append (.append (.of_append ?_) pack.keeps) block.keeps
    rw [optionsCode, if_neg (by simpa using some)]
    exact (Code.shows_line _).append (OptionLink.nests_chain c.options).nested.nested.keeps
  · intro taken found
    refine .append (.of_append ?_) block.keeps
    rw [outputPackCode, found]
    exact Code.shows_line _

end NativeCall

namespace Binding

variable {b : Binding} {c : NativeCall}

/-- A call that reads the parser stands in a function that keeps what the parser returned. -/
theorem readsParser_of_mem (mem : c ∈ b.calls) (reads : c.readsParser = true) :
    b.readsParser = true := by
  obtain ⟨a, among, mem⟩ := List.mem_flatMap.mp mem
  unfold readsParser FunctionPlan.readsParser plan selection
  split
  · rename_i call sole
    split at sole
    · rename_i arm alone
      cases sole
      rw [alone, List.mem_singleton] at among
      subst among
      cases call : a.call with
      | always d =>
        rw [call] at mem
        obtain rfl := List.mem_singleton.mp mem
        exact reads
      | byOutput position plain writer => rfl
    · cases sole
  · rfl

/-- **The code of a function down to the line that calls a dispatcher.** -/
theorem exists_opening (b : Binding) : ∃ opening after : Code,
    b.code = opening ++ selectionCode b.selection ++ after ∧
    (b.surface.bindsMethods = true →
      opening.Shows "Tensor& self = Rice::detail::From_Ruby<Tensor&>().convert(self_);") ∧
    (b.readsParser = true →
      opening.Shows "auto _r = parser.parse(self_, argc, argv, parsed_args);") := by
  have literals := (nests_signatureCode (b.arms.map (·.signature))).block
    "static RubyArgParser parser(\x7b" "\x7d);"
  refine ⟨Code.line ("// " ++ b.name) ++
      Code.line ("static VALUE " ++ b.symbol ++ "(int argc, VALUE* argv, VALUE self_)") ++
      Code.line "\x7b" ++ [.indent] ++ Code.line "HANDLE_TH_ERRORS" ++
      (if b.surface.bindsMethods then
        Code.line "Tensor& self = Rice::detail::From_Ruby<Tensor&>().convert(self_);" else []) ++
      Code.block "static RubyArgParser parser(\x7b" (signatureCode (b.arms.map (·.signature)))
        "\x7d);" ++
      Code.line ("ParsedArgs<" ++ toString b.capacity ++ "> parsed_args;") ++
      Code.line ((if b.readsParser then "auto _r = " else "") ++
        "parser.parse(self_, argc, argv, parsed_args);"),
    Code.line "END_HANDLE_TH_ERRORS" ++ [.dedent] ++ Code.line "\x7d", ?_, ?_, ?_⟩
  · simp only [code, FunctionPlan.code, Code.block, Code.nested, List.append_assoc,
      List.cons_append, List.nil_append]
    rfl
  · intro methods
    rw [if_pos methods]
    exact (((Code.shows_line _).of_append.append literals.keeps).append
      (Code.Nests.line _).keeps).append (Code.Nests.line _).keeps
  · intro reads
    rw [if_pos reads]
    exact (Code.shows_line _).of_append

/-- **Every name of the line that calls the dispatcher is declared above it.** -/
theorem scopes_of_invokesInScope (inScope : c.InvokesInScope b.surface) (mem : c ∈ b.calls) :
    b.Scopes c := by
  obtain ⟨opening, closing, code, receiver, parsed⟩ := b.exists_opening
  obtain ⟨before, after, selected, keeps⟩ := contains_selectionCode mem
  obtain ⟨preamble, ending, call, keepsToo, dispatcher, options, pack⟩ := c.exists_preamble
  have above : ∀ {text : String}, opening.Shows text →
      text ∈ (opening ++ before ++ preamble).visible :=
    fun shows => ((shows.append keeps).append keepsToo).mem_visible
  refine ⟨opening ++ before ++ preamble, ending ++ after ++ closing, ?_, ?_, ?_⟩
  · rw [code, selected, call]
    simp
  · exact ⟨_, dispatcher.of_append.mem_visible, declares_dispatcher c⟩
  · intro a arg
    refine ⟨a.root, a.uses_root, ?_⟩
    cases a with
    | receiver => exact ⟨_, above (receiver (inScope.receiver arg)), declares_receiver⟩
    | gathered =>
      exact ⟨_, (options (inScope.gathered arg)).of_append.mem_visible, declares_options⟩
    | packed i =>
      obtain ⟨taken, found, -⟩ := inScope.packed i arg
      exact ⟨_, (pack taken found).of_append.mem_visible, declares_outputs taken⟩
    | slot accessor position =>
      have reads : c.readsParser = true := by
        simp only [NativeCall.readsParser, Bool.or_eq_true, List.any_eq_true]
        exact .inr ⟨_, arg, rfl⟩
      exact ⟨_, above (parsed (readsParser_of_mem mem reads)), declares_parsed⟩

end Binding

/-- **When a call is well scoped.** A call of an operator on a surface reads the
operator's own layout, or that of a writer where the operator has no outputs. Then
the line that calls the dispatcher is in scope, in every binding of the surface that
makes the call. The arguments of the native call are parameters of the dispatcher;
what the native function is called on is one too, except for a method whose operator
has no parameter `self`. -/
theorem isClosed_iff_of_callIn {o : Operator} {surface : Surface} {layout : List Slot}
    {c : NativeCall} (own : layout = o.slots surface .kept ∨ o.hasOutputs = false)
    (planned : (o.callIn surface layout).outcome = .ok c) :
    (c.IsClosed ↔ (surface.bindsMethods = true → ∃ p ∈ o.params, p.name = "self")) ∧
    c.nativeArgs ⊆ c.params.map (·.name) ∧ c.InvokesInScope surface ∧
    ∀ b : Binding, b.surface = surface → c ∈ b.calls → b.Scopes c := by
  have inScope := Operator.invokesInScope own planned
  refine ⟨?_, c.nativeArgs_subset, inScope, ?_⟩
  · rw [← Operator.self_mem_params_iff planned, NativeCall.IsClosed, NativeCall.usedNames,
      Operator.isPrefixOf_function planned]
    have args : ∀ name ∈ c.nativeArgs, name ∈ c.params.map (·.name) := c.nativeArgs_subset
    cases surface.bindsMethods with
    | true =>
      rw [if_pos rfl, List.singleton_append, List.forall_mem_cons, and_iff_left args]
      exact ⟨fun mem _ => mem, fun mem => mem rfl⟩
    | false => simpa using args
  · rintro b rfl mem
    exact Binding.scopes_of_invokesInScope inScope mem

-- the code of a call is compared with its plan character by character
set_option maxRecDepth 1000

/-- A method that takes a receiver, a pack of outputs and an options value. -/
theorem isClosed_stack : ∃ families b c,
    (OverloadFamily.ofOperators .accept "stack" .tensor [stackOut]).outcome = .ok families ∧
    (Binding.ofFamilies "stack" .tensor families).outcome = .ok b ∧ b.calls = [c] ∧
    c.nativeText = "self.stack_out(q, r, options);" ∧
    c.args = [.receiver, .packed 0, .packed 1, .gathered] ∧
    c.IsClosed ∧ c.InvokesInScope .tensor ∧ b.Scopes c := by
  obtain ⟨c, planned, text, args, families, b, gathered, bound, surface, calls⟩ :
      ∃ c, (stackOut.call .tensor).outcome = .ok c ∧
        c.nativeText = "self.stack_out(q, r, options);" ∧
        c.args = [.receiver, .packed 0, .packed 1, .gathered] ∧ ∃ families b,
          (OverloadFamily.ofOperators .accept "stack" .tensor [stackOut]).outcome = .ok families ∧
          (Binding.ofFamilies "stack" .tensor families).outcome = .ok b ∧
          b.surface = .tensor ∧ b.calls = [c] :=
    ⟨_, by rfl, by rfl, by rfl, _, _, by rfl, by rfl, rfl, by rfl⟩
  obtain ⟨closed, -, inScope, code⟩ := isClosed_iff_of_callIn (.inl rfl) planned
  have made : b.Scopes c := code b surface (by rw [calls]; exact List.mem_cons_self)
  exact ⟨families, b, c, gathered, bound, calls, text, args, closed.mpr (by decide), inScope, made⟩

/-- A method without a parameter that is named like the receiver. -/
def ravel : Operator where
  name := "ravel"
  text := "ravel(Tensor input) -> Tensor"
  params := [⟨"input", "Tensor", false, none, none, false, none⟩]
  results := [⟨none, "Tensor", none⟩]
  calls := { method := true }
  moduleTag := none

/-- The native call uses `self`, which the dispatcher does not have. -/
theorem not_isClosed_ravel :
    (∃ r, Operator.ofRecord r = .ok ravel) ∧ ravel.surfaces = .ok [.tensor] ∧
    ∃ c, (ravel.call .tensor).outcome = .ok c ∧
      c.nativeText = "self.ravel(input);" ∧ c.params.map (·.name) = ["input"] ∧ ¬ c.IsClosed := by
  obtain ⟨c, planned, text, names, function⟩ : ∃ c, (ravel.call .tensor).outcome = .ok c ∧
      c.nativeText = "self.ravel(input);" ∧ c.params.map (·.name) = ["input"] ∧
      c.function = "self.ravel" := ⟨_, by rfl, by rfl, by rfl, by rfl⟩
  refine ⟨⟨{ declaration := ravel.text, variants := some (.oneText "method") }, by rfl⟩, by rfl, c,
    planned, text, names, fun closed => ?_⟩
  have receiver := closed "self" (by simp [NativeCall.usedNames, function])
  rw [names] at receiver
  revert receiver
  decide

end OpBindings
