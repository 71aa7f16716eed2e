/-
OpBindings.Proofs.ParserUse — what the argument parser returned is bound where it is read.

The code of a function reads what the parser returned for options, for the pack of
outputs, for arguments in slots, and to choose an arm. `FunctionPlan.readsParser`
decides ahead of the printing whether there will be such a line; if so, the function
begins with a line that binds the result. The predicate and the printer are compared
level by level, with one equation for each: calls, families, the selection of an arm,
and the function.

Names and types come from outside and may look like a reading themselves. That is left
to the hypotheses (`FunctionPlan.AvoidsParsed`). The line that binds the result needs
none: it stands at depth 1, where no line of a call that reads nothing can look like it
(`NativeCall.bindingLine_not_mem_lines`).
-/
import OpBindings.Proofs.CallScope
import OpBindings.Proofs.ParsedMark
import OpBindings.Proofs.StringLiteral

namespace OpBindings

/-! ## Calls -/

/-- An argument reads what the parser returned exactly when it is in a slot. -/
theorem Argument.mentionsParsed_text_iff (a : Argument) :
    MentionsParsed a.text ↔ a.isSlot = true := by
  cases a with
  | receiver => decide
  | gathered => decide
  | packed index =>
    have silent : ¬ MentionsParsed ("out[" ++ toString index ++ "]") := by
      rw [mentionsParsed_append_of_startsApart _ "]" (by decide),
        mentionsParsed_append_of_endsApart "out[" (by decide)]
      exact not_mentionsParsed_toString index
    exact iff_of_false silent Bool.false_ne_true
  | slot accessor position =>
    have mark : MentionsParsed "_r." := by decide
    refine iff_of_true ?_ rfl
    rw [text]
    exact (((mark.append _).append _).append _).append _

theorem OptionLink.mentionsParsed_text (link : OptionLink) : MentionsParsed link.text := by
  have mark : MentionsParsed "(_r." := by decide
  rw [text]
  exact ((((mark.of_append _).append _).append _).append _).append _

theorem OptionLink.mentionsParsed_chain_iff (links : List OptionLink) :
    (chain links).MentionsParsed ↔ links ≠ [] := by
  cases links with
  | nil => simp [chain]
  | cons link rest =>
    cases rest with
    | nil => simp [chain, link.mentionsParsed_text.append]
    | cons next rest => simp [chain, link.mentionsParsed_text]

theorem ResultShape.not_mentionsParsed_nativeSpelling (shape : ResultShape) :
    ¬ MentionsParsed shape.nativeSpelling := by
  apply not_mentionsParsed_of_not_mem
  cases shape with
  | tensors size =>
    simp [nativeSpelling, String.toList_intercalate, mem_intercalate_iff]
  | _ => decide

namespace NativeCall

/-- The texts of the call that come from outside do not read the parser. -/
structure AvoidsParsed (c : NativeCall) : Prop where
  declaration : ¬ MentionsParsed c.declaration
  dispatcher : ¬ MentionsParsed c.dispatcher
  function : ¬ MentionsParsed c.function
  types : ∀ p ∈ c.params, ¬ MentionsParsed p.nativeType
  names : ∀ p ∈ c.params, ¬ MentionsParsed p.name

instance (c : NativeCall) : Decidable c.AvoidsParsed :=
  decidable_of_iff (¬ MentionsParsed c.declaration ∧ ¬ MentionsParsed c.dispatcher ∧
      ¬ MentionsParsed c.function ∧ (∀ p ∈ c.params, ¬ MentionsParsed p.nativeType) ∧
      ∀ p ∈ c.params, ¬ MentionsParsed p.name)
    ⟨fun ⟨declaration, dispatcher, function, types, names⟩ =>
      ⟨declaration, dispatcher, function, types, names⟩,
    fun h => ⟨h.declaration, h.dispatcher, h.function, h.types, h.names⟩⟩

variable {c : NativeCall}

theorem mentionsParsed_optionsCode_iff : c.optionsCode.MentionsParsed ↔ c.options ≠ [] := by
  unfold optionsCode
  split
  · rename_i none
    simp [List.isEmpty_iff.mp none]
  · have silent : ¬ MentionsParsed "const auto options = TensorOptions()" := by decide
    simp [OptionLink.mentionsParsed_chain_iff, silent]

theorem mentionsParsed_outputPackCode_iff :
    c.outputPackCode.MentionsParsed ↔ c.outputPack.isSome = true := by
  unfold outputPackCode
  split
  · rename_i none
    simp [none]
  · rename_i out some
    have mark : MentionsParsed "auto out = _r.tensorlist_n<" := by decide
    simp [some, (((mark.append _).append _).append _).append _]

theorem AvoidsParsed.dispatchHead (h : c.AvoidsParsed) : ¬ MentionsParsed c.dispatchHead := by
  have params : ¬ ∃ part ∈ c.params.map (fun p => p.nativeType ++ " " ++ p.name),
      MentionsParsed part := by
    rintro ⟨part, mem, mentions⟩
    obtain ⟨p, hp, rfl⟩ := List.mem_map.mp mem
    rw [String.append_assoc,
      mentionsParsed_append_gap_append _ " " (by decide) (by decide)] at mentions
    exact mentions.elim (h.types p hp) (h.names p hp)
  rw [NativeCall.dispatchHead]
  generalize c.params.map (fun p => p.nativeType ++ " " ++ p.name) = parts at params
  simp only [String.append_assoc]
  rw [mentionsParsed_append_of_endsApart "auto " (by decide),
    mentionsParsed_append_gap_append _ " = [](" (by decide) (by decide),
    mentionsParsed_append_gap_append _ ") -> " (by decide) (by decide),
    mentionsParsed_append_of_startsApart _ " \x7b" (by decide), mentionsParsed_intercalate_iff]
  exact not_or.mpr ⟨h.dispatcher,
    not_or.mpr ⟨params, c.returns.not_mentionsParsed_nativeSpelling⟩⟩

theorem AvoidsParsed.nativeText (h : c.AvoidsParsed) : ¬ MentionsParsed c.nativeText := by
  have args : ¬ ∃ arg ∈ c.nativeArgs, MentionsParsed arg := by
    rintro ⟨arg, mem, mentions⟩
    obtain ⟨p, hp, rfl⟩ := List.mem_map.mp (c.nativeArgs_subset mem)
    exact h.names p hp mentions
  simp only [NativeCall.nativeText, String.append_assoc]
  rw [mentionsParsed_append_gap_append _ "(" (by decide) (by decide),
    mentionsParsed_append_of_startsApart _ ");" (by decide), mentionsParsed_intercalate_iff]
  exact not_or.mpr ⟨h.function, args⟩

/-- The dispatcher is called with a slot of the parser, or without any. -/
theorem AvoidsParsed.mentionsParsed_invocation_iff (h : c.AvoidsParsed) :
    MentionsParsed c.invocation ↔ c.args.any (·.isSlot) = true := by
  simp only [invocation, String.append_assoc]
  rw [mentionsParsed_append_gap_append _ "(" (by decide) (by decide),
    mentionsParsed_append_of_startsApart _ ")" (by decide), mentionsParsed_intercalate_iff,
    or_iff_right h.dispatcher, List.any_eq_true]
  simp [Argument.mentionsParsed_text_iff]

/-- **The code of a call reads the parser** exactly when its plan says so. -/
theorem AvoidsParsed.mentionsParsed_code_iff (h : c.AvoidsParsed) :
    c.code.MentionsParsed ↔ c.readsParser = true := by
  have comment : ¬ MentionsParsed ("// " ++ c.declaration) := by
    rw [mentionsParsed_append_of_endsApart "// " (by decide)]
    exact h.declaration
  have native : ¬ MentionsParsed
      (if c.returns = .void then c.nativeText else "return " ++ c.nativeText) := by
    split
    · exact h.nativeText
    · rw [mentionsParsed_append_of_endsApart "return " (by decide)]
      exact h.nativeText
  have body : ¬ (Code.block c.dispatchHead (Code.line "// in future, release GVL" ++
      Code.line (if c.returns = .void then c.nativeText else "return " ++ c.nativeText))
      "\x7d;").MentionsParsed := by
    simp only [Code.mentionsParsed_block, Code.mentionsParsed_append, Code.mentionsParsed_line,
      h.dispatchHead, native, or_false, false_or]
    decide
  have invoke : (if c.returns = .void then Code.line (c.invocation ++ ";") ++ Code.line "RETURN_NIL"
      else Code.line ("return wrap(" ++ c.invocation ++ ");")).MentionsParsed ↔
      c.args.any (·.isSlot) = true := by
    rw [← h.mentionsParsed_invocation_iff]
    split
    · rw [Code.mentionsParsed_append, Code.mentionsParsed_line, Code.mentionsParsed_line,
        mentionsParsed_append_of_startsApart _ ";" (by decide)]
      exact or_iff_left (by decide)
    · rw [Code.mentionsParsed_line,
        mentionsParsed_append_of_startsApart _ ");" (by decide),
        mentionsParsed_append_of_endsApart "return wrap(" (by decide)]
  rw [code, Code.mentionsParsed_append, Code.mentionsParsed_append, Code.mentionsParsed_append,
    Code.mentionsParsed_append, Code.mentionsParsed_line, mentionsParsed_optionsCode_iff,
    mentionsParsed_outputPackCode_iff, invoke, or_iff_left body, or_iff_right comment]
  simp [readsParser]

end NativeCall

/-! ## Functions -/

/-- The code of a family reads the parser for its calls, and to choose between two. -/
theorem FamilyCall.mentionsParsed_code_iff {call : FamilyCall}
    (avoids : ∀ c ∈ call.calls, c.AvoidsParsed) :
    call.code.MentionsParsed ↔ call.readsParser = true := by
  cases call with
  | always c => exact (avoids c List.mem_cons_self).mentionsParsed_code_iff
  | byOutput position plain writer =>
    have mark : MentionsParsed "if (_r.isNone(" := by decide
    have test : MentionsParsed ("if (_r.isNone(" ++ toString position ++ ")) \x7b") :=
      (mark.append _).append _
    refine iff_of_true ?_ rfl
    simp only [code, Code.mentionsParsed_append, Code.mentionsParsed_line]
    exact .inl (.inl (.inl (.inl test)))

/-- The code that selects an arm reads the parser for the only arm, and to find one of several. -/
theorem Selection.mentionsParsed_selectionCode_iff {s : Selection}
    (avoids : ∀ c ∈ s.calls, c.AvoidsParsed) :
    (Binding.selectionCode s).MentionsParsed ↔
      ∀ call, s = .sole call → call.readsParser = true := by
  cases s with
  | sole call => simpa [Binding.selectionCode] using FamilyCall.mentionsParsed_code_iff avoids
  | byIndex calls =>
    have mark : MentionsParsed "switch (_r.idx) \x7b" := by decide
    simp [Binding.selectionCode, mark]

namespace Binding

/-- The signatures are printed as literals, one to a line. -/
theorem exists_signatureCode_eq (signatures : List Signature) :
    ∃ texts : List String, signatureCode signatures = texts.map .line ∧
      ∀ text ∈ texts, ∃ s ∈ signatures,
        text = Code.literal s.text ∨ text = Code.literal s.text ++ "," := by
  induction signatures with
  | nil => exact ⟨[], rfl, by simp⟩
  | cons s rest ih =>
    cases rest with
    | nil => exact ⟨[Code.literal s.text], rfl, by simp⟩
    | cons next rest =>
      obtain ⟨texts, code, literals⟩ := ih
      refine ⟨(Code.literal s.text ++ ",") :: texts, congrArg (_ :: ·) code, ?_⟩
      rw [List.forall_mem_cons]
      refine ⟨⟨s, List.mem_cons_self, .inr rfl⟩, fun text mem => ?_⟩
      obtain ⟨t, among, shape⟩ := literals text mem
      exact ⟨t, List.mem_cons_of_mem s among, shape⟩

theorem not_mentionsParsed_signatureCode {signatures : List Signature}
    (avoids : ∀ s ∈ signatures, ¬ MentionsParsed s.text) :
    ¬ (signatureCode signatures).MentionsParsed := by
  obtain ⟨texts, code, literals⟩ := exists_signatureCode_eq signatures
  rw [code, Code.mentionsParsed_map_line]
  rintro ⟨text, mem, mentions⟩
  obtain ⟨s, among, rfl | rfl⟩ := literals text mem
  · exact not_mentionsParsed_literal (avoids s among) mentions
  · rw [mentionsParsed_append_of_startsApart _ "," (by decide)] at mentions
    exact not_mentionsParsed_literal (avoids s among) mentions

end Binding

namespace FunctionPlan

/-- The texts of the plan that come from outside do not read the parser. -/
structure AvoidsParsed (p : FunctionPlan) : Prop where
  name : ¬ MentionsParsed p.name
  symbol : ¬ MentionsParsed p.symbol
  signatures : ∀ s ∈ p.signatures, ¬ MentionsParsed s.text
  calls : ∀ c ∈ p.selection.calls, c.AvoidsParsed

instance (p : FunctionPlan) : Decidable p.AvoidsParsed :=
  decidable_of_iff (¬ MentionsParsed p.name ∧ ¬ MentionsParsed p.symbol ∧
      (∀ s ∈ p.signatures, ¬ MentionsParsed s.text) ∧ ∀ c ∈ p.selection.calls, c.AvoidsParsed)
    ⟨fun ⟨name, symbol, signatures, calls⟩ => ⟨name, symbol, signatures, calls⟩,
    fun h => ⟨h.name, h.symbol, h.signatures, h.calls⟩⟩

variable {p : FunctionPlan}

theorem readsParser_eq_true_iff :
    p.readsParser = true ↔ ∀ call, p.selection = .sole call → call.readsParser = true := by
  unfold readsParser
  split <;> simp [*]

/-- **The text of a function reads the parser** exactly when its plan says so. -/
theorem AvoidsParsed.mentionsParsed_text_iff (h : p.AvoidsParsed) :
    MentionsParsed p.text ↔ p.readsParser = true := by
  have name : ¬ MentionsParsed ("// " ++ p.name) := by
    rw [mentionsParsed_append_of_endsApart "// " (by decide)]
    exact h.name
  have symbol : ¬ MentionsParsed
      ("static VALUE " ++ p.symbol ++ "(int argc, VALUE* argv, VALUE self_)") := by
    rw [mentionsParsed_append_of_startsApart _ "(int argc, VALUE* argv, VALUE self_)" (by decide),
      mentionsParsed_append_of_endsApart "static VALUE " (by decide)]
    exact h.symbol
  have receiver : ¬ (if p.surface.bindsMethods then
      Code.line "Tensor& self = Rice::detail::From_Ruby<Tensor&>().convert(self_);"
      else []).MentionsParsed := by
    split
    · rw [Code.mentionsParsed_line]
      decide
    · exact Code.not_mentionsParsed_nil
  have capacity : ¬ MentionsParsed ("ParsedArgs<" ++ toString p.capacity ++ "> parsed_args;") := by
    rw [mentionsParsed_append_of_startsApart _ "> parsed_args;" (by decide),
      mentionsParsed_append_of_endsApart "ParsedArgs<" (by decide)]
    exact not_mentionsParsed_toString p.capacity
  have parse : ¬ MentionsParsed ((if p.readsParser then "auto _r = " else "") ++
      "parser.parse(self_, argc, argv, parsed_args);") := by
    split <;> decide
  have signatures := Binding.not_mentionsParsed_signatureCode h.signatures
  have fixed : ¬ MentionsParsed "\x7b" ∧ ¬ MentionsParsed "HANDLE_TH_ERRORS" ∧
      ¬ MentionsParsed "static RubyArgParser parser(\x7b" ∧ ¬ MentionsParsed "\x7d);" ∧
      ¬ MentionsParsed "END_HANDLE_TH_ERRORS" ∧ ¬ MentionsParsed "\x7d" := by decide
  rw [text, Code.mentionsParsed_text_iff, readsParser_eq_true_iff,
    ← Selection.mentionsParsed_selectionCode_iff h.calls]
  simp only [code, Code.mentionsParsed_append, Code.mentionsParsed_block, Code.mentionsParsed_line,
    name, symbol, receiver, signatures, capacity, parse, fixed, or_false, false_or]

end FunctionPlan

/-! ## The line that binds the parser's result -/

/-- The line that binds what the parser returned. -/
def bindingLine : String := "  auto _r = parser.parse(self_, argc, argv, parsed_args);"

/-- What stands in the line. -/
def bindingText : String := "auto _r = parser.parse(self_, argc, argv, parsed_args);"

/-- The line is at depth 1, unless its text brings the margin. -/
theorem eq_of_bindingLine_eq_laid {depth : Nat} {text : String}
    (h : bindingLine = Code.laid depth text) :
    depth = 0 ∧ text = bindingLine ∨ depth = 1 ∧ text = bindingText := by
  have chars := Code.eq_of_laid h (by decide)
  match depth with
  | 0 => exact .inl ⟨rfl, String.toList_inj.mp chars.symm⟩
  | 1 =>
    have same : [' ', ' '] ++ bindingText.toList = [' ', ' '] ++ text.toList := chars
    exact .inr ⟨rfl, (String.toList_inj.mp (List.append_cancel_left same)).symm⟩
  | depth + 2 =>
    have third := congrArg (·[2]?) chars
    have blank : (List.replicate (2 * (depth + 2)) ' ' ++ text.toList)[2]? = some ' ' := by
      rw [List.getElem?_append_left (by rw [List.length_replicate]; omega),
        List.getElem?_replicate, if_pos (by omega)]
    rw [blank] at third
    exact absurd third (by decide)

theorem bindingLine_ne_laid {text : String} (blank : text.toList.head? ≠ some ' ')
    (other : text ≠ bindingText) (depth : Nat) : bindingLine ≠ Code.laid depth text := by
  intro same
  rcases eq_of_bindingLine_eq_laid same with ⟨-, rfl⟩ | ⟨-, rfl⟩
  · exact blank rfl
  · exact other rfl

/-- Whatever begins otherwise is not the line, at any depth. -/
theorem bindingLine_ne_laid_of_head? {text : String} (blank : text.toList.head? ≠ some ' ')
    (other : text.toList.head? ≠ some 'a') (depth : Nat) : bindingLine ≠ Code.laid depth text :=
  bindingLine_ne_laid blank (fun same => other (same ▸ rfl)) depth

theorem bindingLine_ne_laid_of_all {texts : List String}
    (heads : ∀ text ∈ texts, text.toList.head? ≠ some ' ' ∧ text.toList.head? ≠ some 'a') :
    ∀ text ∈ texts, ∀ depth, bindingLine ≠ Code.laid depth text :=
  fun text mem => bindingLine_ne_laid_of_head? (heads text mem).1 (heads text mem).2

theorem bindingLine_ne_laid_two (text : String) : bindingLine ≠ Code.laid 2 text :=
  fun same => (eq_of_bindingLine_eq_laid same).elim (by simp) (by simp)

/-- An argument that is in no slot has no parenthesis, and no `g`. -/
theorem Argument.not_mem_text {a : Argument} (silent : a.isSlot = false) :
    '(' ∉ a.text.toList ∧ 'g' ∉ a.text.toList := by
  cases a with
  | receiver => decide
  | gathered => decide
  | packed index =>
    simp [text, not_mem_toDigits (c := '(') (by decide), not_mem_toDigits (c := 'g') (by decide)]
  | slot accessor position => cases silent

namespace NativeCall

variable {c : NativeCall}

/-- A character that the arguments do not have is not in the rest of the line either. -/
theorem not_mem_arguments {x : Char} (apart : x ∉ ", );".toList)
    (silent : ∀ a ∈ c.args, x ∉ a.text.toList) :
    x ∉ (", ".intercalate (c.args.map (·.text)) ++ ");").toList := by
  obtain ⟨gap, closing⟩ : x ∉ ", ".toList ∧ x ∉ ");".toList :=
    ⟨fun mem => apart (List.mem_append_left ");".toList mem),
      fun mem => apart (List.mem_append_right ", ".toList mem)⟩
  rw [String.toList_append, String.toList_intercalate, List.mem_append, mem_intercalate_iff gap]
  rintro (⟨part, mem, inPart⟩ | inClosing)
  · obtain ⟨text, among, rfl⟩ := List.mem_map.mp mem
    obtain ⟨a, arg, rfl⟩ := List.mem_map.mp among
    exact silent a arg inPart
  · exact closing inClosing

theorem invocation_ne_bindingText (silent : ∀ a ∈ c.args, a.isSlot = false) :
    c.invocation ++ ";" ≠ bindingText := by
  -- both texts are read from their ends, up to the last opening parenthesis
  intro same
  have left : bindingText.toList.reverse =
      (", ".intercalate (c.args.map (·.text)) ++ ");").toList.reverse ++
        '(' :: c.dispatcher.toList.reverse := by
    rw [← same]
    simp [invocation]
  have right : bindingText.toList.reverse =
      "self_, argc, argv, parsed_args);".toList.reverse ++
        '(' :: "auto _r = parser.parse".toList.reverse := by decide
  have mark := not_mem_arguments (x := '(') (by decide)
    fun a arg => (Argument.not_mem_text (silent a arg)).1
  have letter := not_mem_arguments (x := 'g') (by decide)
    fun a arg => (Argument.not_mem_text (silent a arg)).2
  have args := (append_mark_inj (mt List.mem_reverse.mp mark) (by decide)
    (left.symm.trans right)).1
  rw [List.reverse_inj.mp args] at letter
  exact letter (by decide)

theorem dispatchHead_ne_bindingText : c.dispatchHead ≠ bindingText := by
  intro same
  have bracket : '[' ∈ c.dispatchHead.toList := by simp [dispatchHead]
  exact absurd (same ▸ bracket) (by decide)

/-- A call that reads nothing of the parser binds nothing of it. -/
theorem bindingLine_not_mem_lines (silent : c.readsParser = false) :
    bindingLine ∉ c.code.lines 1 := by
  simp only [readsParser, Bool.or_eq_false_iff, Bool.not_eq_false', List.isEmpty_iff,
    Option.isSome_eq_false_iff, Option.isNone_iff_eq_none, List.any_eq_false,
    Bool.not_eq_true] at silent
  obtain ⟨⟨options, pack⟩, slots⟩ := silent
  have ending : bindingLine ∉ Code.lines 1 (if c.returns = .void then
      Code.line (c.invocation ++ ";") ++ Code.line "RETURN_NIL"
      else Code.line ("return wrap(" ++ c.invocation ++ ");")) := by
    split
    · rw [Code.lines_append, Code.lines_line, List.singleton_append, List.mem_cons, not_or]
      constructor
      · rintro same
        obtain ⟨zero, -⟩ | ⟨-, text⟩ := eq_of_bindingLine_eq_laid same
        · cases zero
        · exact invocation_ne_bindingText slots text
      · rw [Code.lines_line, List.mem_singleton]
        exact bindingLine_ne_laid_of_head? (by decide) (by decide) _
    · simp [bindingLine_ne_laid_of_head?]
  simp only [code, optionsCode, outputPackCode, options, pack, List.isEmpty_nil, if_true,
    List.append_nil, Code.lines_append, Code.lines_line, Code.lines_block, Code.depthAfter_append,
    Code.depthAfter_line, Code.depthAfter_block, List.mem_append, List.mem_cons, List.not_mem_nil,
    or_false, not_or]
  refine ⟨⟨?_, ?_, ⟨bindingLine_ne_laid_two _, bindingLine_ne_laid_two _⟩, ?_⟩, ending⟩
  · exact bindingLine_ne_laid_of_head? (by simp) (by simp) 1
  · exact bindingLine_ne_laid (by simp [dispatchHead]) dispatchHead_ne_bindingText 1
  · exact bindingLine_ne_laid_of_head? (by simp) (by simp) _

end NativeCall

namespace Binding

@[simp] theorem depthAfter_signatureCode (depth : Nat) (signatures : List Signature) :
    Code.depthAfter depth (signatureCode signatures) = depth := by
  obtain ⟨texts, code, -⟩ := exists_signatureCode_eq signatures
  rw [code, Code.depthAfter_map_line]

theorem bindingLine_not_mem_lines_signatureCode (signatures : List Signature) :
    bindingLine ∉ Code.lines 2 (signatureCode signatures) := by
  obtain ⟨texts, code, -⟩ := exists_signatureCode_eq signatures
  rw [code, Code.lines_map_line, List.mem_map]
  rintro ⟨text, -, same⟩
  exact bindingLine_ne_laid_two text same.symm

end Binding

namespace FunctionPlan

variable {p : FunctionPlan}

/-- A function that reads nothing of the parser makes one call, which reads nothing of it. -/
theorem exists_of_readsParser_eq_false (silent : p.readsParser = false) :
    ∃ c, p.selection = .sole (.always c) ∧ c.readsParser = false := by
  unfold readsParser at silent
  split at silent
  · rename_i call selection
    cases call with
    | always c => exact ⟨c, selection, silent⟩
    | byOutput position plain writer => cases silent
  · cases silent

/-- **The parser's result is bound** exactly when the plan says that it is read. -/
theorem bindingLine_mem_lines_iff : bindingLine ∈ p.code.lines 0 ↔ p.readsParser = true := by
  constructor
  · intro mem
    by_contra silent
    obtain ⟨c, selection, silent'⟩ := exists_of_readsParser_eq_false (by simpa using silent)
    have call := c.bindingLine_not_mem_lines silent'
    have literals := Binding.bindingLine_not_mem_lines_signatureCode p.signatures
    have fixed : ∀ text ∈ ["\x7b", "HANDLE_TH_ERRORS", "static RubyArgParser parser(\x7b", "\x7d);",
        "Tensor& self = Rice::detail::From_Ruby<Tensor&>().convert(self_);",
        "parser.parse(self_, argc, argv, parsed_args);", "END_HANDLE_TH_ERRORS", "\x7d"],
        ∀ depth, bindingLine ≠ Code.laid depth text :=
      bindingLine_ne_laid_of_all (by decide)
    simp only [List.forall_mem_cons] at fixed
    revert mem
    cases methods : p.surface.bindsMethods <;>
      simp [code, silent, selection, Binding.selectionCode, FamilyCall.code, methods, call,
        literals, bindingLine_ne_laid_of_head?, fixed]
  · intro reads
    have here : bindingLine =
      Code.laid 1 "auto _r = parser.parse(self_, argc, argv, parsed_args);" := by decide
    cases methods : p.surface.bindsMethods <;> simp [code, reads, methods, ← here]

end FunctionPlan

/-- **The parser's result is bound exactly where it is read.** Where the names, the
types, the signatures and the declarations of a plan do not hold the mark themselves,
the text of the function holds it exactly when the plan says that the parser is read,
which is when the line that binds the result is printed. -/
theorem FunctionPlan.mentionsParsed_iff_readsParser {p : FunctionPlan} (avoids : p.AvoidsParsed) :
    (MentionsParsed p.text ↔ p.readsParser = true) ∧
      (bindingLine ∈ p.code.lines 0 ↔ p.readsParser = true) :=
  ⟨avoids.mentionsParsed_text_iff, p.bindingLine_mem_lines_iff⟩

/-- An operator without arguments. -/
def seed : Operator where
  name := "seed"
  text := "seed() -> int"
  params := []
  results := [⟨none, "int", none⟩]
  calls := { function := true }
  moduleTag := none

/-- The plan of its binding: one call, which passes nothing. -/
def seedPlan : FunctionPlan where
  name := "seed"
  symbol := "torch_seed"
  surface := .torch
  signatures := [⟨"seed()", 0⟩]
  capacity := 1
  selection := .sole (.always {
    declaration := "seed() -> int"
    dispatcher := "dispatch_seed"
    params := []
    returns := .int
    function := "at::seed"
    options := []
    outputPack := none })

/-- A method with one argument beside its receiver. -/
def fill : Operator where
  name := "fill"
  text := "fill(Tensor self, Scalar value) -> Tensor"
  params := [
    ⟨"self", "Tensor", false, none, none, false, none⟩,
    ⟨"value", "Scalar", false, none, none, false, none⟩]
  results := [⟨none, "Tensor", none⟩]
  calls := { method := true }
  moduleTag := none

/-- The plan of its binding: one call, which passes the receiver and a slot. -/
def fillPlan : FunctionPlan where
  name := "fill"
  symbol := "tensor_fill"
  surface := .tensor
  signatures := [⟨"fill(Scalar value)", 1⟩]
  capacity := 1
  selection := .sole (.always {
    declaration := "fill(Tensor self, Scalar value) -> Tensor"
    dispatcher := "dispatch_fill"
    params := [⟨"const Tensor &", "self", .receiver, .receiver⟩,
      ⟨"Scalar", "value", .slot "scalar" 0, .input⟩]
    returns := .tensor
    function := "self.fill"
    options := []
    outputPack := none })

/-- The first plan does not read what the parser returned, the second does. -/
theorem mentionsParsed_seedPlan :
    ((∃ families b,
      (OverloadFamily.ofOperators .refuse "seed" .torch [seed]).outcome = .ok families ∧
      (Binding.ofFamilies "seed" .torch families).outcome = .ok b ∧ b.plan = seedPlan) ∧
    seedPlan.AvoidsParsed ∧ ¬ MentionsParsed seedPlan.text ∧
    bindingLine ∉ seedPlan.code.lines 0) ∧
    ((∃ families b,
      (OverloadFamily.ofOperators .refuse "fill" .tensor [fill]).outcome = .ok families ∧
      (Binding.ofFamilies "fill" .tensor families).outcome = .ok b ∧ b.plan = fillPlan) ∧
    fillPlan.AvoidsParsed ∧ MentionsParsed fillPlan.text ∧
    bindingLine ∈ fillPlan.code.lines 0) := by
  constructor
  · have avoids : seedPlan.AvoidsParsed := by decide
    obtain ⟨mentions, binds⟩ := FunctionPlan.mentionsParsed_iff_readsParser avoids
    exact ⟨⟨_, _, by rfl, by rfl, by rfl⟩, avoids, mt mentions.mp (by decide),
      mt binds.mp (by decide)⟩
  · have avoids : fillPlan.AvoidsParsed := by decide
    obtain ⟨mentions, binds⟩ := FunctionPlan.mentionsParsed_iff_readsParser avoids
    exact ⟨⟨_, _, by rfl, by rfl, by rfl⟩, avoids, mentions.mpr (by decide),
      binds.mpr (by decide)⟩

end OpBindings
