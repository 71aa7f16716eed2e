/-
OpBindings.Proofs.DroppedMark — what becomes of an option whose `?` is dropped.

The table's rules make `dtype`, `device`, `layout` and `pin_memory` required,
whatever the declaration says, because the options value has them all. But the two
rules do not look at the same thing: a mark is dropped by the name of its
parameter, and options are gathered where there are at least four. With fewer, the
option whose mark was dropped is taken like any required parameter, and read by an
accessor that does not know an absent argument.

`gathers_iff_of_dropsMark` says which of the two happens. Declared options are
counted there: the gradient flag that may be added does not make three options four,
for it comes with four others.
-/
import OpBindings.Proofs.OptionsValue
import OpBindings.Proofs.OutputSpan

namespace OpBindings

/-- The declaration says `?` of the parameter at `i`, and the operator has it as
the required parameter `p`. -/
structure Operator.DropsMark (o : Operator) (d : Declaration) (i : Nat) (p : Param) : Prop where
  declared : ∃ q, d.params[i]? = some q ∧ q.optional = true
  place : o.params[i]? = some p
  required : p.optional = false

namespace NativeCall

/-- **The option is part of the options value**, which the call takes and passes on,
and is no parameter of the dispatcher itself. -/
structure Gathers (c : NativeCall) (o : Operator) (layout : List Slot) (i : Nat) (p : Param) :
    Prop where
  taken : Operator.optionsParam ∈ c.params
  passed : "options" ∈ c.nativeArgs
  set : ∃ option link, p.option? = some option ∧ link ∈ c.options ∧
    link.setter = option.setter ∧ link.position = o.position layout i p
  alone : ∀ e ∈ c.params, e.name ≠ p.name

/-- **The parameter is required:** the dispatcher takes it in the type of a required
parameter, from an element of the pack of outputs or by the accessor of a required
argument. -/
def Requires (c : NativeCall) (o : Operator) (layout : List Slot) (i : Nat) (p : Param) : Prop :=
  ∃ e ∈ c.params, e.name = p.name ∧ ∃ type, ParamType.of p o = .ok type ∧
    e.nativeType = type.nativeType { p with optional := false } o ∧
    e.source = if o.packsOutputs && o.isOutputAt i then .packed (i - o.firstOut?.getD 0)
      else .slot type.accessorSpelling (o.position layout i p)

/-- A call does not do both. -/
theorem Gathers.not_requires {c : NativeCall} {o : Operator} {layout : List Slot} {i : Nat}
    {p : Param} (h : c.Gathers o layout i p) : ¬ c.Requires o layout i p := by
  rintro ⟨e, mem, named, -⟩
  exact h.alone e mem named

end NativeCall

namespace Operator

variable {o : Operator} {r : Record} {d : Declaration} {surface : Surface} {layout : List Slot}
  {c : NativeCall} {p : Param} {i : Nat}

/-! ## Marks that are dropped -/

/-- Only the mark of an option that is always supplied is dropped. -/
theorem DropsMark.isSuppliedOption (h : o.DropsMark d i p) (made : o.IsMadeFrom r d) :
    p.isSuppliedOption = true := by
  obtain ⟨q, declared, marked⟩ := h.declared
  have settled := made.getElem?_params declared
  rw [h.place] at settled
  obtain rfl := Option.some.inj settled
  have required : (q.optional && !q.isSuppliedOption) = false := h.required
  rw [marked, Bool.true_and, Bool.not_eq_false'] at required
  exact required

theorem DropsMark.carriesOption (h : o.DropsMark d i p) (made : o.IsMadeFrom r d) :
    p.carriesOption = true := by
  obtain ⟨option, carries, -⟩ := (Option.any_eq_true _ _).mp (h.isSuppliedOption made)
  exact Option.isSome_iff_exists.mpr ⟨option, carries⟩

/-- **Options are gathered** where the declaration has four of them. -/
theorem IsMadeFrom.gathersOptions_iff (made : o.IsMadeFrom r d) :
    o.gathersOptions = true ↔ 4 ≤ d.params.countP (·.carriesOption) := by
  have declared : (d.params.map (Param.settle o.baseName)).countP (·.carriesOption) =
      d.params.countP (·.carriesOption) := List.countP_map
  rw [gathersOptions_eq_true_iff, made.params, List.countP_append, declared]
  constructor
  · intro four
    unfold gradientFlag at four
    split at four
    · -- the flag is added to four options that are declared
      rename_i full
      have supplied : d.params.countP (·.isSuppliedOption) = 4 := by
        simpa using (Bool.and_eq_true_iff.mp full).1
      rw [← supplied]
      refine List.countP_mono_left fun q _ supplied => ?_
      obtain ⟨option, carries, -⟩ := (Option.any_eq_true _ _).mp supplied
      exact Option.isSome_iff_exists.mpr ⟨option, carries⟩
    · simpa using four
  · intro four
    exact Nat.le_trans four (Nat.le_add_right _ _)

/-! ## What the call does with an option -/

/-- Where options are gathered, each of them is part of the value. -/
theorem gathers_of_gathersOptions (planned : (o.callIn surface layout).outcome = .ok c)
    (gathers : o.gathersOptions = true) (hp : o.params[i]? = some p)
    (carries : p.carriesOption = true) : c.Gathers o layout i p := by
  obtain ⟨before, first, after, taken, others, -, -, -, params, -⟩ :=
    params_of_gathers planned gathers
  obtain ⟨option, carries⟩ := Option.isSome_iff_exists.mp carries
  have value : optionsParam ∈ c.params := by
    rw [params]
    simp
  refine ⟨value, ?_, ⟨option, ⟨option.setter, option.accessor o.opensDtype, _⟩, carries, ?_, rfl,
    rfl⟩, ?_⟩
  · exact List.mem_map.mpr
      ⟨optionsParam, List.mem_append_right _ (List.mem_filter.mpr ⟨value, rfl⟩), rfl⟩
  · rw [(callIn_eq_ok planned).2.1, gathers, if_pos rfl]
    exact mem_optionLinks.mpr ⟨option, i, p, hp, carries, rfl⟩
  · intro e mem named
    have noOption := ofName?_of_mem_params planned gathers mem
    rw [named] at noOption
    rw [Param.option?, noOption] at carries
    cases carries

/-- Where they are not, an option is taken as it is declared. -/
theorem requires_of_not_gathersOptions (planned : (o.callIn surface layout).outcome = .ok c)
    (alone : o.gathersOptions = false) (hp : o.params[i]? = some p)
    (required : p.optional = false) (carries : p.carriesOption = true) :
    c.Requires o layout i p := by
  have own : o.passesAlone p = true := by simp [passesAlone, alone]
  obtain ⟨e, mem, made⟩ :=
    forall₂_mem_left (callIn_eq_ok planned).1 (mem_dispatched.mpr ⟨hp, own⟩)
  obtain ⟨native, known, made⟩ := bind_eq_ok.mp made
  obtain ⟨type, typed, known⟩ := bind_eq_ok.mp known
  cases known
  cases made
  have same : { p with optional := false } = p := by rw [← required]
  have accessor : type.accessor p o = type.accessorSpelling := by
    simp [ParamType.accessor, required]
  refine ⟨_, mem, rfl, type, typed, by rw [same], ?_⟩
  rw [source, isReceiver_of_carriesOption carries, accessor]
  rfl

end Operator

/-- **What becomes of a mark that is dropped.** Whatever layout a call of an operator
of the table reads: a parameter that is declared with `?` and taken as required is
one of the four options that are always supplied. It is part of the options value
exactly when the declaration has at least four options; with fewer, and then only,
it is a required parameter of the dispatcher. -/
theorem gathers_iff_of_dropsMark {r : Record} {d : Declaration} {o : Operator} {surface : Surface}
    {layout : List Slot} {c : NativeCall} (made : o.IsMadeFrom r d)
    (planned : (o.callIn surface layout).outcome = .ok c) {i : Nat} {p : Param}
    (dropped : o.DropsMark d i p) :
    p.name ∈ ["dtype", "device", "layout", "pin_memory"] ∧
    (c.Gathers o layout i p ↔ 4 ≤ d.params.countP (·.carriesOption)) ∧
    (c.Requires o layout i p ↔ d.params.countP (·.carriesOption) < 4) := by
  have carries := dropped.carriesOption made
  refine ⟨TensorOption.isAlwaysSupplied_of_name_iff.mp (dropped.isSuppliedOption made), ?_⟩
  rw [← Nat.not_le, ← made.gathersOptions_iff]
  cases gathers : o.gathersOptions with
  | true =>
    have whole := Operator.gathers_of_gathersOptions planned gathers dropped.place carries
    simp [whole, whole.not_requires]
  | false =>
    have single := Operator.requires_of_not_gathersOptions planned gathers dropped.place
      dropped.required carries
    have apart : ¬ c.Gathers o layout i p := fun whole => whole.not_requires single
    simp [single, apart]

-- a declaration is read as the list of its characters, and the ones here are long
set_option maxRecDepth 1000

/-- The mark of a layout is dropped, and the layout is part of the options value. -/
theorem gathers_blank : ∃ c p, (blankOut.call .tensor).outcome = .ok c ∧
    blankOut.DropsMark blankDeclaration 3 p ∧ p.name = "layout" ∧
    c.Gathers blankOut (blankOut.slots .tensor .kept) 3 p := by
  have made : blankOut.IsMadeFrom { declaration := blankOut.text } blankDeclaration :=
    Operator.isMadeFrom_ofDeclaration (by decide +kernel) rfl
  obtain ⟨c, planned⟩ : ∃ c, (blankOut.call .tensor).outcome = .ok c := ⟨_, by rfl⟩
  have dropped : blankOut.DropsMark blankDeclaration 3
      ⟨"layout", "Layout", false, some "None", none, true, none⟩ := ⟨⟨_, rfl, rfl⟩, rfl, rfl⟩
  refine ⟨c, _, planned, dropped, rfl, ?_⟩
  exact (gathers_iff_of_dropsMark made planned dropped).2.1.mpr (by decide)

/-- A declaration with one option, which may be absent. -/
def totalDeclaration : Declaration where
  name := "total"
  params := [
    ⟨"self", "Tensor", false, none, none, false, none⟩,
    ⟨"dtype", "ScalarType", true, some "None", none, true, none⟩]
  results := [⟨none, "Tensor", none⟩]

@[inherit_doc totalDeclaration]
def total : Operator := Operator.ofDeclaration
  "total(Tensor self, *, ScalarType? dtype=None) -> Tensor" totalDeclaration
  { function := true } none

/-- The option is required: there is no options value, and the argument is read as
one that is never absent. -/
theorem not_gathers_total : (∃ r, total.IsMadeFrom r totalDeclaration) ∧ ∃ c p,
    (total.call .torch).outcome = .ok c ∧ total.DropsMark totalDeclaration 1 p ∧
    c.params[1]? = some ⟨"ScalarType", "dtype", .slot "scalartype" 1, .input⟩ ∧
    c.options = [] ∧ ¬ c.Gathers total (total.slots .torch .kept) 1 p := by
  have made : total.IsMadeFrom { declaration := total.text } totalDeclaration :=
    Operator.isMadeFrom_ofDeclaration (by decide +kernel) rfl
  obtain ⟨c, planned, params, options⟩ : ∃ c, (total.call .torch).outcome = .ok c ∧
      c.params[1]? = some ⟨"ScalarType", "dtype", .slot "scalartype" 1, .input⟩ ∧
      c.options = [] := ⟨_, by rfl, by rfl, by rfl⟩
  refine ⟨⟨_, made⟩, c, _, planned, ⟨⟨_, rfl, rfl⟩, rfl, rfl⟩, params, options, fun whole => ?_⟩
  exact whole.alone _ (List.mem_of_getElem? params) rfl

end OpBindings
