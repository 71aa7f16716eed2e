/-
OpBindings.Proofs.Arms — the arms of a binding, side by side with the overloads
that its parser is given.

The parser is given one signature for each family, and the code has one arm for
each, in the same order. An arm reads slots by number. The parser fills as many
as the signature shows, so every number has to be below the signature's arity
(`Arm.IsFor`). A call that reads its own layout finds every slot that it looks
up. A plain call that reads the layout of a writer may not find one, and then
reads the slot of the parameter's own number; that one exists too, because
operators of one key show equally many inputs (`slotOf_lt_of_hasKey`).
-/
import Mathlib.Data.List.MinMax
import OpBindings.Binding.Source
import OpBindings.Proofs.OutputSlot
import OpBindings.Proofs.SplitFamily
import OpBindings.Proofs.Vocabulary

namespace OpBindings

/-- Every slot that the code of a family reads: the one that it chooses by, and
those of its calls. -/
def FamilyCall.slotReads : FamilyCall → List Nat
  | always call => call.slotReads
  | byOutput position plain writer => position :: (plain.slotReads ++ writer.slotReads)

namespace Operator

variable {o b w : Operator} {surface : Surface} {outputs : Outputs} {p : Param} {i k : Nat}

/-! ## A call in its own layout -/

/-- A slot is read for parameters that are passed by the parser. -/
theorem passed_of_mem_readEntries (h : (p, i) ∈ o.readEntries surface) :
    o.params[i]? = some p ∧ isReceiver surface p = false := by
  rcases List.mem_append.mp h with alone | gathered
  · obtain ⟨hp, reads⟩ := List.mem_filter.mp alone
    simp only [readsSlot, Bool.and_eq_true, Bool.not_eq_true'] at reads
    exact ⟨List.mem_zipIdx_iff_getElem?.mp hp, reads.2.1⟩
  · split at gathered
    · obtain ⟨hp, carries⟩ := mem_optionEntries.mp gathered
      exact ⟨hp, isReceiver_of_carriesOption carries⟩
    · cases gathered

/-- A parameter that is passed has a slot in its operator's own layout. -/
theorem slotOf_lt_of_own (hp : o.params[i]? = some p) (passed : isReceiver surface p = false) :
    o.slotOf (o.slots surface .kept) (p, i) < (o.orderedParams surface .kept).length := by
  obtain ⟨q, shown, named⟩ : ∃ q ∈ o.orderedParams surface .kept,
      q.name = if o.packsOutputs && o.isOutputAt i then "out" else p.name := by
    cases single : o.packsOutputs && o.isOutputAt i with
    | true =>
      have packs := (Bool.and_eq_true_iff.mp single).1
      obtain ⟨s, output⟩ := exists_isOutputSlot_of_packsOutputs packs surface
      have pack := output.param_eq
      rw [if_pos packs] at pack
      exact ⟨s.param, output.shown, by rw [pack]; rfl⟩
    | false =>
      exact ⟨p, mem_orderedParams_iff.mpr ⟨mem_shownParams_kept hp single, passed⟩, rfl⟩
  obtain ⟨k, found⟩ := exists_positionIn shown
  rw [slotOf, position, position?, ← named, found, Option.getD_some]
  exact positionIn_lt found

/-- The first output is looked up by the name of a slot. -/
theorem firstOutPosition?_lt (h : o.firstOutPosition? (o.slots surface outputs) = some k) :
    k < (o.orderedParams surface outputs).length := by
  obtain ⟨first, -, h⟩ := Option.bind_eq_some_iff.mp h
  obtain ⟨p, -, found⟩ := Option.bind_eq_some_iff.mp h
  exact positionIn_lt found

/-- An output that is passed has a slot. -/
theorem exists_firstOutPosition? (writes : w.hasOutputs = true)
    (passed : ∀ p ∈ w.outputParams, isReceiver surface p = false) :
    ∃ k, w.firstOutPosition? (w.slots surface .kept) = some k := by
  obtain ⟨s, output⟩ := exists_isOutputSlot_of_passed writes passed
  rw [firstOutPosition?_eq_positionIn output]
  exact exists_positionIn output.shown

/-- **A call that reads its own layout** reads slots of that layout only. -/
theorem slotReads_lt_of_call {c : NativeCall} (planned : (o.call surface).outcome = .ok c) :
    ∀ k ∈ c.slotReads, k < (o.orderedParams surface .kept).length := by
  intro k mem
  rw [slotReads_eq planned] at mem
  rcases List.mem_append.mp mem with own | pack
  · obtain ⟨⟨p, i⟩, entry, rfl⟩ := List.mem_map.mp own
    obtain ⟨hp, passed⟩ := passed_of_mem_readEntries entry
    exact slotOf_lt_of_own hp passed
  · obtain ⟨pack, hpack, rfl⟩ := Option.map_eq_some_iff.mp (Option.mem_toList.mp pack)
    unfold outputPack? at hpack
    split at hpack
    · obtain ⟨position, found, rfl⟩ := Option.map_eq_some_iff.mp hpack
      exact firstOutPosition?_lt found
    · cases hpack

/-! ## A plain call in the layout of a writer -/

/-- A layout without outputs is no longer than the one with them. -/
theorem length_orderedParams_le (o : Operator) (surface : Surface) :
    (o.orderedParams surface .elided).length ≤ (o.orderedParams surface .kept).length := by
  rw [(orderedParams_perm o surface .elided).length_eq,
    (orderedParams_perm o surface .kept).length_eq]
  cases packs : o.packsOutputs with
  | true =>
    rw [((shownParams_of_packsOutputs packs).filter _).length_eq]
    exact ((List.sublist_cons_self _ _).filter _).length_le
  | false =>
    rw [shownParams_of_not_packsOutputs packs]
    exact (shownParams_elided_sublist.filter _).length_le

/-- Where nothing is a receiver, a plain operator shows all its parameters. -/
theorem length_orderedParams_of_plain (plain : b.hasOutputs = false)
    (functions : surface.bindsMethods = false) :
    (b.orderedParams surface .elided).length = b.params.length := by
  rw [(orderedParams_perm b surface .elided).length_eq]
  simp [shownParams_of_plain plain, isReceiver, functions]

/-- **A plain operator and a writer of one key.** Each parameter that is passed
to the plain operator is read from a slot of the writer's layout, by its name or,
where the writer has no slot of that name, by its number. -/
theorem slotOf_lt_of_hasKey {r₁ r₂ : Record} (built₁ : ofRecord r₁ = .ok b)
    (built₂ : ofRecord r₂ = .ok w) (plain₁ : b.HasPlainAliases) (plain₂ : w.HasPlainAliases)
    {key : String} (key₁ : b.HasKey surface key) (key₂ : w.HasKey surface key)
    (kind : b.hasOutputs = false) (hp : b.params[i]? = some p)
    (passed : isReceiver surface p = false) :
    b.slotOf (w.slots surface .kept) (p, i) < (w.orderedParams surface .kept).length := by
  obtain ⟨s₁, h₁, text₁⟩ := key₁
  obtain ⟨s₂, h₂, text₂⟩ := key₂
  have texts := text₁.trans text₂.symm
  obtain ⟨-, faces⟩ := faces_eq_of_text_eq built₁ built₂ plain₁ plain₂ h₁ h₂ texts
  rw [slotOf_of_plain kind]
  cases found : positionIn (w.slots surface .kept) p.name with
  | some k => exact positionIn_lt found
  | none =>
    cases methods : surface.bindsMethods with
    | false =>
      have number := (List.getElem?_eq_some_iff.mp hp).1
      have same := congrArg List.length faces
      rw [List.length_map, List.length_map, length_orderedParams_of_plain kind methods] at same
      have fewer := length_orderedParams_le w surface
      rw [Option.getD_none]
      omega
    | true =>
      -- no parameter of a method is shown under another name, so the name is found
      have shown : p ∈ b.orderedParams surface .elided := by
        refine mem_orderedParams_iff.mpr ⟨?_, passed⟩
        rw [shownParams_of_plain kind]
        exact List.mem_of_getElem? hp
      obtain ⟨q, hq, face⟩ := List.mem_map.mp (faces ▸ List.mem_map_of_mem shown)
      have own : ∀ {r : Param}, isReceiver surface r = false → r.shownName = r.name := by
        intro r passed
        simp only [isReceiver, methods, Bool.true_and, beq_eq_false_iff_ne] at passed
        rw [Param.shownName, if_neg (by simpa using passed)]
      have named : q.name = p.name := by
        rw [← own (mem_orderedParams_iff.mp hq).2, ← own passed]
        exact congrArg ShownParam.name face
      obtain ⟨k, found'⟩ := exists_positionIn (mem_orderedParams_kept hq)
      rw [named, found] at found'
      cases found'

/-- The plain call of a split family reads slots of the writer's layout only. -/
theorem slotReads_lt_of_hasKey {r₁ r₂ : Record} (built₁ : ofRecord r₁ = .ok b)
    (built₂ : ofRecord r₂ = .ok w) (plain₁ : b.HasPlainAliases) (plain₂ : w.HasPlainAliases)
    {key : String} (key₁ : b.HasKey surface key) (key₂ : w.HasKey surface key)
    (kind : b.hasOutputs = false) {c : NativeCall}
    (planned : (b.callIn surface (w.slots surface .kept)).outcome = .ok c) :
    ∀ k ∈ c.slotReads, k < (w.orderedParams surface .kept).length := by
  have single : b.packsOutputs = false := by
    rw [Bool.eq_false_iff]
    intro packs
    rw [hasOutputs_of_packsOutputs packs] at kind
    cases kind
  intro k mem
  rw [slotReads_eq planned, outputPack?, if_neg (by simp [single])] at mem
  rcases List.mem_append.mp mem with own | pack
  · obtain ⟨⟨p, i⟩, entry, rfl⟩ := List.mem_map.mp own
    obtain ⟨hp, passed⟩ := (mem_readEntries_of_plain kind).mp entry
    exact slotOf_lt_of_hasKey built₁ built₂ plain₁ plain₂ key₁ key₂ kind hp passed
  · simp at pack

end Operator

/-! ## Families -/

namespace FamilyCall

variable {o : Operator} {surface : Surface} {signature : Signature} {members : Members}
  {call : FamilyCall}

/-- The call of a family with one member. -/
theorem ofMembers_alone (alone : members = .plain o ∨ members = .writer o)
    (h : (ofMembers surface members).outcome = .ok call) :
    ∃ c, call = .always c ∧ (o.call surface).outcome = .ok c := by
  rcases alone with rfl | rfl
  all_goals
    obtain ⟨c, hc, h⟩ := Run.outcome_bind.mp h
    cases h
    exact ⟨c, rfl, hc⟩

theorem slotReads_lt_of_alone (alone : members = .plain o ∨ members = .writer o)
    (shown : o.signature surface .kept = .ok signature)
    (h : (ofMembers surface members).outcome = .ok call) :
    ∀ k ∈ call.slotReads, k < signature.arity := by
  obtain ⟨-, -, count⟩ := Operator.prints_of_signature shown
  obtain ⟨c, rfl, hc⟩ := ofMembers_alone alone h
  rw [count]
  exact Operator.slotReads_lt_of_call hc

end FamilyCall

/-- **The slots that the calls of a family read** are shown by its signature. -/
theorem OverloadFamily.slotReads_lt {surface : Surface} {os : List Operator} {f : OverloadFamily}
    (built : ∀ o ∈ os, ∃ r, Operator.ofRecord r = .ok o)
    (plainAliases : ∀ o ∈ os, o.HasPlainAliases)
    (passed : ∀ o ∈ os, ∀ p ∈ o.outputParams, Operator.isReceiver surface p = false)
    (h : f.IsOf surface os) {call : FamilyCall}
    (planned : (FamilyCall.ofMembers surface f.members).outcome = .ok call) :
    ∀ k ∈ call.slotReads, k < f.signature.arity := by
  cases members : f.members with
  | plain o =>
    have here : f.plain? = some o := by simp [plain?, members, Members.plain?]
    have shown := h.alone (by simp [writer?, members, Members.writer?]) o here
    rw [← Operator.signature_kept_of_plain (h.plain o here).2.1] at shown
    exact FamilyCall.slotReads_lt_of_alone (.inl members) shown planned
  | writer w =>
    have here : f.writer? = some w := by simp [writer?, members, Members.writer?]
    exact FamilyCall.slotReads_lt_of_alone (.inr members) (h.writer w here).2.2.2 planned
  | both b w =>
    rw [members] at planned
    obtain ⟨memB, kindB, keyB⟩ := h.plain b (by simp [plain?, members, Members.plain?])
    obtain ⟨memW, kindW, keyW, shown⟩ := h.writer w (by simp [writer?, members, Members.writer?])
    obtain ⟨plain, writer, rfl, hplain, hwriter⟩ := FamilyCall.ofMembers_both planned
    obtain ⟨r₁, built₁⟩ := built b memB
    obtain ⟨r₂, built₂⟩ := built w memW
    obtain ⟨-, -, count⟩ := Operator.prints_of_signature shown
    obtain ⟨position, found⟩ := Operator.exists_firstOutPosition? kindW (passed w memW)
    rw [count, found, Option.getD_some]
    intro k mem
    rcases List.mem_cons.mp mem with rfl | mem
    · exact Operator.firstOutPosition?_lt found
    · rcases List.mem_append.mp mem with inPlain | inWriter
      · exact Operator.slotReads_lt_of_hasKey built₁ built₂ (plainAliases b memB)
          (plainAliases w memW) keyB keyW kindB hplain k inPlain
      · exact Operator.slotReads_lt_of_call hwriter k inWriter

/-! ## The code of a binding -/

namespace Binding

/-- The signatures are printed in order, one to a line. -/
theorem getElem?_signatureCode (signatures : List Signature) (k : Nat) :
    (signatureCode signatures)[k]? = signatures[k]?.map fun s =>
      .line (Code.literal s.text ++ if k + 1 < signatures.length then "," else "") := by
  induction signatures generalizing k with
  | nil => rfl
  | cons s rest ih =>
    cases rest with
    | nil => cases k <;> simp [signatureCode, Code.line]
    | cons t rest =>
      cases k with
      | zero => simp [signatureCode, Code.line]
      | succ k => simpa [signatureCode, Code.line] using ih k

/-- The cases of a switch are printed in order, numbered from the first. -/
theorem caseCode_eq (calls : List FamilyCall) (index : Nat) :
    caseCode index calls = (calls.zipIdx index).flatMap fun e =>
      Code.block ("case " ++ toString e.2 ++ ": \x7b") e.1.code "\x7d" := by
  induction calls generalizing index with
  | nil => rfl
  | cons call rest ih => rw [caseCode, ih, List.zipIdx_cons, List.flatMap_cons]

/-- The code gives the parser one signature for each arm, and then runs the arm
that the parser found: the only one there is, or the one whose number the case has. -/
structure DispatchesInOrder (b : Binding) : Prop where
  code : ∃ before between after, b.code = before ++
    Code.block "static RubyArgParser parser(\x7b" (signatureCode (b.arms.map (·.signature)))
      "\x7d);" ++ between ++ selectionCode b.selection ++ after
  signatures : ∀ k : Nat, (signatureCode (b.arms.map (·.signature)))[k]? = b.arms[k]?.map fun a =>
    .line (Code.literal a.signature.text ++ if k + 1 < b.arms.length then "," else "")
  sole : ∀ a, b.arms = [a] → b.selection = .sole a.call ∧ selectionCode b.selection = a.call.code
  switch : b.arms.length ≠ 1 → b.selection = .byIndex (b.arms.map (·.call)) ∧
    selectionCode b.selection =
      Code.block "switch (_r.idx) \x7b"
        (b.arms.zipIdx.flatMap fun e =>
          Code.block ("case " ++ toString e.2 ++ ": \x7b") e.1.call.code "\x7d")
        "\x7d" ++ Code.line "RETURN_NIL"

theorem dispatchesInOrder (b : Binding) : b.DispatchesInOrder where
  code := by
    refine ⟨Code.line ("// " ++ b.name) ++
        Code.line ("static VALUE " ++ b.symbol ++ "(int argc, VALUE* argv, VALUE self_)") ++
        Code.line "\x7b" ++ .indent :: (Code.line "HANDLE_TH_ERRORS" ++
          if b.surface.bindsMethods then
            Code.line "Tensor& self = Rice::detail::From_Ruby<Tensor&>().convert(self_);" else []),
      Code.line ("ParsedArgs<" ++ toString b.capacity ++ "> parsed_args;") ++
        Code.line ((if b.readsParser then "auto _r = " else "") ++
          "parser.parse(self_, argc, argv, parsed_args);"),
      Code.line "END_HANDLE_TH_ERRORS" ++ [.dedent] ++ Code.line "\x7d", ?_⟩
    simp only [code, FunctionPlan.code, Code.block, Code.nested, List.append_assoc,
      List.cons_append, List.nil_append]
    rfl
  signatures k := by
    rw [getElem?_signatureCode, List.getElem?_map, List.length_map, Option.map_map]
    rfl
  sole a only := by
    have selection : b.selection = .sole a.call := by rw [Binding.selection, only]
    rw [selection]
    exact ⟨rfl, rfl⟩
  switch several := by
    have selection : b.selection = .byIndex (b.arms.map (·.call)) := by
      unfold Binding.selection
      split
      · rename_i only
        rw [only] at several
        exact absurd rfl several
      · rfl
    rw [selection, selectionCode, caseCode_eq, List.zipIdx_map, List.flatMap_map]
    exact ⟨rfl, rfl⟩

/-- There is room for the arguments of every arm. -/
theorem arity_le_capacity {b : Binding} {a : Arm} (mem : a ∈ b.arms) :
    a.signature.arity ≤ b.capacity := by
  have counted : a.signature.arity ≤ (b.arms.map (·.signature.arity)).foldr max 0 :=
    List.le_max_of_le' 0 (List.mem_map_of_mem mem) (Nat.le_refl _)
  exact Nat.le_trans counted (Nat.le_max_right _ _)

end Binding

/-- The arm is that of the family: it shows the signature of the writer, or of
the plain operator where there is no writer, makes the calls that the members
ask for, and reads slots that its signature shows. -/
structure Arm.IsFor (surface : Surface) (f : OverloadFamily) (a : Arm) : Prop where
  signature : a.signature = f.signature
  writer : ∀ w, f.writer? = some w → w.signature surface .kept = .ok a.signature
  alone : f.writer? = none → ∀ o, f.plain? = some o → o.signature surface .elided = .ok a.signature
  call : (FamilyCall.ofMembers surface f.members).outcome = .ok a.call
  inBounds : ∀ k ∈ a.call.slotReads, k < a.signature.arity

/-- **The arms of a binding** are those of its families, one for one and in
order, in the code as in the plan. No arm reads past the arguments that its
signature shows, and there is room for as many as any signature shows. -/
theorem arms_of_ofFamilies {policy : LoneWriter} {name : String} {surface : Surface}
    {os : List Operator} {families : List OverloadFamily} {binding : Binding}
    (built : ∀ o ∈ os, ∃ r, Operator.ofRecord r = .ok o)
    (plainAliases : ∀ o ∈ os, o.HasPlainAliases)
    (outputs : ∀ o ∈ os, ∀ p ∈ o.outputParams, p.name ≠ "self")
    (gathered : (OverloadFamily.ofOperators policy name surface os).outcome = .ok families)
    (planned : (Binding.ofFamilies name surface families).outcome = .ok binding) :
    List.Forall₂ (Arm.IsFor surface) families binding.arms ∧
      (∀ a ∈ binding.arms, a.signature.arity ≤ binding.capacity) ∧ binding.DispatchesInOrder := by
  refine ⟨?_, fun a mem => binding.arity_le_capacity mem, binding.dispatchesInOrder⟩
  have invariant := OverloadFamily.isOf_of_ofOperators gathered
  have passed : ∀ o ∈ os, ∀ p ∈ o.outputParams, Operator.isReceiver surface p = false := by
    intro o mem p output
    simp [Operator.isReceiver, outputs o mem p output]
  obtain ⟨arms, harms, planned⟩ := Run.outcome_bind.mp planned
  obtain ⟨-, -, planned⟩ := Run.outcome_bind.mp planned
  cases planned
  refine ((List.forall₂_and_left _ _).mpr ⟨invariant, Run.outcome_each.mp harms⟩).imp ?_
  rintro f a ⟨h, harm⟩
  obtain ⟨call, hcall, harm⟩ := Run.outcome_bind.mp harm
  cases harm
  refine ⟨rfl, ?_, h.alone, hcall, ?_⟩
  · intro w hw
    exact (h.writer w hw).2.2.2
  · exact OverloadFamily.slotReads_lt built plainAliases passed h hcall

/-- One more plain operator of the name, with another key. -/
def shiftScalar : Operator where
  name := "shift.Scalar"
  text := "shift.Scalar(Tensor self, Scalar by) -> Tensor"
  params := [
    ⟨"self", "Tensor", false, none, none, false, none⟩,
    ⟨"by", "Scalar", false, none, none, false, none⟩]
  results := [⟨none, "Tensor", none⟩]
  calls := { function := true }
  moduleTag := none

theorem arms_shift : ∃ families binding,
    (OverloadFamily.ofOperators .refuse "shift" .torch [shift, shiftScalar, shiftOut]).outcome =
      .ok families ∧
    (Binding.ofFamilies "shift" .torch families).outcome = .ok binding ∧
    families.map (·.isSplit) = [false, true] ∧
    List.Forall₂ (Arm.IsFor .torch) families binding.arms ∧
    (∀ a ∈ binding.arms, a.signature.arity ≤ binding.capacity) ∧ binding.DispatchesInOrder := by
  have built : ∀ o ∈ [shift, shiftScalar, shiftOut], ∃ r, Operator.ofRecord r = .ok o := by
    simp only [List.forall_mem_cons]
    exact ⟨⟨{ declaration := shift.text }, by rfl⟩, ⟨{ declaration := shiftScalar.text }, by rfl⟩,
      ⟨{ declaration := shiftOut.text }, by rfl⟩, by simp⟩
  have plainAliases : ∀ o ∈ [shift, shiftScalar, shiftOut], o.HasPlainAliases := by
    simp [Operator.HasPlainAliases, shift, shiftScalar, shiftOut, Param.HasPlainAlias,
      Declaration.NoQuote]
  have gathered :
      (OverloadFamily.ofOperators .refuse "shift" .torch [shift, shiftScalar, shiftOut]).outcome =
        .ok [⟨"shift(Tensor input, Scalar by)", ⟨"shift(Tensor input, Scalar by)", 2⟩,
          .plain shiftScalar⟩, shiftFamily] := by rfl
  obtain ⟨binding, planned⟩ : ∃ binding,
      (Binding.ofFamilies "shift" .torch [⟨"shift(Tensor input, Scalar by)",
        ⟨"shift(Tensor input, Scalar by)", 2⟩, .plain shiftScalar⟩, shiftFamily]).outcome =
          .ok binding := ⟨_, by rfl⟩
  exact ⟨_, binding, gathered, planned, rfl,
    arms_of_ofFamilies built plainAliases (by decide) gathered planned⟩

end OpBindings
