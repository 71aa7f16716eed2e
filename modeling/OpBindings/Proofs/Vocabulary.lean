/-
OpBindings.Proofs.Vocabulary — which types a run that succeeds has looked at.

The types of an operator are looked at in three places: its key shows the
inputs, the kept signature of a writer shows the outputs as well, and a planned
call names every parameter that it passes by itself and the shape of the
result. For a member of a family the three leave no type out
(`isInVocabulary_of_callIn`). An operator that is ignored has a key only: its
results, its outputs and its receiver may be of types that nobody knows
(`Generated.isInVocabulary_of_ofTable`).
-/
import OpBindings.Proofs.BoundTable
import OpBindings.Proofs.Ledger
import OpBindings.Proofs.SplitFamily

namespace OpBindings

/-- The type of the parameter is in the vocabulary. -/
def Param.IsKnown (p : Param) : Prop := ∃ type, ParamType.ofText? p.type = some type

/-- All types of the operator are known: of its parameters, and of what it returns. -/
structure Operator.IsInVocabulary (o : Operator) : Prop where
  params : ∀ p ∈ o.params, p.IsKnown
  results : ∃ shape, ResultShape.of o = .ok shape

namespace Operator

variable {o : Operator} {surface : Surface} {outputs : Outputs}

theorem not_isInVocabulary_of_error {f : Fault} (unknown : ResultShape.of o = .error f) :
    ¬ o.IsInVocabulary := by
  rintro ⟨-, shape, known⟩
  rw [unknown] at known
  cases known

/-! ## What a signature looks at -/

/-- **A printed signature** shows known types only. -/
theorem isKnown_of_signature {s : Signature} (h : o.signature surface outputs = .ok s) {p : Param}
    (mem : p ∈ o.orderedParams surface outputs) : p.IsKnown := by
  obtain ⟨parts, hparts, -⟩ := signature_eq_ok h
  obtain ⟨part, hpart⟩ := exists_shown_of_signatureItems hparts mem
  obtain ⟨type, known, -⟩ := Param.shown_eq_ok hpart
  exact ⟨type, known⟩

/-- An operator without outputs shows as much with outputs as without. -/
theorem signature_kept_of_plain (plain : o.hasOutputs = false) (surface : Surface) :
    o.signature surface .kept = o.signature surface .elided := by
  simp only [signature, orderedParams, shownParams_of_plain plain]

/-! ## What a call looks at -/

/-- A parameter that a call passes by itself is of a known type. -/
theorem isKnown_of_callIn {layout : List Slot} {c : NativeCall}
    (planned : (o.callIn surface layout).outcome = .ok c) {p : Param} (mem : p ∈ o.params)
    (alone : o.passesAlone p = true) : p.IsKnown := by
  obtain ⟨i, hi⟩ := List.mem_iff_getElem?.mp mem
  obtain ⟨d, -, hd⟩ := forall₂_mem_left (callIn_eq_ok planned).1 (mem_dispatched.mpr ⟨hi, alone⟩)
  obtain ⟨native, hnative, -⟩ := bind_eq_ok.mp hd
  obtain ⟨type, htype, -⟩ := bind_eq_ok.mp hnative
  unfold ParamType.of at htype
  split at htype
  · rename_i known
    exact ⟨_, known⟩
  · cases htype

/-- An output that is packed is a tensor. -/
theorem isKnown_of_packed {p : Param} {i : Nat} (hp : o.params[i]? = some p)
    (packed : (o.packsOutputs && o.isOutputAt i) = true) : p.IsKnown := by
  obtain ⟨packs, output⟩ := Bool.and_eq_true_iff.mp packed
  obtain ⟨first, last, span, -⟩ := outSpan?_of_hasOutputs (hasOutputs_of_packsOutputs packs)
  have mem : p ∈ o.outputParams := by
    rw [isOutputAt_eq span, Bool.and_eq_true, decide_eq_true_iff, decide_eq_true_iff] at output
    refine List.mem_iff_getElem?.mpr ⟨i - first, ?_⟩
    rw [outputParams_getElem? span, if_pos (by omega), Nat.add_sub_cancel' output.1, hp]
  have tensors : o.outputParams.all (·.type == "Tensor") = true := by
    simp only [packsOutputs, Bool.and_eq_true] at packs
    exact packs.1.2
  have type : p.type = "Tensor" := by simpa using List.all_eq_true.mp tensors p mem
  exact ⟨.tensor, type ▸ rfl⟩

/-- **A member's types are all known**: its signature was printed with the
outputs, and its call was planned. -/
theorem isInVocabulary_of_callIn {s : Signature} (kept : o.signature surface .kept = .ok s)
    {layout : List Slot} {c : NativeCall} (planned : (o.callIn surface layout).outcome = .ok c) :
    o.IsInVocabulary where
  params := by
    intro p mem
    cases alone : o.passesAlone p with
    | true => exact isKnown_of_callIn planned mem alone
    | false =>
      -- a gathered option is no receiver, so the signature shows it or its pack
      have carries : p.carriesOption = true := by
        simp only [passesAlone, Bool.not_eq_false', Bool.and_eq_true] at alone
        exact alone.2
      obtain ⟨i, hi⟩ := List.mem_iff_getElem?.mp mem
      cases single : o.packsOutputs && o.isOutputAt i with
      | true => exact isKnown_of_packed hi single
      | false =>
        exact isKnown_of_signature kept (mem_orderedParams_iff.mpr
          ⟨mem_shownParams_kept hi single, isReceiver_of_carriesOption carries⟩)
  results := by
    obtain ⟨-, returns, -, shape, -⟩ := exists_of_callIn planned
    exact ⟨returns, shape⟩

end Operator

/-! ## The members of families -/

/-- The calls of a family are planned for each of its members. -/
theorem FamilyCall.exists_callIn {surface : Surface} {members : Members} {call : FamilyCall}
    (h : (ofMembers surface members).outcome = .ok call) {o : Operator}
    (mem : o ∈ members.operators) : ∃ layout c, (o.callIn surface layout).outcome = .ok c := by
  cases members with
  | plain p =>
    obtain rfl := List.mem_singleton.mp mem
    obtain ⟨c, planned, -⟩ := Run.outcome_bind.mp h
    exact ⟨_, c, planned⟩
  | writer w =>
    obtain rfl := List.mem_singleton.mp mem
    obtain ⟨c, planned, -⟩ := Run.outcome_bind.mp h
    exact ⟨_, c, planned⟩
  | both p w =>
    obtain ⟨plain, writer, -, hplain, hwriter⟩ := ofMembers_both h
    simp only [Members.operators, List.mem_cons, List.not_mem_nil, or_false] at mem
    rcases mem with rfl | rfl
    · exact ⟨_, plain, hplain⟩
    · exact ⟨_, writer, hwriter⟩

/-- **The members of the families of a binding** are in the vocabulary. -/
theorem OverloadFamily.isInVocabulary_of_ofFamilies {policy : LoneWriter} {name : String}
    {surface : Surface} {os : List Operator} {families : List OverloadFamily} {binding : Binding}
    (gathered : (ofOperators policy name surface os).outcome = .ok families)
    (made : (Binding.ofFamilies name surface families).outcome = .ok binding)
    {f : OverloadFamily} (hf : f ∈ families) {o : Operator} (mem : o ∈ f.members.operators) :
    o.IsInVocabulary := by
  have isOf := isOf_of_ofOperators gathered f hf
  obtain ⟨k, hk⟩ := List.mem_iff_getElem?.mp hf
  obtain ⟨call, hcall, -⟩ := Binding.arm_of_ofFamilies made hk
  obtain ⟨layout, c, planned⟩ := FamilyCall.exists_callIn hcall mem
  rcases mem_operators_iff.mp mem with plain | writer
  · obtain ⟨-, kind, s, keyed, -⟩ := isOf.plain o plain
    rw [← Operator.signature_kept_of_plain kind] at keyed
    exact Operator.isInVocabulary_of_callIn keyed planned
  · obtain ⟨-, -, -, kept⟩ := isOf.writer o writer
    exact Operator.isInVocabulary_of_callIn kept planned

/-! ## A run -/

/-- The operator is ignored on a surface: no family of its name there has it for
a member, and a warning names it. -/
def Operator.IsIgnoredOn (o : Operator) (surface : Surface) (g : Generated) (j : Journal) : Prop :=
  ∃ b ∈ g.surfaces, b.surface = surface ∧ ∃ binding ∈ b.bindings, binding.name = o.baseName ∧
    ∃ families, (Binding.ofFamilies o.baseName surface families).outcome = .ok binding ∧
      (∀ f ∈ families, o ∉ f.members.operators) ∧ ∃ n ∈ j.notes, n.Ignores o

namespace Generated

/-- **The types of every operator that is bound are known.** Where a run
succeeds, an operator that goes to a chosen surface is in the vocabulary or is
ignored there; and the inputs that its key shows are known in any case. -/
theorem isInVocabulary_of_ofTable {settings : Settings} {rs : List Record} {g : Generated}
    (made : (ofTable settings (pure rs)).outcome = .ok g) :
    ∃ os, List.Forall₂ (fun r o => Operator.ofRecord r = .ok o) rs os ∧
      ∀ o ∈ os, ∀ surface ∈ settings.surfaces, o.GoesTo surface →
        (∀ p ∈ o.orderedParams surface .elided, p.IsKnown) ∧
        (o.IsInVocabulary ∨ o.IsIgnoredOn surface g (ofTable settings (pure rs)).journal) := by
  obtain ⟨os, read, -, bound, -⟩ := bound_of_ofTable made
  refine ⟨os, read, fun o mem surface chosen goes => ?_⟩
  obtain ⟨b, hb, rfl, isBound⟩ := forall₂_mem_left bound chosen
  obtain ⟨binding, hbinding, named, families, gathered, noted, made⟩ :=
    isBound.exists_binding (mem_sorted.mpr mem) goes
  have here : o ∈ namesakes (sorted os) b.surface o.baseName :=
    mem_namesakes.mpr ⟨mem_sorted.mpr mem, goes, rfl⟩
  refine ⟨fun p shown => ?_, ?_⟩
  · obtain ⟨f, ⟨-, -, s, keyed, -⟩, -⟩ := OverloadFamily.existsUnique_takes gathered here
    exact Operator.isKnown_of_signature keyed shown
  · by_cases member : ∃ f ∈ families, o ∈ f.members.operators
    · obtain ⟨f, hf, member⟩ := member
      exact .inl (OverloadFamily.isInVocabulary_of_ofFamilies gathered made hf member)
    · obtain ⟨ignored, account⟩ := OverloadFamily.isAccount_of_ofOperators gathered noted
      have out : o ∈ ignored := by
        rcases account.owned o here with ⟨f, member', -⟩ | out
        · exact absurd ⟨f, member'⟩ member
        · exact out
      obtain ⟨notes, sublist, names⟩ := account.noted
      obtain ⟨n, hn, ignores⟩ := forall₂_mem_right names out
      refine .inr ⟨b, hb, rfl, binding, hbinding, named, families, made, ?_, n,
        sublist.mem hn, ignores⟩
      exact fun f hf owns => member ⟨f, hf, owns⟩

/-- A second operator of one key, which returns what nobody knows. -/
def strangeRecord : Record where
  declaration := "abs.alias(Tensor self) -> Quaternion"

@[inherit_doc strangeRecord]
def strangeOperator : Operator where
  name := "abs.alias"
  text := "abs.alias(Tensor self) -> Quaternion"
  params := absOperator.params
  results := [⟨none, "Quaternion", none⟩]
  calls := { function := true }
  moduleTag := none

theorem resultShape_strange :
    ResultShape.of strangeOperator = .error (.foreignResults ["Quaternion"] "abs.alias") := by rfl

/-- The second operator is read and routed like the first, and the run succeeds. -/
theorem exists_ofTable_strange :
    List.Forall₂ (fun r o => Operator.ofRecord r = .ok o) [absRecord, strangeRecord]
      [absOperator, strangeOperator] ∧
    ∃ g, (ofTable {} (pure [absRecord, strangeRecord])).outcome = .ok g := by
  have read : List.Forall₂ (fun r o => Operator.ofRecord r = .ok o) [absRecord, strangeRecord]
      [absOperator, strangeOperator] := .cons (by rfl) (.cons (by rfl) .nil)
  have scope : kept [absOperator, strangeOperator] = [absOperator, strangeOperator] := by rfl
  have known : ∀ o ∈ kept [absOperator, strangeOperator], o.IsRouted := by
    rw [scope]
    simp only [List.forall_mem_cons]
    exact ⟨rfl, rfl, by simp⟩
  obtain ⟨bound, surfaces⟩ : ∃ bound, (Run.each (bindSurface .refuse
      (Routing.whole (kept [absOperator, strangeOperator]))) Surface.all).outcome = .ok bound := by
    rw [scope]
    exact ⟨_, by rfl⟩
  obtain ⟨g, made, -⟩ := exists_ofTable {} read (by decide) known surfaces
  exact ⟨read, g, made⟩

/-- Of two operators of one key, the first is known and the second is ignored. -/
theorem isInVocabulary_abs : ∃ g, (ofTable {} (pure [absRecord, strangeRecord])).outcome = .ok g ∧
    absOperator.GoesTo .torch ∧ strangeOperator.GoesTo .torch ∧
    (∀ o ∈ [absOperator, strangeOperator], ∀ p ∈ o.orderedParams .torch .elided, p.IsKnown) ∧
    absOperator.IsInVocabulary ∧
    strangeOperator.IsIgnoredOn .torch g (ofTable {} (pure [absRecord, strangeRecord])).journal := by
  obtain ⟨read, g, made⟩ := exists_ofTable_strange
  obtain ⟨os, read', types⟩ := isInVocabulary_of_ofTable made
  obtain rfl := read_unique read' read
  have goes : ∀ o ∈ [absOperator, strangeOperator], o.GoesTo .torch := by decide
  have first : absOperator ∈ [absOperator, strangeOperator] := List.mem_cons_self
  have second : strangeOperator ∈ [absOperator, strangeOperator] :=
    List.mem_cons_of_mem _ List.mem_cons_self
  have known : absOperator.IsInVocabulary :=
    ⟨List.forall_mem_singleton.mpr ⟨.tensor, rfl⟩, _, by rfl⟩
  have ignored := (types _ second .torch (Surface.mem_all _) (goes _ second)).2.resolve_left
    (Operator.not_isInVocabulary_of_error resultShape_strange)
  exact ⟨g, made, goes _ first, goes _ second,
    fun o mem => (types o mem .torch (Surface.mem_all _) (goes o mem)).1, known, ignored⟩

/-- The run succeeds although the result of an operator in scope is unknown. -/
theorem not_isInVocabulary_strange : ∃ g,
    (ofTable {} (pure [absRecord, strangeRecord])).outcome = .ok g ∧
      Operator.ofRecord strangeRecord = .ok strangeOperator ∧ strangeOperator.GoesTo .torch ∧
      ResultShape.of strangeOperator = .error (.foreignResults ["Quaternion"] "abs.alias") ∧
      ¬ strangeOperator.IsInVocabulary := by
  obtain ⟨-, g, made⟩ := exists_ofTable_strange
  exact ⟨g, made, by rfl, by decide, resultShape_strange,
    Operator.not_isInVocabulary_of_error resultShape_strange⟩

end Generated

end OpBindings
