/-
OpBindings.Proofs.MatchingWriter — a plain operator and its writer meet.

A writer that matches a plain operator declares what that one does and a block
of outputs somewhere among it (`AddsOutputs`). Leaving out the outputs undoes
this: what the writer shows then is what the plain operator has, the gradient
flag included, because outputs are no options and so do not change whether the
flag is added. Whether a type is shown depends on the type alone, not on the
operator, so both have one key (`merges_of_addsOutputs`).
-/
import OpBindings.Proofs.OutputPack
import OpBindings.Proofs.OutputSpan
import OpBindings.Proofs.Vocabulary

namespace OpBindings

/-- `e` declares what `d` does, and a block of outputs somewhere among it: one
for each result, of known types, and none with the name of an option. -/
structure Declaration.AddsOutputs (d e : Declaration) : Prop where
  baseName : baseNameOf e.name = baseNameOf d.name
  results : e.results.length = d.results.length
  params : ∃ before outputs after, d.params = before ++ after ∧
    e.params = before ++ outputs ++ after ∧ outputs.length = d.results.length ∧
    ∀ p ∈ outputs, p.isMutated = true ∧ p.IsKnown ∧ p.carriesOption = false

/-- **The two operators meet** on a surface, where the plain one has the signature
`s`: it is the key of both, and they make one family in whichever order they come. -/
structure Operator.Merges (o w : Operator) (surface : Surface) (s : Signature) : Prop where
  plain : o.hasOutputs = false ∧ o.signature surface .elided = .ok s
  writer : w.hasOutputs = true ∧ w.signature surface .elided = .ok s
  /-- Nothing is noted but that they were grouped. -/
  family : ∃ own, w.signature surface .kept = .ok own ∧
    ∀ policy name os, os = [o, w] ∨ os = [w, o] →
      OverloadFamily.ofOperators policy name surface os =
        ⟨[.note (.grouped name surface 1)], .ok [⟨s.text, own, .both o w⟩]⟩

/-! ## Known types are shown -/

/-- What is shown of a parameter of a known type does not depend on the operator. -/
theorem Param.exists_shown {p : Param} (known : p.IsKnown) :
    ∃ item, ∀ o, p.shown o = .ok item := by
  obtain ⟨type, known⟩ := known
  have found : ∀ o, ParamType.of p o = .ok type := fun o => by simp only [ParamType.of, known]
  simp only [Param.shown, Param.shownType, found]
  exact ⟨_, fun _ => rfl⟩

namespace Operator

variable {o w : Operator} {surface : Surface}

theorem exists_signatureItems {ps : List Param} (known : ∀ p ∈ ps, p.IsKnown) (byName : Bool) :
    ∃ items, ∀ o : Operator, o.signatureItems byName ps = .ok items := by
  induction ps generalizing byName with
  | nil => exact ⟨[], fun _ => rfl⟩
  | cons p ps ih =>
    obtain ⟨known, rest⟩ := List.forall_mem_cons.mp known
    obtain ⟨item, hitem⟩ := Param.exists_shown known
    obtain ⟨items, hitems⟩ := ih rest (byName || p.keywordOnly)
    simp only [signatureItems, hitem, hitems]
    exact ⟨_, fun _ => rfl⟩

/-- **A signature can be printed** where all types that it shows are known. -/
theorem exists_signature {outputs : Outputs}
    (known : ∀ p ∈ o.orderedParams surface outputs, p.IsKnown) :
    ∃ s, o.signature surface outputs = .ok s := by
  obtain ⟨items, hitems⟩ := exists_signatureItems known false
  simp only [signature, hitems]
  exact ⟨_, rfl⟩

/-- Two operators of one base name that show the same have the same signature. -/
theorem signature_eq_of_shownParams_eq {outputs outputs' : Outputs} {s : Signature}
    (names : w.baseName = o.baseName) (shown : w.shownParams outputs' = o.shownParams outputs)
    (h : o.signature surface outputs = .ok s) : w.signature surface outputs' = .ok s := by
  refine signature_eq_of_faces_eq names ?_ h
  simp only [orderedParams, shown]

end Operator

/-! ## One key, one family -/

namespace OverloadFamily

/-- **A plain operator and a writer of one key** make one family, in either order. -/
theorem ofOperators_pair {o w : Operator} {surface : Surface} {s own : Signature}
    (plain : o.hasOutputs = false) (writes : w.hasOutputs = true)
    (key : o.signature surface .elided = .ok s) (keyOut : w.signature surface .elided = .ok s)
    (kept : w.signature surface .kept = .ok own) (policy : LoneWriter) (name : String)
    {os : List Operator} (order : os = [o, w] ∨ os = [w, o]) :
    ofOperators policy name surface os =
      ⟨[.note (.grouped name surface 1)], .ok [⟨s.text, own, .both o w⟩]⟩ := by
  have done : ∀ a : Signature, Run.lift (.ok a) = pure a := fun _ => rfl
  have gathered : gather surface [] os = pure [⟨s.text, own, .both o w⟩] := by
    rcases order with rfl | rfl
    · simp [gather, insert, first, add, addWriter, plain, writes, key, keyOut, kept, done]
    · simp [gather, insert, first, add, addPlain, plain, writes, key, keyOut, kept, done]
  rw [ofOperators, gathered]
  rfl

end OverloadFamily

/-! ## The matching writer -/

/-- Outputs that carry no option do not change whether the gradient flag is added. -/
theorem gradientFlag_outputs {before outputs after : List Param}
    (apart : ∀ p ∈ outputs, p.carriesOption = false) :
    gradientFlag (before ++ outputs ++ after) = gradientFlag (before ++ after) := by
  have supplied : outputs.countP (·.isSuppliedOption) = 0 := by
    refine List.countP_eq_zero.mpr fun p mem => ?_
    have none : p.option? = none := by simpa [Param.carriesOption] using apart p mem
    simp [Param.isSuppliedOption, none]
  have unnamed : outputs.any (·.name == "requires_grad") = false := by
    refine List.any_eq_false.mpr fun p mem named => ?_
    have carries : p.carriesOption = true := by
      rw [Param.carriesOption, Param.option?, beq_iff_eq.mp named]
      decide
    rw [apart p mem] at carries
    cases carries
  simp [gradientFlag, List.countP_append, List.any_append, supplied, unnamed]

section

variable {r r' : Record} {d e : Declaration} {o w : Operator}

theorem Operator.isInPlace_eq (names : w.baseName = o.baseName) : w.isInPlace = o.isInPlace := by
  have chars : baseCharsOf w.name = baseCharsOf o.name := String.ofList_injective names
  rw [isInPlace, isInPlace, chars]

/-- The outputs of the matching writer stand in a block between the parameters of
the plain operator, those that the table's rules add included. -/
theorem Declaration.AddsOutputs.exists_splitsAs (adds : d.AddsOutputs e) (made : o.IsMadeFrom r d)
    (made' : w.IsMadeFrom r' e) (unwritten : ∀ p ∈ o.params, p.isMutated = false) :
    ∃ before outputs after, w.SplitsAs before outputs after ∧ o.params = before ++ after ∧
      ∀ p ∈ outputs, p.IsKnown := by
  obtain ⟨before, outputs, after, hd, he, each, outs⟩ := adds.params
  have names : w.baseName = o.baseName := by rw [made'.baseName, made.baseName, adds.baseName]
  have params : o.params = before.map (Param.settle w.baseName) ++
      (after.map (Param.settle w.baseName) ++ gradientFlag e.params) := by
    rw [made.params, hd, he, names, gradientFlag_outputs fun p mem => (outs p mem).2.2]
    simp
  have early : ∀ p ∈ before, p.isMutated = false := by
    intro p mem
    have place : p.settle w.baseName ∈ o.params :=
      params ▸ List.mem_append_left _ (List.mem_map_of_mem mem)
    exact unwritten (p.settle w.baseName) place
  have block := made'.splitsAs he early (fun p mem => (outs p mem).1) (each.trans adds.results.symm)
  exact ⟨_, _, _, block, params, List.forall_mem_map.mpr fun p mem => (outs p mem).2.1⟩

/-- A writer shows known types, where its outputs are of known types and the
operator that has the other parameters has a signature. -/
theorem Operator.SplitsAs.isKnown {before outputs after : List Param}
    (block : w.SplitsAs before outputs after) (known : ∀ p ∈ outputs, p.IsKnown)
    (params : o.params = before ++ after) (plain : o.hasOutputs = false) {surface : Surface}
    {s : Signature} (printed : o.signature surface .kept = .ok s) :
    ∀ p ∈ w.orderedParams surface .kept, p.IsKnown := by
  intro p mem
  obtain ⟨-, passed⟩ := mem_orderedParams_iff.mp mem
  rcases mem_orderedParams mem with mem | rfl
  · have place : p ∈ outputs ∨ p ∈ o.params := by
      rw [block.params, List.mem_append, List.mem_append] at mem
      rw [params, List.mem_append]
      rcases mem with (early | output) | late
      · exact .inr (.inl early)
      · exact .inl output
      · exact .inr (.inr late)
    rcases place with output | input
    · exact known p output
    · refine isKnown_of_signature printed (mem_orderedParams_iff.mpr ⟨?_, passed⟩)
      rwa [shownParams_of_plain plain]
  · exact ⟨.tensorList, ParamType.ofText?_tensors _⟩

/-- **A plain operator and its writer always meet.** Let an operator of the table
return something, write to nothing and not work in place, and let another be
declared with the same base name, as many results, and an output for each of them
put somewhere among the parameters. Wherever the first one has a signature, the
second has the same one without its outputs, and the two make one family. -/
theorem merges_of_addsOutputs (made : o.IsMadeFrom r d) (made' : w.IsMadeFrom r' e)
    (adds : d.AddsOutputs e) (returns : d.results ≠ []) (inPlace : o.isInPlace = false)
    (plain : o.hasOutputs = false) {surface : Surface} {s : Signature}
    (printed : o.signature surface .kept = .ok s) : o.Merges w surface s := by
  have names : w.baseName = o.baseName := by rw [made'.baseName, made.baseName, adds.baseName]
  have inPlace' : w.isInPlace = false := by rw [Operator.isInPlace_eq names, inPlace]
  have returns' : w.results ≠ [] := by
    rw [made'.results, ← List.length_pos_iff, adds.results, List.length_pos_iff]
    exact returns
  have unwritten := Operator.isMutated_of_plain inPlace (made.results ▸ returns) plain
  obtain ⟨before, outputs, after, block, params, known⟩ := adds.exists_splitsAs made made' unwritten
  have writes := block.hasOutputs inPlace' returns'
  -- leaving out the outputs undoes the insertion
  have shown : w.shownParams .elided = o.shownParams .kept := by
    rw [block.shownParams_elided inPlace' returns', Operator.shownParams_of_plain plain, params]
  have keyOut := Operator.signature_eq_of_shownParams_eq names shown printed
  obtain ⟨own, kept⟩ := Operator.exists_signature (block.isKnown known params plain printed)
  have key : o.signature surface .elided = .ok s := by
    rw [← Operator.signature_kept_of_plain plain, printed]
  refine ⟨⟨plain, key⟩, ⟨writes, keyOut⟩, own, kept, fun policy name os order => ?_⟩
  exact OverloadFamily.ofOperators_pair plain writes key keyOut kept policy name order

end

-- a declaration is read as the list of its characters, and the ones below are long
set_option maxRecDepth 1000

/-- The declaration of `stackDeclaration` without its outputs. -/
def plainStackDeclaration : Declaration where
  name := "stack"
  params := stackDeclaration.params.take 1 ++ stackDeclaration.params.drop 3
  results := stackDeclaration.results

@[inherit_doc plainStackDeclaration]
def plainStack : Operator := Operator.ofDeclaration
  "stack(Tensor self, *, ScalarType dtype, Layout layout, Device device, bool pin_memory) -> (Tensor, Tensor)"
  plainStackDeclaration { function := true, method := true } none

/-- On the tensor the receiver is dropped, and the gradient flag stands at the end
of both. -/
theorem merges_stack : plainStackDeclaration.AddsOutputs stackDeclaration ∧
    plainStack.Merges stackOut .tensor
      ⟨"stack(*, ScalarType dtype, Layout layout, Device device, bool pin_memory, bool requires_grad=False)", 5⟩ := by
  have made : plainStack.IsMadeFrom
      { declaration := plainStack.text, variants := some (.oneText "function, method") }
      plainStackDeclaration := Operator.isMadeFrom_ofDeclaration (by decide +kernel) (by rfl)
  have adds : plainStackDeclaration.AddsOutputs stackDeclaration := by
    refine ⟨by decide, rfl, stackDeclaration.params.take 1,
      (stackDeclaration.params.take 3).drop 1, stackDeclaration.params.drop 3, rfl, by decide,
      rfl, ?_⟩
    exact List.forall_mem_cons.mpr ⟨⟨rfl, ⟨.tensor, rfl⟩, by decide⟩,
      List.forall_mem_cons.mpr ⟨⟨rfl, ⟨.tensor, rfl⟩, by decide⟩, by simp⟩⟩
  exact ⟨adds, merges_of_addsOutputs made isMadeFrom_stackOut adds (by decide) (by decide)
    (by decide) (by rfl)⟩

end OpBindings
