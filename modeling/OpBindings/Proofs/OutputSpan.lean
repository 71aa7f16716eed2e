/-
OpBindings.Proofs.OutputSpan — which parameters count as outputs.

Outputs are not told one by one. They are a span of the parameters, from the
first written one on and as long as the list of results, as far as there are
parameters. `SplitsAs` is the layout that this is made for: a block of written
parameters, one for each result, and none written before it. Then the span is
the block, and leaving out the outputs leaves what stands around it.

The table may hold other layouts. `spansWritten_iff` says for which declarations
the outputs are the written parameters, one for each result; elsewhere an input
is taken for an output or an output is left among the inputs
(`not_spansWritten_sortBy`).
-/
import OpBindings.Proofs.OutputSlot

namespace OpBindings

/-- The written parameters stand together, and there is one for each result. -/
def Declaration.WritesTogether (d : Declaration) : Prop :=
  ∃ before outputs after, d.params = before ++ outputs ++ after ∧
    outputs.length = d.results.length ∧ (∀ p ∈ outputs, p.isMutated = true) ∧
    ∀ p ∈ before ++ after, p.isMutated = false

/-- **The outputs are the written parameters**, one for each result. -/
structure Operator.SpansWritten (o : Operator) : Prop where
  written : ∀ i p, o.params[i]? = some p → (o.isOutputAt i = true ↔ p.isMutated = true)
  each : o.outputParams.length = o.results.length
  /-- Leaving them out removes every written parameter and no other. -/
  elided : o.shownParams .elided = o.params.filter (!·.isMutated)

namespace Operator

variable {o : Operator} {r : Record} {d : Declaration} {i : Nat}

/-! ## The first output -/

theorem firstOut?_eq (inPlace : o.isInPlace = false) (returns : o.results ≠ []) :
    o.firstOut? = o.params.findIdx? (·.isMutated) := by
  simp [firstOut?, inPlace, returns]

/-- An operator with outputs returns something and does not work in place. -/
theorem returns_of_hasOutputs (writes : o.hasOutputs = true) :
    o.isInPlace = false ∧ o.results ≠ [] := by
  unfold hasOutputs firstOut? at writes
  split at writes
  · cases writes
  · rename_i returns
    simpa using returns

/-- An operator that returns something is plain where it writes to nothing. -/
theorem isMutated_of_plain (inPlace : o.isInPlace = false) (returns : o.results ≠ [])
    (plain : o.hasOutputs = false) : ∀ p ∈ o.params, p.isMutated = false := by
  rw [hasOutputs, firstOut?_eq inPlace returns, Option.isSome_eq_false_iff,
    Option.isNone_iff_eq_none, List.findIdx?_eq_none_iff] at plain
  exact plain

/-! ## A block of outputs -/

/-- The parameters are a block of written ones, one for each result, between
others, and none before the block is written. -/
structure SplitsAs (o : Operator) (before outputs after : List Param) : Prop where
  params : o.params = before ++ outputs ++ after
  unwritten : ∀ p ∈ before, p.isMutated = false
  written : ∀ p ∈ outputs, p.isMutated = true
  each : outputs.length = o.results.length

namespace SplitsAs

variable {before outputs after : List Param}

/-- **The span of the outputs** is the block. -/
theorem outSpan?_eq (h : o.SplitsAs before outputs after) (inPlace : o.isInPlace = false)
    (returns : o.results ≠ []) :
    o.outSpan? = some (before.length, before.length + outputs.length) := by
  obtain ⟨output, outputs, rfl⟩ : ∃ output rest, outputs = output :: rest := by
    refine List.exists_cons_of_ne_nil fun empty => returns ?_
    rw [← List.length_eq_zero_iff, ← h.each, empty, List.length_nil]
  have early : before.findIdx? (·.isMutated) = none := List.findIdx?_eq_none_iff.mpr h.unwritten
  have first : o.firstOut? = some before.length := by
    rw [firstOut?_eq inPlace returns, h.params, List.append_assoc, List.findIdx?_append, early,
      List.cons_append, List.findIdx?_cons, h.written output List.mem_cons_self]
    simp
  have inside : before.length + o.results.length ≤ o.params.length := by
    rw [h.params, ← h.each]
    simp
  rw [outSpan?, first, Option.map_some, Nat.min_eq_left inside, h.each]

theorem hasOutputs (h : o.SplitsAs before outputs after) (inPlace : o.isInPlace = false)
    (returns : o.results ≠ []) : o.hasOutputs = true := by
  have span := h.outSpan?_eq inPlace returns
  cases plain : o.hasOutputs with
  | true => rfl
  | false => rw [outSpan?_eq_none plain] at span; cases span

theorem outputParams_eq (h : o.SplitsAs before outputs after) (inPlace : o.isInPlace = false)
    (returns : o.results ≠ []) : o.outputParams = outputs := by
  rw [outputParams, h.outSpan?_eq inPlace returns, h.params]
  simp [List.take_append]

/-- Without the outputs the others are shown. -/
theorem shownParams_elided (h : o.SplitsAs before outputs after) (inPlace : o.isInPlace = false)
    (returns : o.results ≠ []) : o.shownParams .elided = before ++ after := by
  rw [shownParams, h.outSpan?_eq inPlace returns, h.params]
  simp [List.drop_append]

/-- **The block is what is written**, where nothing after it is. -/
theorem spansWritten (h : o.SplitsAs before outputs after) (inPlace : o.isInPlace = false)
    (returns : o.results ≠ []) (rest : ∀ p ∈ after, p.isMutated = false) : o.SpansWritten where
  written := by
    intro i p hp
    rw [isOutputAt_eq (h.outSpan?_eq inPlace returns), Bool.and_eq_true, decide_eq_true_iff,
      decide_eq_true_iff]
    rw [h.params, List.append_assoc, List.getElem?_append] at hp
    split at hp
    · rw [h.unwritten p (List.mem_of_getElem? hp)]
      simp
      omega
    · rw [List.getElem?_append] at hp
      split at hp
      · rw [h.written p (List.mem_of_getElem? hp)]
        simp
        omega
      · rw [rest p (List.mem_of_getElem? hp)]
        simp
        omega
  each := by rw [h.outputParams_eq inPlace returns, h.each]
  elided := by
    have kept : ∀ {ps : List Param}, (∀ p ∈ ps, p.isMutated = false) →
        ps.filter (!·.isMutated) = ps := fun all => by simpa [List.filter_eq_self] using all
    have removed : outputs.filter (!·.isMutated) = [] := by
      simpa [List.filter_eq_nil_iff] using h.written
    rw [h.shownParams_elided inPlace returns, h.params, List.filter_append, List.filter_append,
      kept h.unwritten, kept rest, removed, List.append_nil]

end SplitsAs

/-! ## Declarations -/

/-- A block of a declaration is a block of its operator; the gradient flag may follow. -/
theorem IsMadeFrom.splitsAs (made : o.IsMadeFrom r d) {before outputs after : List Param}
    (params : d.params = before ++ outputs ++ after)
    (unwritten : ∀ p ∈ before, p.isMutated = false) (written : ∀ p ∈ outputs, p.isMutated = true)
    (each : outputs.length = d.results.length) :
    o.SplitsAs (before.map (Param.settle o.baseName)) (outputs.map (Param.settle o.baseName))
      (after.map (Param.settle o.baseName) ++ gradientFlag d.params) where
  params := by rw [made.params, params]; simp
  unwritten := List.forall_mem_map.mpr unwritten
  written := List.forall_mem_map.mpr written
  each := by rw [List.length_map, each, made.results]

theorem IsMadeFrom.getElem?_params (made : o.IsMadeFrom r d) {q : Param}
    (hq : d.params[i]? = some q) : o.params[i]? = some (q.settle o.baseName) := by
  have inside := (List.getElem?_eq_some_iff.mp hq).1
  rw [made.params, List.getElem?_append_left (by simpa using inside), List.getElem?_map, hq]
  rfl

/-- The gradient flag is no output where outputs are written. -/
theorem SpansWritten.last_le (spans : o.SpansWritten) (made : o.IsMadeFrom r d) {first last : Nat}
    (span : o.outSpan? = some (first, last)) : last ≤ d.params.length := by
  have bounds := outSpan?_bounds span
  by_contra beyond
  obtain ⟨p, place⟩ : ∃ p, o.params[last - 1]? = some p :=
    ⟨_, List.getElem?_eq_getElem (by omega)⟩
  have output : o.isOutputAt (last - 1) = true := by
    rw [isOutputAt_eq span]
    simp
    omega
  have written := (spans.written _ _ place).mp output
  rw [made.params, List.getElem?_append_right (by simp; omega)] at place
  rw [eq_requiresGradParam_of_mem_gradientFlag (List.mem_of_getElem? place)] at written
  cases written

/-- **Where the outputs are what is written**, the declaration writes together. -/
theorem SpansWritten.writesTogether (spans : o.SpansWritten) (made : o.IsMadeFrom r d)
    (writes : o.hasOutputs = true) : d.WritesTogether := by
  obtain ⟨first, last, span, -⟩ := outSpan?_of_hasOutputs writes
  have bounds := outSpan?_bounds span
  have inside := spans.last_le made span
  have marked : ∀ i q, d.params[i]? = some q →
      q.isMutated = (decide (first ≤ i) && decide (i < last)) := by
    intro i q hq
    rw [← isOutputAt_eq span, Bool.eq_iff_iff]
    exact (spans.written i _ (made.getElem?_params hq)).symm
  refine ⟨d.params.take first, (d.params.take last).drop first, d.params.drop last, ?_, ?_, ?_, ?_⟩
  · have start : d.params.take first = (d.params.take last).take first := by
      rw [List.take_take, Nat.min_eq_left (by omega)]
    rw [start, List.take_append_drop, List.take_append_drop]
  · have each := spans.each
    rw [length_outputParams span, made.results] at each
    rw [List.length_drop, List.length_take, ← each]
    omega
  · intro q mem
    obtain ⟨j, hj⟩ := List.mem_iff_getElem?.mp mem
    rw [List.getElem?_drop, List.getElem?_take] at hj
    split at hj
    · rw [marked _ q hj]
      simp
      omega
    · cases hj
  · intro q mem
    rcases List.mem_append.mp mem with mem | mem
    · obtain ⟨j, hj⟩ := List.mem_iff_getElem?.mp mem
      rw [List.getElem?_take] at hj
      split at hj
      · rw [marked _ q hj]
        simp
        omega
      · cases hj
    · obtain ⟨j, hj⟩ := List.mem_iff_getElem?.mp mem
      rw [List.getElem?_drop] at hj
      rw [marked _ q hj]
      simp

end Operator

/-- **When the outputs are the written parameters.** For an operator of the
table that writes its results into arguments, the outputs are exactly the written
parameters, one for each result, and leaving them out removes these and no other
parameter, if and only if the written parameters of the declaration stand together
and are as many as its results. -/
theorem spansWritten_iff {r : Record} {d : Declaration} {o : Operator} (made : o.IsMadeFrom r d)
    (writes : o.hasOutputs = true) : o.SpansWritten ↔ d.WritesTogether := by
  obtain ⟨inPlace, returns⟩ := Operator.returns_of_hasOutputs writes
  constructor
  · intro spans
    exact spans.writesTogether made writes
  · rintro ⟨before, outputs, after, params, each, written, others⟩
    obtain ⟨unwritten, rest⟩ := List.forall_mem_append.mp others
    refine (made.splitsAs params unwritten written each).spansWritten inPlace returns ?_
    refine List.forall_mem_append.mpr ⟨List.forall_mem_map.mpr rest, ?_⟩
    intro p mem
    rw [eq_requiresGradParam_of_mem_gradientFlag mem]
    rfl

-- a declaration is read as the list of its characters, and the ones below are long
set_option maxRecDepth 1000

/-- A declaration with two outputs together, and all options but the gradient flag. -/
def stackDeclaration : Declaration where
  name := "stack.out"
  params := [
    ⟨"self", "Tensor", false, none, none, false, none⟩,
    ⟨"q", "Tensor", false, none, some "a!", true, none⟩,
    ⟨"r", "Tensor", false, none, some "b!", true, none⟩,
    ⟨"dtype", "ScalarType", false, none, none, true, none⟩,
    ⟨"layout", "Layout", false, none, none, true, none⟩,
    ⟨"device", "Device", false, none, none, true, none⟩,
    ⟨"pin_memory", "bool", false, none, none, true, none⟩]
  results := [⟨none, "Tensor", none⟩, ⟨none, "Tensor", none⟩]

@[inherit_doc stackDeclaration]
def stackOut : Operator := Operator.ofDeclaration
  "stack.out(Tensor self, *, Tensor(a!) q, Tensor(b!) r, ScalarType dtype, Layout layout, Device device, bool pin_memory) -> (Tensor, Tensor)"
  stackDeclaration { function := true } none

theorem isMadeFrom_stackOut :
    stackOut.IsMadeFrom { declaration := stackOut.text } stackDeclaration :=
  Operator.isMadeFrom_ofDeclaration (by decide +kernel) rfl

theorem spansWritten_stack : stackOut.hasOutputs = true ∧ stackOut.SpansWritten := by
  have writes : stackOut.hasOutputs = true := by decide
  refine ⟨writes, (spansWritten_iff isMadeFrom_stackOut writes).mpr ?_⟩
  refine ⟨stackDeclaration.params.take 1, (stackDeclaration.params.take 3).drop 1,
    stackDeclaration.params.drop 3, ?_⟩
  decide

/-- Two outputs, with an input between them. -/
def sortByDeclaration : Declaration where
  name := "sort_by.out"
  params := [
    ⟨"self", "Tensor", false, none, none, false, none⟩,
    ⟨"values", "Tensor", false, none, some "a!", true, none⟩,
    ⟨"key", "Tensor", false, none, none, true, none⟩,
    ⟨"indices", "Tensor", false, none, some "b!", true, none⟩]
  results := [⟨some "values", "Tensor", some "a!"⟩, ⟨some "indices", "Tensor", some "b!"⟩]

@[inherit_doc sortByDeclaration]
def sortByOut : Operator := Operator.ofDeclaration
  "sort_by.out(Tensor self, *, Tensor(a!) values, Tensor key, Tensor(b!) indices) -> (Tensor(a!) values, Tensor(b!) indices)"
  sortByDeclaration { function := true } none

/-- The input is taken for the second output: without outputs the signature shows
the output instead of it. -/
theorem not_spansWritten_sortBy :
    (∃ r, Operator.ofRecord r = .ok sortByOut) ∧ sortByOut.hasOutputs = true ∧
    (sortByOut.params.filter (·.isMutated)).map (·.name) = ["values", "indices"] ∧
    sortByOut.outputParams.map (·.name) = ["values", "key"] ∧
    sortByOut.signature .torch .elided = .ok ⟨"sort_by(Tensor input, *, Tensor indices)", 2⟩ ∧
    ¬ sortByOut.SpansWritten := by
  have made : sortByOut.IsMadeFrom { declaration := sortByOut.text } sortByDeclaration :=
    Operator.isMadeFrom_ofDeclaration (by decide +kernel) rfl
  refine ⟨⟨_, made.built⟩, by decide, by decide, by decide, by rfl, ?_⟩
  intro spans
  have input := (spans.written 2 _ rfl).mp (by decide)
  revert input
  decide

end OpBindings
