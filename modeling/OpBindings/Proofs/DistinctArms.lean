/-
OpBindings.Proofs.DistinctArms — when the overloads of a name can be told apart.

The argument parser takes the first signature that fits, so two arms with one
signature hide the second. Families are gathered by the text without outputs,
but they hand on the text with outputs, where a writer's outputs stand among the
inputs and nothing says which is which. So the family of a writer and another
family may show the same list in different `roles`: what one takes for an output
is an input of the other.

This is the only way for two families to share a signature
(`signature_eq_iff_isConfusedWith`): where the roles agree as well, leaving out the
outputs leaves the same list, and the families have one key. The converse of
reading a signature back is what carries this, that a text is made of nothing but
the list that it shows (`Operator.signature_eq_of_faces_eq`).
-/
import OpBindings.Proofs.Vocabulary

namespace OpBindings

namespace Operator

variable {o w : Operator} {surface : Surface}

/-! ## Roles -/

/-- What is shown with outputs, in the order of the declaration: each parameter
with whether it stands for outputs. -/
def markedParams (o : Operator) : List (Param × Bool) :=
  match o.outSpan? with
  | none => o.params.map (·, false)
  | some (first, last) =>
    (o.params.take first).map (·, false) ++
      (if o.packsOutputs then [packedParam (last - first)] else o.outputParams).map (·, true) ++
      (o.params.drop last).map (·, false)

/-- The same in the order of the parser. -/
def markedOrder (o : Operator) (surface : Surface) : List (Param × Bool) :=
  let passed := o.markedParams.filter (!isReceiver surface ·.1)
  passed.filter (!·.1.keywordOnly) ++ passed.filter (·.1.keywordOnly)

/-- **The roles of a signature:** what it shows, place by place, and which of it
stands for outputs. -/
def roles (o : Operator) (surface : Surface) : List (ShownParam × Bool) :=
  (o.markedOrder surface).map fun (p, output) => (p.face, output)

theorem map_fst_markedParams (o : Operator) :
    o.markedParams.map Prod.fst = o.shownParams .kept := by
  have unmarked : ∀ (ps : List Param) (mark : Bool), (ps.map (·, mark)).map Prod.fst = ps := by
    simp [Function.comp_def]
  unfold markedParams shownParams
  cases span : o.outSpan? with
  | none => exact unmarked _ _
  | some ends =>
    obtain ⟨first, last⟩ := ends
    have bounds := outSpan?_bounds span
    simp only [List.map_append, unmarked]
    cases packs : o.packsOutputs with
    | true => simp
    | false =>
      have start : o.params.take first = (o.params.take last).take first := by
        rw [List.take_take, Nat.min_eq_left (by omega)]
      rw [if_neg Bool.false_ne_true, if_neg Bool.false_ne_true, outputParams, span, start,
        List.take_append_drop, List.take_append_drop]

/-- Without what stands for outputs, the list without outputs is left. -/
theorem map_fst_inputs_markedParams (o : Operator) :
    (o.markedParams.filter (!·.2)).map Prod.fst = o.shownParams .elided := by
  have inputs : ∀ ps : List Param, ((ps.map (·, false)).filter (!·.2)).map Prod.fst = ps := by
    simp [List.filter_map, Function.comp_def]
  have outputs : ∀ ps : List Param, (ps.map (·, true)).filter (!·.2) = [] := by
    simp [List.filter_map, Function.comp_def]
  unfold markedParams shownParams
  cases o.outSpan? with
  | none => exact inputs _
  | some ends =>
    simp only [List.filter_append, List.map_append, inputs, outputs, List.append_nil]

theorem map_fst_markedOrder (o : Operator) (surface : Surface) :
    (o.markedOrder surface).map Prod.fst = o.orderedParams surface .kept := by
  simp [markedOrder, orderedParams, ← map_fst_markedParams, List.filter_map, Function.comp_def]

theorem map_fst_inputs_markedOrder (o : Operator) (surface : Surface) :
    ((o.markedOrder surface).filter (!·.2)).map Prod.fst = o.orderedParams surface .elided := by
  simp [markedOrder, orderedParams, ← map_fst_inputs_markedParams, List.filter_map,
    List.filter_filter, Function.comp_def, Bool.and_comm, Bool.and_left_comm]

/-- The roles are those of the list that the signature shows. -/
theorem map_fst_roles (o : Operator) (surface : Surface) :
    (o.roles surface).map Prod.fst = (o.orderedParams surface .kept).map Param.face := by
  rw [← map_fst_markedOrder, roles, List.map_map, List.map_map]
  rfl

/-- The roles say what is shown without outputs. -/
theorem map_fst_inputs_roles (o : Operator) (surface : Surface) :
    ((o.roles surface).filter (!·.2)).map Prod.fst =
      (o.orderedParams surface .elided).map Param.face := by
  rw [← map_fst_inputs_markedOrder, roles, List.filter_map, List.map_map, List.map_map]
  rfl

/-- **Two operators are confused** where their signatures show the same list of
one base name, in different roles. -/
structure IsConfusedWith (surface : Surface) (o w : Operator) : Prop where
  baseName : o.baseName = w.baseName
  shown : (o.roles surface).map Prod.fst = (w.roles surface).map Prod.fst
  roles : o.roles surface ≠ w.roles surface

/-- Lists of pairs that differ only in their second parts differ at a place. -/
theorem exists_mem_of_map_fst_eq {α : Type} {xs ys : List (α × Bool)}
    (same : xs.map Prod.fst = ys.map Prod.fst) (differ : xs ≠ ys) :
    ∃ a, (a, false) ∈ xs ∧ (a, true) ∈ ys ∨ (a, true) ∈ xs ∧ (a, false) ∈ ys := by
  induction xs generalizing ys with
  | nil =>
    rw [List.map_nil, eq_comm, List.map_eq_nil_iff] at same
    exact absurd same.symm differ
  | cons x xs ih =>
    obtain ⟨y, ys, rfl, head, tail⟩ := List.map_eq_cons_iff.mp same.symm
    obtain ⟨a, mark⟩ := x
    obtain ⟨b, mark'⟩ := y
    obtain rfl : b = a := head
    by_cases marks : mark = mark'
    · obtain rfl := marks
      obtain ⟨a, place⟩ := ih tail.symm fun rest => differ (rest ▸ rfl)
      refine ⟨a, place.imp ?_ ?_⟩ <;>
        exact fun mem => ⟨List.mem_cons_of_mem _ mem.1, List.mem_cons_of_mem _ mem.2⟩
    · refine ⟨b, ?_⟩
      cases mark <;> cases mark' <;> simp at marks ⊢

/-- What one of two confused operators shows as an input, the other shows as an output. -/
theorem IsConfusedWith.exists_mem (h : o.IsConfusedWith surface w) :
    ∃ face, (face, false) ∈ o.roles surface ∧ (face, true) ∈ w.roles surface ∨
      (face, true) ∈ o.roles surface ∧ (face, false) ∈ w.roles surface :=
  exists_mem_of_map_fst_eq h.shown h.roles

end Operator

/-! ## Families -/

namespace OverloadFamily

variable {surface : Surface} {os : List Operator} {f g : OverloadFamily}

/-- The operator whose signature the family shows: its writer, where it has one. -/
def shown (f : OverloadFamily) : Operator :=
  match f.members with
  | .plain o => o
  | .writer w | .both _ w => w

/-- A family has the key and the signature of the operator that it shows. -/
theorem IsOf.shows (h : f.IsOf surface os) : f.shown ∈ os ∧ f.shown.HasKey surface f.key ∧
    f.shown.signature surface .kept = .ok f.signature := by
  obtain ⟨key, signature, members⟩ := f
  cases members with
  | plain o =>
    obtain ⟨mem, kind, keyed⟩ := h.plain o rfl
    exact ⟨mem, keyed, (Operator.signature_kept_of_plain kind surface).trans (h.alone rfl o rfl)⟩
  | writer w =>
    obtain ⟨mem, -, keyed, kept⟩ := h.writer w rfl
    exact ⟨mem, keyed, kept⟩
  | both o w =>
    obtain ⟨mem, -, keyed, kept⟩ := h.writer w rfl
    exact ⟨mem, keyed, kept⟩

/-- **Two families share a signature** exactly when the operators that they show are confused. -/
theorem signature_eq_iff_isConfusedWith (built : ∀ o ∈ os, ∃ r, Operator.ofRecord r = .ok o)
    (plainAliases : ∀ o ∈ os, o.HasPlainAliases) (hf : f.IsOf surface os)
    (hg : g.IsOf surface os) (apart : f.key ≠ g.key) :
    f.signature.text = g.signature.text ↔ f.shown.IsConfusedWith surface g.shown := by
  obtain ⟨memF, ⟨s, elidedF, keyF⟩, keptF⟩ := hf.shows
  obtain ⟨memG, ⟨t, elidedG, keyG⟩, keptG⟩ := hg.shows
  obtain ⟨r₁, built₁⟩ := built _ memF
  obtain ⟨r₂, built₂⟩ := built _ memG
  constructor
  · intro same
    obtain ⟨names, faces⟩ := Operator.faces_eq_of_text_eq built₁ built₂ (plainAliases _ memF)
      (plainAliases _ memG) keptF keptG same
    rw [← Operator.map_fst_roles, ← Operator.map_fst_roles] at faces
    refine ⟨names, faces, fun roles => apart ?_⟩
    -- with the same roles the two show the same inputs, and these make the key
    have inputs := Operator.map_fst_inputs_roles f.shown surface
    rw [roles, Operator.map_fst_inputs_roles] at inputs
    have keys := Operator.signature_eq_of_faces_eq names inputs.symm elidedG
    rw [elidedF] at keys
    cases keys
    rw [← keyF, keyG]
  · rintro ⟨names, faces, -⟩
    rw [Operator.map_fst_roles, Operator.map_fst_roles] at faces
    have texts := Operator.signature_eq_of_faces_eq names faces keptG
    rw [keptF] at texts
    rw [Except.ok.inj texts]

/-- The families that are handed on have different keys. -/
theorem nodup_keys_of_ofOperators {policy : LoneWriter} {name : String}
    {families : List OverloadFamily}
    (made : (ofOperators policy name surface os).outcome = .ok families) :
    (families.map (·.key)).Nodup := by
  obtain ⟨gathered, hgathered, rfl⟩ := eq_prioritised_of_ofOperators made
  exact ((prioritised_perm gathered).map _).nodup_iff.mpr (keys_gather (by simp) hgathered).1

end OverloadFamily

/-- The signatures of a binding are those of its families. -/
theorem Binding.map_signature_of_ofFamilies {name : String} {surface : Surface}
    {families : List OverloadFamily} {binding : Binding}
    (planned : (Binding.ofFamilies name surface families).outcome = .ok binding) :
    binding.arms.map (·.signature) = families.map (·.signature) := by
  obtain ⟨arms, harms, planned⟩ := Run.outcome_bind.mp planned
  obtain ⟨-, -, planned⟩ := Run.outcome_bind.mp planned
  cases planned
  have each := Run.outcome_each.mp harms
  rw [eq_comm, ← List.forall₂_eq_eq_eq, List.forall₂_map_left_iff, List.forall₂_map_right_iff]
  refine each.imp fun f a harm => ?_
  obtain ⟨call, -, harm⟩ := Run.outcome_bind.mp harm
  cases harm
  rfl

/-- **When the arms of a binding can be told apart.** The families of a list of
operators with plain alias annotations, and so the arms of their binding, have
different signatures exactly when no two of them show the same list in different
roles. That is so where no operator shows as an input what another one, or itself,
shows as an output. -/
theorem nodup_signatures_iff {policy : LoneWriter} {name : String} {surface : Surface}
    {os : List Operator} {families : List OverloadFamily}
    (built : ∀ o ∈ os, ∃ r, Operator.ofRecord r = .ok o)
    (plainAliases : ∀ o ∈ os, o.HasPlainAliases)
    (gathered : (OverloadFamily.ofOperators policy name surface os).outcome = .ok families) :
    ((families.map (·.signature.text)).Nodup ↔
      families.Pairwise fun f g => ¬ f.shown.IsConfusedWith surface g.shown) ∧
    ((∀ o ∈ os, ∀ w ∈ os, ∀ e ∈ o.roles surface, e.2 = false → (e.1, true) ∉ w.roles surface) →
      (families.map (·.signature.text)).Nodup) ∧
    ∀ binding, (Binding.ofFamilies name surface families).outcome = .ok binding →
      binding.arms.map (·.signature) = families.map (·.signature) := by
  have isOf := OverloadFamily.isOf_of_ofOperators gathered
  have keys : families.Pairwise fun f g => f.key ≠ g.key :=
    List.pairwise_map.mp (OverloadFamily.nodup_keys_of_ofOperators gathered)
  have distinct_iff : (families.map (·.signature.text)).Nodup ↔
      families.Pairwise fun f g => ¬ f.shown.IsConfusedWith surface g.shown := by
    rw [List.Nodup, List.pairwise_map]
    constructor <;> intro pairs
    · refine (pairs.and keys).imp_of_mem fun hf hg ⟨texts, apart⟩ => ?_
      rwa [← OverloadFamily.signature_eq_iff_isConfusedWith built plainAliases (isOf _ hf)
        (isOf _ hg) apart]
    · refine (pairs.and keys).imp_of_mem fun hf hg ⟨clear, apart⟩ => ?_
      rwa [Ne, OverloadFamily.signature_eq_iff_isConfusedWith built plainAliases (isOf _ hf)
        (isOf _ hg) apart]
  refine ⟨distinct_iff, fun separate => ?_, fun binding => Binding.map_signature_of_ofFamilies⟩
  refine distinct_iff.mpr (List.pairwise_of_forall_mem_list fun f hf g hg confused => ?_)
  have memF := (isOf f hf).shows.1
  have memG := (isOf g hg).shows.1
  obtain ⟨face, ⟨input, output⟩ | ⟨output, input⟩⟩ := confused.exists_mem
  · exact separate _ memF _ memG _ input rfl output
  · exact separate _ memG _ memF _ input rfl output

/-- A plain operator, another one with a second tensor named `target`, and a writer. -/
def copies (target : String) : List Operator :=
  let self : Param := ⟨"self", "Tensor", false, none, none, false, none⟩
  let function : CallKinds := { function := true }
  [⟨"copy", "copy(Tensor self) -> Tensor", [self], [⟨none, "Tensor", none⟩], function, none⟩,
    ⟨"copy.into", "copy.into(Tensor self, *, Tensor " ++ target ++ ") -> Tensor",
      [self, ⟨target, "Tensor", false, none, none, true, none⟩], [⟨none, "Tensor", none⟩],
      function, none⟩,
    ⟨"copy.out", "copy.out(Tensor self, *, Tensor(a!) out) -> Tensor(a!)",
      [self, ⟨"out", "Tensor", false, none, some "a!", true, none⟩],
      [⟨none, "Tensor", some "a!"⟩], function, none⟩]

theorem nodup_signatures_copies : ∃ families,
    (OverloadFamily.ofOperators .refuse "copy" .torch (copies "into")).outcome = .ok families ∧
    families.map (·.isSplit) = [false, true] ∧ (families.map (·.signature.text)).Nodup := by
  have built : ∀ o ∈ copies "into", Operator.ofRecord { declaration := o.text } = .ok o := by
    simp only [copies, List.forall_mem_cons]
    exact ⟨by rfl, by rfl, by rfl, by simp⟩
  have plainAliases : ∀ o ∈ copies "into", o.HasPlainAliases := by
    simp [copies, Operator.HasPlainAliases, Param.HasPlainAlias, Declaration.NoQuote]
  obtain ⟨families, gathered, split⟩ : ∃ families,
      (OverloadFamily.ofOperators .refuse "copy" .torch (copies "into")).outcome = .ok families ∧
      families.map (·.isSplit) = [false, true] := ⟨_, by rfl, by rfl⟩
  refine ⟨families, gathered, split, ?_⟩
  exact (nodup_signatures_iff (fun o mem => ⟨_, built o mem⟩) plainAliases gathered).2.1 (by decide)

/-- An input named `out` is shown like the output, default and all: the arm of the
plain operator hides the one of the split family. -/
theorem not_nodup_signatures_copies :
    (∀ o ∈ copies "out", Operator.ofRecord { declaration := o.text } = .ok o) ∧
    ∃ families binding,
      (OverloadFamily.ofOperators .refuse "copy" .torch (copies "out")).outcome = .ok families ∧
      (Binding.ofFamilies "copy" .torch families).outcome = .ok binding ∧
      families.map (·.representative.name) = ["copy.into", "copy"] ∧
      binding.arms.map (·.signature.text) =
        ["copy(Tensor input, *, Tensor out=None)", "copy(Tensor input, *, Tensor out=None)"] ∧
      ¬ (families.map (·.signature.text)).Nodup := by
  constructor
  · simp only [copies, List.forall_mem_cons]
    exact ⟨by rfl, by rfl, by rfl, by simp⟩
  · exact ⟨_, _, by rfl, by rfl, by rfl, by rfl, by decide⟩

end OpBindings
