/-
OpBindings.Proofs.ShownNames — when a signature shows no name twice.

An argument that is passed by name goes to the parameter that the signature shows
under the name. Between the declaration and the signature three rules bring in
names: the gradient flag may be added, several outputs become one `out`, and the
receiver is shown as `input`. The first rule looks at the declared names before it
adds one. The other two do not, and so a declaration whose names differ may show
`input` or `out` twice (`nodup_shownNames_iff`).
-/
import OpBindings.Proofs.OutputSlot
import OpBindings.Proofs.OutputSpan

namespace OpBindings

/-! ## Names in the text of a signature -/

/-- The item of a signature shows the name, between a type and perhaps a default. -/
def ShowsName (item name : String) : Prop :=
  ∃ type default, item = type ++ " " ++ name ++ default ∧ ' ' ∉ type.toList ∧
    ∀ c ∈ default.toList.head?, c = '='

/-- The text shows the names in order, one in each of its items but for the marker. -/
def Signature.ShowsNames (s : Signature) (baseName : String) (names : List String) : Prop :=
  ∃ parts, s.text = baseName ++ "(" ++ ", ".intercalate parts ++ ")" ∧
    List.Forall₂ ShowsName (parts.filter (· != "*")) names

theorem Param.showsName_of_shown {p : Param} {o : Operator} {item : String}
    (shown : p.shown o = .ok item) : ShowsName item p.shownName := by
  obtain ⟨type, -, text⟩ := shown_eq_ok shown
  refine ⟨String.ofList (typeChars type p.optional p.listSize),
    String.ofList (defaultChars p.shownDefault), ?_, ?_, ?_⟩
  · rw [← String.toList_inj, text]
    simp
  · rw [String.toList_ofList]
    exact not_mem_typeChars
  · rw [String.toList_ofList]
    cases p.shownDefault <;> simp [defaultChars]

/-! ## Names that are shown alike -/

/-- The name under which a parameter of the name is shown. -/
def nameShownFor (name : String) : String := if name == "self" then "input" else name

theorem Param.shownName_eq (p : Param) : p.shownName = nameShownFor p.name := rfl

/-- **Names stay apart** when they are shown, unless the receiver stands beside an input. -/
theorem nodup_map_nameShownFor_iff {names : List String} :
    (names.map nameShownFor).Nodup ↔ names.Nodup ∧ ¬ ("self" ∈ names ∧ "input" ∈ names) := by
  constructor
  · intro shown
    refine ⟨shown.of_map _, fun ⟨receiver, input⟩ => ?_⟩
    exact absurd (List.inj_on_of_nodup_map shown receiver input rfl) (by decide)
  · rintro ⟨distinct, apart⟩
    refine (List.nodup_map_iff_inj_on distinct).mpr fun a ha b hb same => ?_
    unfold nameShownFor at same
    split at same <;> split at same
    · rename_i left right
      exact (beq_iff_eq.mp left).trans (beq_iff_eq.mp right).symm
    · rename_i left _
      exact absurd ⟨beq_iff_eq.mp left ▸ ha, same ▸ hb⟩ apart
    · rename_i _ right
      exact absurd ⟨beq_iff_eq.mp right ▸ hb, same ▸ ha⟩ apart
    · exact same

namespace Operator

variable {o : Operator} {r : Record} {d : Declaration} {surface : Surface} {outputs : Outputs}

/-! ## Names of a layout -/

/-- The gradient flag is not added to a declaration that has it, so names that are
declared apart stay apart. -/
theorem IsMadeFrom.hasDistinctNames (made : o.IsMadeFrom r d)
    (distinct : (d.params.map (·.name)).Nodup) : o.HasDistinctNames := by
  rw [HasDistinctNames, made.params, List.map_append, List.map_map]
  change (d.params.map (·.name) ++ _).Nodup
  unfold gradientFlag
  split
  · rename_i added
    refine List.nodup_append.mpr ⟨distinct, List.nodup_singleton _, ?_⟩
    rintro name declared flag mem rfl
    obtain ⟨p, hp, rfl⟩ := List.mem_map.mp declared
    have undeclared : ∀ p ∈ d.params, p.name ≠ "requires_grad" := by
      simpa using (Bool.and_eq_true_iff.mp added).2
    exact undeclared p hp (List.mem_singleton.mp mem)
  · simpa using distinct

/-- The names of the parameters in a layout, as they are declared. -/
def orderedNames (o : Operator) (surface : Surface) (outputs : Outputs) : List String :=
  (o.orderedParams surface outputs).map (·.name)

/-- The names of the parameters in a layout, as a signature shows them. -/
def shownNames (o : Operator) (surface : Surface) (outputs : Outputs) : List String :=
  (o.orderedParams surface outputs).map (·.shownName)

/-- The pack of outputs is passed, and stands in the layout beside what is no output. -/
theorem orderedNames_perm_of_packsOutputs (packs : o.packsOutputs = true) (surface : Surface) :
    (o.orderedNames surface .kept).Perm ("out" :: o.orderedNames surface .elided) := by
  have passed : isReceiver surface (packedParam o.outputParams.length) = false := by
    simp [isReceiver, packedParam]
  have shown := (shownParams_of_packsOutputs packs).filter (!isReceiver surface ·)
  rw [List.filter_cons_of_pos (by simp [passed])] at shown
  have layout := (orderedParams_perm o surface .kept).trans
    (shown.trans ((orderedParams_perm o surface .elided).symm.cons _))
  exact layout.map (·.name)

/-- **The names of a layout differ** unless a pack of outputs stands beside a parameter
that is named like it. -/
theorem nodup_orderedNames_iff (distinct : o.HasDistinctNames) (surface : Surface)
    (outputs : Outputs) :
    (o.orderedNames surface outputs).Nodup ↔ (outputs = .kept → o.ReservesOut) := by
  cases outputs with
  | elided =>
    have elided : (o.orderedNames surface .elided).Nodup := by
      refine ((orderedParams_perm o surface .elided).map (·.name)).nodup_iff.mpr ?_
      exact distinct.sublist ((List.filter_sublist.trans shownParams_elided_sublist).map _)
    simp [elided]
  | kept =>
    refine ⟨fun nodup _ packs i p hp input named => ?_,
      fun reserved => nodup_names_orderedParams distinct (reserved rfl) surface⟩
    have fresh := (orderedNames_perm_of_packsOutputs packs surface).nodup_iff.mp nodup
    refine (List.nodup_cons.mp fresh).1 (List.mem_map.mpr ⟨p, ?_, named⟩)
    exact mem_orderedParams_iff.mpr
      ⟨mem_shownParams_elided.mpr ⟨i, hp, input⟩, by simp [isReceiver, named]⟩

end Operator

/-- **When a signature shows no name twice.** The names of a declaration differ, and
its operator is shown on a surface, with or without its outputs. The signature's text
shows one name for each parameter. These differ unless the receiver is shown and a
parameter `input` as well, or the outputs are shown as a pack and a parameter that is
no output is named `out`. -/
theorem nodup_shownNames_iff {r : Record} {d : Declaration} {o : Operator} {surface : Surface}
    {outputs : Outputs} {signature : Signature} (made : o.IsMadeFrom r d)
    (distinct : (d.params.map (·.name)).Nodup)
    (shown : o.signature surface outputs = .ok signature) :
    signature.ShowsNames o.baseName (o.shownNames surface outputs) ∧
    ((o.shownNames surface outputs).Nodup ↔
      ¬ ("self" ∈ o.orderedNames surface outputs ∧ "input" ∈ o.orderedNames surface outputs) ∧
      (outputs = .kept → o.ReservesOut)) := by
  constructor
  · obtain ⟨items, ⟨⟨parts, text, rfl⟩, printed⟩, -⟩ := Operator.prints_of_signature shown
    refine ⟨parts, text, ?_⟩
    rw [Operator.shownNames, List.forall₂_map_right_iff]
    exact printed.flip.imp fun _ _ item => Param.showsName_of_shown item
  · have renamed : o.shownNames surface outputs =
        (o.orderedNames surface outputs).map nameShownFor := by
      rw [Operator.orderedNames, List.map_map]
      exact List.map_congr_left fun p _ => p.shownName_eq
    rw [renamed, nodup_map_nameShownFor_iff, and_comm,
      Operator.nodup_orderedNames_iff (made.hasDistinctNames distinct)]

-- a declaration is read as the list of its characters, and the ones here are long
set_option maxRecDepth 1000

/-- All three rules bring in a name: the receiver, a pack of two outputs, and the flag. -/
theorem nodup_shownNames_stack : ∃ signature,
    stackOut.signature .torch .kept = .ok signature ∧
    stackOut.shownNames .torch .kept =
      ["input", "out", "dtype", "layout", "device", "pin_memory", "requires_grad"] ∧
    signature.ShowsNames "stack" (stackOut.shownNames .torch .kept) ∧
    (stackOut.shownNames .torch .kept).Nodup := by
  obtain ⟨signature, shown⟩ : ∃ signature,
      stackOut.signature .torch .kept = .ok signature := ⟨_, by rfl⟩
  obtain ⟨names, distinct⟩ := nodup_shownNames_iff isMadeFrom_stackOut (by decide) shown
  refine ⟨signature, shown, by decide, names, distinct.mpr ⟨by decide, ?_⟩⟩
  intro _ _ i p hp _ named
  have declared : ∀ p ∈ stackOut.params, p.name ≠ "out" := by decide
  exact declared p (List.mem_of_getElem? hp) named

/-- A declaration with a receiver and a second input, which is named `input`. -/
def blendDeclaration : Declaration where
  name := "blend"
  params := [
    ⟨"self", "Tensor", false, none, none, false, none⟩,
    ⟨"input", "Tensor", false, none, none, false, none⟩]
  results := [⟨none, "Tensor", none⟩]

@[inherit_doc blendDeclaration]
def blend : Operator := Operator.ofDeclaration
  "blend(Tensor self, Tensor input) -> Tensor" blendDeclaration { function := true } none

/-- Both are shown as `input`. -/
theorem not_nodup_shownNames_blend : (∃ r, blend.IsMadeFrom r blendDeclaration) ∧
    (blendDeclaration.params.map (·.name)).Nodup ∧
    blend.signature .torch .kept = .ok ⟨"blend(Tensor input, Tensor input)", 2⟩ ∧
    blend.shownNames .torch .kept = ["input", "input"] ∧
    ¬ (blend.shownNames .torch .kept).Nodup := by
  have made : blend.IsMadeFrom { declaration := blend.text } blendDeclaration :=
    Operator.isMadeFrom_ofDeclaration (by decide +kernel) rfl
  exact ⟨⟨_, made⟩, by decide, by rfl, by decide, by decide⟩

end OpBindings
