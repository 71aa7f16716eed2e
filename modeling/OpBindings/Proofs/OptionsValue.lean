/-
OpBindings.Proofs.OptionsValue — a full set of options becomes one value.

Where a declaration names `dtype`, `device`, `layout` and `pin_memory`, three
stages act on them. The table's rules see to it that there is a gradient flag
too (`IsMadeFrom.flagsGradient`). The layout gives every option one slot,
wherever it is declared (`exists_slot_of_option`). The call takes one options
value for all, with five setters in a fixed order, and each reads the slot of
its option (`optionLinks_of_full`). `NativeCall.GathersAll` puts the three together.

No name is reserved here, and outputs may be named like the receiver: options
are told apart from all other parameters, and from a pack of outputs, by their
names alone.
-/
import OpBindings.Proofs.NativeArgs
import OpBindings.Proofs.Operator

namespace OpBindings

/-- The declaration names the four options that are always supplied. -/
def Declaration.NamesOptions (d : Declaration) : Prop :=
  ∀ name ∈ ["dtype", "device", "layout", "pin_memory"], name ∈ d.params.map (·.name)

/-- The operator has the declared parameters, and among them a gradient flag:
a declared one, or one by name only that is added at the end. -/
def Operator.FlagsGradient (o : Operator) (d : Declaration) : Prop :=
  (∃ p ∈ d.params, p.name = "requires_grad") ∧ o.params = d.params.map (Param.settle o.baseName) ∨
  (∀ p ∈ d.params, p.name ≠ "requires_grad") ∧
    o.params = d.params.map (Param.settle o.baseName) ++ [requiresGradParam]

/-- The link sets the option, and reads it from the slot at which the operator's
own signature shows it. -/
structure Operator.Sets (o : Operator) (surface : Surface) (option : TensorOption)
    (link : OptionLink) : Prop where
  setter : link.setter = option.setter
  accessor : link.accessor = option.accessor o.opensDtype
  slot : ∃ s ∈ o.slots surface .kept, s.param.name = option.paramName ∧ link.position = s.position ∧
    ∀ t ∈ o.slots surface .kept, t.param.name = option.paramName → t = s

/-- **The call takes all options as one value.** -/
structure NativeCall.GathersAll (c : NativeCall) (d : Declaration) (o : Operator)
    (surface : Surface) : Prop where
  gradient : o.FlagsGradient d
  /-- The value stands after the parameters before the first option, and is the only one. -/
  value : ∃ before option after taken others,
    o.params = before ++ option :: after ∧ option.carriesOption = true ∧
      (∀ p ∈ before, p.carriesOption = false) ∧ c.params = taken ++ Operator.optionsParam :: others ∧
      taken.map (·.name) = before.map (·.name) ∧
      others.map (·.name) = (after.filter (!·.carriesOption)).map (·.name) ∧
      ∀ e ∈ taken ++ others, e.nativeType ≠ "const TensorOptions &"
  /-- No option is left among the parameters, nor among the arguments. -/
  params : ∀ e ∈ c.params, TensorOption.ofName? e.name = none
  nativeArgs : ∀ name ∈ c.nativeArgs, TensorOption.ofName? name = none
  /-- The setters, in their order. -/
  setters : c.options.map (·.setter) =
    ["dtype", "device", "layout", "requires_grad", "pinned_memory"]
  links : List.Forall₂ (o.Sets surface) TensorOption.all c.options

/-! ## The gradient flag -/

/-- The names of the options that are always supplied. -/
theorem TensorOption.isAlwaysSupplied_of_name_iff {name : String} :
    (TensorOption.ofName? name).any (·.isAlwaysSupplied) = true ↔
      name ∈ ["dtype", "device", "layout", "pin_memory"] := by
  constructor
  · intro supplied
    obtain ⟨option, named, supplied⟩ := (Option.any_eq_true _ _).mp supplied
    rw [← Operator.paramName_of_ofName? named]
    cases option <;> first | decide | cases supplied
  · intro mem
    simp only [List.mem_cons, List.not_mem_nil, or_false] at mem
    rcases mem with rfl | rfl | rfl | rfl <;> decide

theorem map_name_settle (baseName : String) (ps : List Param) :
    (ps.map (Param.settle baseName)).map (·.name) = ps.map (·.name) := by
  rw [List.map_map]
  rfl

/-- Four parameters carry the four options, where names differ. -/
theorem Declaration.countP_isSuppliedOption {d : Declaration} (full : d.NamesOptions)
    (distinct : (d.params.map (·.name)).Nodup) : d.params.countP (·.isSuppliedOption) = 4 := by
  have supplied : ((d.params.map (·.name)).filter fun name =>
      (TensorOption.ofName? name).any (·.isAlwaysSupplied)).Perm
        ["dtype", "device", "layout", "pin_memory"] := by
    refine (List.perm_ext_iff_of_nodup (distinct.filter _) (by decide)).mpr ?_
    intro name
    rw [List.mem_filter, TensorOption.isAlwaysSupplied_of_name_iff]
    exact ⟨And.right, fun mem => ⟨full name mem, mem⟩⟩
  have length := supplied.length_eq
  rwa [← List.countP_eq_length_filter, List.countP_map] at length

namespace Operator

variable {o : Operator} {surface : Surface} {layout : List Slot} {p : Param} {i : Nat}
  {option : TensorOption}

/-- **With four options there is a gradient flag:** the declared one, or one at the end. -/
theorem IsMadeFrom.flagsGradient {r : Record} {d : Declaration} (made : o.IsMadeFrom r d)
    (full : d.NamesOptions) (distinct : (d.params.map (·.name)).Nodup) : o.FlagsGradient d := by
  have four := Declaration.countP_isSuppliedOption full distinct
  have params := made.params
  cases flagged : d.params.any (·.name == "requires_grad") with
  | true =>
    have none : gradientFlag d.params = [] := by simp [gradientFlag, flagged]
    rw [none, List.append_nil] at params
    exact .inl ⟨by simpa using flagged, params⟩
  | false =>
    have one : gradientFlag d.params = [requiresGradParam] := by simp [gradientFlag, four, flagged]
    rw [one] at params
    exact .inr ⟨by simpa using flagged, params⟩

/-! ## Slots -/

/-- The options that a layout shows have different names. -/
theorem nodup_options_orderedParams (distinct : o.HasDistinctNames) (surface : Surface) :
    (((o.orderedParams surface .kept).filter (·.carriesOption)).map (·.name)).Nodup := by
  have shown : (((o.shownParams .kept).filter (·.carriesOption)).map (·.name)).Nodup := by
    cases packs : o.packsOutputs with
    | false =>
      rw [shownParams_of_not_packsOutputs packs]
      exact distinct.sublist (List.filter_sublist.map _)
    | true =>
      -- the pack carries no option, whatever its outputs do
      have options := (shownParams_of_packsOutputs packs).filter (·.carriesOption)
      have noOption : (packedParam o.outputParams.length).carriesOption = false := rfl
      rw [List.filter_cons_of_neg (by simp [noOption])] at options
      refine ((options.map _).nodup_iff).mpr (distinct.sublist (List.Sublist.map _ ?_))
      exact List.filter_sublist.trans shownParams_elided_sublist
  have options := (orderedParams_perm o surface .kept).filter (·.carriesOption)
  refine ((options.map _).nodup_iff).mpr (shown.sublist (List.Sublist.map _ ?_))
  exact List.filter_sublist.filter _

/-- No two slots are named like one option. -/
theorem slot_eq_of_option (distinct : o.HasDistinctNames) {s t : Slot}
    (hs : s ∈ o.slots surface .kept) (ht : t ∈ o.slots surface .kept)
    (carries : s.param.carriesOption = true) (same : t.param.name = s.param.name) : t = s := by
  have apart := List.pairwise_filter.mp
    (List.pairwise_map.mp (nodup_options_orderedParams distinct surface))
  have carries' : t.param.carriesOption = true := by
    rwa [Param.carriesOption, Param.option?, same]
  obtain ⟨insideS, atS⟩ := List.getElem?_eq_some_iff.mp (mem_slots_iff.mp hs)
  obtain ⟨insideT, atT⟩ := List.getElem?_eq_some_iff.mp (mem_slots_iff.mp ht)
  refine slot_eq_of_position ht hs ?_
  rcases Nat.lt_trichotomy t.position s.position with before | place | after
  · have differ := List.pairwise_iff_getElem.mp apart _ _ insideT insideS before
    rw [atS, atT] at differ
    exact absurd same (differ carries' carries)
  · exact place
  · have differ := List.pairwise_iff_getElem.mp apart _ _ insideS insideT after
    rw [atS, atT] at differ
    exact absurd same.symm (differ carries carries')

/-- **Every option has a slot of its own**, and is read from it. -/
theorem exists_slot_of_option (distinct : o.HasDistinctNames) (hp : o.params[i]? = some p)
    (carries : p.carriesOption = true) (single : (o.packsOutputs && o.isOutputAt i) = false)
    (surface : Surface) :
    ∃ s ∈ o.slots surface .kept, s.param.name = p.name ∧
      o.position (o.slots surface .kept) i p = s.position ∧
      ∀ t ∈ o.slots surface .kept, t.param.name = p.name → t = s := by
  have shown : p ∈ o.orderedParams surface .kept := mem_orderedParams_iff.mpr
    ⟨mem_shownParams_kept hp single, isReceiver_of_carriesOption carries⟩
  obtain ⟨k, found⟩ := exists_positionIn shown
  obtain ⟨s, hs, rfl, named, -⟩ := positionIn_eq_some_iff_first.mp found
  have carries' : s.param.carriesOption = true := by
    rwa [Param.carriesOption, Param.option?, named]
  refine ⟨s, hs, named, ?_, ?_⟩
  · rw [position, position?, single, if_neg Bool.false_ne_true, found, Option.getD_some]
  · intro t ht same
    exact slot_eq_of_option distinct hs ht carries' (same.trans named.symm)

/-! ## Setters -/

/-- One parameter carries an option, where names differ. -/
theorem filter_option?_eq (distinct : o.HasDistinctNames) (hp : o.params[i]? = some p)
    (carries : p.option? = some option) :
    (o.params.zipIdx.filter fun (q, _) => q.option? == some option) = [(p, i)] := by
  refine List.perm_singleton.mp ((List.perm_ext_iff_of_nodup ?_ (List.nodup_singleton _)).mpr ?_)
  · exact (nodup_zipIdx o.params).filter _
  · rintro ⟨q, j⟩
    rw [List.mem_filter, List.mem_zipIdx_iff_getElem?, List.mem_singleton]
    constructor
    · rintro ⟨hq, carries'⟩
      have named : q.name = p.name := by
        rw [← paramName_of_ofName? carries, ← paramName_of_ofName? (eq_of_beq carries')]
      obtain rfl : j = i := index_eq_of_nodup_names distinct hq hp named
      obtain rfl : q = p := Option.some.inj (hq.symm.trans hp)
      rfl
    · intro same
      cases same
      exact ⟨hp, beq_iff_eq.mpr carries⟩

/-- A list with one element for each of another. -/
theorem forall₂_flatMap {α β : Type} {R : α → β → Prop} {parts : α → List β} {as : List α}
    (one : ∀ a ∈ as, ∃ b, parts a = [b] ∧ R a b) : List.Forall₂ R as (as.flatMap parts) := by
  induction as with
  | nil => exact .nil
  | cons a as ih =>
    obtain ⟨b, made, related⟩ := one a List.mem_cons_self
    rw [List.flatMap_cons, made]
    exact .cons related (ih fun a' mem => one a' (List.mem_cons_of_mem a mem))

/-- **A full set of options has one setter for each**, in their order, that
reads the slot of the option. -/
theorem optionLinks_of_full (distinct : o.HasDistinctNames)
    (full : ∀ option : TensorOption, ∃ i p, o.params[i]? = some p ∧ p.option? = some option ∧
      (o.packsOutputs && o.isOutputAt i) = false) (surface : Surface) :
    List.Forall₂ (o.Sets surface) TensorOption.all (o.optionLinks (o.slots surface .kept)) := by
  refine forall₂_flatMap fun option _ => ?_
  obtain ⟨i, p, hp, carries, single⟩ := full option
  have named : option.paramName = p.name := paramName_of_ofName? carries
  obtain ⟨s, hs, shown, read, only⟩ := exists_slot_of_option distinct hp
    (Option.isSome_iff_exists.mpr ⟨option, carries⟩) single surface
  refine ⟨⟨option.setter, option.accessor o.opensDtype, _⟩, ?_, rfl, rfl, s, hs, ?_, read, ?_⟩
  · rw [filter_option?_eq distinct hp carries]
    rfl
  · rw [shown, named]
  · rwa [named]

/-! ## The options of a full set -/

namespace FlagsGradient

variable {d : Declaration}

/-- The gradient flag is named like no other parameter. -/
theorem hasDistinctNames (h : o.FlagsGradient d) (distinct : (d.params.map (·.name)).Nodup) :
    o.HasDistinctNames := by
  unfold HasDistinctNames
  rcases h with ⟨-, params⟩ | ⟨undeclared, params⟩
  · rw [params, map_name_settle]
    exact distinct
  · rw [params, List.map_append, map_name_settle]
    refine List.nodup_append.mpr ⟨distinct, List.nodup_singleton _, ?_⟩
    rintro name declared added mem rfl
    obtain ⟨p, hp, rfl⟩ := List.mem_map.mp declared
    exact undeclared p hp (List.mem_singleton.mp mem)

/-- What is declared is there, settled, at its place; only the flag is new. -/
theorem eq_or_eq_settle (h : o.FlagsGradient d) (hp : o.params[i]? = some p) :
    p = requiresGradParam ∨ ∃ q, d.params[i]? = some q ∧ p = q.settle o.baseName := by
  have settled : (d.params.map (Param.settle o.baseName))[i]? = some p →
      ∃ q, d.params[i]? = some q ∧ p = q.settle o.baseName := by
    intro place
    rw [List.getElem?_map] at place
    obtain ⟨q, hq, rfl⟩ := Option.map_eq_some_iff.mp place
    exact ⟨q, hq, rfl⟩
  rcases h with ⟨-, params⟩ | ⟨-, params⟩
  · rw [params] at hp
    exact .inr (settled hp)
  · rw [params, List.getElem?_append] at hp
    split at hp
    · exact .inr (settled hp)
    · exact .inl (List.mem_singleton.mp (List.mem_of_getElem? hp))

/-- Declared names are names of the operator, and so is that of the gradient flag. -/
theorem name_mem (h : o.FlagsGradient d) {name : String}
    (named : name ∈ d.params.map (·.name) ∨ name = "requires_grad") :
    name ∈ o.params.map (·.name) := by
  have declared : name ∈ d.params.map (·.name) → name ∈ o.params.map (·.name) := by
    intro mem
    rcases h with ⟨-, params⟩ | ⟨-, params⟩
    · rwa [params, map_name_settle]
    · rw [params, List.map_append, map_name_settle]
      exact List.mem_append_left _ mem
  rcases named with mem | rfl
  · exact declared mem
  · rcases h with ⟨⟨p, hp, named⟩, -⟩ | ⟨-, params⟩
    · exact declared (List.mem_map.mpr ⟨p, hp, named⟩)
    · rw [params, List.map_append]
      exact List.mem_append_right _ (List.mem_singleton.mpr rfl)

/-- **Every option has its parameter.** -/
theorem exists_option (h : o.FlagsGradient d) (full : d.NamesOptions) (option : TensorOption) :
    ∃ (i : Nat) (p : Param), o.params[i]? = some p ∧ p.option? = some option := by
  have named : option.paramName ∈ o.params.map (·.name) := by
    refine h.name_mem ?_
    cases option with
    | requiresGrad => exact .inr rfl
    | _ => exact .inl (full _ (by decide))
  obtain ⟨p, hp, same⟩ := List.mem_map.mp named
  obtain ⟨i, hi⟩ := List.mem_iff_getElem?.mp hp
  refine ⟨i, p, hi, ?_⟩
  rw [Param.option?, same, TensorOption.ofName?_paramName]

/-- Four options are gathered. -/
theorem gathersOptions (h : o.FlagsGradient d) (full : d.NamesOptions) : o.gathersOptions = true := by
  have all : TensorOption.all ⊆ o.params.filterMap (·.option?) := by
    intro option _
    obtain ⟨i, p, hp, carries⟩ := h.exists_option full option
    exact List.mem_filterMap.mpr ⟨p, List.mem_of_getElem? hp, carries⟩
  have distinct : TensorOption.all.Nodup := by decide
  have five := distinct.length_le_of_subset all
  rw [gathersOptions_eq_true_iff]
  refine Nat.le_trans (show 4 ≤ TensorOption.all.length by decide) (Nat.le_trans five ?_)
  rw [List.length_filterMap_eq_countP]
  exact Nat.le_refl _

/-- **No option is taken from the pack of outputs:** a declared one is no output,
and the flag that is added is no tensor. -/
theorem not_packed (h : o.FlagsGradient d) (distinct : o.HasDistinctNames)
    (inputs : ∀ i p, d.params[i]? = some p → p.carriesOption = true → o.isOutputAt i = false)
    (hp : o.params[i]? = some p) (carries : p.carriesOption = true) :
    (o.packsOutputs && o.isOutputAt i) = false := by
  rcases h.eq_or_eq_settle hp with rfl | ⟨q, hq, rfl⟩
  · rw [Bool.eq_false_iff]
    intro packed
    obtain ⟨packs, output⟩ := Bool.and_eq_true_iff.mp packed
    have among := List.mem_of_getElem? ((outputParams_eq_some_iff distinct hp).mpr ⟨output, rfl⟩)
    simp only [packsOutputs, Bool.and_eq_true] at packs
    exact absurd (List.all_eq_true.mp packs.1.2 _ among) (by decide)
  · rw [inputs i q hq carries, Bool.and_false]

end FlagsGradient

/-- No parameter of a dispatcher that gathers its options is named like one. -/
theorem ofName?_of_mem_params {c : NativeCall}
    (planned : (o.callIn surface layout).outcome = .ok c) (gathers : o.gathersOptions = true)
    {e : DispatchParam} (mem : e ∈ c.params) : TensorOption.ofName? e.name = none := by
  rcases eq_or_exists_of_mem_params planned mem with rfl | ⟨p, i, hp, alone, taken, -⟩
  · decide
  · simpa [passesAlone, gathers, Param.carriesOption, Param.option?, taken.name] using alone

end Operator

/-- No parameter type is spelt like the type of the options value. -/
theorem ParamType.nativeType_ne (type : ParamType) (p : Param) (o : Operator) :
    type.nativeType p o ≠ "const TensorOptions &" := by
  cases type with
  | tensor =>
    simp only [nativeType, nativeTensorType]
    repeat' split
    all_goals decide
  | _ =>
    simp only [nativeType]
    split <;> decide

theorem Operator.IsTakenAs.nativeType_ne {o : Operator} {p : Param} {d : DispatchParam}
    (h : o.IsTakenAs p d) : d.nativeType ≠ "const TensorOptions &" := by
  obtain ⟨native, known, spelt⟩ := h.type
  obtain ⟨type, -, known⟩ := bind_eq_ok.mp known
  cases known
  rw [spelt]
  exact type.nativeType_ne p o

/-- **A full set of options becomes one value.** The names of a declaration
differ and include `dtype`, `device`, `layout` and `pin_memory`, anywhere; none
of its options is an output. Then the operator of its record has a gradient flag,
its dispatcher takes one options value at the place of the first option and no
option beside it, and the five setters read each option from the slot at which
the operator's own signature shows it. -/
theorem gathersAll_of_call {r : Record} {d : Declaration} {o : Operator} {surface : Surface}
    {c : NativeCall} (made : o.IsMadeFrom r d) (distinct : (d.params.map (·.name)).Nodup)
    (full : d.NamesOptions)
    (inputs : ∀ i p, d.params[i]? = some p → p.carriesOption = true → o.isOutputAt i = false)
    (planned : (o.call surface).outcome = .ok c) : c.GathersAll d o surface := by
  have flagged := made.flagsGradient full distinct
  have names := flagged.hasDistinctNames distinct
  have gathers := flagged.gathersOptions full
  have options : c.options = o.optionLinks (o.slots surface .kept) := by
    rw [(Operator.callIn_eq_ok planned).2.1, gathers, if_pos rfl]
  have links : List.Forall₂ (o.Sets surface) TensorOption.all c.options := by
    rw [options]
    refine Operator.optionLinks_of_full names (fun option => ?_) surface
    obtain ⟨i, p, hp, carries⟩ := flagged.exists_option full option
    exact ⟨i, p, hp, carries, flagged.not_packed names inputs hp
      (Option.isSome_iff_exists.mpr ⟨option, carries⟩)⟩
  refine ⟨flagged, ?_, ?_, ?_, ?_, links⟩
  · obtain ⟨before, option, after, taken, others, split, carries, noOption, params, left, right⟩ :=
      Operator.params_of_gathers planned gathers
    refine ⟨before, option, after, taken, others, split, carries, noOption, params,
      Operator.map_name_of_isTakenAs left, Operator.map_name_of_isTakenAs right, ?_⟩
    intro e mem
    rcases List.mem_append.mp mem with mem | mem
    · obtain ⟨p, -, taken⟩ := forall₂_mem_right left mem
      exact taken.nativeType_ne
    · obtain ⟨p, -, taken⟩ := forall₂_mem_right right mem
      exact taken.nativeType_ne
  · exact fun e mem => Operator.ofName?_of_mem_params planned gathers mem
  · intro name mem
    obtain ⟨e, he, rfl, -⟩ := Operator.exists_of_mem_nativeArgs mem
    exact Operator.ofName?_of_mem_params planned gathers he
  · have setters : c.options.map (·.setter) = TensorOption.all.map (·.setter) := by
      rw [← List.forall₂_eq_eq_eq, List.forall₂_map_left_iff, List.forall₂_map_right_iff]
      exact (links.imp fun _ _ sets => sets.setter).flip
    rw [setters]
    rfl

-- a declaration is read as the list of its characters, and the ones below are long
set_option maxRecDepth 1000

/-- A declaration with its options in no order, between other parameters, and an output. -/
def blankDeclaration : Declaration where
  name := "blank.out"
  params := [
    ⟨"self", "Tensor", false, none, none, false, none⟩,
    ⟨"pin_memory", "bool", false, none, none, false, none⟩,
    ⟨"k", "int", false, some "1", none, true, none⟩,
    ⟨"layout", "Layout", true, some "None", none, true, none⟩,
    ⟨"dtype", "ScalarType", true, none, none, true, none⟩,
    ⟨"out", "Tensor", false, none, some "a!", true, none⟩,
    ⟨"device", "Device", false, none, none, true, none⟩]
  results := [⟨none, "Tensor", some "a!"⟩]

@[inherit_doc blankDeclaration]
def blankOut : Operator := Operator.ofDeclaration
  "blank.out(Tensor self, bool pin_memory, *, int k=1, Layout? layout=None, ScalarType? dtype, Tensor(a!) out, Device device) -> Tensor(a!)"
  blankDeclaration { function := true } none

theorem gathersAll_blank : ∃ c, (blankOut.call .tensor).outcome = .ok c ∧
    c.nativeArgs = ["out", "options", "k"] ∧ c.GathersAll blankDeclaration blankOut .tensor := by
  have made : blankOut.IsMadeFrom { declaration := blankOut.text } blankDeclaration :=
    Operator.isMadeFrom_ofDeclaration (by decide +kernel) rfl
  have distinct : (blankDeclaration.params.map (·.name)).Nodup := by decide
  have full : blankDeclaration.NamesOptions := by
    unfold Declaration.NamesOptions
    decide
  have inputs : ∀ e ∈ blankDeclaration.params.zipIdx, e.1.carriesOption = true →
      blankOut.isOutputAt e.2 = false := by decide
  obtain ⟨c, planned, args⟩ : ∃ c, (blankOut.call .tensor).outcome = .ok c ∧
      c.nativeArgs = ["out", "options", "k"] := ⟨_, by rfl, by rfl⟩
  exact ⟨c, planned, args, gathersAll_of_call made distinct full
    (fun i p hp => inputs (p, i) (List.mem_zipIdx_iff_getElem?.mpr hp)) planned⟩

end OpBindings
