/-
OpBindings.Proofs.NativeArgs — every parameter reaches the native function once.

A call keeps four lists: the parameters of its dispatcher, their arguments,
the arguments of the native function, and the setters of the options value.
All four come from one walk, which leaves gathered options out, puts the
outputs first and skips the receiver. `NativeCall.PassesEach` says what the
lists are without the walk, and that together they pass each parameter
exactly once.

The names carry the argument: a name says which parameter stands at a place
of the dispatcher, so what a walk by number does can be said by name.
-/
import OpBindings.Proofs.OutputPack
import OpBindings.Proofs.OwnCall

namespace OpBindings

/-- The dispatcher takes the parameter by itself, under its own name and in
the native type of its type. -/
structure Operator.IsTakenAs (o : Operator) (p : Param) (d : DispatchParam) : Prop where
  name : d.name = p.name
  type : ∃ native, p.native o = .ok native ∧ d.nativeType = native.nativeType
  argument : d.source ≠ .gathered

/-- How often the call passes a parameter on: as an argument of the native
function, or through a setter of the options value. -/
def NativeCall.timesPassed (c : NativeCall) (p : Param) : Nat :=
  c.nativeArgs.count p.name +
    c.options.countP fun link => p.option?.any fun option => link.setter == option.setter

/-- **The call passes each parameter of the operator on.** -/
structure NativeCall.PassesEach (c : NativeCall) (o : Operator) (surface : Surface) : Prop where
  /-- Up to three options are taken like any other parameter, all in their order. -/
  alone : o.params.countP (·.carriesOption) < 4 → List.Forall₂ o.IsTakenAs o.params c.params
  /-- From four on, one options value stands for all of them at the place of the first. -/
  gathered : 4 ≤ o.params.countP (·.carriesOption) → ∃ before option after taken others,
    o.params = before ++ option :: after ∧ option.carriesOption = true ∧
      (∀ p ∈ before, p.carriesOption = false) ∧ c.params = taken ++ Operator.optionsParam :: others ∧
      List.Forall₂ o.IsTakenAs before taken ∧
      List.Forall₂ o.IsTakenAs (after.filter (!·.carriesOption)) others
  /-- Each parameter of the dispatcher has one argument. -/
  arguments : List.Forall₂ (fun d a => a = .gathered ↔ d.name = "options") c.params c.args
  /-- The native function is given the outputs, then the others without the receiver. -/
  nativeArgs : c.nativeArgs = o.outputParams.map (·.name) ++
    (c.params.map (·.name)).filter fun name =>
      !(o.outputParams.map (·.name)).contains name && !(surface.bindsMethods && name == "self")
  distinct : c.nativeArgs.Nodup
  /-- There is a setter for each option that is gathered. -/
  setters : 4 ≤ o.params.countP (·.carriesOption) →
    (c.options.map (·.setter)).Perm ((o.params.filterMap (·.option?)).map (·.setter))
  noSetters : o.params.countP (·.carriesOption) < 4 → c.options = []
  distinctSetters : (c.options.map (·.setter)).Nodup
  once : ∀ p ∈ o.params, c.timesPassed p = if Operator.isReceiver surface p then 0 else 1

/-! ## The parameters of the dispatcher -/

/-- With an option in the list, the options value stands at the place of the first. -/
theorem gatherFrom_append_cons {before after : List Placed} {entry : Placed}
    (noOption : ∀ e ∈ before, e.1.carriesOption = false)
    (carries : entry.1.carriesOption = true) :
    gatherFrom (before ++ entry :: after) =
      before.map some ++ none :: (after.filter (!·.1.carriesOption)).map some := by
  induction before with
  | nil => simp [gatherFrom_cons, carries]
  | cons e before ih =>
    have head := noOption e List.mem_cons_self
    have tail := ih fun e' mem => noOption e' (List.mem_cons_of_mem e mem)
    simp [gatherFrom_cons, head, tail]

namespace Operator

variable {o : Operator} {surface : Surface} {layout : List Slot} {c : NativeCall} {p : Param}
  {d : DispatchParam} {i : Nat}

theorem gathersOptions_eq_true_iff :
    o.gathersOptions = true ↔ 4 ≤ o.params.countP (·.carriesOption) := by
  simp [gathersOptions]

theorem gathersOptions_eq_false_iff :
    o.gathersOptions = false ↔ o.params.countP (·.carriesOption) < 4 := by
  simp [gathersOptions]

/-- What the dispatcher makes of one parameter. -/
theorem dispatchParam_eq_ok (made : o.dispatchParam surface layout i p = .ok d) :
    o.IsTakenAs p d ∧ d.passing = o.passing surface i p := by
  obtain ⟨native, known, made⟩ := bind_eq_ok.mp made
  cases made
  have argument : o.source surface layout i p native.accessor ≠ .gathered := by
    unfold source
    split
    · simp
    · split <;> simp
  exact ⟨⟨rfl, ⟨native, known, rfl⟩, argument⟩, rfl⟩

/-- Parameters with their places are taken as the parameters themselves. -/
theorem isTakenAs_of_placed {entries : List Placed} {ds : List DispatchParam}
    (made : List.Forall₂ (fun e d => o.entryParam surface layout e = .ok d) (entries.map some) ds) :
    List.Forall₂ o.IsTakenAs (entries.map Prod.fst) ds := by
  rw [List.forall₂_map_left_iff] at made ⊢
  exact made.imp fun _ _ h => (dispatchParam_eq_ok h).1

theorem map_name_of_isTakenAs {ps : List Param} {ds : List DispatchParam}
    (taken : List.Forall₂ o.IsTakenAs ps ds) : ds.map (·.name) = ps.map (·.name) := by
  induction taken with
  | nil => rfl
  | cons head _ ih => rw [List.map_cons, List.map_cons, head.name, ih]

/-- **Without an options value** every parameter is taken, in order. -/
theorem params_of_alone (planned : (o.callIn surface layout).outcome = .ok c)
    (alone : o.gathersOptions = false) : List.Forall₂ o.IsTakenAs o.params c.params := by
  obtain ⟨params, -, -⟩ := callIn_eq_ok planned
  rw [dispatched, alone, if_neg Bool.false_ne_true] at params
  simpa using isTakenAs_of_placed params

/-- **The options value** stands at the place of the first option, for all of them. -/
theorem params_of_gathers (planned : (o.callIn surface layout).outcome = .ok c)
    (gathers : o.gathersOptions = true) : ∃ before option after taken others,
      o.params = before ++ option :: after ∧ option.carriesOption = true ∧
        (∀ p ∈ before, p.carriesOption = false) ∧ c.params = taken ++ optionsParam :: others ∧
        List.Forall₂ o.IsTakenAs before taken ∧
        List.Forall₂ o.IsTakenAs (after.filter (!·.carriesOption)) others := by
  obtain ⟨params, -, -⟩ := callIn_eq_ok planned
  have four := gathersOptions_eq_true_iff.mp gathers
  obtain ⟨option, found⟩ := Option.isSome_iff_exists.mp
    (List.find?_isSome.mpr (List.countP_pos_iff.mp (Nat.lt_of_lt_of_le (by decide) four)))
  obtain ⟨carries, before, after, split, others⟩ := List.find?_eq_some_iff_append.mp found
  have noOption : ∀ p ∈ before, p.carriesOption = false := by simpa using others
  have entries : o.dispatched = before.zipIdx.map some ++ none ::
      ((after.zipIdx (before.length + 1)).filter (!·.1.carriesOption)).map some := by
    rw [dispatched, gathers, if_pos rfl, split, List.zipIdx_append, List.zipIdx_cons]
    refine (gatherFrom_append_cons ?_ carries).trans (by simp)
    rintro ⟨p, i⟩ mem
    exact noOption p (List.fst_mem_of_mem_zipIdx mem)
  rw [entries] at params
  obtain ⟨taken, rest, hparams, left, later⟩ := forall₂_append_left params
  obtain ⟨value, others, gathered, right, rfl⟩ := List.forall₂_cons_left_iff.mp later
  cases gathered
  refine ⟨before, option, after, taken, others, split, carries, noOption, hparams, ?_, ?_⟩
  · simpa using isTakenAs_of_placed left
  · have names : ((after.zipIdx (before.length + 1)).filter (!·.1.carriesOption)).map Prod.fst =
        after.filter (!·.carriesOption) := by
      conv_rhs => rw [← List.zipIdx_map_fst (before.length + 1) after, List.filter_map]
      rfl
    rw [← names]
    exact isTakenAs_of_placed right

/-- A parameter of the dispatcher takes the options value, or one of the
parameters that are passed by themselves. -/
theorem eq_or_exists_of_mem_params (planned : (o.callIn surface layout).outcome = .ok c)
    (mem : d ∈ c.params) : d = optionsParam ∨ ∃ p i, o.params[i]? = some p ∧
      o.passesAlone p = true ∧ o.IsTakenAs p d ∧ d.passing = o.passing surface i p := by
  obtain ⟨entry, among, made⟩ := forall₂_mem_right (callIn_eq_ok planned).1 mem
  cases entry with
  | none =>
    cases made
    exact .inl rfl
  | some placed =>
    obtain ⟨p, i⟩ := placed
    obtain ⟨hp, alone⟩ := mem_dispatched.mp among
    obtain ⟨taken, passed⟩ := dispatchParam_eq_ok made
    exact .inr ⟨p, i, hp, alone, taken, passed⟩

/-- A parameter that is passed by itself has one in the dispatcher. -/
theorem exists_mem_params (planned : (o.callIn surface layout).outcome = .ok c)
    (hp : o.params[i]? = some p) (alone : o.passesAlone p = true) :
    ∃ d ∈ c.params, d.name = p.name ∧ d.passing = o.passing surface i p := by
  obtain ⟨d, mem, made⟩ :=
    forall₂_mem_left (callIn_eq_ok planned).1 (mem_dispatched.mpr ⟨hp, alone⟩)
  obtain ⟨taken, passed⟩ := dispatchParam_eq_ok made
  exact ⟨d, mem, taken.name, passed⟩

/-! ## Names -/

/-- No parameter is named like the options value. -/
def SparesOptions (o : Operator) : Prop := ∀ p ∈ o.params, p.name ≠ "options"

/-- The parameters of a dispatcher have different names. -/
theorem nodup_names_params (distinct : o.HasDistinctNames) (spares : o.SparesOptions)
    (planned : (o.callIn surface layout).outcome = .ok c) : (c.params.map (·.name)).Nodup := by
  cases gathers : o.gathersOptions with
  | false =>
    rw [map_name_of_isTakenAs (params_of_alone planned gathers)]
    exact distinct
  | true =>
    obtain ⟨before, option, after, taken, others, split, -, -, hparams, left, right⟩ :=
      params_of_gathers planned gathers
    have kept : (before ++ after.filter (!·.carriesOption)).Sublist o.params := by
      rw [split]
      exact (List.Sublist.refl before).append (List.filter_sublist.cons option)
    have names : (c.params.map (·.name)).Perm
        ("options" :: (before ++ after.filter (!·.carriesOption)).map (·.name)) := by
      rw [hparams, List.map_append, List.map_cons, map_name_of_isTakenAs left,
        map_name_of_isTakenAs right, List.map_append]
      exact List.perm_middle
    refine names.nodup_iff.mpr (List.nodup_cons.mpr ⟨?_, distinct.sublist (kept.map _)⟩)
    intro mem
    obtain ⟨p, hp, named⟩ := List.mem_map.mp mem
    exact spares p (kept.mem hp) named

theorem outputParams_sublist (o : Operator) : o.outputParams.Sublist o.params := by
  unfold outputParams
  split
  · exact List.nil_sublist _
  · exact (List.drop_sublist _ _).trans (List.take_sublist _ _)

/-- A name says whether its parameter is an output. -/
theorem name_mem_outputParams_iff (distinct : o.HasDistinctNames) (hp : o.params[i]? = some p) :
    p.name ∈ o.outputParams.map (·.name) ↔ o.isOutputAt i = true := by
  constructor
  · intro mem
    obtain ⟨q, hq, named⟩ := List.mem_map.mp mem
    obtain ⟨j, hj⟩ := List.mem_iff_getElem?.mp ((outputParams_sublist o).mem hq)
    obtain rfl := index_eq_of_nodup_names distinct hp hj named.symm
    obtain rfl := Option.some.inj (hp.symm.trans hj)
    obtain ⟨k, hk⟩ := List.mem_iff_getElem?.mp hq
    exact ((outputParams_eq_some_iff distinct hp).mp hk).1
  · intro output
    have place := (outputParams_eq_some_iff distinct hp).mpr ⟨output, rfl⟩
    exact List.mem_map.mpr ⟨p, List.mem_of_getElem? place, rfl⟩

/-! ## The arguments of the native function -/

theorem map_fst_outputs (o : Operator) :
    (o.params.zipIdx.filter (o.isOutputAt ·.2)).map Prod.fst = o.outputParams := by
  cases span : o.outSpan? with
  | none => simp [isOutputAt, outputParams, span]
  | some ends =>
    obtain ⟨first, last⟩ := ends
    rw [filter_isOutputAt_zipIdx span, List.zipIdx_map_fst]

/-- **The outputs come first**, in their order. -/
theorem map_name_outputs (distinct : o.HasDistinctNames) (plain : o.HasPlainOutputs)
    (planned : (o.callIn surface layout).outcome = .ok c) :
    (c.params.filter (·.passing == .output)).map (·.name) = o.outputParams.map (·.name) := by
  have own : ∀ p i d, o.dispatchParam surface layout i p = .ok d →
      (if d.passing == .output then some d.name else none) =
        if !isReceiver surface p && o.isOutputAt i then some p.name else none := by
    intro p i d made
    obtain ⟨taken, passed⟩ := dispatchParam_eq_ok made
    rw [passed, taken.name, passing]
    cases isReceiver surface p <;> cases o.isOutputAt i <;> simp
  have selected := filterMap_params (fun d => if d.passing == .output then some d.name else none)
    (fun e => !isReceiver surface e.1 && o.isOutputAt e.2) (·.1.name) rfl own
    (callIn_eq_ok planned).1
  have outputs : (o.params.zipIdx.filter (o.passesAlone ·.1)).filter
      (fun e => !isReceiver surface e.1 && o.isOutputAt e.2) =
        o.params.zipIdx.filter (o.isOutputAt ·.2) := by
    rw [List.filter_filter]
    refine List.filter_congr ?_
    rintro ⟨p, i⟩ mem
    cases output : o.isOutputAt i with
    | false => simp
    | true =>
      obtain ⟨passed, noOption⟩ :=
        plain.passed distinct (List.mem_zipIdx_iff_getElem?.mp mem) output surface
      simp [passed, noOption, passesAlone]
  rw [← List.filterMap_eq_map, List.filterMap_filter]
  refine selected.trans ?_
  rw [reduceOption_dispatched, outputs, ← map_fst_outputs, List.map_map]
  rfl

/-- What the dispatcher passes on as an input can be told by its name. -/
theorem passing_eq_input_iff (distinct : o.HasDistinctNames) (spares : o.SparesOptions)
    (planned : (o.callIn surface layout).outcome = .ok c) (mem : d ∈ c.params) :
    (d.passing == .input) = (!(o.outputParams.map (·.name)).contains d.name &&
      !(surface.bindsMethods && d.name == "self")) := by
  rcases eq_or_exists_of_mem_params planned mem with rfl | ⟨p, i, hp, -, taken, passed⟩
  · have other : "options" ∉ o.outputParams.map (·.name) := by
      intro output
      obtain ⟨p, hp, named⟩ := List.mem_map.mp output
      exact spares p ((outputParams_sublist o).mem hp) named
    simp [optionsParam, other]
  · have output : (o.outputParams.map (·.name)).contains p.name = o.isOutputAt i := by
      rw [Bool.eq_iff_iff, List.contains_iff_mem]
      exact name_mem_outputParams_iff distinct hp
    have receiver : (surface.bindsMethods && p.name == "self") = isReceiver surface p := rfl
    rw [taken.name, passed, output, receiver, passing]
    cases isReceiver surface p <;> cases o.isOutputAt i <;> rfl

/-- **The arguments of the native function** by name. -/
theorem nativeArgs_eq (distinct : o.HasDistinctNames) (spares : o.SparesOptions)
    (plain : o.HasPlainOutputs) (planned : (o.callIn surface layout).outcome = .ok c) :
    c.nativeArgs = o.outputParams.map (·.name) ++
      (c.params.map (·.name)).filter fun name =>
        !(o.outputParams.map (·.name)).contains name && !(surface.bindsMethods && name == "self") := by
  rw [NativeCall.nativeArgs, List.map_append, map_name_outputs distinct plain planned,
    List.filter_map]
  congr 2
  exact List.filter_congr fun d mem => passing_eq_input_iff distinct spares planned mem

/-- **No argument is passed twice.** -/
theorem nodup_nativeArgs (distinct : o.HasDistinctNames) (spares : o.SparesOptions)
    (plain : o.HasPlainOutputs) (planned : (o.callIn surface layout).outcome = .ok c) :
    c.nativeArgs.Nodup := by
  rw [nativeArgs_eq distinct spares plain planned]
  refine List.nodup_append.mpr ⟨?_, ?_, ?_⟩
  · exact distinct.sublist ((outputParams_sublist o).map _)
  · exact (nodup_names_params distinct spares planned).filter _
  · rintro name output other mem rfl
    have outside := (List.mem_filter.mp mem).2
    rw [List.contains_iff_mem.mpr output] at outside
    cases outside

/-! ## The setters of the options value -/

/-- An option is told by the name of its parameter. -/
theorem filterMap_option? (ps : List Param) :
    ps.filterMap (·.option?) = (ps.map (·.name)).filterMap TensorOption.ofName? := by
  rw [List.filterMap_map]
  rfl

/-- Different names carry different options. -/
theorem nodup_options (distinct : o.HasDistinctNames) :
    (o.params.filterMap (·.option?)).Nodup := by
  rw [filterMap_option?]
  refine distinct.filterMap ?_
  intro name other option ofName ofOther
  rw [← paramName_of_ofName? ofName, ← paramName_of_ofName? ofOther]

/-- The parameters that carry options, in the order of the options. -/
theorem optionEntries_perm (o : Operator) :
    o.optionEntries.Perm (o.params.zipIdx.filter (·.1.carriesOption)) := by
  refine (List.perm_ext_iff_of_nodup (nodup_optionEntries o) ?_).mpr ?_
  · exact (nodup_zipIdx o.params).filter _
  · rintro ⟨p, i⟩
    rw [mem_optionEntries, List.mem_filter, List.mem_zipIdx_iff_getElem?]

/-- **There is a setter for each option** among the parameters. -/
theorem setters_perm (o : Operator) (layout : List Slot) :
    ((o.optionLinks layout).map (·.setter)).Perm
      ((o.params.filterMap (·.option?)).map (·.setter)) := by
  have links : (o.optionLinks layout).map (·.setter) =
      (o.optionEntries.filterMap (·.1.option?)).map (·.setter) := by
    simp only [optionLinks, optionEntries, List.map_flatMap, List.filterMap_flatMap, List.map_map]
    refine List.flatMap_congr fun option _ => ?_
    have carried : ∀ entries : List Placed, (∀ e ∈ entries, e.1.option? = some option) →
        entries.filterMap (·.1.option?) = entries.map fun _ => option :=
      fun _ all => List.filterMap_eq_map_iff_forall_eq_some.mpr all
    rw [carried _ fun e mem => by simpa using (List.mem_filter.mp mem).2, List.map_map]
    rfl
  have carried : (o.params.zipIdx.filter (·.1.carriesOption)).filterMap (·.1.option?) =
      o.params.filterMap (·.option?) := by
    conv_rhs => rw [← List.zipIdx_map_fst 0 o.params, List.filterMap_map]
    rw [List.filterMap_filter]
    refine List.filterMap_congr ?_
    rintro ⟨p, i⟩ -
    cases h : p.option? <;> simp [Param.carriesOption, h]
  rw [links, ← carried]
  exact ((optionEntries_perm o).filterMap _).map _

theorem nodup_setters (distinct : o.HasDistinctNames)
    (planned : (o.callIn surface layout).outcome = .ok c) : (c.options.map (·.setter)).Nodup := by
  rw [(callIn_eq_ok planned).2.1]
  split
  · refine (setters_perm o layout).nodup_iff.mpr ((nodup_options distinct).map ?_)
    exact fun _ _ same => setter_inj same
  · exact List.nodup_nil

/-! ## Once -/

/-- What the native function is given are names of the dispatcher. -/
theorem exists_of_mem_nativeArgs {name : String} (mem : name ∈ c.nativeArgs) :
    ∃ d ∈ c.params, d.name = name ∧ d.passing ≠ .receiver := by
  rw [NativeCall.nativeArgs, List.map_append, List.mem_append] at mem
  rcases mem with mem | mem
  · obtain ⟨d, hd, rfl⟩ := List.mem_map.mp mem
    obtain ⟨hd, output⟩ := List.mem_filter.mp hd
    exact ⟨d, hd, rfl, by simp [eq_of_beq output]⟩
  · obtain ⟨d, hd, rfl⟩ := List.mem_map.mp mem
    obtain ⟨hd, input⟩ := List.mem_filter.mp hd
    exact ⟨d, hd, rfl, by simp [eq_of_beq input]⟩

/-- **Which parameters the native function is given:** those that are passed
by themselves, but not the receiver. -/
theorem name_mem_nativeArgs_iff (distinct : o.HasDistinctNames) (spares : o.SparesOptions)
    (planned : (o.callIn surface layout).outcome = .ok c) (hp : o.params[i]? = some p) :
    p.name ∈ c.nativeArgs ↔ o.passesAlone p = true ∧ isReceiver surface p = false := by
  constructor
  · intro mem
    obtain ⟨d, hd, named, given⟩ := exists_of_mem_nativeArgs mem
    rcases eq_or_exists_of_mem_params planned hd with rfl | ⟨q, j, hq, alone, taken, passed⟩
    · exact absurd named.symm (spares p (List.mem_of_getElem? hp))
    · obtain rfl := index_eq_of_nodup_names distinct hp hq (named.symm.trans taken.name)
      obtain rfl := Option.some.inj (hp.symm.trans hq)
      refine ⟨alone, ?_⟩
      rw [Bool.eq_false_iff]
      intro receiver
      exact given (by rw [passed, passing, if_pos receiver])
  · rintro ⟨alone, other⟩
    obtain ⟨d, hd, named, passed⟩ := exists_mem_params planned hp alone
    rw [passing, other, if_neg Bool.false_ne_true] at passed
    rw [NativeCall.nativeArgs, List.map_append, List.mem_append, ← named]
    cases output : o.isOutputAt i with
    | true =>
      exact .inl (List.mem_map_of_mem (List.mem_filter.mpr ⟨hd, by simp [passed, output]⟩))
    | false =>
      exact .inr (List.mem_map_of_mem (List.mem_filter.mpr ⟨hd, by simp [passed, output]⟩))

/-- The setters for the option of a parameter: one if it is gathered. -/
theorem countP_setters (distinct : o.HasDistinctNames)
    (planned : (o.callIn surface layout).outcome = .ok c) (mem : p ∈ o.params) :
    (c.options.countP fun link => p.option?.any fun option => link.setter == option.setter) =
      if o.passesAlone p then 0 else 1 := by
  have options := (callIn_eq_ok planned).2.1
  cases carries : p.option? with
  | none => simp [passesAlone, Param.carriesOption, carries]
  | some option =>
    have asCount : (c.options.countP fun link => link.setter == option.setter) =
        (c.options.map (·.setter)).count option.setter := by
      rw [List.count_eq_countP, List.countP_map]
      rfl
    cases gathers : o.gathersOptions with
    | false => simp [options, gathers, passesAlone]
    | true =>
      have set : option.setter ∈ c.options.map (·.setter) := by
        rw [options, gathers, if_pos rfl, (setters_perm o layout).mem_iff]
        exact List.mem_map.mpr ⟨option, List.mem_filterMap.mpr ⟨p, mem, carries⟩, rfl⟩
      simp [asCount, List.count_eq_one_of_mem (nodup_setters distinct planned) set, passesAlone,
        gathers, Param.carriesOption, carries]

/-- **Each parameter is passed on once**, all but the receiver. -/
theorem timesPassed_eq (distinct : o.HasDistinctNames) (spares : o.SparesOptions)
    (plain : o.HasPlainOutputs) (planned : (o.callIn surface layout).outcome = .ok c)
    (mem : p ∈ o.params) : c.timesPassed p = if isReceiver surface p then 0 else 1 := by
  obtain ⟨i, hp⟩ := List.mem_iff_getElem?.mp mem
  have given := name_mem_nativeArgs_iff distinct spares planned hp
  rw [NativeCall.timesPassed, countP_setters distinct planned mem,
    (nodup_nativeArgs distinct spares plain planned).count, if_congr given rfl rfl]
  cases alone : o.passesAlone p with
  | true => cases isReceiver surface p <;> simp
  | false =>
    -- a gathered option is not the receiver
    have carries : p.carriesOption = true := by
      simp only [passesAlone, Bool.not_eq_false', Bool.and_eq_true] at alone
      exact alone.2
    simp [isReceiver_of_carriesOption carries]

end Operator

/-- **Every parameter reaches the native function exactly once.** The
parameters have different names, none of them `options`, and no output is named
like the receiver or like an option. Then the dispatcher takes the parameters in
order, with one options value for four options and more at the place of the
first; the native function is given the outputs in order and then all others but
the receiver of a method; and there is a setter for each gathered option. This
holds of every planned call, whatever signature laid out its arguments. -/
theorem passesEach_of_callIn {o : Operator} {surface : Surface} {layout : List Slot}
    {c : NativeCall} (distinct : o.HasDistinctNames) (spares : o.SparesOptions)
    (plain : o.HasPlainOutputs) (planned : (o.callIn surface layout).outcome = .ok c) :
    c.PassesEach o surface where
  alone few := Operator.params_of_alone planned (Operator.gathersOptions_eq_false_iff.mpr few)
  gathered four := Operator.params_of_gathers planned (Operator.gathersOptions_eq_true_iff.mpr four)
  arguments := by
    rw [NativeCall.args, List.forall₂_map_right_iff, List.forall₂_same]
    intro d mem
    rcases Operator.eq_or_exists_of_mem_params planned mem with rfl | ⟨p, i, hp, -, taken, -⟩
    · exact ⟨fun _ => rfl, fun _ => rfl⟩
    · have other : d.name ≠ "options" := taken.name ▸ spares p (List.mem_of_getElem? hp)
      exact ⟨fun gathered => absurd gathered taken.argument, fun named => absurd named other⟩
  nativeArgs := Operator.nativeArgs_eq distinct spares plain planned
  distinct := Operator.nodup_nativeArgs distinct spares plain planned
  setters four := by
    rw [(Operator.callIn_eq_ok planned).2.1, Operator.gathersOptions_eq_true_iff.mpr four, if_pos rfl]
    exact Operator.setters_perm o layout
  noSetters few := by
    rw [(Operator.callIn_eq_ok planned).2.1, Operator.gathersOptions_eq_false_iff.mpr few,
      if_neg Bool.false_ne_true]
  distinctSetters := Operator.nodup_setters distinct planned
  once p mem := Operator.timesPassed_eq distinct spares plain planned mem

/-- It holds of a method that writes, with a full set of options between its
receiver and its outputs. -/
theorem passesEach_frame :
    ∃ c, (frame.call .tensor).outcome = .ok c ∧ c.nativeArgs = ["q", "r", "options", "k"] ∧
      c.PassesEach frame .tensor := by
  have distinct : frame.HasDistinctNames := by
    unfold Operator.HasDistinctNames
    decide
  have spares : frame.SparesOptions := by
    unfold Operator.SparesOptions
    decide
  have plain : frame.HasPlainOutputs := by
    unfold Operator.HasPlainOutputs
    decide
  obtain ⟨c, planned, args⟩ : ∃ c, (frame.call .tensor).outcome = .ok c ∧
      c.nativeArgs = ["q", "r", "options", "k"] := ⟨_, by rfl, by rfl⟩
  exact ⟨c, planned, args, passesEach_of_callIn distinct spares plain planned⟩

end OpBindings
