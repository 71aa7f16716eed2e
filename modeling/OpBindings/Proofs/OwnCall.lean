/-
OpBindings.Proofs.OwnCall — a call reads the arguments that its own signature shows.

The layout is made by one walk over the parameters and the call by another.
`NativeCall.ReadsOwn` says that they agree on every slot, for any mix of
positional parameters, parameters passed by name, options and outputs.
-/
import OpBindings.Proofs.NativeCall

namespace OpBindings

namespace Operator

variable {o : Operator} {surface : Surface}

/-- No output is named like the receiver, and none carries an option. -/
def HasPlainOutputs (o : Operator) : Prop :=
  ∀ p ∈ o.outputParams, p.name ≠ "self" ∧ p.carriesOption = false

/-- The argument of a parameter that is passed by itself comes from where the
operator's own layout keeps it: the receiver of a method, an element of the
pack of outputs, or else the slot of the parameter. -/
structure ReadsOwn (o : Operator) (surface : Surface) (p : Param) (source : Argument) : Prop where
  receiver : source = .receiver ↔ surface.bindsMethods = true ∧ p.name = "self"
  packed : ∀ j, source = .packed j ↔ o.packsOutputs = true ∧ o.outputParams[j]? = some p
  slot : source ≠ .receiver → (∀ j, source ≠ .packed j) →
    ∃ native s, p.native o = .ok native ∧ s ∈ o.slots surface .kept ∧ s.param = p ∧
      source = .slot native.accessor s.position

/-- What stands at one place of a dispatcher, and the parameter there. -/
def StandsFor (o : Operator) (surface : Surface) : Option Placed → DispatchParam → Prop
  | none, d => d = optionsParam
  | some (p, _), d => d.name = p.name ∧ o.ReadsOwn surface p d.source

end Operator

/-- **The call reads what the operator's own signature shows.** -/
structure NativeCall.ReadsOwn (c : NativeCall) (o : Operator) (surface : Surface) : Prop where
  /-- The slots are told apart by name. -/
  names : ((o.slots surface .kept).map (·.param.name)).Nodup
  /-- Every parameter of the dispatcher, in order. -/
  params : List.Forall₂ (o.StandsFor surface) o.dispatched c.params
  /-- The pack is read from the slot of `out`. -/
  pack : o.packsOutputs = true → ∃ s ∈ o.slots surface .kept,
    s.param = packedParam o.outputParams.length ∧ c.outputPack = some ⟨o.results.length, s.position⟩
  noPack : o.packsOutputs = false → c.outputPack = none
  /-- The links of the options value are read from the slots of the options. -/
  options : ∀ link, link ∈ c.options ↔ o.gathersOptions = true ∧
    ∃ option, ∃ s ∈ o.slots surface .kept, s.param.option? = some option ∧
      link = ⟨option.setter, option.accessor o.opensDtype, s.position⟩
  /-- No slot is read twice. -/
  slotReads : c.slotReads.Nodup
  /-- Every look-up finds its slot. -/
  found : ∀ i p, o.params[i]? = some p → Operator.isReceiver surface p = false →
    (o.position? (o.slots surface .kept) i p).isSome = true

namespace Operator

variable {o : Operator} {surface : Surface} {p : Param} {i j k : Nat}

/-! ## Outputs -/

/-- An output is passed by the parser, also to a method. -/
theorem HasPlainOutputs.passed (plain : o.HasPlainOutputs) (distinct : o.HasDistinctNames)
    (hp : o.params[i]? = some p) (output : o.isOutputAt i = true) (surface : Surface) :
    isReceiver surface p = false ∧ p.carriesOption = false := by
  have mem : p ∈ o.outputParams :=
    List.mem_of_getElem? ((outputParams_eq_some_iff distinct hp).mpr ⟨output, rfl⟩)
  obtain ⟨other, noOption⟩ := plain p mem
  exact ⟨by simp [isReceiver, other], noOption⟩

/-! ## The parameters of the dispatcher -/

/-- **Each parameter of the dispatcher** reads what the operator's own layout keeps for it. -/
theorem standsFor_of_entryParam (distinct : o.HasDistinctNames) (reserved : o.ReservesOut)
    (plain : o.HasPlainOutputs) {entry : Option Placed} {d : DispatchParam}
    (mem : entry ∈ o.dispatched)
    (h : o.entryParam surface (o.slots surface .kept) entry = .ok d) :
    o.StandsFor surface entry d := by
  cases entry with
  | none =>
    cases h
    rfl
  | some placed =>
    obtain ⟨p, i⟩ := placed
    obtain ⟨hp, -⟩ := mem_dispatched.mp mem
    obtain ⟨native, hnative, h⟩ := bind_eq_ok.mp h
    cases h
    refine ⟨rfl, ?_⟩
    have place := fun j => outputParams_eq_some_iff (j := j) distinct hp
    cases receiver : isReceiver surface p with
    | true =>
      have input : o.isOutputAt i = false := by
        rw [Bool.eq_false_iff]
        intro output
        rw [(plain.passed distinct hp output surface).1] at receiver
        cases receiver
      have source : o.source surface (o.slots surface .kept) i p native.accessor = .receiver := by
        simp [Operator.source, receiver]
      refine ⟨?_, ?_, ?_⟩
      · simp [source, ← isReceiver_eq_true_iff, receiver]
      · intro j
        simp [source, place j, input]
      · intro other
        exact absurd source other
    | false =>
      cases single : o.packsOutputs && o.isOutputAt i with
      | true =>
        obtain ⟨packs, output⟩ := Bool.and_eq_true_iff.mp single
        have source : o.source surface (o.slots surface .kept) i p native.accessor =
            .packed (i - o.firstOut?.getD 0) := by simp [Operator.source, receiver, single]
        refine ⟨?_, ?_, ?_⟩
        · simp [source, ← isReceiver_eq_true_iff, receiver]
        · intro j
          simp [source, place j, packs, output, eq_comm]
        · intro _ other
          exact absurd source (other _)
      | false =>
        obtain ⟨k, found, hk⟩ := position?_own distinct reserved hp receiver single
        have source : o.source surface (o.slots surface .kept) i p native.accessor =
            .slot native.accessor k := by
          simp [Operator.source, receiver, single, position, found]
        refine ⟨?_, ?_, ?_⟩
        · simp [source, ← isReceiver_eq_true_iff, receiver]
        · intro j
          simp only [source, place j, reduceCtorEq, false_iff]
          intro h
          obtain ⟨packs, output, -⟩ := h
          simp [packs, output] at single
        · intro _ _
          exact ⟨native, ⟨p, k⟩, hnative, mem_slots_iff.mpr hk, rfl, source⟩

/-! ## The slots -/

/-- A parameter for which a slot is read stands at that slot of the operator's own layout. -/
theorem getElem?_slotOf (distinct : o.HasDistinctNames) (reserved : o.ReservesOut)
    (plain : o.HasPlainOutputs) (mem : (p, i) ∈ o.readEntries surface) :
    o.params[i]? = some p ∧ (o.packsOutputs && o.isOutputAt i) = false ∧
      (o.orderedParams surface .kept)[o.slotOf (o.slots surface .kept) (p, i)]? = some p := by
  have facts : o.params[i]? = some p ∧ isReceiver surface p = false ∧
      (o.packsOutputs && o.isOutputAt i) = false := by
    rcases List.mem_append.mp mem with alone | gathered
    · obtain ⟨hp, reads⟩ := List.mem_filter.mp alone
      simp only [readsSlot, Bool.and_eq_true, Bool.not_eq_true'] at reads
      exact ⟨List.mem_zipIdx_iff_getElem?.mp hp, reads.2⟩
    · split at gathered
      · obtain ⟨hp, carries⟩ := mem_optionEntries.mp gathered
        refine ⟨hp, isReceiver_of_carriesOption carries, ?_⟩
        rw [Bool.and_eq_false_iff, Bool.eq_false_iff, Bool.eq_false_iff]
        refine .inr fun output => ?_
        have noOption := (plain.passed distinct hp output surface).2
        rw [carries] at noOption
        cases noOption
      · cases gathered
  obtain ⟨hp, passed, single⟩ := facts
  obtain ⟨k, found, hk⟩ := position?_own distinct reserved hp passed single
  refine ⟨hp, single, ?_⟩
  rw [slotOf, position, found, Option.getD_some, hk]

/-- The pack stands at its slot of the operator's own layout. -/
theorem firstOutPosition?_own (distinct : o.HasDistinctNames) (reserved : o.ReservesOut)
    (packs : o.packsOutputs = true) (surface : Surface) :
    ∃ k, o.firstOutPosition? (o.slots surface .kept) = some k ∧
      (o.orderedParams surface .kept)[k]? = some (packedParam o.outputParams.length) := by
  obtain ⟨first, last, span, hfirst⟩ := outSpan?_of_hasOutputs (hasOutputs_of_packsOutputs packs)
  have bounds := outSpan?_bounds span
  have output : o.isOutputAt first = true := by simp [isOutputAt_eq span, bounds.1]
  have hp : o.params[first]? = some o.params[first] := List.getElem?_eq_getElem (by omega)
  obtain ⟨k, found, hk⟩ := position?_own_of_packed distinct reserved packs output surface
    o.params[first]
  exact ⟨k, by simp [firstOutPosition?, hfirst, hp, found], hk⟩

/-- Different parameters are read from different slots. -/
theorem nodup_slotReads (distinct : o.HasDistinctNames) (reserved : o.ReservesOut)
    (plain : o.HasPlainOutputs) {c : NativeCall} (h : (o.call surface).outcome = .ok c) :
    c.slotReads.Nodup := by
  have names := nodup_names_orderedParams distinct reserved surface
  rw [slotReads_eq h]
  refine List.nodup_append.mpr ⟨?_, ?_, ?_⟩
  · refine List.Nodup.map_on ?_ (nodup_readEntries o surface)
    rintro ⟨p, i⟩ memP ⟨q, j⟩ memQ same
    obtain ⟨hp, -, atP⟩ := getElem?_slotOf distinct reserved plain memP
    obtain ⟨hq, -, atQ⟩ := getElem?_slotOf distinct reserved plain memQ
    rw [same, atQ] at atP
    cases atP
    rw [index_eq_of_nodup_names distinct hp hq rfl]
  · cases (o.outputPack? (o.slots surface .kept)).map (·.position) <;> simp
  · intro a inArgs b inPack same
    obtain ⟨⟨p, i⟩, mem, rfl⟩ := List.mem_map.mp inArgs
    obtain ⟨hp, single, atP⟩ := getElem?_slotOf distinct reserved plain mem
    cases packs : o.packsOutputs with
    | false => simp [outputPack?, packs] at inPack
    | true =>
      obtain ⟨k, found, hk⟩ := firstOutPosition?_own distinct reserved packs surface
      obtain rfl : b = k := by simpa [outputPack?, packs, found] using inPack
      rw [same, hk] at atP
      -- a parameter at the slot of the pack would be an input named `out`
      have input : o.isOutputAt i = false := by simpa [packs] using single
      exact reserved packs i p hp input (by rw [← Option.some.inj atP]; rfl)

/-- The links of the options value are the slots of the operator's own layout that carry options. -/
theorem mem_optionLinks_own (distinct : o.HasDistinctNames) (reserved : o.ReservesOut)
    (plain : o.HasPlainOutputs) (gathers : o.gathersOptions = true) {link : OptionLink} :
    link ∈ o.optionLinks (o.slots surface .kept) ↔
      ∃ option, ∃ s ∈ o.slots surface .kept, s.param.option? = some option ∧
        link = ⟨option.setter, option.accessor o.opensDtype, s.position⟩ := by
  have read : ∀ {p : Param} {i : Nat} {option : TensorOption}, o.params[i]? = some p →
      p.option? = some option →
      (o.orderedParams surface .kept)[o.slotOf (o.slots surface .kept) (p, i)]? = some p := by
    intro p i option hp carries
    have mem : (p, i) ∈ o.readEntries surface := by
      refine List.mem_append_right _ ?_
      rw [if_pos gathers]
      exact mem_optionEntries.mpr ⟨hp, Option.isSome_iff_exists.mpr ⟨option, carries⟩⟩
    exact (getElem?_slotOf distinct reserved plain mem).2.2
  rw [mem_optionLinks]
  constructor
  · intro h
    obtain ⟨option, i, p, hp, carries, rfl⟩ := h
    have hk := read hp carries
    generalize o.slotOf (o.slots surface .kept) (p, i) = k at hk
    exact ⟨option, ⟨p, k⟩, mem_slots_iff.mpr hk, carries, rfl⟩
  · intro h
    obtain ⟨option, ⟨p, k⟩, hs, carries, rfl⟩ := h
    have hk := mem_slots_iff.mp hs
    rcases mem_orderedParams (List.mem_of_getElem? hk) with mem | packed
    · obtain ⟨i, hp⟩ := List.mem_iff_getElem?.mp mem
      refine ⟨option, i, p, hp, carries, ?_⟩
      have names := nodup_names_orderedParams distinct reserved surface
      rw [← index_eq_of_nodup_names names hk (read hp carries) rfl]
    · have noOption : (packedParam o.outputParams.length).option? = none := rfl
      rw [show p = packedParam o.outputParams.length from packed, noOption] at carries
      cases carries

end Operator

/-- **Every call reads its own signature correctly.** The parameters have
different names, no output is named like the receiver or like an option, and
no input is named like the pack of outputs, if there is one. Then each
argument of the call comes from the receiver, from the pack, or from the slot
that the signature shows for it; no slot is read twice, and none is guessed. -/
theorem readsOwn_of_call {o : Operator} {surface : Surface} (distinct : o.HasDistinctNames)
    (plain : o.HasPlainOutputs) (reserved : o.ReservesOut) {c : NativeCall}
    (planned : (o.call surface).outcome = .ok c) : c.ReadsOwn o surface := by
  obtain ⟨params, options, pack⟩ := Operator.callIn_eq_ok planned
  refine ⟨?_, ?_, ?_, ?_, ?_, ?_, ?_⟩
  · have names := Operator.nodup_names_orderedParams distinct reserved surface
    rwa [← o.map_param_slots, List.map_map] at names
  · have inside := (List.forall₂_and_left _ _).mpr ⟨fun e (mem : e ∈ o.dispatched) => mem, params⟩
    refine List.Forall₂.imp ?_ inside
    rintro entry d ⟨mem, made⟩
    exact Operator.standsFor_of_entryParam distinct reserved plain mem made
  · intro packs
    obtain ⟨k, found, hk⟩ := Operator.firstOutPosition?_own distinct reserved packs surface
    refine ⟨⟨_, k⟩, Operator.mem_slots_iff.mpr hk, rfl, ?_⟩
    simp [pack, Operator.outputPack?, packs, found]
  · intro packs
    simp [pack, Operator.outputPack?, packs]
  · intro link
    rw [options]
    cases gathers : o.gathersOptions with
    | false => simp
    | true => simpa using Operator.mem_optionLinks_own distinct reserved plain gathers
  · exact Operator.nodup_slotReads distinct reserved plain planned
  · intro i p hp passed
    cases single : o.packsOutputs && o.isOutputAt i with
    | false =>
      obtain ⟨k, found, -⟩ := Operator.position?_own distinct reserved hp passed single
      simp [found]
    | true =>
      obtain ⟨packs, output⟩ := Bool.and_eq_true_iff.mp single
      obtain ⟨k, found, -⟩ := Operator.position?_own_of_packed distinct reserved packs output surface p
      simp [found]

/-- A writer with a receiver, a full set of options and two outputs. -/
def frame : Operator where
  name := "frame.out"
  text := "frame.out(Tensor self, *, ScalarType dtype, Layout layout, Device device, bool pin_memory=False, int k=1, Tensor(a!) q, Tensor(b!) r) -> (Tensor(a!) q, Tensor(b!) r)"
  params := [
    ⟨"self", "Tensor", false, none, none, false, none⟩,
    ⟨"dtype", "ScalarType", false, none, none, true, none⟩,
    ⟨"layout", "Layout", false, none, none, true, none⟩,
    ⟨"device", "Device", false, none, none, true, none⟩,
    ⟨"pin_memory", "bool", false, some "False", none, true, none⟩,
    ⟨"k", "int", false, some "1", none, true, none⟩,
    ⟨"q", "Tensor", false, none, some "a!", true, none⟩,
    ⟨"r", "Tensor", false, none, some "b!", true, none⟩,
    requiresGradParam]
  results := [⟨some "q", "Tensor", some "a!"⟩, ⟨some "r", "Tensor", some "b!"⟩]
  calls := { function := true, method := true }
  moduleTag := none

theorem readsOwn_frame : ∃ c, (frame.call .tensor).outcome = .ok c ∧ c.ReadsOwn frame .tensor := by
  have distinct : frame.HasDistinctNames := by
    unfold Operator.HasDistinctNames
    decide
  have plain : frame.HasPlainOutputs := by
    unfold Operator.HasPlainOutputs
    decide
  have reserved : frame.ReservesOut := by
    intro _ i p hp _ named
    have none : ∀ q ∈ frame.params, q.name ≠ "out" := by decide
    exact none p (List.mem_of_getElem? hp) named
  obtain ⟨c, planned⟩ : ∃ c, (frame.call .tensor).outcome = .ok c := ⟨_, by rfl⟩
  exact ⟨c, planned, readsOwn_of_call distinct plain reserved planned⟩

end OpBindings
