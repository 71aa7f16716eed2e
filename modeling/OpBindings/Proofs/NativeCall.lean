/-
OpBindings.Proofs.NativeCall — what the parameters of a dispatcher stand for.

`Operator.dispatched` lists them without the walk: the parameters of the
operator in order, with the options value at the place of the first gathered
option. The walk makes exactly these (`dispatchParams_eq_ok`), so what a call
reads from the argument parser can be said parameter by parameter.
-/
import Mathlib.Data.List.ReduceOption
import OpBindings.NativeCall
import OpBindings.Proofs.ArgumentLayout
import OpBindings.Proofs.Outcome

namespace OpBindings

/-! ## The parameters of a dispatcher -/

/-- A parameter with its place in the declaration. -/
abbrev Placed := Param × Nat

/-- The parameters with the options taken out; `none` stands at the place of the first. -/
def gatherFrom (entries : List Placed) : List (Option Placed) :=
  (entries.takeWhile (!·.1.carriesOption)).map some ++
    match entries.dropWhile (!·.1.carriesOption) with
    | [] => []
    | _ :: rest => none :: (rest.filter (!·.1.carriesOption)).map some

theorem gatherFrom_cons (entry : Placed) (entries : List Placed) :
    gatherFrom (entry :: entries) =
      if entry.1.carriesOption then none :: (entries.filter (!·.1.carriesOption)).map some
      else some entry :: gatherFrom entries := by
  cases h : entry.1.carriesOption <;> simp [gatherFrom, h]

/-- The parameters that stay are those that carry no option. -/
theorem reduceOption_gatherFrom (entries : List Placed) :
    (gatherFrom entries).reduceOption = entries.filter (!·.1.carriesOption) := by
  induction entries with
  | nil => rfl
  | cons entry entries ih =>
    rw [gatherFrom_cons]
    cases h : entry.1.carriesOption with
    | true => simp [h, List.reduceOption]
    | false => simp [h, List.reduceOption_cons_of_some, ih]

namespace Operator

variable {o : Operator} {surface : Surface} {layout : List Slot}

theorem isReceiver_eq_true_iff {p : Param} :
    isReceiver surface p = true ↔ surface.bindsMethods = true ∧ p.name = "self" := by
  simp [isReceiver]

/-- The receiver carries no option. -/
theorem isReceiver_of_carriesOption {p : Param} (carries : p.carriesOption = true) :
    isReceiver surface p = false := by
  rw [Bool.eq_false_iff]
  intro receiver
  have named : p.name = "self" := (isReceiver_eq_true_iff.mp receiver).2
  rw [Param.carriesOption, Param.option?, named] at carries
  exact absurd carries (by decide)

/-- What the parameters of the dispatcher stand for: a parameter of the
operator with its place, or the options value. -/
def dispatched (o : Operator) : List (Option Placed) :=
  if o.gathersOptions then gatherFrom o.params.zipIdx else o.params.zipIdx.map some

/-- The parameter is passed by itself, not as a part of the options value. -/
def passesAlone (o : Operator) (p : Param) : Bool := !(o.gathersOptions && p.carriesOption)

theorem reduceOption_dispatched (o : Operator) :
    o.dispatched.reduceOption = o.params.zipIdx.filter (o.passesAlone ·.1) := by
  unfold dispatched
  split
  · rename_i gathers
    simp [reduceOption_gatherFrom, passesAlone, gathers]
  · rename_i gathers
    simp only [passesAlone, gathers, Bool.false_and, Bool.not_false, List.filter_true]
    simp [List.reduceOption, List.filterMap_map]

theorem mem_dispatched {p : Param} {i : Nat} :
    some (p, i) ∈ o.dispatched ↔ o.params[i]? = some p ∧ o.passesAlone p = true := by
  rw [← List.reduceOption_mem_iff, reduceOption_dispatched, List.mem_filter,
    List.mem_zipIdx_iff_getElem?]

/-- The parameter that stands at one place of the dispatcher. -/
def entryParam (o : Operator) (surface : Surface) (layout : List Slot) :
    Option Placed → Except Fault DispatchParam
  | none => .ok optionsParam
  | some (p, index) => o.dispatchParam surface layout index p

/-- The walk after the options value was placed, and where no option is left to gather. -/
theorem dispatchParams_plain {placed : Bool} {index : Nat} {ps : List Param}
    {ds : List DispatchParam} (past : o.gathersOptions = true → placed = true) :
    o.dispatchParams surface layout placed index ps = .ok ds ↔
      List.Forall₂ (fun e d => o.entryParam surface layout (some e) = .ok d)
        ((ps.zipIdx index).filter (o.passesAlone ·.1)) ds := by
  induction ps generalizing index ds with
  | nil => simp [dispatchParams, eq_comm]
  | cons p ps ih =>
    rw [dispatchParams]
    split
    · rename_i gathered
      simp only [Bool.and_eq_true] at gathered
      obtain rfl := past gathered.1
      have out : o.passesAlone p = false := by simp [passesAlone, gathered.1, gathered.2]
      simp [bind_eq_ok, ih, List.zipIdx_cons, out]
    · rename_i alone
      have kept : o.passesAlone p = true := by simp only [passesAlone, alone, Bool.not_false]
      have here : ((p :: ps).zipIdx index).filter (o.passesAlone ·.1) =
          (p, index) :: (ps.zipIdx (index + 1)).filter (o.passesAlone ·.1) := by
        rw [List.zipIdx_cons, List.filter_cons_of_pos (by exact kept)]
      rw [cons_eq_ok, here, List.forall₂_cons_left_iff]
      simp only [ih, entryParam]

/-- The walk before the options value is placed. -/
theorem dispatchParams_gathering {index : Nat} {ps : List Param} {ds : List DispatchParam}
    (gathers : o.gathersOptions = true) :
    o.dispatchParams surface layout false index ps = .ok ds ↔
      List.Forall₂ (fun e d => o.entryParam surface layout e = .ok d)
        (gatherFrom (ps.zipIdx index)) ds := by
  induction ps generalizing index ds with
  | nil => simp [dispatchParams, gatherFrom, eq_comm]
  | cons p ps ih =>
    rw [dispatchParams, List.zipIdx_cons, gatherFrom_cons]
    cases carries : p.carriesOption with
    | true =>
      -- the first option: the walk goes on as one that has placed the options value
      have alone : ∀ e : Placed, o.passesAlone e.1 = !e.1.carriesOption := by
        simp [passesAlone, gathers]
      have rest : ∀ ds, o.dispatchParams surface layout true (index + 1) ps = .ok ds ↔
          List.Forall₂ (fun e d => o.entryParam surface layout (some e) = .ok d)
            ((ps.zipIdx (index + 1)).filter (!·.1.carriesOption)) ds := by
        intro ds
        rw [dispatchParams_plain (fun _ => rfl)]
        simp only [alone]
      simp only [gathers, Bool.and_self, if_true, bind_eq_ok, rest, Bool.false_eq_true, if_false,
        List.forall₂_cons_left_iff, List.forall₂_map_left_iff, entryParam]
      constructor
      · intro h
        obtain ⟨rest, hrest, h⟩ := h
        cases h
        exact ⟨optionsParam, rest, rfl, hrest, rfl⟩
      · intro h
        obtain ⟨d, rest, hd, hrest, rfl⟩ := h
        cases hd
        exact ⟨rest, hrest, rfl⟩
    | false =>
      simp only [Bool.and_false, Bool.false_eq_true, if_false, cons_eq_ok, ih,
        List.forall₂_cons_left_iff, entryParam]

/-- **The parameters of a dispatcher** are those that `dispatched` lists, one for one. -/
theorem dispatchParams_eq_ok {ds : List DispatchParam} :
    o.dispatchParams surface layout false 0 o.params = .ok ds ↔
      List.Forall₂ (fun e d => o.entryParam surface layout e = .ok d) o.dispatched ds := by
  unfold dispatched
  split
  · rename_i gathers
    exact dispatchParams_gathering gathers
  · rename_i alone
    have all : (o.params.zipIdx.filter (o.passesAlone ·.1)) = o.params.zipIdx := by
      simp [passesAlone, alone]
    rw [dispatchParams_plain (fun gathers => absurd gathers alone), List.forall₂_map_left_iff, all]

/-! ## What a call reads -/

/-- **A call that was planned:** its parameters and its result are known, and
the rest of it follows. -/
theorem exists_of_callIn {c : NativeCall} (h : (o.callIn surface layout).outcome = .ok c) :
    ∃ params returns, o.dispatchParams surface layout false 0 o.params = .ok params ∧
      ResultShape.of o = .ok returns ∧ c = {
        declaration := o.text
        dispatcher := "dispatch_" ++ o.nativeFunction
        params, returns
        function := o.qualifier surface ++ o.nativeFunction
        options := if o.gathersOptions then o.optionLinks layout else []
        outputPack := o.outputPack? layout } := by
  obtain ⟨params, hparams, h⟩ := Run.outcome_bind.mp h
  cases gathers : o.gathersOptions with
  | true =>
    simp only [gathers, if_true] at h
    obtain ⟨-, -, h⟩ := Run.outcome_bind.mp h
    obtain ⟨-, -, h⟩ := Run.outcome_bind.mp h
    obtain ⟨returns, hreturns, h⟩ := Run.outcome_bind.mp h
    cases h
    exact ⟨params, returns, hparams, hreturns, rfl⟩
  | false =>
    simp only [gathers, Bool.false_eq_true, if_false] at h
    obtain ⟨-, -, h⟩ := Run.outcome_bind.mp h
    obtain ⟨-, -, h⟩ := Run.outcome_bind.mp h
    obtain ⟨returns, hreturns, h⟩ := Run.outcome_bind.mp h
    cases h
    exact ⟨params, returns, hparams, hreturns, rfl⟩

/-- A call that was planned, part by part. -/
theorem callIn_eq_ok {c : NativeCall} (h : (o.callIn surface layout).outcome = .ok c) :
    List.Forall₂ (fun e d => o.entryParam surface layout e = .ok d) o.dispatched c.params ∧
      c.options = (if o.gathersOptions then o.optionLinks layout else []) ∧
      c.outputPack = o.outputPack? layout := by
  obtain ⟨params, returns, hparams, -, rfl⟩ := exists_of_callIn h
  exact ⟨dispatchParams_eq_ok.mp hparams, rfl, rfl⟩

/-- The slot of a parameter. -/
def slotOf (o : Operator) (layout : List Slot) (entry : Placed) : Nat :=
  o.position layout entry.2 entry.1

/-- The link of an option reads the slot of the option. -/
theorem mem_optionLinks {link : OptionLink} : link ∈ o.optionLinks layout ↔
    ∃ option i p, o.params[i]? = some p ∧ p.option? = some option ∧
      link = ⟨option.setter, option.accessor o.opensDtype, o.slotOf layout (p, i)⟩ := by
  simp only [optionLinks, List.mem_flatMap, List.mem_map, List.mem_filter, Prod.exists,
    List.mem_zipIdx_iff_getElem?, beq_iff_eq]
  constructor
  · intro h
    obtain ⟨option, -, p, i, ⟨hp, carries⟩, rfl⟩ := h
    exact ⟨option, i, p, hp, carries, rfl⟩
  · intro h
    obtain ⟨option, i, p, hp, carries, rfl⟩ := h
    exact ⟨option, option.mem_all, p, i, ⟨hp, carries⟩, rfl⟩

end Operator

/-! ## Slots -/

/-- The slot that an argument is read from. -/
def Argument.slot? : Argument → Option Nat
  | slot _ position => some position
  | _ => none

/-- Every slot that the code of a call reads: for the dispatcher's parameters,
for the options value, and for the pack of outputs. -/
def NativeCall.slotReads (c : NativeCall) : List Nat :=
  c.args.filterMap Argument.slot? ++ c.options.map (·.position) ++
    (c.outputPack.map (·.position)).toList

/-- The call reads the slot at `position` for the parameter: for the dispatcher's
parameter of its name, or for the link that sets the option it carries. -/
def NativeCall.Reads (c : NativeCall) (p : Param) (position : Nat) : Prop :=
  (∃ d ∈ c.params, d.name = p.name ∧ d.source.slot? = some position) ∨
    ∃ option, p.option? = some option ∧
      ∃ link ∈ c.options, link.setter = option.setter ∧ link.position = position

namespace Operator

variable {o : Operator} {surface : Surface} {layout : List Slot}

/-- The argument of the parameter is read from a slot of its own. -/
def readsSlot (o : Operator) (surface : Surface) (entry : Placed) : Bool :=
  !isReceiver surface entry.1 && !(o.packsOutputs && o.isOutputAt entry.2)

/-- The parameters that carry options, in the order of the options. -/
def optionEntries (o : Operator) : List Placed :=
  TensorOption.all.flatMap fun option =>
    o.params.zipIdx.filter fun (p, _) => p.option? == some option

/-- The parameters for which a call reads a slot: those passed by themselves,
then those gathered into the options value. -/
def readEntries (o : Operator) (surface : Surface) : List Placed :=
  o.params.zipIdx.filter (fun entry => o.passesAlone entry.1 && o.readsSlot surface entry) ++
    if o.gathersOptions then o.optionEntries else []

theorem mem_optionEntries {p : Param} {i : Nat} :
    (p, i) ∈ o.optionEntries ↔ o.params[i]? = some p ∧ p.carriesOption = true := by
  simp only [optionEntries, List.mem_flatMap, List.mem_filter, List.mem_zipIdx_iff_getElem?,
    beq_iff_eq, Param.carriesOption, Option.isSome_iff_exists]
  constructor
  · intro h
    obtain ⟨option, -, hp, carries⟩ := h
    exact ⟨hp, option, carries⟩
  · intro h
    obtain ⟨hp, option, carries⟩ := h
    exact ⟨option, option.mem_all, hp, carries⟩

theorem nodup_zipIdx (ps : List Param) : ps.zipIdx.Nodup := by
  refine List.Nodup.of_map Prod.snd ?_
  rw [List.zipIdx_map_snd]
  exact List.nodup_range'

theorem nodup_optionEntries (o : Operator) : o.optionEntries.Nodup := by
  unfold optionEntries
  rw [List.nodup_flatMap]
  refine ⟨fun option _ => (nodup_zipIdx o.params).filter _, ?_⟩
  refine List.Pairwise.imp ?_ (show TensorOption.all.Pairwise (· ≠ ·) by decide)
  intro a b differ entry inA inB
  simp only [List.mem_filter, beq_iff_eq] at inA inB
  rw [inA.2] at inB
  exact differ (Option.some.inj inB.2)

theorem nodup_readEntries (o : Operator) (surface : Surface) : (o.readEntries surface).Nodup := by
  unfold readEntries
  split
  · rename_i gathers
    refine List.nodup_append.mpr ⟨(nodup_zipIdx o.params).filter _, nodup_optionEntries o, ?_⟩
    rintro ⟨p, i⟩ alone ⟨q, j⟩ carries same
    cases same
    simp only [List.mem_filter, Bool.and_eq_true, passesAlone, gathers, Bool.true_and,
      Bool.not_eq_true'] at alone
    rw [(mem_optionEntries.mp carries).2] at alone
    cases alone.2.1
  · simpa using (nodup_zipIdx o.params).filter _

theorem slot?_source (o : Operator) (surface : Surface) (layout : List Slot) (p : Param) (i : Nat)
    (accessor : String) : (o.source surface layout i p accessor).slot? =
      if o.readsSlot surface (p, i) then some (o.slotOf layout (p, i)) else none := by
  unfold source readsSlot
  cases isReceiver surface p with
  | true => rfl
  | false => cases o.packsOutputs && o.isOutputAt i <;> rfl

/-- What can be read off the parameters of a dispatcher, where nothing is read
off the options value: it is said of the parameters that stay, in order. -/
theorem filterMap_params {β : Type} (view : DispatchParam → Option β) (selects : Placed → Bool)
    (value : Placed → β) (gathered : view optionsParam = none)
    (own : ∀ p i d, o.dispatchParam surface layout i p = .ok d →
      view d = if selects (p, i) then some (value (p, i)) else none)
    {entries : List (Option Placed)} {ds : List DispatchParam}
    (h : List.Forall₂ (fun e d => o.entryParam surface layout e = .ok d) entries ds) :
    ds.filterMap view = (entries.reduceOption.filter selects).map value := by
  induction h with
  | nil => rfl
  | @cons e d entries ds head _ ih =>
    cases e with
    | none =>
      cases head
      rw [List.filterMap_cons_none gathered, List.reduceOption_cons_of_none, ih]
    | some placed =>
      obtain ⟨p, i⟩ := placed
      have here := own p i d head
      rw [List.reduceOption_cons_of_some]
      cases selected : selects (p, i) with
      | true =>
        rw [selected, if_pos rfl] at here
        rw [List.filterMap_cons_some here, List.filter_cons_of_pos selected, List.map_cons, ih]
      | false =>
        rw [selected, if_neg Bool.false_ne_true] at here
        rw [List.filterMap_cons_none here, List.filter_cons_of_neg (by simp [selected]), ih]

/-- What can be read off the arguments, where a source says it of its parameter alone. -/
theorem filterMap_sources {β : Type} {view : Argument → Option β} {selects : Placed → Bool}
    {value : Placed → β} (gathered : view .gathered = none)
    (own : ∀ p i accessor, view (o.source surface layout i p accessor) =
      if selects (p, i) then some (value (p, i)) else none)
    {entries : List (Option Placed)} {ds : List DispatchParam}
    (h : List.Forall₂ (fun e d => o.entryParam surface layout e = .ok d) entries ds) :
    (ds.map (·.source)).filterMap view = (entries.reduceOption.filter selects).map value := by
  rw [List.filterMap_map]
  refine filterMap_params _ selects value gathered ?_ h
  intro p i d made
  obtain ⟨native, -, made⟩ := bind_eq_ok.mp made
  cases made
  exact own p i native.accessor

/-- **The slots that a call reads** are those of the parameters and that of the pack. -/
theorem slotReads_eq {c : NativeCall} (h : (o.callIn surface layout).outcome = .ok c) :
    c.slotReads = (o.readEntries surface).map (o.slotOf layout) ++
      ((o.outputPack? layout).map (·.position)).toList := by
  obtain ⟨params, options, pack⟩ := callIn_eq_ok h
  have sources := filterMap_sources rfl (slot?_source o surface layout) params
  rw [NativeCall.slotReads, NativeCall.args, sources, reduceOption_dispatched, List.filter_filter,
    options, pack, readEntries, List.map_append]
  simp only [Bool.and_comm]
  congr 2
  split
  · simp only [optionLinks, optionEntries, List.map_flatMap, List.map_map]
    rfl
  · rfl

theorem setter_inj {a b : TensorOption} (h : a.setter = b.setter) : a = b := by
  cases a <;> cases b <;> first | rfl | exact absurd h (by decide)

theorem paramName_of_ofName? {name : String} {option : TensorOption}
    (h : TensorOption.ofName? name = some option) : option.paramName = name := by
  simpa using List.find?_some h

/-- **What a call reads for a parameter** is the slot of the parameter, if it reads one at all. -/
theorem reads_iff (distinct : o.HasDistinctNames) {c : NativeCall}
    (planned : (o.callIn surface layout).outcome = .ok c) {p : Param} {i position : Nat}
    (hp : o.params[i]? = some p) :
    c.Reads p position ↔
      (p, i) ∈ o.readEntries surface ∧ position = o.slotOf layout (p, i) := by
  obtain ⟨params, options, -⟩ := callIn_eq_ok planned
  have alone : ∀ {d : DispatchParam} {q : Param} {j : Nat},
      o.entryParam surface layout (some (q, j)) = .ok d → d.name = q.name ∧
        d.source.slot? = if o.readsSlot surface (q, j) then some (o.slotOf layout (q, j)) else none := by
    intro d q j made
    obtain ⟨native, -, made⟩ := bind_eq_ok.mp made
    cases made
    exact ⟨rfl, slot?_source o surface layout q j native.accessor⟩
  constructor
  · intro h
    rcases h with ⟨d, hd, named, reads⟩ | ⟨option, carries, link, hlink, set, rfl⟩
    · obtain ⟨e, he, made⟩ := forall₂_mem_right params hd
      cases e with
      | none =>
        cases made
        cases reads
      | some placed =>
        obtain ⟨q, j⟩ := placed
        obtain ⟨hq, own⟩ := mem_dispatched.mp he
        obtain ⟨named', slot⟩ := alone made
        -- the name alone says which parameter this one of the dispatcher stands for
        obtain rfl := index_eq_of_nodup_names distinct hp hq (named.symm.trans named')
        obtain rfl := Option.some.inj (hp.symm.trans hq)
        rw [reads] at slot
        split at slot
        · rename_i reads
          refine ⟨List.mem_append_left _ (List.mem_filter.mpr ⟨?_, ?_⟩), Option.some.inj slot⟩
          · exact List.mem_zipIdx_iff_getElem?.mpr hp
          · exact Bool.and_eq_true_iff.mpr ⟨own, reads⟩
        · cases slot
    · rw [options] at hlink
      split at hlink
      · rename_i gathers
        obtain ⟨option', j, q, hq, carries', rfl⟩ := mem_optionLinks.mp hlink
        obtain rfl := setter_inj set
        have named : p.name = q.name :=
          (paramName_of_ofName? carries).symm.trans (paramName_of_ofName? carries')
        obtain rfl := index_eq_of_nodup_names distinct hp hq named
        obtain rfl := Option.some.inj (hp.symm.trans hq)
        refine ⟨List.mem_append_right _ ?_, rfl⟩
        rw [if_pos gathers]
        exact mem_optionEntries.mpr ⟨hp, Option.isSome_iff_exists.mpr ⟨_, carries⟩⟩
      · cases hlink
  · intro h
    obtain ⟨mem, rfl⟩ := h
    rcases List.mem_append.mp mem with direct | gathered
    · obtain ⟨-, direct⟩ := List.mem_filter.mp direct
      obtain ⟨own, reads⟩ := Bool.and_eq_true_iff.mp direct
      obtain ⟨d, hd, made⟩ := forall₂_mem_left params (mem_dispatched.mpr ⟨hp, own⟩)
      obtain ⟨named, slot⟩ := alone made
      rw [reads, if_pos rfl] at slot
      exact .inl ⟨d, hd, named, slot⟩
    · split at gathered
      · rename_i gathers
        obtain ⟨option, carries⟩ := Option.isSome_iff_exists.mp (mem_optionEntries.mp gathered).2
        refine .inr ⟨option, carries,
          ⟨option.setter, option.accessor o.opensDtype, o.slotOf layout (p, i)⟩, ?_, rfl, rfl⟩
        rw [options, if_pos gathers]
        exact mem_optionLinks.mpr ⟨option, i, p, hp, carries, rfl⟩
      · cases gathered

end Operator

end OpBindings
