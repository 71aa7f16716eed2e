/-
OpBindings.Proofs.Strict.Call — a call by look-ups that may have no answer.

The positions of an operator's parameters are gathered into a list first, and every
reader of the list asks it for an entry by number: the first output's, a parameter's
own, an option's. The list has one entry for each parameter (`positions_eq`) and the
numbers are those of parameters, so each is answered with what the call reads
(`getElem?_positionsIn`), and planning a call does not stop (`callIn_eq`).
-/
import OpBindings.NativeCall
import OpBindings.Proofs.Strict.Layout

namespace OpBindings.Strict

variable {α β : Type} {o : Operator} {surface : Surface} {layout : List Slot}

/-! ## The positions -/

/-- Where an operator's parameters are kept. -/
structure Positions where
  /-- One entry for each parameter; the receiver of a method has none. -/
  params : List (Option Nat)
  /-- The position of the first output. -/
  out : Option Nat

def positions (o : Operator) (layout : List Slot) : Option Positions := do
  let packs ← packsOutputs o
  let params := o.params.zipIdx.map fun (p, index) =>
    Operator.positionIn layout (if packs && o.isOutputAt index then "out" else p.name)
  match o.outSpan? with
  | none => some { params, out := none }
  | some (first, _) => do
    let out ← params[first]?
    some { params, out }

/-- The positions that a layout gives to the parameters. -/
def positionsIn (o : Operator) (layout : List Slot) : Positions where
  params := o.params.zipIdx.map fun (p, index) => o.position? layout index p
  out := o.firstOutPosition? layout

/-- Every parameter has an entry. -/
theorem getElem?_positionsIn {p : Param} {index : Nat} (hp : o.params[index]? = some p) :
    (positionsIn o layout).params[index]? = some (o.position? layout index p) := by
  simp [positionsIn, hp]

/-- **The first output has an entry.** -/
theorem positions_eq (o : Operator) (layout : List Slot) :
    positions o layout = some (positionsIn o layout) := by
  rw [positions, packsOutputs_eq]
  cases outputs : o.hasOutputs with
  | false =>
    have none : o.firstOut? = none := by simpa [Operator.hasOutputs] using outputs
    simp [Operator.outSpan?_eq_none outputs, positionsIn, Operator.firstOutPosition?, none,
      Operator.position?]
  | true =>
    obtain ⟨first, last, span, hfirst⟩ := Operator.outSpan?_of_hasOutputs outputs
    have bounds := Operator.outSpan?_bounds span
    have hp : o.params[first]? = some o.params[first] := List.getElem?_eq_getElem (by omega)
    simp [span, positionsIn, Operator.firstOutPosition?, hfirst, hp, Operator.position?]

/-! ## The dispatcher -/

/-- The difference of two numbers of which the second is not larger. -/
def minus (n m : Nat) : Option Nat := if m ≤ n then some (n - m) else none

def source (o : Operator) (surface : Surface) (kept : Positions) (packs : Bool) (index : Nat)
    (p : Param) (accessor : String) : Option Argument :=
  if Operator.isReceiver surface p then some .receiver
  else if packs && o.isOutputAt index then do
    let element ← minus index (o.firstOut?.getD 0)
    some (.packed element)
  else do
    let position ← kept.params[index]?
    some (.slot accessor (position.getD index))

def dispatchParams (o : Operator) (surface : Surface) (kept : Positions) (packs placed : Bool)
    (index : Nat) : List Param → Step (List DispatchParam)
  | [] => pure []
  | p :: ps =>
    if o.gathersOptions && p.carriesOption then do
      let rest ← dispatchParams o surface kept packs true (index + 1) ps
      pure (if placed then rest else Operator.optionsParam :: rest)
    else do
      let native ← Step.sure (Run.lift (p.native o))
      let source ← Step.ask (source o surface kept packs index p native.accessor)
      let param := {
        nativeType := native.nativeType
        name := p.name
        source
        passing := o.passing surface index p }
      let rest ← dispatchParams o surface kept packs placed (index + 1) ps
      pure (param :: rest)

/-- The links of the options value. -/
def optionLinks (o : Operator) (kept : Positions) : Option (List OptionLink) := do
  let links ← TensorOption.all.mapM fun option =>
    (o.params.zipIdx.filter fun (p, _) => p.option? == some option).mapM fun (_, index) => do
      let position ← kept.params[index]?
      some {
        setter := option.setter
        accessor := option.accessor o.opensDtype
        position := position.getD index }
  some links.flatten

/-! ## The call -/

def callIn (o : Operator) (surface : Surface) (layout : List Slot) : Step NativeCall := do
  let kept ← Step.ask (positions o layout)
  let packs ← Step.ask (packsOutputs o)
  let params ← dispatchParams o surface kept packs false 0 o.params
  if o.gathersOptions then Step.sure (Run.tally .gatheredOptions)
  let options ← if o.gathersOptions then Step.ask (optionLinks o kept) else pure []
  Step.sure (Run.note (.planned o.name (o.qualifier surface ++ o.nativeFunction)))
  let returns ← Step.sure (Run.lift (ResultShape.of o))
  pure {
    declaration := o.text
    dispatcher := "dispatch_" ++ o.nativeFunction
    params, returns
    function := o.qualifier surface ++ o.nativeFunction
    options
    outputPack := if packs then kept.out.map fun position => { size := o.results.length, position }
      else none }

/-! ## They do not stop -/

/-- A parameter's argument has a source: an element of the pack is numbered from the
first output on, and every other has an entry. -/
theorem source_eq {p : Param} {index : Nat} (hp : o.params[index]? = some p)
    (accessor : String) :
    source o surface (positionsIn o layout) o.packsOutputs index p accessor =
      some (o.source surface layout index p accessor) := by
  unfold source Operator.source
  split
  · rfl
  split
  · rename_i packed
    obtain ⟨packs, output⟩ := Bool.and_eq_true_iff.mp packed
    obtain ⟨first, last, span, hfirst⟩ :=
      Operator.outSpan?_of_hasOutputs (Operator.hasOutputs_of_packsOutputs packs)
    rw [Operator.isOutputAt_eq span, Bool.and_eq_true, decide_eq_true_iff] at output
    simp [minus, hfirst, output.1]
  · simp [getElem?_positionsIn hp, Operator.position]

theorem dispatchParams_eq {placed : Bool} {index : Nat} {ps : List Param}
    (rest : o.params.drop index = ps) :
    dispatchParams o surface (positionsIn o layout) o.packsOutputs placed index ps =
      Step.sure (Run.lift (o.dispatchParams surface layout placed index ps)) := by
  induction ps generalizing placed index with
  | nil => rfl
  | cons p ps ih =>
    have hp : o.params[index]? = some p := by
      rw [← List.head?_drop, rest]
      rfl
    have next : o.params.drop (index + 1) = ps := by
      rw [← List.tail_drop, rest]
      rfl
    unfold dispatchParams Operator.dispatchParams
    split
    · rw [ih next, Run.lift_bind, Step.sure_bind]
      rfl
    · simp only [Run.lift_bind, Step.sure_bind, Operator.dispatchParam, ih next, bind_assoc,
        source_eq hp, Step.ask_some, pure_bind]
      rfl

/-- Reading all entries that there are. -/
theorem mapM_eq_some {f : α → Option β} {g : α → β} {as : List α}
    (answered : ∀ a ∈ as, f a = some (g a)) : as.mapM f = some (as.map g) := by
  induction as with
  | nil => rfl
  | cons a as ih =>
    obtain ⟨here, later⟩ := List.forall_mem_cons.mp answered
    simp [List.mapM_cons, here, ih later]

theorem optionLinks_eq (o : Operator) (layout : List Slot) :
    optionLinks o (positionsIn o layout) = some (o.optionLinks layout) := by
  have read : ∀ option ∈ TensorOption.all,
      ((o.params.zipIdx.filter fun (p, _) => p.option? == some option).mapM fun (_, index) => do
        let position ← (positionsIn o layout).params[index]?
        some ({
          setter := option.setter
          accessor := option.accessor o.opensDtype
          position := position.getD index } : OptionLink)) =
      some ((o.params.zipIdx.filter fun (p, _) => p.option? == some option).map fun (p, index) =>
        { setter := option.setter
          accessor := option.accessor o.opensDtype
          position := o.position layout index p }) := by
    intro option _
    refine mapM_eq_some fun (p, index) mem => ?_
    have hp := List.mem_zipIdx_iff_getElem?.mp (List.mem_of_mem_filter mem)
    simp [getElem?_positionsIn hp, Operator.position]
  rw [optionLinks, mapM_eq_some read]
  rfl

/-- **A call is planned or fails, and does not stop.** -/
theorem callIn_eq (o : Operator) (surface : Surface) (layout : List Slot) :
    callIn o surface layout = Step.sure (o.callIn surface layout) := by
  have pack : (if o.packsOutputs then (positionsIn o layout).out.map fun position =>
      ({ size := o.results.length, position } : OutputPack) else none) = o.outputPack? layout := rfl
  rw [callIn, positions_eq, packsOutputs_eq]
  cases gathers : o.gathersOptions <;>
    simp [dispatchParams_eq (List.drop_zero), optionLinks_eq, pack, Operator.callIn, gathers]

end OpBindings.Strict
