/-
OpBindings.Proofs.LayoutOrder — the layout with the outputs and the one without them.

The parser is given a layout that has the outputs, and operators are gathered by
one that has not. `Operator.LayoutsCorrespond` says how the two compare. Both put
what is shown into one order, so deleting the outputs may be done before that, in
the order of the declaration (`filter_shownParams`), where the rest stays as it was.

A pack of outputs is passed by name even where the outputs are not. So a slot is
shifted by the slots of outputs that stand before it in the parser's order, which
need not be those of the outputs declared before its parameter.
-/
import OpBindings.Proofs.ArgumentLayout

namespace OpBindings

namespace Operator

variable {o : Operator} {surface : Surface} {outputs : Outputs} {p q : Param} {i j k : Nat}

/-! ## What a layout shows of the outputs -/

/-- The parameter stands for outputs in a layout: it is their pack, or one of them. -/
def showsOutput (o : Operator) (p : Param) : Bool :=
  if o.packsOutputs then p.name == "out" else o.outputParams.contains p

/-- The place in the declaration of a parameter that a layout shows. A pack is not
declared; it stands where the first output does. -/
def declaredAt? (o : Operator) (p : Param) : Option Nat :=
  if o.packsOutputs && p.name == "out" then o.firstOut? else o.params.findIdx? (· == p)

/-- The first parameter is declared before the second. -/
def DeclaresBefore (o : Operator) (p q : Param) : Prop :=
  ∃ i j, o.declaredAt? p = some i ∧ o.declaredAt? q = some j ∧ i < j

/-- The order of the parser: a positional parameter stands before one that is passed
by name, and of two of a kind the one that is declared first. -/
def StandsBefore (o : Operator) (p q : Param) : Prop :=
  (p.keywordOnly = false ∧ q.keywordOnly = true) ∨
    (p.keywordOnly = q.keywordOnly ∧ o.DeclaresBefore p q)

/-- The slots of outputs before the slot `k`, by number. -/
def outputSlotsBefore (o : Operator) (surface : Surface) (k : Nat) : Nat :=
  ((o.slots surface .kept).take k).countP (o.showsOutput ·.param)

/-- **The layouts with and without the outputs correspond.** -/
structure LayoutsCorrespond (o : Operator) (surface : Surface) : Prop where
  /-- Without the slots of outputs, one layout holds what the other does. -/
  deleted : ((o.slots surface .kept).map (·.param)).filter (!o.showsOutput ·) =
    (o.slots surface .elided).map (·.param)
  /-- What is left is every input but the receiver. -/
  survives : ∀ p, p ∈ (o.slots surface .elided).map (·.param) ↔
    (∃ i, o.params[i]? = some p ∧ o.isOutputAt i = false) ∧ isReceiver surface p = false
  /-- The slots are numbered in order. -/
  numbered : ∀ outputs k (s : Slot), (o.slots surface outputs)[k]? = some s →
    s.position = k
  /-- The slots stand in the parser's order. -/
  ordered : ∀ outputs,
    (o.slots surface outputs).Pairwise fun s t => o.StandsBefore s.param t.param
  /-- A slot is shifted by the slots of outputs before it. -/
  shifted : ∀ s ∈ o.slots surface .kept, ∀ t ∈ o.slots surface .elided, s.param = t.param →
    s.position = t.position + o.outputSlotsBefore surface s.position

/-! ## Deleting the outputs -/

theorem showsOutput_of_mem_elided (distinct : o.HasDistinctNames) (reserved : o.ReservesOut)
    (shown : p ∈ o.shownParams .elided) : o.showsOutput p = false := by
  obtain ⟨i, hp, input⟩ := mem_shownParams_elided.mp shown
  unfold showsOutput
  split
  · rename_i packs
    simpa using reserved packs i p hp input
  · rw [Bool.eq_false_iff]
    intro output
    obtain ⟨j, hj⟩ := List.mem_iff_getElem?.mp (List.contains_iff_mem.mp output)
    have inside := ((outputParams_eq_some_iff distinct hp).mp hj).1
    rw [input] at inside
    cases inside

/-- The parameters are those before the outputs, the outputs, and those after them. -/
theorem params_eq_append {first last : Nat} (span : o.outSpan? = some (first, last)) :
    o.params = o.params.take first ++ o.outputParams ++ o.params.drop last := by
  have bounds := outSpan?_bounds span
  have front : o.params.take first ++ o.outputParams = o.params.take last := by
    simp only [outputParams, span]
    conv_rhs => rw [← List.take_append_drop first (o.params.take last), List.take_take]
    rw [Nat.min_eq_left (by omega)]
  rw [front, List.take_append_drop]

/-- **Deleting what stands for outputs leaves what is shown without them.** -/
theorem filter_shownParams (distinct : o.HasDistinctNames) (reserved : o.ReservesOut) :
    (o.shownParams .kept).filter (!o.showsOutput ·) = o.shownParams .elided := by
  have kept : ∀ ps : List Param, (∀ p ∈ ps, p ∈ o.shownParams .elided) →
      ps.filter (!o.showsOutput ·) = ps := by
    intro ps inputs
    refine List.filter_eq_self.mpr fun p mem => ?_
    rw [showsOutput_of_mem_elided distinct reserved (inputs p mem)]
    rfl
  cases outputs : o.hasOutputs with
  | false =>
    rw [shownParams_of_plain outputs, shownParams_of_plain outputs]
    exact kept _ fun p mem => by rwa [shownParams_of_plain outputs]
  | true =>
    obtain ⟨first, last, span, -⟩ := outSpan?_of_hasOutputs outputs
    have without : o.shownParams .elided = o.params.take first ++ o.params.drop last := by
      simp [shownParams, span]
    have before := kept (o.params.take first) fun p mem => by
      rw [without]
      exact List.mem_append_left _ mem
    have after := kept (o.params.drop last) fun p mem => by
      rw [without]
      exact List.mem_append_right _ mem
    cases packs : o.packsOutputs with
    | true =>
      have pack : o.showsOutput (packedParam (last - first)) = true := by
        simp [showsOutput, packs, packedParam]
      simp [shownParams, span, packs, pack, before, after]
    | false =>
      have none : o.outputParams.filter (!o.showsOutput ·) = [] := by
        refine List.filter_eq_nil_iff.mpr fun p mem => ?_
        simp [showsOutput, packs, mem]
      rw [shownParams_of_not_packsOutputs packs, params_eq_append span, without,
        List.filter_append, List.filter_append, before, none, after, List.append_nil]

/-- The same in the order of the parser. -/
theorem filter_orderedParams (distinct : o.HasDistinctNames) (reserved : o.ReservesOut)
    (surface : Surface) :
    (o.orderedParams surface .kept).filter (!o.showsOutput ·) =
      o.orderedParams surface .elided := by
  have swap (f : Param → Bool) (ps : List Param) :
      (ps.filter f).filter (!o.showsOutput ·) = (ps.filter (!o.showsOutput ·)).filter f :=
    List.filter_comm ..
  rw [orderedParams, orderedParams, List.filter_append, swap (!·.keywordOnly),
    swap (·.keywordOnly), swap (!isReceiver surface ·), filter_shownParams distinct reserved]

/-! ## The order of the declaration -/

theorem declaredAt?_of_getElem? (distinct : o.HasDistinctNames) (reserved : o.ReservesOut)
    (hp : o.params[i]? = some p) (single : (o.packsOutputs && o.isOutputAt i) = false) :
    o.declaredAt? p = some i := by
  have noPack : (o.packsOutputs && p.name == "out") = false := by
    cases packs : o.packsOutputs with
    | false => rfl
    | true =>
      have input : o.isOutputAt i = false := by simpa [packs] using single
      simpa using reserved packs i p hp input
  obtain ⟨inside, here⟩ := List.getElem?_eq_some_iff.mp hp
  rw [declaredAt?, noPack, if_neg Bool.false_ne_true, List.findIdx?_eq_some_iff_getElem]
  refine ⟨inside, by simp [here], ?_⟩
  intro j before same
  have there := List.getElem?_eq_getElem (Nat.lt_trans before inside)
  have place := index_eq_of_nodup_names distinct there hp (by rw [eq_of_beq same])
  omega

/-- What is shown without the outputs is declared where it stands. -/
theorem declaredAt?_of_mem_elided (distinct : o.HasDistinctNames) (reserved : o.ReservesOut)
    (shown : p ∈ o.shownParams .elided) (hp : o.params[i]? = some p) :
    o.declaredAt? p = some i := by
  obtain ⟨j, hj, input⟩ := mem_shownParams_elided.mp shown
  obtain rfl : i = j := index_eq_of_nodup_names distinct hp hj rfl
  exact declaredAt?_of_getElem? distinct reserved hp (by rw [input, Bool.and_false])

/-- Parameters stand before those with a higher number. -/
theorem pairwise_params (o : Operator) : o.params.Pairwise fun p q =>
    ∃ i j : Nat, o.params[i]? = some p ∧ o.params[j]? = some q ∧ i < j := by
  rw [List.pairwise_iff_getElem]
  intro i j hi hj before
  exact ⟨i, j, List.getElem?_eq_getElem hi, List.getElem?_eq_getElem hj, before⟩

/-- **What is shown stands in the order of the declaration**, a pack in the place of
the first output. -/
theorem pairwise_shownParams (distinct : o.HasDistinctNames) (reserved : o.ReservesOut)
    (outputs : Outputs) : (o.shownParams outputs).Pairwise o.DeclaresBefore := by
  have elided : (o.shownParams .elided).Pairwise o.DeclaresBefore := by
    refine (o.pairwise_params.sublist shownParams_elided_sublist).imp_of_mem ?_
    rintro p q shownP shownQ ⟨i, j, hp, hq, before⟩
    exact ⟨i, j, declaredAt?_of_mem_elided distinct reserved shownP hp,
      declaredAt?_of_mem_elided distinct reserved shownQ hq, before⟩
  cases outputs with
  | elided => exact elided
  | kept =>
    cases packs : o.packsOutputs with
    | false =>
      rw [shownParams_of_not_packsOutputs packs]
      refine o.pairwise_params.imp ?_
      rintro p q ⟨i, j, hp, hq, before⟩
      have single (k : Nat) : (o.packsOutputs && o.isOutputAt k) = false := by simp [packs]
      exact ⟨i, j, declaredAt?_of_getElem? distinct reserved hp (single i),
        declaredAt?_of_getElem? distinct reserved hq (single j), before⟩
    | true =>
      obtain ⟨first, last, span, hfirst⟩ := outSpan?_of_hasOutputs (hasOutputs_of_packsOutputs packs)
      have bounds := outSpan?_bounds span
      have without : o.shownParams .elided = o.params.take first ++ o.params.drop last := by
        simp [shownParams, span]
      have pack : o.declaredAt? (packedParam (last - first)) = some first := by
        simp [declaredAt?, packs, packedParam, hfirst]
      rw [without] at elided
      obtain ⟨front, back, across⟩ := List.pairwise_append.mp elided
      simp only [shownParams, span, packs, if_true]
      refine List.pairwise_append.mpr ⟨front, List.pairwise_cons.mpr ⟨?_, back⟩, ?_⟩
      · intro q mem
        obtain ⟨j, hj⟩ := List.mem_iff_getElem?.mp mem
        rw [List.getElem?_drop] at hj
        have shown : q ∈ o.shownParams .elided := by
          rw [without]
          exact List.mem_append_right _ mem
        exact ⟨first, last + j, pack, declaredAt?_of_mem_elided distinct reserved shown hj,
          by omega⟩
      · intro p mem q later
        rcases List.mem_cons.mp later with rfl | later
        · obtain ⟨i, hi⟩ := List.mem_iff_getElem?.mp mem
          rw [List.getElem?_take] at hi
          split at hi
          · rename_i before
            have shown : p ∈ o.shownParams .elided := by
              rw [without]
              exact List.mem_append_left _ mem
            exact ⟨i, first, declaredAt?_of_mem_elided distinct reserved shown hi, pack, before⟩
          · cases hi
        · exact across p mem q later

/-- **The parser's order**: positional parameters first, and each kind in the order of
the declaration. -/
theorem pairwise_orderedParams (distinct : o.HasDistinctNames) (reserved : o.ReservesOut)
    (surface : Surface) (outputs : Outputs) :
    (o.orderedParams surface outputs).Pairwise o.StandsBefore := by
  have passed := (pairwise_shownParams distinct reserved outputs).filter (!isReceiver surface ·)
  refine List.pairwise_append.mpr ⟨?_, ?_, ?_⟩
  · refine (passed.filter _).imp_of_mem fun memP memQ before => .inr ⟨?_, before⟩
    have p := (List.mem_filter.mp memP).2
    have q := (List.mem_filter.mp memQ).2
    simp_all
  · refine (passed.filter _).imp_of_mem fun memP memQ before => .inr ⟨?_, before⟩
    rw [(List.mem_filter.mp memP).2, (List.mem_filter.mp memQ).2]
  · intro p memP q memQ
    exact .inl ⟨by simpa using (List.mem_filter.mp memP).2, (List.mem_filter.mp memQ).2⟩

/-! ## Slots -/

theorem slots_getElem? {s : Slot} (h : (o.slots surface outputs)[k]? = some s) :
    s.position = k := by
  simp only [slots, List.getElem?_map, List.getElem?_zipIdx, Option.map_map] at h
  obtain ⟨p, -, rfl⟩ := Option.map_eq_some_iff.mp h
  simp

/-- An entry that a filter keeps stands behind the kept ones that stood before it. -/
theorem getElem?_filter_countP (keep : Param → Bool) {ps : List Param} (hp : ps[k]? = some p)
    (kept : keep p = true) : (ps.filter keep)[(ps.take k).countP keep]? = some p := by
  induction ps generalizing k with
  | nil => simp at hp
  | cons q ps ih =>
    cases k with
    | zero =>
      obtain rfl : q = p := by simpa using hp
      simp [kept]
    | succ k =>
      have later := ih (k := k) (by simpa using hp)
      cases kept' : keep q <;> simpa [kept'] using later

/-- Before a slot stand the slots of inputs and those of outputs. -/
theorem outputSlotsBefore_add (inside : k ≤ (o.orderedParams surface .kept).length) :
    ((o.orderedParams surface .kept).take k).countP (!o.showsOutput ·) +
      o.outputSlotsBefore surface k = k := by
  have count : o.outputSlotsBefore surface k =
      ((o.orderedParams surface .kept).take k).countP (o.showsOutput ·) := by
    rw [outputSlotsBefore, ← map_param_slots, ← List.map_take, List.countP_map]
    rfl
  have total := List.length_eq_countP_add_countP (o.showsOutput ·)
    (l := (o.orderedParams surface .kept).take k)
  rw [List.length_take, Nat.min_eq_left inside] at total
  simp only [Bool.not_eq_true, Bool.decide_eq_false] at total
  omega

/-- **A slot is shifted by the slots of outputs before it.** -/
theorem position_eq_add (distinct : o.HasDistinctNames) (reserved : o.ReservesOut) {s t : Slot}
    (hs : s ∈ o.slots surface .kept) (ht : t ∈ o.slots surface .elided)
    (same : s.param = t.param) :
    s.position = t.position + o.outputSlotsBefore surface s.position := by
  have atS := mem_slots_iff.mp hs
  have atT := mem_slots_iff.mp ht
  have elided := filter_orderedParams distinct reserved surface
  have input : o.showsOutput s.param = false := by
    have mem := List.mem_of_getElem? atT
    rw [← elided, ← same] at mem
    simpa using (List.mem_filter.mp mem).2
  -- a parameter stands at one place of the layout without outputs
  have place : ((o.orderedParams surface .kept).take s.position).countP (!o.showsOutput ·) =
      t.position := by
    have names : ((o.orderedParams surface .elided).map (·.name)).Nodup := by
      rw [← elided]
      exact (nodup_names_orderedParams distinct reserved surface).sublist
        (List.filter_sublist.map _)
    have there := getElem?_filter_countP (!o.showsOutput ·) atS (by simp [input])
    rw [elided] at there
    exact index_eq_of_nodup_names names there atT (by rw [same])
  have inside := (List.getElem?_eq_some_iff.mp atS).1
  have total := outputSlotsBefore_add (Nat.le_of_lt inside)
  omega

end Operator

/-- **The layouts with and without the outputs correspond**, for an operator whose
parameters have different names, none of them but an output named like the pack of
outputs, if there is one. -/
theorem layoutsCorrespond_of_hasDistinctNames {o : Operator} (distinct : o.HasDistinctNames)
    (reserved : o.ReservesOut) (surface : Surface) : o.LayoutsCorrespond surface where
  deleted := by
    rw [Operator.map_param_slots, Operator.map_param_slots,
      Operator.filter_orderedParams distinct reserved]
  survives := by
    intro p
    rw [Operator.map_param_slots, Operator.mem_orderedParams_iff, Operator.mem_shownParams_elided]
  numbered := fun _ _ _ => Operator.slots_getElem?
  ordered := by
    intro outputs
    have order := Operator.pairwise_orderedParams distinct reserved surface outputs
    rwa [← Operator.map_param_slots, List.pairwise_map] at order
  shifted := fun _ hs _ ht => Operator.position_eq_add distinct reserved hs ht

/-- A writer whose outputs are declared among its positional parameters. -/
def partition : Operator where
  name := "partition.out"
  text := "partition.out(Tensor self, Tensor(a!) low, Tensor(b!) high, int pivot, *, bool stable=False) -> (Tensor(a!), Tensor(b!))"
  params := [
    ⟨"self", "Tensor", false, none, none, false, none⟩,
    ⟨"low", "Tensor", false, none, some "a!", false, none⟩,
    ⟨"high", "Tensor", false, none, some "b!", false, none⟩,
    ⟨"pivot", "int", false, none, none, false, none⟩,
    ⟨"stable", "bool", false, some "False", none, true, none⟩]
  results := [⟨none, "Tensor", some "a!"⟩, ⟨none, "Tensor", some "b!"⟩]
  calls := { function := true, method := true }
  moduleTag := none

theorem layoutsCorrespond_partition : partition.HasDistinctNames ∧ partition.ReservesOut ∧
    partition.LayoutsCorrespond .tensor := by
  have distinct : partition.HasDistinctNames := by
    unfold Operator.HasDistinctNames
    decide
  have reserved : partition.ReservesOut := by
    intro _ i p hp _ named
    have none : ∀ q ∈ partition.params, q.name ≠ "out" := by decide
    exact none p (List.mem_of_getElem? hp) named
  exact ⟨distinct, reserved, layoutsCorrespond_of_hasDistinctNames distinct reserved .tensor⟩

/-- The pack stands behind `pivot`, although its outputs are declared before it. -/
example : (partition.slots .tensor .kept).map (·.param.name) = ["pivot", "out", "stable"] ∧
    (partition.slots .tensor .elided).map (·.param.name) = ["pivot", "stable"] := by decide

end OpBindings
