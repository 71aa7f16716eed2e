/-
OpBindings.Proofs.ArgumentLayout — where a layout keeps a parameter.

A layout is looked up by name. That is right where its names differ: then the
position of a name is the place of the one parameter that has it
(`positionIn_eq_some_iff`). The names of an operator's own layout differ when
its parameters' names do and no input is named like a pack of outputs
(`nodup_names_orderedParams`).
-/
import Mathlib.Data.List.Nodup
import OpBindings.ArgumentLayout

namespace OpBindings

namespace Operator

variable {o : Operator} {surface : Surface} {outputs : Outputs} {p : Param} {i j k : Nat}

/-! ## Names -/

/-- No two parameters have one name. -/
def HasDistinctNames (o : Operator) : Prop := (o.params.map (·.name)).Nodup

/-- Where the outputs are packed, `out` is the name of none of the other parameters. -/
def ReservesOut (o : Operator) : Prop :=
  o.packsOutputs = true →
    ∀ i p, o.params[i]? = some p → o.isOutputAt i = false → p.name ≠ "out"

/-- In a list of different names a name stands at one place. -/
theorem index_eq_of_nodup_names {ps : List Param} (nodup : (ps.map (·.name)).Nodup) {q : Param}
    (hp : ps[i]? = some p) (hq : ps[j]? = some q) (same : p.name = q.name) : i = j := by
  have hi : (ps.map (·.name))[i]? = some p.name := by rw [List.getElem?_map, hp]; rfl
  have hj : (ps.map (·.name))[j]? = some p.name := by rw [List.getElem?_map, hq, same]; rfl
  have bound : i < (ps.map (·.name)).length := (List.getElem?_eq_some_iff.mp hi).1
  exact (List.getElem?_inj bound nodup).mp (hi.trans hj.symm)

/-! ## Outputs -/

theorem hasOutputs_of_packsOutputs (h : o.packsOutputs = true) : o.hasOutputs = true := by
  simp only [packsOutputs, Bool.and_eq_true] at h
  exact h.1.1.1

/-- The outputs are some of the parameters, and at least one. -/
theorem outSpan?_bounds {first last : Nat} (h : o.outSpan? = some (first, last)) :
    first < last ∧ last ≤ o.params.length := by
  unfold outSpan? firstOut? at h
  split at h
  · cases h
  · rename_i returns
    obtain ⟨index, hindex, h⟩ := Option.map_eq_some_iff.mp h
    cases h
    have place := (List.findIdx?_eq_some_iff_findIdx_eq.mp hindex).1
    have some : 0 < o.results.length := by
      rw [List.length_pos_iff]
      intro none
      simp [none] at returns
    omega

theorem outSpan?_of_hasOutputs (h : o.hasOutputs = true) :
    ∃ first last, o.outSpan? = some (first, last) ∧ o.firstOut? = some first := by
  obtain ⟨first, hfirst⟩ := Option.isSome_iff_exists.mp h
  refine ⟨first, min (first + o.results.length) o.params.length, ?_, hfirst⟩
  simp [outSpan?, hfirst]

theorem outSpan?_eq_none (h : o.hasOutputs = false) : o.outSpan? = none := by
  have none : o.firstOut? = none := by simpa [hasOutputs] using h
  simp [outSpan?, none]

theorem isOutputAt_eq {first last : Nat} (h : o.outSpan? = some (first, last)) (i : Nat) :
    o.isOutputAt i = (decide (first ≤ i) && decide (i < last)) := by
  simp [isOutputAt, h]

/-- The outputs are the parameters of their span. -/
theorem outputParams_getElem? {first last : Nat} (h : o.outSpan? = some (first, last)) (j : Nat) :
    o.outputParams[j]? = if j < last - first then o.params[first + j]? else none := by
  have bounds := outSpan?_bounds h
  simp only [outputParams, h, List.getElem?_drop, List.getElem?_take]
  by_cases inside : j < last - first
  · rw [if_pos inside, if_pos (by omega)]
  · rw [if_neg inside, if_neg (by omega)]

theorem length_outputParams {first last : Nat} (h : o.outSpan? = some (first, last)) :
    o.outputParams.length = last - first := by
  have bounds := outSpan?_bounds h
  simp only [outputParams, h, List.length_drop, List.length_take]
  omega

/-- The output at `j` is the parameter that many places after the first output. -/
theorem outputParams_eq_some_iff (distinct : o.HasDistinctNames) (hp : o.params[i]? = some p) :
    o.outputParams[j]? = some p ↔ o.isOutputAt i = true ∧ j = i - o.firstOut?.getD 0 := by
  cases outputs : o.hasOutputs with
  | false =>
    have span := outSpan?_eq_none outputs
    simp [outputParams, isOutputAt, span]
  | true =>
    obtain ⟨first, last, span, hfirst⟩ := outSpan?_of_hasOutputs outputs
    rw [outputParams_getElem? span, isOutputAt_eq span, hfirst, Option.getD_some, Bool.and_eq_true,
      decide_eq_true_iff, decide_eq_true_iff]
    constructor
    · intro h
      split at h
      · have place := index_eq_of_nodup_names distinct h hp rfl
        omega
      · cases h
    · intro h
      obtain ⟨⟨low, high⟩, rfl⟩ := h
      rw [if_pos (by omega), Nat.add_sub_cancel' low, hp]

/-! ## The parameters that are shown -/

/-- Without outputs, the parameters that are no outputs are shown. -/
theorem mem_shownParams_elided :
    p ∈ o.shownParams .elided ↔ ∃ i, o.params[i]? = some p ∧ o.isOutputAt i = false := by
  unfold shownParams
  cases span : o.outSpan? with
  | none => simp [isOutputAt, span, List.mem_iff_getElem?]
  | some ends =>
    obtain ⟨first, last⟩ := ends
    have bounds := outSpan?_bounds span
    simp only [isOutputAt_eq span]
    rw [List.mem_append, List.mem_iff_getElem?, List.mem_iff_getElem?]
    simp only [List.getElem?_take, List.getElem?_drop]
    constructor
    · intro h
      rcases h with ⟨i, hi⟩ | ⟨i, hi⟩
      · split at hi
        · exact ⟨i, hi, by simp; omega⟩
        · cases hi
      · exact ⟨last + i, hi, by simp⟩
    · intro h
      obtain ⟨i, hi, outside⟩ := h
      by_cases before : i < first
      · exact .inl ⟨i, by rw [if_pos before, hi]⟩
      · refine .inr ⟨i - last, ?_⟩
        have after : last ≤ i := by
          simp only [Bool.and_eq_false_iff, decide_eq_false_iff_not] at outside
          omega
        rw [Nat.add_sub_cancel' after, hi]

theorem shownParams_elided_sublist : (o.shownParams .elided).Sublist o.params := by
  unfold shownParams
  cases span : o.outSpan? with
  | none => exact List.Sublist.refl _
  | some ends =>
    obtain ⟨first, last⟩ := ends
    have bounds := outSpan?_bounds span
    have parts : (o.params.take first ++ o.params.drop last).Sublist
        (o.params.take first ++ o.params.drop first) :=
      (List.Sublist.refl _).append (List.drop_sublist_drop_left _ (by omega))
    rwa [List.take_append_drop] at parts

/-- A plain operator shows all its parameters, with and without outputs. -/
theorem shownParams_of_plain (plain : o.hasOutputs = false) (outputs : Outputs) :
    o.shownParams outputs = o.params := by
  rw [shownParams, outSpan?_eq_none plain]

theorem shownParams_of_not_packsOutputs (h : o.packsOutputs = false) :
    o.shownParams .kept = o.params := by
  unfold shownParams
  cases o.outSpan? with
  | none => rfl
  | some ends => simp [h]

/-- A pack of outputs is shown with the parameters that are no outputs. -/
theorem shownParams_of_packsOutputs (h : o.packsOutputs = true) :
    (o.shownParams .kept).Perm (packedParam o.outputParams.length :: o.shownParams .elided) := by
  obtain ⟨first, last, span, -⟩ := outSpan?_of_hasOutputs (hasOutputs_of_packsOutputs h)
  simp only [shownParams, span, h, if_true, length_outputParams span]
  exact List.perm_middle

/-- A parameter that is not packed is shown. -/
theorem mem_shownParams_kept (hp : o.params[i]? = some p)
    (single : (o.packsOutputs && o.isOutputAt i) = false) : p ∈ o.shownParams .kept := by
  cases packs : o.packsOutputs with
  | false =>
    rw [shownParams_of_not_packsOutputs packs]
    exact List.mem_of_getElem? hp
  | true =>
    have input : o.isOutputAt i = false := by simpa [packs] using single
    rw [(shownParams_of_packsOutputs packs).mem_iff]
    exact List.mem_cons_of_mem _ (mem_shownParams_elided.mpr ⟨i, hp, input⟩)

/-- The names that a layout with outputs shows are different. -/
theorem nodup_names_shownParams (distinct : o.HasDistinctNames) (reserved : o.ReservesOut) :
    ((o.shownParams .kept).map (·.name)).Nodup := by
  cases packs : o.packsOutputs with
  | false =>
    rw [shownParams_of_not_packsOutputs packs]
    exact distinct
  | true =>
    have perm := shownParams_of_packsOutputs packs
    refine (perm.map (·.name)).nodup_iff.mpr (List.nodup_cons.mpr ⟨?_, ?_⟩)
    · intro mem
      obtain ⟨q, hq, named⟩ := List.mem_map.mp mem
      obtain ⟨i, hi, outside⟩ := mem_shownParams_elided.mp hq
      exact reserved packs i q hi outside named
    · exact distinct.sublist (shownParams_elided_sublist.map _)

/-! ## The order of the parser -/

theorem orderedParams_perm (o : Operator) (surface : Surface) (outputs : Outputs) :
    (o.orderedParams surface outputs).Perm
      ((o.shownParams outputs).filter (!isReceiver surface ·)) := by
  have split := List.filter_append_perm (fun p : Param => !p.keywordOnly)
    ((o.shownParams outputs).filter (!isReceiver surface ·))
  simpa [orderedParams] using split

theorem mem_orderedParams_iff : p ∈ o.orderedParams surface outputs ↔
    p ∈ o.shownParams outputs ∧ isReceiver surface p = false := by
  rw [(orderedParams_perm o surface outputs).mem_iff, List.mem_filter, Bool.not_eq_true']

/-- What is shown without the outputs is also shown with them. -/
theorem mem_orderedParams_kept (h : p ∈ o.orderedParams surface .elided) :
    p ∈ o.orderedParams surface .kept := by
  obtain ⟨shown, passed⟩ := mem_orderedParams_iff.mp h
  obtain ⟨i, hp, input⟩ := mem_shownParams_elided.mp shown
  refine mem_orderedParams_iff.mpr ⟨mem_shownParams_kept hp ?_, passed⟩
  rw [input, Bool.and_false]

/-- A layout shows parameters of the operator, and perhaps the pack of its outputs. -/
theorem mem_orderedParams (h : p ∈ o.orderedParams surface outputs) :
    p ∈ o.params ∨ p = packedParam o.outputParams.length := by
  obtain ⟨shown, -⟩ := mem_orderedParams_iff.mp h
  cases outputs with
  | elided => exact .inl (shownParams_elided_sublist.mem shown)
  | kept =>
    cases packs : o.packsOutputs with
    | false =>
      rw [shownParams_of_not_packsOutputs packs] at shown
      exact .inl shown
    | true =>
      rw [(shownParams_of_packsOutputs packs).mem_iff] at shown
      rcases List.mem_cons.mp shown with rfl | shown
      · exact .inr rfl
      · exact .inl (shownParams_elided_sublist.mem shown)

theorem nodup_names_orderedParams (distinct : o.HasDistinctNames) (reserved : o.ReservesOut)
    (surface : Surface) : ((o.orderedParams surface .kept).map (·.name)).Nodup := by
  refine ((orderedParams_perm o surface .kept).map (·.name)).nodup_iff.mpr ?_
  exact (nodup_names_shownParams distinct reserved).sublist (List.filter_sublist.map _)

/-! ## Slots -/

/-- The slots of a layout hold its parameters in order. -/
theorem map_param_slots (o : Operator) (surface : Surface) (outputs : Outputs) :
    (o.slots surface outputs).map (·.param) = o.orderedParams surface outputs := by
  simp [slots, List.map_map, Function.comp_def]

theorem mem_slots_iff {s : Slot} : s ∈ o.slots surface outputs ↔
    (o.orderedParams surface outputs)[s.position]? = some s.param := by
  simp only [slots, List.mem_map, Prod.exists, List.mem_zipIdx_iff_getElem?]
  constructor
  · intro h
    obtain ⟨q, n, hq, rfl⟩ := h
    exact hq
  · intro hs
    exact ⟨s.param, s.position, hs, rfl⟩

/-- The position of a name is the place of the first parameter that has it. -/
theorem positionIn_slots (o : Operator) (surface : Surface) (outputs : Outputs) (name : String) :
    positionIn (o.slots surface outputs) name =
      (o.orderedParams surface outputs).findIdx? (·.name == name) := by
  simp only [positionIn, slots, List.findIdx?_eq_fst_find?_zipIdx, List.find?_map, Option.map_map]
  rfl

/-- Where names differ, a name's position is the place of the parameter that has it. -/
theorem positionIn_eq_some_iff
    (nodup : ((o.orderedParams surface outputs).map (·.name)).Nodup) {name : String} :
    positionIn (o.slots surface outputs) name = some k ↔
      ∃ p, (o.orderedParams surface outputs)[k]? = some p ∧ p.name = name := by
  rw [positionIn_slots, List.findIdx?_eq_some_iff_getElem]
  constructor
  · intro h
    obtain ⟨inside, named, -⟩ := h
    exact ⟨_, List.getElem?_eq_getElem inside, by simpa using named⟩
  · intro h
    obtain ⟨p, hp, rfl⟩ := h
    obtain ⟨inside, rfl⟩ := List.getElem?_eq_some_iff.mp hp
    refine ⟨inside, by simp, ?_⟩
    intro j before same
    have there := List.getElem?_eq_getElem (Nat.lt_trans before inside)
    have same := index_eq_of_nodup_names nodup there hp (by simpa using same)
    omega

/-- A layout keeps one slot at a position. -/
theorem slot_eq_of_position {s t : Slot} (hs : s ∈ o.slots surface outputs)
    (ht : t ∈ o.slots surface outputs) (same : s.position = t.position) : s = t := by
  have here := mem_slots_iff.mp hs
  rw [same, mem_slots_iff.mp ht] at here
  cases s
  cases t
  cases same
  cases here
  rfl

theorem exists_mem_slots (hp : p ∈ o.orderedParams surface outputs) :
    ∃ s ∈ o.slots surface outputs, s.param = p := by
  obtain ⟨k, hk⟩ := List.mem_iff_getElem?.mp hp
  exact ⟨⟨p, k⟩, mem_slots_iff.mpr hk, rfl⟩

/-- A name is found at the first slot that has it, whether or not the names differ. -/
theorem positionIn_eq_some_iff_first {name : String} :
    positionIn (o.slots surface outputs) name = some k ↔
      ∃ s ∈ o.slots surface outputs, s.position = k ∧ s.param.name = name ∧
        ∀ t ∈ o.slots surface outputs, t.param.name = name → k ≤ t.position := by
  rw [positionIn_slots, List.findIdx?_eq_some_iff_getElem]
  constructor
  · intro h
    obtain ⟨inside, named, first⟩ := h
    refine ⟨⟨_, k⟩, mem_slots_iff.mpr (List.getElem?_eq_getElem inside), rfl, by simpa using named, ?_⟩
    intro t ht named'
    obtain ⟨inside', place⟩ := List.getElem?_eq_some_iff.mp (mem_slots_iff.mp ht)
    by_contra before
    refine first t.position (by omega) ?_
    simp [place, named']
  · intro h
    obtain ⟨s, hs, rfl, rfl, first⟩ := h
    obtain ⟨inside, place⟩ := List.getElem?_eq_some_iff.mp (mem_slots_iff.mp hs)
    refine ⟨inside, by simp [place], ?_⟩
    intro j before same
    have there : (⟨_, j⟩ : Slot) ∈ o.slots surface outputs :=
      mem_slots_iff.mpr (List.getElem?_eq_getElem (Nat.lt_trans before inside))
    have late := first _ there (by simpa using same)
    exact absurd before (Nat.not_lt.mpr late)

theorem positionIn_eq_none_iff {name : String} :
    positionIn (o.slots surface outputs) name = none ↔
      ∀ s ∈ o.slots surface outputs, s.param.name ≠ name := by
  simp [positionIn]

/-- A name is found at a slot of the layout. -/
theorem positionIn_lt {name : String} (h : positionIn (o.slots surface outputs) name = some k) :
    k < (o.orderedParams surface outputs).length := by
  obtain ⟨s, hs, rfl, -⟩ := positionIn_eq_some_iff_first.mp h
  exact (List.getElem?_eq_some_iff.mp (mem_slots_iff.mp hs)).1

/-- A name that is shown is found. -/
theorem exists_positionIn (hp : p ∈ o.orderedParams surface outputs) :
    ∃ k, positionIn (o.slots surface outputs) p.name = some k := by
  obtain ⟨s, hs, rfl⟩ := exists_mem_slots hp
  cases found : positionIn (o.slots surface outputs) s.param.name with
  | none => exact absurd rfl (positionIn_eq_none_iff.mp found s hs)
  | some k => exact ⟨k, rfl⟩

/-! ## An operator's own layout -/

/-- A parameter that is passed and not packed is kept at its position. -/
theorem position?_own (distinct : o.HasDistinctNames) (reserved : o.ReservesOut)
    (hp : o.params[i]? = some p) (passed : isReceiver surface p = false)
    (single : (o.packsOutputs && o.isOutputAt i) = false) :
    ∃ k, o.position? (o.slots surface .kept) i p = some k ∧
      (o.orderedParams surface .kept)[k]? = some p := by
  have mem : p ∈ o.orderedParams surface .kept :=
    mem_orderedParams_iff.mpr ⟨mem_shownParams_kept hp single, passed⟩
  obtain ⟨k, hk⟩ := List.mem_iff_getElem?.mp mem
  refine ⟨k, ?_, hk⟩
  rw [position?, single]
  exact (positionIn_eq_some_iff (nodup_names_orderedParams distinct reserved surface)).mpr ⟨p, hk, rfl⟩

/-- An output that is packed is kept with the pack. -/
theorem position?_own_of_packed (distinct : o.HasDistinctNames) (reserved : o.ReservesOut)
    (packs : o.packsOutputs = true) (output : o.isOutputAt i = true) (surface : Surface) (p : Param) :
    ∃ k, o.position? (o.slots surface .kept) i p = some k ∧
      (o.orderedParams surface .kept)[k]? = some (packedParam o.outputParams.length) := by
  have shown : packedParam o.outputParams.length ∈ o.shownParams .kept := by
    rw [(shownParams_of_packsOutputs packs).mem_iff]
    exact List.mem_cons_self
  have passed : isReceiver surface (packedParam o.outputParams.length) = false := by
    simp [isReceiver, packedParam]
  obtain ⟨k, hk⟩ := List.mem_iff_getElem?.mp (mem_orderedParams_iff.mpr ⟨shown, passed⟩)
  refine ⟨k, ?_, hk⟩
  rw [position?, packs, output]
  exact (positionIn_eq_some_iff (nodup_names_orderedParams distinct reserved surface)).mpr
    ⟨_, hk, rfl⟩

end Operator

end OpBindings
