/-
OpBindings.Proofs.OutputSlot — where a signature shows the outputs.

A layout does not say which parameter stands for the outputs: another one may
have the same name and the same type. `numberedOrder` is the layout with the
numbers that the parameters had before they were put in order. The first output,
or the pack that stands for all, keeps its number from the declaration, and so
its slot can be told apart (`IsOutputSlot`), and the item that the signature's
text has for it (`Signature.Prints`).

Slots are looked up by name. The look-up finds the slot of the outputs exactly
when no slot before it has its name (`getD_firstOutPosition?_eq_iff`).
-/
import OpBindings.Proofs.NativeCall
import OpBindings.Proofs.Signature

namespace OpBindings

/-! ## The items of a signature -/

/-- The signature prints the list that `o` shows: `items` are the parts of its
text, but for the marker, one for each parameter. -/
structure Signature.Prints (s : Signature) (o : Operator) (surface : Surface) (outputs : Outputs)
    (items : List String) : Prop where
  text : ∃ parts, s.text = o.baseName ++ "(" ++ ", ".intercalate parts ++ ")" ∧
    parts.filter (· != "*") = items
  items : List.Forall₂ (fun p item => p.shown o = .ok item) (o.orderedParams surface outputs) items

namespace Operator

variable {o : Operator} {surface : Surface} {outputs : Outputs} {p : Param} {s : Slot} {n : Nat}

/-- Without the marker, a printed list has one part for each parameter. -/
theorem forall₂_shown_of_signatureItems {byName : Bool} {ps : List Param} {parts : List String}
    (h : o.signatureItems byName ps = .ok parts) :
    List.Forall₂ (fun p item => p.shown o = .ok item) ps (parts.filter (· != "*")) := by
  induction ps generalizing byName parts with
  | nil =>
    cases h
    exact .nil
  | cons p ps ih =>
    obtain ⟨part, rest, hpart, hrest, rfl⟩ := signatureItems_cons h
    have kept : (part != "*") = true := by simpa using Param.ne_marker_of_shown hpart
    split
    · simpa [kept] using ⟨hpart, ih hrest⟩
    · simpa [kept] using ⟨hpart, ih hrest⟩

/-- **A signature prints one item for each parameter that it shows**, and
counts them. -/
theorem prints_of_signature {signature : Signature}
    (h : o.signature surface outputs = .ok signature) :
    ∃ items, signature.Prints o surface outputs items ∧
      signature.arity = (o.orderedParams surface outputs).length := by
  obtain ⟨parts, hparts, h⟩ := bind_eq_ok.mp h
  cases h
  exact ⟨_, ⟨⟨parts, rfl, rfl⟩, forall₂_shown_of_signatureItems hparts⟩, rfl⟩

/-! ## What is shown, by number -/

/-- What a signature shows, in the parser's order: each with its number in the
order of the declaration. -/
def numberedOrder (o : Operator) (surface : Surface) : List Placed :=
  let passed := (o.shownParams .kept).zipIdx.filter (!isReceiver surface ·.1)
  passed.filter (!·.1.keywordOnly) ++ passed.filter (·.1.keywordOnly)

theorem map_fst_numberedOrder (o : Operator) (surface : Surface) :
    (o.numberedOrder surface).map Prod.fst = o.orderedParams surface .kept := by
  have passed : ((o.shownParams .kept).zipIdx.filter (!isReceiver surface ·.1)).map Prod.fst =
      (o.shownParams .kept).filter (!isReceiver surface ·) := by
    conv_rhs => rw [← List.zipIdx_map_fst 0 (o.shownParams .kept), List.filter_map]
    rfl
  simp [numberedOrder, orderedParams, ← passed, List.filter_map, Function.comp_def]

theorem mem_numberedOrder {i : Nat} : (p, i) ∈ o.numberedOrder surface ↔
    (o.shownParams .kept)[i]? = some p ∧ isReceiver surface p = false := by
  simp only [numberedOrder, List.mem_append, List.mem_filter, List.mem_zipIdx_iff_getElem?,
    Bool.not_eq_true']
  cases p.keywordOnly <;> simp

/-- No number stands twice. -/
theorem nodup_snd_numberedOrder (o : Operator) (surface : Surface) :
    ((o.numberedOrder surface).map Prod.snd).Nodup := by
  have perm : (o.numberedOrder surface).Perm
      ((o.shownParams .kept).zipIdx.filter (!isReceiver surface ·.1)) := by
    have split := List.filter_append_perm (fun e : Placed => !e.1.keywordOnly)
      ((o.shownParams .kept).zipIdx.filter (!isReceiver surface ·.1))
    simpa [numberedOrder] using split
  refine ((perm.map Prod.snd).nodup_iff).mpr ?_
  have numbers : ((o.shownParams .kept).zipIdx.map Prod.snd).Nodup := by
    rw [List.zipIdx_map_snd]
    exact List.nodup_range'
  exact numbers.sublist (List.filter_sublist.map _)

/-! ## The slot of the outputs -/

/-- The slot shows the first output, or the pack of the outputs. -/
def IsOutputSlot (o : Operator) (surface : Surface) (s : Slot) : Prop :=
  ∃ first, o.firstOut? = some first ∧
    (o.numberedOrder surface)[s.position]? = some (s.param, first)

theorem outSpan?_of_firstOut? {first : Nat} (h : o.firstOut? = some first) :
    ∃ last, o.outSpan? = some (first, last) ∧ first < last ∧ last ≤ o.params.length := by
  have span : o.outSpan? = some (first, min (first + o.results.length) o.params.length) := by
    simp [outSpan?, h]
  exact ⟨_, span, outSpan?_bounds span⟩

theorem exists_param_first {first : Nat} (h : o.firstOut? = some first) :
    ∃ p, o.params[first]? = some p ∧ o.isOutputAt first = true := by
  obtain ⟨last, span, low, high⟩ := outSpan?_of_firstOut? h
  exact ⟨_, List.getElem?_eq_getElem (by omega), by simp [isOutputAt_eq span, low]⟩

theorem head?_outputParams {first : Nat} (h : o.firstOut? = some first) :
    o.outputParams.head? = o.params[first]? := by
  obtain ⟨last, span, low, -⟩ := outSpan?_of_firstOut? h
  rw [List.head?_eq_getElem?, outputParams_getElem? span, if_pos (by omega), Nat.add_zero]

/-- What a signature shows at the number of the first output. -/
theorem getElem?_shownParams_first {first : Nat} (h : o.firstOut? = some first) :
    (o.shownParams .kept)[first]? =
      if o.packsOutputs then some (packedParam o.outputParams.length) else o.params[first]? := by
  obtain ⟨last, span, low, high⟩ := outSpan?_of_firstOut? h
  have before : (o.params.take first).length = first := by
    rw [List.length_take]
    omega
  cases packs : o.packsOutputs with
  | false => simp [shownParams_of_not_packsOutputs packs]
  | true => simp [shownParams, span, packs, length_outputParams span, before]

namespace IsOutputSlot

/-- The slot of the outputs is one of the layout. -/
theorem mem (h : o.IsOutputSlot surface s) : s ∈ o.slots surface .kept := by
  obtain ⟨first, -, place⟩ := h
  rw [mem_slots_iff, ← map_fst_numberedOrder, List.getElem?_map, place]
  rfl

/-- The slot shows a parameter that the signature shows. -/
theorem shown (h : o.IsOutputSlot surface s) : s.param ∈ o.orderedParams surface .kept :=
  List.mem_of_getElem? (mem_slots_iff.mp h.mem)

/-- There is one slot for the outputs. -/
theorem unique {t : Slot} (hs : o.IsOutputSlot surface s) (ht : o.IsOutputSlot surface t) :
    s = t := by
  obtain ⟨first, hfirst, atS⟩ := hs
  obtain ⟨first', hfirst', atT⟩ := ht
  obtain rfl : first = first' := Option.some.inj (hfirst.symm.trans hfirst')
  have same : s.position = t.position := by
    have inside : s.position < ((o.numberedOrder surface).map Prod.snd).length := by
      rw [List.length_map]
      exact (List.getElem?_eq_some_iff.mp atS).1
    refine (List.getElem?_inj inside (nodup_snd_numberedOrder o surface)).mp ?_
    rw [List.getElem?_map, List.getElem?_map, atS, atT]
    rfl
  exact slot_eq_of_position (mem ⟨first, hfirst, atS⟩) (mem ⟨first, hfirst, atT⟩) same

/-- What the slot shows. -/
theorem param_eq (h : o.IsOutputSlot surface s) :
    if o.packsOutputs then s.param = packedParam o.outputParams.length
    else ∃ first, o.firstOut? = some first ∧ o.params[first]? = some s.param := by
  obtain ⟨first, hfirst, place⟩ := h
  have shown := (mem_numberedOrder.mp (List.mem_of_getElem? place)).1
  rw [getElem?_shownParams_first hfirst] at shown
  split
  · rename_i packs
    rw [if_pos packs] at shown
    exact (Option.some.inj shown).symm
  · rename_i single
    rw [if_neg single] at shown
    exact ⟨first, hfirst, shown⟩

end IsOutputSlot

/-- A signature has a slot for the outputs, unless the first is the receiver of the method. -/
theorem exists_isOutputSlot_iff : (∃ s, o.IsOutputSlot surface s) ↔
    ∃ first p, o.firstOut? = some first ∧ (o.shownParams .kept)[first]? = some p ∧
      isReceiver surface p = false := by
  constructor
  · rintro ⟨s, first, hfirst, place⟩
    obtain ⟨shown, passed⟩ := mem_numberedOrder.mp (List.mem_of_getElem? place)
    exact ⟨first, s.param, hfirst, shown, passed⟩
  · rintro ⟨first, p, hfirst, shown, passed⟩
    obtain ⟨k, place⟩ := List.mem_iff_getElem?.mp (mem_numberedOrder.mpr ⟨shown, passed⟩)
    exact ⟨⟨p, k⟩, first, hfirst, place⟩

/-- A pack has a slot: it is not the receiver of a method. -/
theorem exists_isOutputSlot_of_packsOutputs (packs : o.packsOutputs = true) (surface : Surface) :
    ∃ s, o.IsOutputSlot surface s := by
  obtain ⟨first, hfirst⟩ := Option.isSome_iff_exists.mp (hasOutputs_of_packsOutputs packs)
  refine exists_isOutputSlot_iff.mpr ⟨first, packedParam o.outputParams.length, hfirst, ?_, ?_⟩
  · rw [getElem?_shownParams_first hfirst, if_pos packs]
  · simp [isReceiver, packedParam]

/-- Outputs that are all passed have a slot. -/
theorem exists_isOutputSlot_of_passed (writes : o.hasOutputs = true)
    (passed : ∀ p ∈ o.outputParams, isReceiver surface p = false) :
    ∃ s, o.IsOutputSlot surface s := by
  cases packs : o.packsOutputs with
  | true => exact exists_isOutputSlot_of_packsOutputs packs surface
  | false =>
    obtain ⟨first, hfirst⟩ := Option.isSome_iff_exists.mp writes
    obtain ⟨p, hp, -⟩ := exists_param_first hfirst
    have output : p ∈ o.outputParams := List.mem_of_mem_head? ((head?_outputParams hfirst).trans hp)
    refine exists_isOutputSlot_iff.mpr ⟨first, p, hfirst, ?_, passed p output⟩
    rw [shownParams_of_not_packsOutputs packs, hp]

/-- The slot of the outputs is looked up by the name that it shows. -/
theorem firstOutPosition?_eq_positionIn (h : o.IsOutputSlot surface s) (layout : List Slot) :
    o.firstOutPosition? layout = positionIn layout s.param.name := by
  have shown := h.param_eq
  obtain ⟨first, hfirst, -⟩ := h
  obtain ⟨p, hp, output⟩ := exists_param_first hfirst
  cases packs : o.packsOutputs with
  | true =>
    rw [packs, if_pos rfl] at shown
    simp [firstOutPosition?, hfirst, hp, position?, packs, output, shown, packedParam]
  | false =>
    rw [packs, if_neg Bool.false_ne_true] at shown
    obtain ⟨first', hfirst', place⟩ := shown
    obtain rfl : first' = first := Option.some.inj (hfirst'.symm.trans hfirst)
    simp [firstOutPosition?, hfirst, place, position?, packs]

/-- **The look-up by name finds the slot of the outputs** exactly when no slot
before it has its name. -/
theorem getD_firstOutPosition?_eq_iff (h : o.IsOutputSlot surface s) :
    (o.firstOutPosition? (o.slots surface .kept)).getD 0 = s.position ↔
      ∀ t ∈ o.slots surface .kept, t.param.name = s.param.name → s.position ≤ t.position := by
  rw [firstOutPosition?_eq_positionIn h]
  obtain ⟨k, found⟩ := exists_positionIn h.shown
  obtain ⟨t, ht, rfl, named, first⟩ := positionIn_eq_some_iff_first.mp found
  rw [found, Option.getD_some]
  constructor
  · intro same u hu named'
    rw [← same]
    exact first u hu named'
  · intro first'
    exact Nat.le_antisymm (first s h.mem rfl) (first' t ht named)

end Operator

end OpBindings
