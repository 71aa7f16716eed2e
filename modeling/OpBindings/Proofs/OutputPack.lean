/-
OpBindings.Proofs.OutputPack — the pack of outputs, counted three times.

Several tensor outputs are passed as one list. The signature shows it as a
keyword for as many tensors as there are outputs (`ShowsPack`), the call takes
it apart for as many as there are results, and passes those elements whose
outputs it passes by themselves (`packedIndices_eq`). The three agree where
every result has its output and every output is passed: `pack_agrees_iff`.
-/
import OpBindings.Proofs.OutputSlot

namespace OpBindings

/-! ## Lists with places -/

section Places

variable {α : Type}

/-- The entries of a range of places are those of the part of the list there. -/
theorem filter_zipIdx_between (l : List α) {first last : Nat} (low : first ≤ last)
    (high : last ≤ l.length) :
    l.zipIdx.filter (fun e => decide (first ≤ e.2) && decide (e.2 < last)) =
      ((l.take last).drop first).zipIdx first := by
  have parts : l.zipIdx = (l.take first).zipIdx ++
      (((l.take last).drop first).zipIdx first ++ (l.drop last).zipIdx last) := by
    conv_lhs => rw [← List.take_append_drop last l, ← List.take_append_drop first (l.take last)]
    rw [List.append_assoc, List.zipIdx_append, List.zipIdx_append, List.take_take,
      Nat.min_eq_left low, List.length_take, List.length_drop, List.length_take,
      Nat.min_eq_left (Nat.le_trans low high), Nat.min_eq_left high, Nat.zero_add,
      Nat.add_sub_cancel' low]
  have before : (l.take first).zipIdx.filter
      (fun e => decide (first ≤ e.2) && decide (e.2 < last)) = [] := by
    rw [List.filter_eq_nil_iff]
    rintro ⟨a, i⟩ mem
    have inside := (List.mem_zipIdx mem).2.1
    rw [List.length_take] at inside
    simp
    omega
  have after : ((l.drop last).zipIdx last).filter
      (fun e => decide (first ≤ e.2) && decide (e.2 < last)) = [] := by
    rw [List.filter_eq_nil_iff]
    rintro ⟨a, i⟩ mem
    have beyond := (List.mem_zipIdx mem).1
    simp
    omega
  have between : (((l.take last).drop first).zipIdx first).filter
      (fun e => decide (first ≤ e.2) && decide (e.2 < last)) =
        ((l.take last).drop first).zipIdx first := by
    rw [List.filter_eq_self]
    rintro ⟨a, i⟩ mem
    have inside := (List.mem_zipIdx mem).2.1
    have from' := (List.mem_zipIdx mem).1
    rw [List.length_drop, List.length_take] at inside
    simp
    omega
  rw [parts, List.filter_append, List.filter_append, before, after, between, List.nil_append,
    List.append_nil]

/-- The places of the elements that are kept are places of the list. -/
theorem sublist_range_of_filter_zipIdx (l : List α) (keeps : α → Bool) :
    ((l.zipIdx.filter (keeps ·.1)).map Prod.snd).Sublist (List.range l.length) := by
  have all : l.zipIdx.map Prod.snd = List.range l.length := by
    rw [List.zipIdx_map_snd, List.range_eq_range']
  rw [← all]
  exact List.filter_sublist.map _

/-- They are all places exactly when every element is kept. -/
theorem filter_zipIdx_eq_range_iff (l : List α) (keeps : α → Bool) :
    (l.zipIdx.filter (keeps ·.1)).map Prod.snd = List.range l.length ↔
      ∀ a ∈ l, keeps a = true := by
  have elements : (∀ e ∈ l.zipIdx, keeps e.1 = true) ↔ ∀ a ∈ l, keeps a = true := by
    have values := List.forall_mem_map (f := Prod.fst) (l := l.zipIdx) (P := (keeps · = true))
    rw [List.zipIdx_map_fst] at values
    exact values.symm
  rw [← elements]
  constructor
  · intro same
    have lengths := congrArg List.length same
    rw [List.length_map, List.length_range, ← List.length_zipIdx (l := l) (i := 0)] at lengths
    exact List.length_filter_eq_length_iff.mp lengths
  · intro all
    rw [List.filter_eq_self.mpr all, List.zipIdx_map_snd, List.range_eq_range']

end Places

/-! ## The keyword -/

/-- A list of tensors of any size is in the vocabulary. -/
theorem ParamType.ofText?_tensors (n : Nat) :
    ofText? ("Tensor[" ++ toString n ++ "]") = some tensorList := by
  have digits : ∀ c ∈ Nat.toDigits 10 n, c.isDigit = true := fun c => isDigit_of_mem_toDigits
  have chars : ("Tensor[" ++ toString n ++ "]").toList =
      "Tensor".toList ++ '[' :: (Nat.toDigits 10 n ++ [']']) := by simp
  have unlisted : fixedSpellings.lookup ("Tensor[" ++ toString n ++ "]") = none := by
    rw [List.lookup_eq_none_iff]
    intro e mem
    have begins : ∀ e ∈ fixedSpellings, "Tensor[".toList.isPrefixOf e.1.toList = false := by decide
    refine bne_iff_ne.mpr fun same => ?_
    have other := begins e mem
    rw [← same, chars] at other
    simp at other
  have brackets : Text.cutEnd ']' ("Tensor".toList ++ '[' :: (Nat.toDigits 10 n ++ [']'])) =
      some ("Tensor".toList ++ '[' :: Nat.toDigits 10 n) := by
    have whole : "Tensor".toList ++ '[' :: (Nat.toDigits 10 n ++ [']']) =
        ("Tensor".toList ++ '[' :: Nat.toDigits 10 n) ++ [']'] := by simp
    rw [whole, Text.cutEnd, List.getLast?_concat, if_pos rfl, List.dropLast_concat]
  have element : Text.cutAt '[' ("Tensor".toList ++ '[' :: Nat.toDigits 10 n) =
      some ("Tensor".toList, Nat.toDigits 10 n) := Text.cutAt_eq_some_iff.mpr ⟨rfl, by decide⟩
  have sized : (!(Nat.toDigits 10 n).all Char.isDigit) = false := by
    rw [List.all_eq_true.mpr digits]
    rfl
  have list : ofListText? ("Tensor".toList ++ '[' :: (Nat.toDigits 10 n ++ [']'])) =
      some tensorList := by
    rw [ofListText?, brackets, Option.bind_eq_bind, Option.bind_some, element, Option.bind_eq_bind,
      Option.bind_some]
    dsimp only
    rw [sized, if_neg Bool.false_ne_true, if_pos rfl]
  rw [ofText?, unlisted, chars, list]

/-- The pack is shown as a keyword that may be omitted. -/
theorem shown_packedParam (n : Nat) (o : Operator) :
    (packedParam n).shown o = .ok ("TensorList[" ++ toString n ++ "] out=None") := by
  have type : ParamType.of (packedParam n) o = .ok .tensorList := by
    simp only [ParamType.of, packedParam, ParamType.ofText?_tensors]
  have shownType : (packedParam n).shownType o =
      .ok ("TensorList" ++ ("[" ++ toString n ++ "]") ++ "") := by
    rw [Param.shownType, type]
    rfl
  have joined : "TensorList" ++ ("[" ++ toString n ++ "]") ++ "" ++ " " ++ "out" ++ "=None" =
      "TensorList[" ++ toString n ++ "] out=None" := by
    rw [← String.toList_inj]
    simp
  rw [Param.shown, shownType, ← joined]
  rfl

namespace Operator

variable {o : Operator} {surface : Surface} {signature : Signature} {n : Nat}

/-- The signature shows the outputs as one keyword for `n` tensors. -/
def ShowsPack (o : Operator) (surface : Surface) (signature : Signature) (n : Nat) : Prop :=
  ∃ s items, o.IsOutputSlot surface s ∧ s.param = packedParam n ∧
    signature.Prints o surface .kept items ∧
    items[s.position]? = some ("TensorList[" ++ toString n ++ "] out=None")

/-- The first output is written to. -/
theorem isMutated_of_firstOut? {first : Nat} {p : Param} (h : o.firstOut? = some first)
    (hp : o.params[first]? = some p) : p.isMutated = true := by
  unfold firstOut? at h
  split at h
  · cases h
  · obtain ⟨inside, mutated, -⟩ := List.findIdx?_eq_some_iff_getElem.mp h
    obtain rfl := Option.some.inj ((List.getElem?_eq_getElem inside).symm.trans hp)
    exact mutated

/-- **The keyword is shown** where the outputs are packed, for as many tensors as there are. -/
theorem showsPack_iff (shown : o.signature surface .kept = .ok signature) :
    o.ShowsPack surface signature n ↔ o.packsOutputs = true ∧ n = o.outputParams.length := by
  constructor
  · rintro ⟨s, items, output, pack, -, -⟩
    have shows := output.param_eq
    cases packs : o.packsOutputs with
    | true =>
      rw [packs, if_pos rfl, pack] at shows
      exact ⟨rfl, Option.some.inj (congrArg Param.listSize shows)⟩
    | false =>
      -- a single output keeps its alias annotation, which a pack does not have
      rw [packs, if_neg Bool.false_ne_true] at shows
      obtain ⟨first, hfirst, hp⟩ := shows
      have mutated := isMutated_of_firstOut? hfirst hp
      rw [pack] at mutated
      cases mutated
  · rintro ⟨packs, rfl⟩
    obtain ⟨s, output⟩ := exists_isOutputSlot_of_packsOutputs packs surface
    have pack : s.param = packedParam o.outputParams.length := by
      have shows := output.param_eq
      rwa [if_pos packs] at shows
    obtain ⟨items, prints, -⟩ := prints_of_signature shown
    obtain ⟨item, found, hitem⟩ := forall₂_getElem? prints.items (mem_slots_iff.mp output.mem)
    rw [pack, shown_packedParam] at hitem
    cases hitem
    exact ⟨s, items, output, pack, prints, found⟩

end Operator

/-! ## The elements -/

/-- The element of the pack that an argument takes. -/
def Argument.packed? : Argument → Option Nat
  | packed index => some index
  | _ => none

/-- The elements of the pack that a call passes, in the order of its arguments. -/
def NativeCall.packedIndices (c : NativeCall) : List Nat := c.args.filterMap Argument.packed?

namespace Operator

variable {o : Operator} {surface : Surface} {layout : List Slot} {c : NativeCall}

/-- An output is taken from the pack, unless it is the receiver or a gathered option. -/
def takesElement (o : Operator) (surface : Surface) (p : Param) : Bool :=
  o.passesAlone p && !isReceiver surface p

/-- The argument of the parameter is an element of the pack. -/
def readsElement (o : Operator) (surface : Surface) (entry : Placed) : Bool :=
  !isReceiver surface entry.1 && (o.packsOutputs && o.isOutputAt entry.2)

/-- The element that stands for an output. -/
def elementOf (o : Operator) (entry : Placed) : Nat := entry.2 - o.firstOut?.getD 0

theorem packed?_source (o : Operator) (surface : Surface) (layout : List Slot) (p : Param) (i : Nat)
    (accessor : String) : (o.source surface layout i p accessor).packed? =
      if o.readsElement surface (p, i) then some (o.elementOf (p, i)) else none := by
  unfold source readsElement
  cases isReceiver surface p with
  | true => rfl
  | false => cases o.packsOutputs && o.isOutputAt i <;> rfl

/-- The outputs with their places in the declaration. -/
theorem filter_isOutputAt_zipIdx {first last : Nat} (span : o.outSpan? = some (first, last)) :
    o.params.zipIdx.filter (o.isOutputAt ·.2) = o.outputParams.zipIdx first := by
  have bounds := outSpan?_bounds span
  simp only [isOutputAt_eq span, outputParams, span]
  exact filter_zipIdx_between o.params (Nat.le_of_lt bounds.1) bounds.2

/-- **The elements that a call passes:** the places of the outputs that it takes from the pack. -/
theorem packedIndices_eq (planned : (o.callIn surface layout).outcome = .ok c)
    (packs : o.packsOutputs = true) :
    c.packedIndices =
      (o.outputParams.zipIdx.filter (o.takesElement surface ·.1)).map Prod.snd := by
  obtain ⟨first, last, span, hfirst⟩ := outSpan?_of_hasOutputs (hasOutputs_of_packsOutputs packs)
  have sources := filterMap_sources rfl (packed?_source o surface layout) (callIn_eq_ok planned).1
  have outputs : (o.params.zipIdx.filter (o.passesAlone ·.1)).filter (o.readsElement surface) =
      (o.outputParams.zipIdx first).filter (o.takesElement surface ·.1) := by
    rw [← filter_isOutputAt_zipIdx span, List.filter_filter, List.filter_filter]
    refine List.filter_congr fun e _ => ?_
    simp only [packs, Bool.true_and, takesElement, readsElement]
    cases o.passesAlone e.1 <;> cases isReceiver surface e.1 <;> simp
  rw [NativeCall.packedIndices, NativeCall.args, sources, reduceOption_dispatched, outputs,
    List.zipIdx_eq_map_add, List.filter_map, List.map_map]
  simp [Function.comp_def, elementOf, hfirst]

end Operator

/-- **When the uses of a pack agree.** A signature shows the pack exactly when
the call takes one apart. The keyword is for as many tensors as there are
outputs, the call takes as many as there are results, and it passes some of the
elements, in order. The sizes are the same and all elements are passed exactly
when there is an output for every result, and none of the outputs is the
receiver of the method or gathered into the options value. -/
theorem pack_agrees_iff {o : Operator} {surface : Surface} {signature : Signature} {c : NativeCall}
    (shown : o.signature surface .kept = .ok signature)
    (planned : (o.call surface).outcome = .ok c) :
    ((∃ n, o.ShowsPack surface signature n) ↔ c.outputPack.isSome = true) ∧
    ∀ n pack, o.ShowsPack surface signature n → c.outputPack = some pack →
      n = o.outputParams.length ∧ pack.size = o.results.length ∧
      c.packedIndices.Sublist (List.range n) ∧
      (pack.size = n ∧ c.packedIndices = List.range n ↔
        o.outputParams.length = o.results.length ∧
          ∀ p ∈ o.outputParams, o.takesElement surface p = true) := by
  obtain ⟨-, -, pack⟩ := Operator.callIn_eq_ok planned
  constructor
  · simp only [Operator.showsPack_iff shown, pack, Operator.outputPack?]
    cases packs : o.packsOutputs with
    | false => simp
    | true =>
      obtain ⟨s, output⟩ := Operator.exists_isOutputSlot_of_packsOutputs packs surface
      obtain ⟨k, found⟩ := Operator.exists_positionIn output.shown
      simp [Operator.firstOutPosition?_eq_positionIn output, found]
  · intro n taken shows takes
    obtain ⟨packs, rfl⟩ := (Operator.showsPack_iff shown).mp shows
    have size : taken.size = o.results.length := by
      rw [pack, Operator.outputPack?, if_pos packs] at takes
      obtain ⟨position, -, rfl⟩ := Option.map_eq_some_iff.mp takes
      rfl
    have indices := Operator.packedIndices_eq planned packs
    refine ⟨rfl, size, ?_, ?_⟩
    · rw [indices]
      exact sublist_range_of_filter_zipIdx _ _
    · rw [size, indices, filter_zipIdx_eq_range_iff, eq_comm (a := o.results.length)]

/-- Two results that are written into arguments. -/
def frexpOut : Operator where
  name := "frexp.Tensor_out"
  text := "frexp.Tensor_out(Tensor self, *, Tensor(a!) mantissa, Tensor(b!) exponent) -> (Tensor(a!) mantissa, Tensor(b!) exponent)"
  params := [
    ⟨"self", "Tensor", false, none, none, false, none⟩,
    ⟨"mantissa", "Tensor", false, none, some "a!", true, none⟩,
    ⟨"exponent", "Tensor", false, none, some "b!", true, none⟩]
  results := [⟨some "mantissa", "Tensor", some "a!"⟩, ⟨some "exponent", "Tensor", some "b!"⟩]
  calls := { function := true }
  moduleTag := none

/-- Its signature shows two tensors, and its call takes two apart and passes both. -/
theorem pack_agrees_frexp : ∃ signature c,
    frexpOut.signature .torch .kept = .ok signature ∧
    (frexpOut.call .torch).outcome = .ok c ∧
    frexpOut.ShowsPack .torch signature 2 ∧
    c.outputPack = some ⟨2, 1⟩ ∧ c.packedIndices = List.range 2 := by
  have shown : frexpOut.signature .torch .kept =
      .ok ⟨"frexp(Tensor input, *, TensorList[2] out=None)", 2⟩ := by rfl
  obtain ⟨c, planned, takes⟩ : ∃ c, (frexpOut.call .torch).outcome = .ok c ∧
      c.outputPack = some ⟨2, 1⟩ := ⟨_, by rfl, rfl⟩
  obtain ⟨packs, agrees⟩ := pack_agrees_iff shown planned
  obtain ⟨n, shows⟩ := packs.mpr (by rw [takes]; rfl)
  obtain ⟨outputs, -, -, same⟩ := agrees n _ shows takes
  obtain ⟨rfl, indices⟩ := same.mpr (by decide)
  exact ⟨_, c, shown, planned, shows, takes, indices⟩

/-- Two results, of which one is written into an argument. -/
def halvesOut : Operator where
  name := "halves.out"
  text := "halves.out(Tensor self, *, Tensor(a!) out) -> (Tensor(a!), Tensor(b!))"
  params := [
    ⟨"self", "Tensor", false, none, none, false, none⟩,
    ⟨"out", "Tensor", false, none, some "a!", true, none⟩]
  results := [⟨none, "Tensor", some "a!"⟩, ⟨none, "Tensor", some "b!"⟩]
  calls := { function := true }
  moduleTag := none

/-- The signature shows one tensor, and the call takes two apart and passes one. -/
theorem not_pack_agrees_halves :
    (∃ r, Operator.ofRecord r = .ok halvesOut) ∧
    ∃ signature c,
      halvesOut.signature .torch .kept = .ok signature ∧
      (halvesOut.call .torch).outcome = .ok c ∧
      signature.text = "halves(Tensor input, *, TensorList[1] out=None)" ∧
      halvesOut.ShowsPack .torch signature 1 ∧
      c.outputPack = some ⟨2, 1⟩ ∧ c.packedIndices = [0] := by
  refine ⟨⟨{ declaration := halvesOut.text }, by rfl⟩, ?_⟩
  refine ⟨⟨"halves(Tensor input, *, TensorList[1] out=None)", 2⟩, _, by rfl, by rfl, rfl, ?_, rfl,
    rfl⟩
  exact (Operator.showsPack_iff (by rfl)).mpr ⟨by decide, by decide⟩

end OpBindings
