/-
OpBindings.Proofs.OutputBranch — how a split family chooses its call.

The generated code makes the plain call where one argument is omitted, and the
writer's call where it is passed. That is a choice between the two if the
argument is the first output of the writer, or the pack of its outputs, and if
the parser may find it omitted, so that the signature shows it with `=None`:
`ChoosesCall`.

Not every writer has both. The argument is looked up by name, and it is shown
with `=None` for its own name `out` or for its default. The main statement,
`choosesCall_iff_of_ofFamilies`, says which writers have them.
-/
import OpBindings.Proofs.OutputSlot
import OpBindings.Proofs.SplitFamily

namespace OpBindings

/-! ## Arguments that may be omitted -/

/-- A signature shows the parameter with `=None`: it is called `out` and has no
default, or its default is the empty list or says so itself. -/
def Param.IsOmittable (p : Param) : Prop :=
  (p.default = none ∧ p.name = "out") ∨ p.default = some "[]" ∨ p.default = some "None"

instance (p : Param) : Decidable p.IsOmittable := inferInstanceAs (Decidable (_ ∨ _))

theorem Param.isOmittable_packedParam (n : Nat) : (packedParam n).IsOmittable := .inl ⟨rfl, rfl⟩

theorem Param.shownDefault_eq_iff {p : Param} : p.shownDefault = some "None" ↔ p.IsOmittable := by
  unfold shownDefault IsOmittable
  split
  · rename_i none
    by_cases named : p.name = "out" <;> simp [none, named]
  · rename_i list
    simp [list]
  · rename_i mean
    simp [mean]
  · rename_i text notList _ given
    have other : text ≠ "[]" := fun same => notList same
    simp [given, other]

/-- An item ends with `=None` exactly when its parameter is omittable. -/
theorem Param.shown_eq_omitted_iff {p : Param} {o : Operator} {item : String}
    (h : p.shown o = .ok item) :
    (∃ type, p.shownType o = .ok type ∧ item = type ++ " " ++ p.shownName ++ "=None") ↔
      p.IsOmittable := by
  obtain ⟨type, htype, h⟩ := bind_eq_ok.mp h
  cases h
  rw [← shownDefault_eq_iff]
  constructor
  · rintro ⟨type', htype', same⟩
    obtain rfl : type = type' := Except.ok.inj (htype.symm.trans htype')
    cases shown : p.shownDefault with
    | none =>
      have lengths := congrArg String.length same
      simp [shown] at lengths
    | some text =>
      have rest := congrArg String.toList same
      simp only [shown, String.toList_append, List.append_assoc, List.append_cancel_left_eq] at rest
      exact congrArg some (String.toList_inj.mp (List.cons.inj rest).2)
  · intro shown
    exact ⟨type, htype, by rw [shown]; rfl⟩

/-- The text of the signature shows the slot with `=None`. -/
def Signature.ShowsOmittable (s : Signature) (o : Operator) (surface : Surface) (slot : Slot) :
    Prop :=
  ∃ items type, s.Prints o surface .kept items ∧ slot.param.shownType o = .ok type ∧
    items[slot.position]? = some (type ++ " " ++ slot.param.shownName ++ "=None")

theorem Signature.showsOmittable_iff {s : Signature} {o : Operator} {surface : Surface}
    {slot : Slot}
    (h : o.signature surface .kept = .ok s) (mem : slot ∈ o.slots surface .kept) :
    s.ShowsOmittable o surface slot ↔ slot.param.IsOmittable := by
  have place := Operator.mem_slots_iff.mp mem
  constructor
  · rintro ⟨items, type, prints, htype, shown⟩
    obtain ⟨item, found, hitem⟩ := forall₂_getElem? prints.items place
    obtain rfl := Option.some.inj (found.symm.trans shown)
    exact (Param.shown_eq_omitted_iff hitem).mp ⟨type, htype, rfl⟩
  · intro omittable
    obtain ⟨items, prints, -⟩ := Operator.prints_of_signature h
    obtain ⟨item, found, hitem⟩ := forall₂_getElem? prints.items place
    obtain ⟨type, htype, rfl⟩ := (Param.shown_eq_omitted_iff hitem).mpr omittable
    exact ⟨items, type, prints, htype, found⟩

/-! ## The choice -/

namespace Operator

variable {w : Operator} {surface : Surface} {signature : Signature} {position : Nat}

/-- **The argument at `position` chooses the call:** it is the first output of
the writer, or the pack of its outputs, and the signature shows it with `=None`. -/
def ChoosesCall (w : Operator) (surface : Surface) (signature : Signature) (position : Nat) :
    Prop :=
  ∃ s, w.IsOutputSlot surface s ∧ s.position = position ∧ signature.ShowsOmittable w surface s

/-- The slot of the outputs stands before every other slot of its name. -/
def IsFirstOfName (w : Operator) (surface : Surface) (s : Slot) : Prop :=
  ∀ t ∈ w.slots surface .kept, t.param.name = s.param.name → s.position ≤ t.position

theorem choosesCall_iff (shown : w.signature surface .kept = .ok signature) :
    w.ChoosesCall surface signature ((w.firstOutPosition? (w.slots surface .kept)).getD 0) ↔
      ∃ s, w.IsOutputSlot surface s ∧ w.IsFirstOfName surface s ∧ s.param.IsOmittable := by
  constructor
  · rintro ⟨s, output, place, omittable⟩
    exact ⟨s, output, (getD_firstOutPosition?_eq_iff output).mp place.symm,
      (Signature.showsOmittable_iff shown output.mem).mp omittable⟩
  · rintro ⟨s, output, first, omittable⟩
    exact ⟨s, output, ((getD_firstOutPosition?_eq_iff output).mpr first).symm,
      (Signature.showsOmittable_iff shown output.mem).mpr omittable⟩

/-- Where names differ, only the name and the default of the first output matter. -/
theorem choosesCall_iff_of_distinct (shown : w.signature surface .kept = .ok signature)
    (outputs : w.hasOutputs = true) (distinct : w.HasDistinctNames) (reserved : w.ReservesOut)
    (passed : ∀ p ∈ w.outputParams, isReceiver surface p = false) :
    w.ChoosesCall surface signature ((w.firstOutPosition? (w.slots surface .kept)).getD 0) ↔
      w.packsOutputs = true ∨ ∃ p, w.outputParams.head? = some p ∧ p.IsOmittable := by
  obtain ⟨first, hfirst⟩ := Option.isSome_iff_exists.mp outputs
  have head := head?_outputParams hfirst
  obtain ⟨s, output⟩ := exists_isOutputSlot_of_passed outputs passed
  have alone : w.IsFirstOfName surface s := by
    intro t ht named
    have names := nodup_names_orderedParams distinct reserved surface
    exact Nat.le_of_eq (index_eq_of_nodup_names names (mem_slots_iff.mp output.mem)
      (mem_slots_iff.mp ht) named.symm)
  have omittable : s.param.IsOmittable ↔
      w.packsOutputs = true ∨ ∃ p, w.outputParams.head? = some p ∧ p.IsOmittable := by
    have shows := output.param_eq
    cases packs : w.packsOutputs with
    | true =>
      rw [packs, if_pos rfl] at shows
      simp [shows, Param.isOmittable_packedParam]
    | false =>
      rw [packs, if_neg Bool.false_ne_true] at shows
      obtain ⟨first', hfirst', hs⟩ := shows
      obtain rfl : first' = first := Option.some.inj (hfirst'.symm.trans hfirst)
      simp [head, hs]
  rw [choosesCall_iff shown, ← omittable]
  constructor
  · rintro ⟨t, outputT, -, h⟩
    rwa [output.unique outputT]
  · intro h
    exact ⟨s, output, alone, h⟩

end Operator

/-- **Which split families choose between their calls.** The arm of a family
with a plain operator and a writer is one branch on one argument, with the plain
call where it is omitted. The argument is that of the outputs and may be omitted
exactly when the outputs have a slot, no slot before it has its name, and what it
shows is omittable. Where the writer's names differ and no output is the
receiver, this comes down to: the outputs are packed, or the first is omittable. -/
theorem choosesCall_iff_of_ofFamilies {policy : LoneWriter} {name : String} {surface : Surface}
    {os : List Operator} {families : List OverloadFamily} {binding : Binding}
    (gathered : (OverloadFamily.ofOperators policy name surface os).outcome = .ok families)
    (planned : (Binding.ofFamilies name surface families).outcome = .ok binding)
    {k : Nat} {f : OverloadFamily} (hf : families[k]? = some f)
    {b w : Operator} (members : f.members = .both b w) :
    ∃ position plain writer,
      binding.arms[k]? = some ⟨f.signature, .byOutput position plain writer⟩ ∧
      (b.callIn surface (w.slots surface .kept)).outcome = .ok plain ∧
      (w.call surface).outcome = .ok writer ∧
      w.signature surface .kept = .ok f.signature ∧
      (w.ChoosesCall surface f.signature position ↔
        ∃ s, w.IsOutputSlot surface s ∧ w.IsFirstOfName surface s ∧ s.param.IsOmittable) ∧
      (w.HasDistinctNames → w.ReservesOut →
        (∀ p ∈ w.outputParams, Operator.isReceiver surface p = false) →
        (w.ChoosesCall surface f.signature position ↔
          w.packsOutputs = true ∨ ∃ p, w.outputParams.head? = some p ∧ p.IsOmittable)) := by
  have invariant := OverloadFamily.isOf_of_ofOperators gathered f (List.mem_of_getElem? hf)
  obtain ⟨-, outputs, -, shown⟩ := invariant.writer w (by
    simp [OverloadFamily.writer?, members, Members.writer?])
  obtain ⟨call, hcall, arm⟩ := Binding.arm_of_ofFamilies planned hf
  rw [members] at hcall
  obtain ⟨plain, writer, rfl, hplain, hwriter⟩ := FamilyCall.ofMembers_both hcall
  refine ⟨_, plain, writer, arm, hplain, hwriter, shown, Operator.choosesCall_iff shown, ?_⟩
  intro distinct reserved passed
  exact Operator.choosesCall_iff_of_distinct shown outputs distinct reserved passed

/-- A plain operator with two results, and a writer that takes both as arguments. -/
def sortPlain : Operator where
  name := "sort"
  text := "sort(Tensor self, int dim=-1) -> (Tensor values, Tensor indices)"
  params := [
    ⟨"self", "Tensor", false, none, none, false, none⟩,
    ⟨"dim", "int", false, some "-1", none, false, none⟩]
  results := [⟨some "values", "Tensor", none⟩, ⟨some "indices", "Tensor", none⟩]
  calls := { function := true }
  moduleTag := none

@[inherit_doc sortPlain]
def sortOut : Operator where
  name := "sort.values"
  text := "sort.values(Tensor self, int dim=-1, *, Tensor(a!) values, Tensor(b!) indices) -> (Tensor(a!) values, Tensor(b!) indices)"
  params := [
    ⟨"self", "Tensor", false, none, none, false, none⟩,
    ⟨"dim", "int", false, some "-1", none, false, none⟩,
    ⟨"values", "Tensor", false, none, some "a!", true, none⟩,
    ⟨"indices", "Tensor", false, none, some "b!", true, none⟩]
  results := [⟨some "values", "Tensor", some "a!"⟩, ⟨some "indices", "Tensor", some "b!"⟩]
  calls := { function := true }
  moduleTag := none

/-- The family that they make. -/
def sortFamily : OverloadFamily where
  key := "sort(Tensor input, int64_t dim=-1)"
  signature := ⟨"sort(Tensor input, int64_t dim=-1, *, TensorList[2] out=None)", 3⟩
  members := .both sortPlain sortOut

theorem choosesCall_sort : ∃ families binding f position plain writer,
    (OverloadFamily.ofOperators .refuse "sort" .torch [sortPlain, sortOut]).outcome =
      .ok families ∧
    (Binding.ofFamilies "sort" .torch families).outcome = .ok binding ∧
    families[0]? = some f ∧ f.members = .both sortPlain sortOut ∧
    binding.arms[0]? = some ⟨f.signature, .byOutput position plain writer⟩ ∧
    sortOut.ChoosesCall .torch f.signature position := by
  have gathered :
      (OverloadFamily.ofOperators .refuse "sort" .torch [sortPlain, sortOut]).outcome =
        .ok [sortFamily] := by rfl
  obtain ⟨binding, planned⟩ : ∃ binding,
      (Binding.ofFamilies "sort" .torch [sortFamily]).outcome = .ok binding := ⟨_, by rfl⟩
  have first : [sortFamily][0]? = some sortFamily := rfl
  obtain ⟨position, plain, writer, arm, -, -, -, -, tidy⟩ :=
    choosesCall_iff_of_ofFamilies gathered planned first rfl
  have distinct : sortOut.HasDistinctNames := by
    unfold Operator.HasDistinctNames
    decide
  have reserved : sortOut.ReservesOut := by
    intro _ i p hp _
    have others : ∀ q ∈ sortOut.params, q.name ≠ "out" := by decide
    exact others p (List.mem_of_getElem? hp)
  refine ⟨[sortFamily], binding, sortFamily, position, plain, writer, gathered, planned, first, rfl,
    arm, ?_⟩
  exact (tidy distinct reserved (by decide)).mpr (.inl (by decide))

/-- A plain operator, and a writer whose output has a name of its own. -/
def trunc : Operator where
  name := "trunc"
  text := "trunc(Tensor self) -> Tensor"
  params := [⟨"self", "Tensor", false, none, none, false, none⟩]
  results := [⟨none, "Tensor", none⟩]
  calls := { function := true }
  moduleTag := none

@[inherit_doc trunc]
def truncOut : Operator where
  name := "trunc.out"
  text := "trunc.out(Tensor self, *, Tensor(a!) result) -> Tensor(a!)"
  params := [
    ⟨"self", "Tensor", false, none, none, false, none⟩,
    ⟨"result", "Tensor", false, none, some "a!", true, none⟩]
  results := [⟨none, "Tensor", some "a!"⟩]
  calls := { function := true }
  moduleTag := none

/-- The argument at 1 is that of the output, but the signature does not let it
be omitted: the plain call is never made. -/
theorem not_choosesCall_trunc :
    (∀ o ∈ [trunc, truncOut], ∃ r, Operator.ofRecord r = .ok o) ∧
    ∃ families binding f plain writer,
      (OverloadFamily.ofOperators .refuse "trunc" .torch [trunc, truncOut]).outcome = .ok families ∧
      (Binding.ofFamilies "trunc" .torch families).outcome = .ok binding ∧
      families[0]? = some f ∧ f.members = .both trunc truncOut ∧
      binding.arms[0]? = some ⟨f.signature, .byOutput 1 plain writer⟩ ∧
      f.signature.text = "trunc(Tensor input, *, Tensor result)" ∧
      ¬ truncOut.ChoosesCall .torch f.signature 1 := by
  constructor
  · simp only [List.forall_mem_cons]
    exact ⟨⟨{ declaration := trunc.text }, by rfl⟩, ⟨{ declaration := truncOut.text }, by rfl⟩,
      by simp⟩
  · refine ⟨_, _, _, _, _, by rfl, by rfl, rfl, rfl, rfl, rfl, ?_⟩
    rintro ⟨s, output, -, omittable⟩
    have shown : truncOut.signature .torch .kept =
        .ok ⟨"trunc(Tensor input, *, Tensor result)", 2⟩ := by rfl
    have required : ∀ t ∈ truncOut.slots .torch .kept, ¬ t.param.IsOmittable := by decide
    exact required s output.mem ((Signature.showsOmittable_iff shown output.mem).mp omittable)

end OpBindings
