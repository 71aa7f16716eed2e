/-
OpBindings.Proofs.SplitFamily — what the plain call of a split family reads.

A family with a plain operator and a writer shows the writer's signature, and
its plain call reads what that signature laid out. Slots are found by the name
of the declaration, but a signature shows the receiver as an input; and a name
that is not found is read from the parameter's own number. So the plain call
is right for some families only: `readsShown_iff` says for which.
-/
import OpBindings.Binding.Plan
import OpBindings.Proofs.NativeCall
import OpBindings.Proofs.OverloadFamily

namespace OpBindings

/-! ## What is shown -/

/-- The slot shows the parameter: its name and its type, as a signature writes them. -/
def Slot.Shows (s : Slot) (p : Param) : Prop :=
  s.param.shownName = p.shownName ∧ ParamType.ofText? s.param.type = ParamType.ofText? p.type ∧
    s.param.listSize = p.listSize ∧ s.param.optional = p.optional

/-- The slot is the one of the layout that shows the parameter. -/
def Slot.IsFor (s : Slot) (layout : List Slot) (p : Param) : Prop :=
  s ∈ layout ∧ s.Shows p ∧ ∀ t ∈ layout, t.Shows p → t = s

/-- **The call reads what the layout shows:** for each parameter of `o` that it
takes from the parser, exactly the slot that shows the parameter. -/
def NativeCall.ReadsShown (c : NativeCall) (o : Operator) (layout : List Slot) : Prop :=
  ∀ p ∈ o.params, ∀ position, c.Reads p position →
    ∃ s : Slot, s.IsFor layout p ∧ s.position = position

/-- The slot is found for the parameter at `i`: it is the first one of that
name, or there is none and it is the slot of that number. -/
def Slot.IsFound (s : Slot) (layout : List Slot) (p : Param) (i : Nat) : Prop :=
  (s.param.name = p.name ∧ ∀ t ∈ layout, t.param.name = p.name → s.position ≤ t.position) ∨
    ((∀ t ∈ layout, t.param.name ≠ p.name) ∧ s.position = i)

namespace Operator

variable {b w : Operator} {surface : Surface} {p : Param} {i : Nat}

/-! ## Plain operators -/

/-- A plain operator reads a slot for every parameter that is passed. -/
theorem mem_readEntries_of_plain (plain : b.hasOutputs = false) :
    (p, i) ∈ b.readEntries surface ↔ b.params[i]? = some p ∧ isReceiver surface p = false := by
  have reads : ∀ e : Placed, b.readsSlot surface e = !isReceiver surface e.1 := by
    simp [readsSlot, isOutputAt, outSpan?_eq_none plain]
  have split : (p, i) ∈ b.readEntries surface ↔
      (b.params[i]? = some p ∧ b.passesAlone p = true ∧ isReceiver surface p = false) ∨
        (b.gathersOptions = true ∧ b.params[i]? = some p ∧ p.carriesOption = true) := by
    rw [readEntries, List.mem_append, List.mem_filter, List.mem_zipIdx_iff_getElem?]
    simp only [reads, Bool.and_eq_true, Bool.not_eq_true']
    cases gathers : b.gathersOptions with
    | true => simp [mem_optionEntries]
    | false => simp
  rw [split]
  constructor
  · intro h
    rcases h with ⟨hp, -, passed⟩ | ⟨-, hp, carries⟩
    · exact ⟨hp, passed⟩
    · exact ⟨hp, isReceiver_of_carriesOption carries⟩
  · intro h
    obtain ⟨hp, passed⟩ := h
    cases own : b.passesAlone p with
    | true => exact .inl ⟨hp, rfl, passed⟩
    | false =>
      simp only [passesAlone, Bool.not_eq_false', Bool.and_eq_true] at own
      exact .inr ⟨own.1, hp, own.2⟩

/-- Without outputs, a parameter's slot in a layout is that of its name, or its own number. -/
theorem slotOf_of_plain (plain : b.hasOutputs = false) (layout : List Slot) :
    b.slotOf layout (p, i) = (positionIn layout p.name).getD i := by
  simp [slotOf, position, position?, isOutputAt, outSpan?_eq_none plain]

/-- Which slot the plain operator reads from the writer's layout. -/
theorem slotOf_eq_iff_isFound (plain : b.hasOutputs = false) {s : Slot}
    (hs : s ∈ w.slots surface .kept) :
    b.slotOf (w.slots surface .kept) (p, i) = s.position ↔
      s.IsFound (w.slots surface .kept) p i := by
  rw [slotOf_of_plain plain]
  cases found : positionIn (w.slots surface .kept) p.name with
  | none =>
    have absent := positionIn_eq_none_iff.mp found
    constructor
    · intro same
      exact .inr ⟨absent, same.symm⟩
    · intro h
      rcases h with ⟨named, -⟩ | ⟨-, same⟩
      · exact absurd named (absent s hs)
      · exact same.symm
  | some k =>
    obtain ⟨t, ht, rfl, named, first⟩ := positionIn_eq_some_iff_first.mp found
    constructor
    · intro same
      obtain rfl := slot_eq_of_position ht hs same
      exact .inl ⟨named, first⟩
    · intro h
      rcases h with ⟨named', first'⟩ | ⟨absent, -⟩
      · exact Nat.le_antisymm (first s hs named') (first' t ht named)
      · exact absurd named (absent t ht)

/-- The plain operator's call, parameter by parameter. -/
theorem readsShown_iff_isFound (plain : b.hasOutputs = false) (distinct : b.HasDistinctNames)
    {c : NativeCall} (planned : (b.callIn surface (w.slots surface .kept)).outcome = .ok c) :
    c.ReadsShown b (w.slots surface .kept) ↔
      ∀ i p, b.params[i]? = some p → isReceiver surface p = false →
        ∃ s : Slot, s.IsFor (w.slots surface .kept) p ∧ s.IsFound (w.slots surface .kept) p i := by
  constructor
  · intro right i p hp passed
    have reads := (reads_iff distinct planned hp).mpr
      ⟨(mem_readEntries_of_plain plain).mpr ⟨hp, passed⟩, rfl⟩
    obtain ⟨s, isFor, place⟩ := right p (List.mem_of_getElem? hp) _ reads
    exact ⟨s, isFor, (slotOf_eq_iff_isFound plain isFor.1).mp place.symm⟩
  · intro found p mem position reads
    obtain ⟨i, hp⟩ := List.mem_iff_getElem?.mp mem
    obtain ⟨entry, rfl⟩ := (reads_iff distinct planned hp).mp reads
    obtain ⟨-, passed⟩ := (mem_readEntries_of_plain plain).mp entry
    obtain ⟨s, isFor, isFound⟩ := found i p hp passed
    exact ⟨s, isFor, ((slotOf_eq_iff_isFound plain isFor.1).mpr isFound).symm⟩

/-! ## Signatures that show different names -/

/-- The signature of the writer shows no name twice. -/
def ShowsDistinctNames (w : Operator) (surface : Surface) : Prop :=
  ((w.slots surface .kept).map (·.param.shownName)).Nodup

theorem ShowsDistinctNames.eq_of_shownName_eq (distinct : w.ShowsDistinctNames surface) {s t : Slot}
    (hs : s ∈ w.slots surface .kept) (ht : t ∈ w.slots surface .kept)
    (same : s.param.shownName = t.param.shownName) : s = t :=
  List.inj_on_of_nodup_map distinct hs ht same

theorem shownName_of_name_eq {p q : Param} (h : p.name = q.name) : p.shownName = q.shownName := by
  unfold Param.shownName
  rw [h]

/-- Only the receiver and an input can be shown alike under different names. -/
theorem name_eq_of_shownName_eq {p q : Param} (h : p.shownName = q.shownName)
    (other : q.shownName ≠ "input") : p.name = q.name := by
  unfold Param.shownName at h other
  split at h
  · split at h
    · rename_i hp hq
      simp only [beq_iff_eq] at hp hq
      rw [hp, hq]
    · rename_i hp hq
      rw [if_neg hq, ← h] at other
      exact absurd rfl other
  · split at h
    · rename_i hp hq
      rw [if_pos hq] at other
      exact absurd rfl other
    · exact h

/-- Where a signature shows no name twice, a slot is found by its name or its number. -/
theorem isFound_iff_of_showsDistinctNames (distinct : w.ShowsDistinctNames surface) {s : Slot}
    (isFor : s.IsFor (w.slots surface .kept) p) :
    s.IsFound (w.slots surface .kept) p i ↔ s.param.name = p.name ∨ s.position = i := by
  obtain ⟨hs, shows, -⟩ := isFor
  have only : ∀ t ∈ w.slots surface .kept, t.param.name = p.name → t = s := by
    intro t ht named
    exact distinct.eq_of_shownName_eq ht hs ((shownName_of_name_eq named).trans shows.1.symm)
  constructor
  · intro h
    rcases h with ⟨named, -⟩ | ⟨-, place⟩
    · exact .inl named
    · exact .inr place
  · intro found
    by_cases named : s.param.name = p.name
    · refine .inl ⟨named, ?_⟩
      intro t ht named'
      rw [only t ht named']
    · refine .inr ⟨?_, found.resolve_left named⟩
      intro t ht named'
      exact named (only t ht named' ▸ named')

/-- Operators of one key show each other's inputs: the writer's signature has a
slot for every parameter that is passed to the plain operator. -/
theorem exists_isFor_of_hasKey {r₁ r₂ : Record} (built₁ : ofRecord r₁ = .ok b)
    (built₂ : ofRecord r₂ = .ok w) (plain₁ : b.HasPlainAliases) (plain₂ : w.HasPlainAliases)
    {key : String} (key₁ : b.HasKey surface key) (key₂ : w.HasKey surface key)
    (distinct : w.ShowsDistinctNames surface) (kind : b.hasOutputs = false)
    (hp : p ∈ b.params) (passed : isReceiver surface p = false) :
    ∃ s : Slot, s.IsFor (w.slots surface .kept) p := by
  obtain ⟨s₁, h₁, text₁⟩ := key₁
  obtain ⟨s₂, h₂, text₂⟩ := key₂
  obtain ⟨-, faces⟩ := faces_eq_of_text_eq built₁ built₂ plain₁ plain₂ h₁ h₂ (text₁.trans text₂.symm)
  have shown : p ∈ b.orderedParams surface .elided := by
    refine mem_orderedParams_iff.mpr ⟨?_, passed⟩
    rwa [shownParams_of_plain kind]
  obtain ⟨q, hq, same⟩ := List.mem_map.mp (faces ▸ List.mem_map_of_mem shown)
  obtain ⟨s, hs, rfl⟩ := exists_mem_slots (mem_orderedParams_kept hq)
  simp only [Param.face, ShownParam.mk.injEq] at same
  obtain ⟨name, type, size, mark, -, -⟩ := same
  refine ⟨s, hs, ⟨name, type, size, mark⟩, ?_⟩
  intro t ht shows
  exact distinct.eq_of_shownName_eq ht hs (shows.1.trans name.symm)

end Operator

/-! ## Families -/

/-- The calls of a split family: both are planned for the writer's layout. -/
theorem FamilyCall.ofMembers_both {surface : Surface} {b w : Operator} {call : FamilyCall}
    (h : (FamilyCall.ofMembers surface (.both b w)).outcome = .ok call) :
    ∃ plain writer, call = .byOutput ((w.firstOutPosition? (w.slots surface .kept)).getD 0) plain writer ∧
      (b.callIn surface (w.slots surface .kept)).outcome = .ok plain ∧
      (w.callIn surface (w.slots surface .kept)).outcome = .ok writer := by
  obtain ⟨-, -, h⟩ := Run.outcome_bind.mp h
  obtain ⟨writer, hwriter, h⟩ := Run.outcome_bind.mp h
  obtain ⟨plain, hplain, h⟩ := Run.outcome_bind.mp h
  cases h
  exact ⟨plain, writer, rfl, hplain, hwriter⟩

/-- The arm at a place is that of the family there. -/
theorem Binding.arm_of_ofFamilies {name : String} {surface : Surface}
    {families : List OverloadFamily} {binding : Binding}
    (planned : (Binding.ofFamilies name surface families).outcome = .ok binding) {k : Nat}
    {f : OverloadFamily} (hf : families[k]? = some f) :
    ∃ call, (FamilyCall.ofMembers surface f.members).outcome = .ok call ∧
      binding.arms[k]? = some ⟨f.signature, call⟩ := by
  obtain ⟨arms, harms, planned⟩ := Run.outcome_bind.mp planned
  obtain ⟨-, -, planned⟩ := Run.outcome_bind.mp planned
  cases planned
  obtain ⟨arm, place, harm⟩ := forall₂_getElem? (Run.outcome_each.mp harms) hf
  obtain ⟨call, hcall, harm⟩ := Run.outcome_bind.mp harm
  cases harm
  exact ⟨call, hcall, place⟩

/-- **Which plain calls read the right slots.** The plain call of a family with
a writer reads the writer's layout, and the parser is given the writer's
signature. Each argument comes from the one slot that shows its parameter
exactly when that slot is found by the parameter's name, or by its number
where no slot has the name. Where aliases are plain and the signature shows no
name twice, only the input that may be called `self` can go wrong. -/
theorem plainCall_readsShown_iff {policy : LoneWriter} {name : String} {surface : Surface}
    {os : List Operator} {families : List OverloadFamily} {binding : Binding}
    (built : ∀ o ∈ os, ∃ r, Operator.ofRecord r = .ok o) (distinct : ∀ o ∈ os, o.HasDistinctNames)
    (gathered : (OverloadFamily.ofOperators policy name surface os).outcome = .ok families)
    (planned : (Binding.ofFamilies name surface families).outcome = .ok binding)
    {k : Nat} {f : OverloadFamily} (hf : families[k]? = some f)
    {b w : Operator} (members : f.members = .both b w) :
    ∃ position plain writer,
      binding.arms[k]? = some ⟨f.signature, .byOutput position plain writer⟩ ∧
      w.signature surface .kept = .ok f.signature ∧
      (plain.ReadsShown b (w.slots surface .kept) ↔
        ∀ i p, b.params[i]? = some p → Operator.isReceiver surface p = false →
          ∃ s : Slot, s.IsFor (w.slots surface .kept) p ∧ s.IsFound (w.slots surface .kept) p i) ∧
      (b.HasPlainAliases → w.HasPlainAliases → w.ShowsDistinctNames surface →
        (plain.ReadsShown b (w.slots surface .kept) ↔
          ∀ i p, b.params[i]? = some p → Operator.isReceiver surface p = false →
            p.shownName = "input" →
            ∃ s ∈ w.slots surface .kept, s.param.shownName = "input" ∧
              (s.param.name = p.name ∨ s.position = i))) := by
  have invariant := OverloadFamily.isOf_of_ofOperators gathered f (List.mem_of_getElem? hf)
  obtain ⟨memB, kindB, keyB⟩ := invariant.plain b (by
    simp [OverloadFamily.plain?, members, Members.plain?])
  obtain ⟨memW, -, keyW, signature⟩ := invariant.writer w (by
    simp [OverloadFamily.writer?, members, Members.writer?])
  obtain ⟨call, hcall, arm⟩ := Binding.arm_of_ofFamilies planned hf
  rw [members] at hcall
  obtain ⟨plain, writer, rfl, hplain, -⟩ := FamilyCall.ofMembers_both hcall
  have exact := Operator.readsShown_iff_isFound kindB (distinct b memB) hplain
  refine ⟨_, plain, writer, arm, signature, exact, ?_⟩
  intro plainB plainW names
  obtain ⟨r₁, built₁⟩ := built b memB
  obtain ⟨r₂, built₂⟩ := built w memW
  rw [exact]
  constructor
  · intro found i p hp passed input
    obtain ⟨s, isFor, isFound⟩ := found i p hp passed
    refine ⟨s, isFor.1, isFor.2.1.1.trans input, ?_⟩
    exact (Operator.isFound_iff_of_showsDistinctNames names isFor).mp isFound
  · intro inputs i p hp passed
    obtain ⟨s, isFor⟩ := Operator.exists_isFor_of_hasKey built₁ built₂ plainB plainW keyB keyW names
      kindB (List.mem_of_getElem? hp) passed
    refine ⟨s, isFor, (Operator.isFound_iff_of_showsDistinctNames names isFor).mpr ?_⟩
    -- a name other than "input" is shown as it is declared, so it is found
    by_cases input : p.shownName = "input"
    · obtain ⟨t, ht, shown, found⟩ := inputs i p hp passed input
      obtain rfl := names.eq_of_shownName_eq ht isFor.1
        (shown.trans (isFor.2.1.1.trans input).symm)
      exact found
    · exact .inl (Operator.name_eq_of_shownName_eq isFor.2.1.1 input)

/-- A plain operator and its writer, which puts the output before a keyword. -/
def shift : Operator where
  name := "shift"
  text := "shift(Tensor self, *, int k=1) -> Tensor"
  params := [
    ⟨"self", "Tensor", false, none, none, false, none⟩,
    ⟨"k", "int", false, some "1", none, true, none⟩]
  results := [⟨none, "Tensor", none⟩]
  calls := { function := true }
  moduleTag := none

@[inherit_doc shift]
def shiftOut : Operator where
  name := "shift.out"
  text := "shift.out(Tensor self, *, Tensor(a!) out, int k=1) -> Tensor(a!)"
  params := [
    ⟨"self", "Tensor", false, none, none, false, none⟩,
    ⟨"out", "Tensor", false, none, some "a!", true, none⟩,
    ⟨"k", "int", false, some "1", none, true, none⟩]
  results := [⟨none, "Tensor", some "a!"⟩]
  calls := { function := true }
  moduleTag := none

/-- The family that they make. -/
def shiftFamily : OverloadFamily where
  key := "shift(Tensor input, *, int64_t k=1)"
  signature := ⟨"shift(Tensor input, *, Tensor out=None, int64_t k=1)", 3⟩
  members := .both shift shiftOut

theorem readsShown_shift : ∃ families binding f position plain writer,
    (OverloadFamily.ofOperators .refuse "shift" .torch [shift, shiftOut]).outcome = .ok families ∧
    (Binding.ofFamilies "shift" .torch families).outcome = .ok binding ∧
    families[0]? = some f ∧ f.members = .both shift shiftOut ∧
    binding.arms[0]? = some ⟨f.signature, .byOutput position plain writer⟩ ∧
    plain.ReadsShown shift (shiftOut.slots .torch .kept) := by
  have built : ∀ o ∈ [shift, shiftOut], ∃ r, Operator.ofRecord r = .ok o := by
    intro o mem
    rcases List.mem_cons.mp mem with rfl | mem
    · exact ⟨{ declaration := shift.text }, by rfl⟩
    · obtain rfl := List.mem_singleton.mp mem
      exact ⟨{ declaration := shiftOut.text }, by rfl⟩
  have distinct : ∀ o ∈ [shift, shiftOut], o.HasDistinctNames := by
    unfold Operator.HasDistinctNames
    decide
  have gathered : (OverloadFamily.ofOperators .refuse "shift" .torch [shift, shiftOut]).outcome =
      .ok [shiftFamily] := by rfl
  obtain ⟨binding, planned⟩ : ∃ binding,
      (Binding.ofFamilies "shift" .torch [shiftFamily]).outcome = .ok binding := ⟨_, by rfl⟩
  have first : [shiftFamily][0]? = some shiftFamily := rfl
  obtain ⟨position, plain, writer, arm, -, -, tidy⟩ :=
    plainCall_readsShown_iff built distinct gathered planned first rfl
  have plainAliases : shift.HasPlainAliases := by
    simp [Operator.HasPlainAliases, shift, Param.HasPlainAlias]
  have plainAliasesOut : shiftOut.HasPlainAliases := by
    simp [Operator.HasPlainAliases, shiftOut, Param.HasPlainAlias, Declaration.NoQuote]
  have names : shiftOut.ShowsDistinctNames .torch := by
    unfold Operator.ShowsDistinctNames
    decide
  refine ⟨[shiftFamily], binding, shiftFamily, position, plain, writer, gathered, planned, first,
    rfl, arm, ?_⟩
  rw [tidy plainAliases plainAliasesOut names]
  intro i p hp _ input
  have receiver : ∀ q ∈ shift.params, q.shownName = "input" → q.name = "self" := by decide
  have named := receiver p (List.mem_of_getElem? hp) input
  have slot : ∃ s ∈ shiftOut.slots .torch .kept, s.param.shownName = "input" ∧
      s.param.name = "self" := by decide
  obtain ⟨s, hs, shown, name⟩ := slot
  exact ⟨s, hs, shown, .inl (name.trans named.symm)⟩

/-- A plain operator whose writer has the output first and calls the receiver an input. -/
def halve : Operator where
  name := "halve"
  text := "halve(Tensor self) -> Tensor"
  params := [⟨"self", "Tensor", false, none, none, false, none⟩]
  results := [⟨none, "Tensor", none⟩]
  calls := { function := true }
  moduleTag := none

@[inherit_doc halve]
def halveOut : Operator where
  name := "halve.out"
  text := "halve.out(Tensor(a!) out, Tensor input) -> Tensor(a!)"
  params := [
    ⟨"out", "Tensor", false, none, some "a!", false, none⟩,
    ⟨"input", "Tensor", false, none, none, false, none⟩]
  results := [⟨none, "Tensor", some "a!"⟩]
  calls := { function := true }
  moduleTag := none

/-- The plain call reads its input from the slot of the output: `self` is not
found in the writer's signature, and its own number is 0. -/
theorem misreads_halve :
    (∀ o ∈ [halve, halveOut], (∃ r, Operator.ofRecord r = .ok o) ∧ o.HasDistinctNames) ∧
    ∃ families binding f position plain writer,
      (OverloadFamily.ofOperators .refuse "halve" .torch [halve, halveOut]).outcome = .ok families ∧
      (Binding.ofFamilies "halve" .torch families).outcome = .ok binding ∧
      families[0]? = some f ∧ f.members = .both halve halveOut ∧
      binding.arms[0]? = some ⟨f.signature, .byOutput position plain writer⟩ ∧
      ¬ plain.ReadsShown halve (halveOut.slots .torch .kept) := by
  constructor
  · intro o mem
    rcases List.mem_cons.mp mem with rfl | mem
    · exact ⟨⟨{ declaration := halve.text }, by rfl⟩, by unfold Operator.HasDistinctNames; decide⟩
    · obtain rfl := List.mem_singleton.mp mem
      exact ⟨⟨{ declaration := halveOut.text }, by rfl⟩, by unfold Operator.HasDistinctNames; decide⟩
  · refine ⟨_, _, _, _, _, _, by rfl, by rfl, rfl, rfl, rfl, ?_⟩
    intro right
    obtain ⟨s, ⟨hs, shows, -⟩, place⟩ := right _ List.mem_cons_self 0
      (.inl ⟨_, List.mem_cons_self, rfl, rfl⟩)
    have names : ∀ t ∈ halveOut.slots .torch .kept, t.position = 0 →
        t.param.shownName ≠ "input" := by decide
    exact names s hs place shows.1

end OpBindings
