/-
OpBindings.Proofs.Tallies — what binding counts.

A binding shows what was counted while it was made: its name with the number
of its families, each family that chooses between two calls, and each call that
sets options (`Binding.tallies`). Only a family without a plain operator does
not show. Such families are counted when the families of the name are settled,
and gathering them counts nothing (`OverloadFamily.makes_ofOperators`). So the
tallies of a name are one for each family that lacks a plain operator, and then
those of its binding, and the tallies of a surface are those of its names in
order (`Generated.tallies_of_bindSurface`).
-/
import OpBindings.Proofs.BoundTable
import OpBindings.Proofs.NativeCall
import OpBindings.Proofs.OverloadFamily

namespace OpBindings

open Run

/-! ## Calls -/

/-- What planning the call counts: one set of options, if it sets any. -/
def NativeCall.tallies (c : NativeCall) : List Tally :=
  if c.options.isEmpty then [] else [.gatheredOptions]

namespace Operator

variable {o : Operator} {surface : Surface} {layout : List Slot}

/-- Gathered options are never none: each of them is set by a link of its own. -/
theorem optionLinks_ne_nil (gathers : o.gathersOptions = true) : o.optionLinks layout ≠ [] := by
  have four : 4 ≤ o.params.countP (·.carriesOption) := by simpa [gathersOptions] using gathers
  obtain ⟨p, mem, carries⟩ := List.countP_pos_iff.mp (Nat.lt_of_lt_of_le (by decide) four)
  obtain ⟨i, hp⟩ := List.mem_iff_getElem?.mp mem
  obtain ⟨option, some⟩ := Option.isSome_iff_exists.mp carries
  exact List.ne_nil_of_mem (mem_optionLinks.mpr ⟨option, i, p, hp, some, rfl⟩)

/-- **A call counts the options that it sets.** -/
theorem tallies_of_callIn {ts : List Tally} {c : NativeCall}
    (made : (o.callIn surface layout).Makes ts c) : ts = c.tallies := by
  have options := (callIn_eq_ok made.1).2.1
  obtain ⟨params, -, made⟩ := makes_lift_bind.mp made
  cases gathers : o.gathersOptions with
  | true =>
    have sets : c.tallies = [.gatheredOptions] := by
      simp [NativeCall.tallies, options, gathers, optionLinks_ne_nil gathers]
    simp only [gathers, if_true] at made
    obtain ⟨rest, planned, rfl⟩ := makes_tally_bind.mp made
    obtain ⟨returns, -, last⟩ := makes_lift_bind.mp (makes_note_bind.mp planned)
    rw [sets, (makes_pure.mp last).2]
  | false =>
    have sets : c.tallies = [] := by simp [NativeCall.tallies, options, gathers]
    simp only [gathers, Bool.false_eq_true, if_false] at made
    obtain ⟨returns, -, last⟩ := makes_lift_bind.mp (makes_note_bind.mp made)
    rw [sets, (makes_pure.mp last).2]

end Operator

/-! ## Bindings -/

/-- What planning the calls of a family counts. The writer's call is planned first. -/
def FamilyCall.tallies : FamilyCall → List Tally
  | always call => call.tallies
  | byOutput _ plain writer => .split :: (writer.tallies ++ plain.tallies)

/-- What making the binding counts. -/
def Binding.tallies (b : Binding) : List Tally :=
  b.arms.flatMap (·.call.tallies) ++ [.named b.surface b.arms.length]

theorem FamilyCall.tallies_of_ofMembers {surface : Surface} {members : Members} {ts : List Tally}
    {call : FamilyCall} (made : (ofMembers surface members).Makes ts call) : ts = call.tallies := by
  have one : ∀ {o : Operator},
      (do pure (always (← o.call surface)) : Run FamilyCall).Makes ts call → ts = call.tallies := by
    intro o made
    obtain ⟨c, t₁, t₂, planned, last, rfl⟩ := makes_bind.mp made
    obtain ⟨rfl, rfl⟩ := makes_pure.mp last
    rw [List.append_nil]
    exact Operator.tallies_of_callIn planned
  cases members with
  | plain o => exact one made
  | writer w => exact one made
  | both o w =>
    obtain ⟨t, calls, rfl⟩ := makes_tally_bind.mp made
    obtain ⟨writerCall, t₁, t₂, writer, rest, rfl⟩ := makes_bind.mp calls
    obtain ⟨plainCall, t₃, t₄, plain, last, rfl⟩ := makes_bind.mp rest
    obtain ⟨rfl, rfl⟩ := makes_pure.mp last
    rw [Operator.tallies_of_callIn writer, Operator.tallies_of_callIn plain, List.append_nil]
    rfl

/-- **A binding shows what was counted** while its families were bound. -/
theorem Binding.tallies_of_ofFamilies {name : String} {surface : Surface}
    {families : List OverloadFamily} {ts : List Tally} {b : Binding}
    (made : (ofFamilies name surface families).Makes ts b) : ts = b.tallies := by
  have one : ∀ f ∈ families, ∀ ts a, (arm surface f).Makes ts a → ts = a.call.tallies := by
    intro f _ ts a made
    obtain ⟨call, t₁, t₂, planned, last, rfl⟩ := makes_bind.mp made
    obtain ⟨rfl, rfl⟩ := makes_pure.mp last
    rw [List.append_nil]
    exact FamilyCall.tallies_of_ofMembers planned
  obtain ⟨arms, t₁, t₂, each, rest, rfl⟩ := makes_bind.mp made
  obtain ⟨t₃, last, rfl⟩ := makes_tally_bind.mp rest
  obtain ⟨rfl, rfl⟩ := makes_pure.mp last
  have lengths : families.length = arms.length := (outcome_each.mp each.1).length_eq
  rw [tallies_of_each one each, lengths]
  rfl

theorem NativeCall.eq_of_mem_tallies {c : NativeCall} {t : Tally} (mem : t ∈ c.tallies) :
    t = .gatheredOptions := by
  unfold tallies at mem
  split at mem
  · cases mem
  · exact List.mem_singleton.mp mem

theorem FamilyCall.eq_of_mem_tallies {call : FamilyCall} {t : Tally} (mem : t ∈ call.tallies) :
    t = .split ∨ t = .gatheredOptions := by
  cases call with
  | always c => exact .inr (c.eq_of_mem_tallies mem)
  | byOutput _ plain writer =>
    rcases List.mem_cons.mp mem with rfl | mem
    · exact .inl rfl
    · rcases List.mem_append.mp mem with mem | mem
      · exact .inr (writer.eq_of_mem_tallies mem)
      · exact .inr (plain.eq_of_mem_tallies mem)

/-- The kinds of tally that a binding shows. -/
theorem Binding.eq_of_mem_tallies {b : Binding} {t : Tally} (mem : t ∈ b.tallies) :
    t = .split ∨ t = .gatheredOptions ∨ t = .named b.surface b.arms.length := by
  rcases List.mem_append.mp mem with mem | mem
  · obtain ⟨a, -, mem⟩ := List.mem_flatMap.mp mem
    rcases FamilyCall.eq_of_mem_tallies mem with kind | kind
    · exact .inl kind
    · exact .inr (.inl kind)
  · exact .inr (.inr (List.mem_singleton.mp mem))

/-- A lone writer does not show. -/
theorem Binding.loneWriter_not_mem (b : Binding) : Tally.loneWriter ∉ b.tallies := by
  intro mem
  rcases eq_of_mem_tallies mem with kind | kind | kind <;> cases kind

/-! ## Families -/

namespace OverloadFamily

variable {surface : Surface} {families families' : List OverloadFamily} {f f' : OverloadFamily}
  {o : Operator} {key : Signature} {ts : List Tally}

theorem tallies_of_add (made : (f.add surface o).Makes ts f') : ts = [] := by
  unfold OverloadFamily.add addWriter addPlain at made
  split at made <;> split at made
  · exact (makes_pure.mp (makes_note_bind.mp made)).2
  · exact (makes_pure.mp (makes_note_bind.mp made)).2
  · obtain ⟨own, -, made⟩ := makes_lift_bind.mp made
    exact (makes_pure.mp made).2
  · exact (makes_pure.mp (makes_note_bind.mp made)).2
  · exact (makes_pure.mp (makes_note_bind.mp made)).2
  · exact (makes_pure.mp made).2

theorem tallies_of_first (made : (first surface key o).Makes ts f) : ts = [] := by
  unfold first at made
  split at made
  · obtain ⟨own, -, made⟩ := makes_lift_bind.mp made
    exact (makes_pure.mp made).2
  · exact (makes_pure.mp made).2

theorem tallies_of_insert (made : (insert surface key o families).Makes ts families') :
    ts = [] := by
  induction families generalizing ts families' with
  | nil =>
    obtain ⟨f, t₁, t₂, one, last, rfl⟩ := makes_bind.mp made
    rw [tallies_of_first one, (makes_pure.mp last).2]
    rfl
  | cons f families ih =>
    rw [insert] at made
    split at made
    · obtain ⟨f', t₁, t₂, one, last, rfl⟩ := makes_bind.mp made
      rw [tallies_of_add one, (makes_pure.mp last).2]
      rfl
    · obtain ⟨rest, t₁, t₂, others, last, rfl⟩ := makes_bind.mp made
      rw [ih others, (makes_pure.mp last).2]
      rfl

/-- **Gathering counts nothing.** -/
theorem tallies_of_gather {os : List Operator}
    (made : (gather surface families os).Makes ts families') : ts = [] := by
  induction os generalizing families ts with
  | nil => exact (makes_pure.mp made).2
  | cons o os ih =>
    obtain ⟨key, -, made⟩ := makes_lift_bind.mp made
    obtain ⟨next, t₁, t₂, one, rest, rfl⟩ := makes_bind.mp made
    rw [tallies_of_insert one, ih rest]
    rfl

/-- How many families have no plain operator. -/
def loneCount (families : List OverloadFamily) : Nat := families.countP (·.lacksPlain)

/-- Lone writers are accepted one by one, and counted. -/
theorem makes_settleLone_accept {u : Unit} : (settleLone .accept families).Makes ts u ↔
    ts = List.replicate (loneCount families) .loneWriter := by
  induction families generalizing ts with
  | nil => simp [settleLone, loneCount]
  | cons f families ih =>
    rw [settleLone, settleOne]
    cases lone : f.lacksPlain with
    | true =>
      have counted : loneCount (f :: families) = loneCount families + 1 := by
        simp [loneCount, lone]
      rw [counted, List.replicate_succ]
      simp only [if_true, bind_assoc, makes_note_bind, makes_tally_bind, ih]
      simp
    | false =>
      have counted : loneCount (f :: families) = loneCount families := by simp [loneCount, lone]
      rw [counted]
      simp only [Bool.false_eq_true, if_false, pure_bind]
      exact ih

/-- Where lone writers are refused there is none, and nothing is counted. -/
theorem makes_settleLone_refuse {u : Unit} : (settleLone .refuse families).Makes ts u ↔
    loneCount families = 0 ∧ ts = [] := by
  induction families generalizing ts with
  | nil => simp [settleLone, loneCount]
  | cons f families ih =>
    rw [settleLone, settleOne]
    cases lone : f.lacksPlain with
    | true =>
      have counted : loneCount (f :: families) ≠ 0 := by simp [loneCount, lone]
      have failed : ∀ t u',
          ¬ (fail (.loneWriter f.representative.name f.key) : Run Unit).Makes t u' := by
        rintro t u' ⟨made, -⟩
        cases made
      simp only [if_true, makes_bind, failed, false_and, exists_false, counted]
    | false =>
      have counted : loneCount (f :: families) = loneCount families := by simp [loneCount, lone]
      rw [counted]
      simp only [Bool.false_eq_true, if_false, pure_bind]
      exact ih

/-- **The families of a name** are gathered, and then counted where they lack a
plain operator. -/
theorem makes_ofOperators {policy : LoneWriter} {name : String} {os : List Operator} :
    (ofOperators policy name surface os).Makes ts families ↔
      ∃ gathered, (gather surface [] os).outcome = .ok gathered ∧
        (settleLone policy gathered).Makes ts () ∧ families = prioritised gathered := by
  unfold ofOperators
  rw [makes_bind]
  constructor
  · intro h
    obtain ⟨gathered, t₁, t₂, first, rest, rfl⟩ := h
    obtain ⟨⟨⟩, t₃, t₄, settled, last, rfl⟩ := makes_bind.mp rest
    obtain ⟨rfl, rfl⟩ := makes_pure.mp (makes_note_bind.mp last)
    rw [tallies_of_gather first, List.append_nil, List.nil_append]
    exact ⟨gathered, first.1, settled, rfl⟩
  · intro h
    obtain ⟨gathered, made, settled, rfl⟩ := h
    obtain ⟨t, first⟩ := exists_makes_iff.mp made
    obtain rfl := tallies_of_gather first
    refine ⟨gathered, [], ts, first, makes_bind.mpr ⟨(), ts, [], settled, ?_, ?_⟩, rfl⟩
    · exact makes_note_bind.mpr (makes_pure.mpr ⟨rfl, rfl⟩)
    · exact (List.append_nil ts).symm

theorem loneCount_prioritised (families : List OverloadFamily) :
    loneCount (prioritised families) = loneCount families :=
  (prioritised_perm families).countP_eq _

/-- **Each family without a plain operator is counted once**, and a run that
refuses such families has none. -/
theorem tallies_of_ofOperators {policy : LoneWriter} {name : String} {os : List Operator}
    (made : (ofOperators policy name surface os).Makes ts families) :
    ts = List.replicate (loneCount families) .loneWriter ∧
      (policy = .refuse → loneCount families = 0) := by
  obtain ⟨gathered, -, settled, rfl⟩ := makes_ofOperators.mp made
  rw [loneCount_prioritised]
  cases policy with
  | accept => exact ⟨makes_settleLone_accept.mp settled, nofun⟩
  | refuse =>
    obtain ⟨none, rfl⟩ := makes_settleLone_refuse.mp settled
    exact ⟨by rw [none]; rfl, fun _ => none⟩

end OverloadFamily

/-- **What a name counts:** its families without a plain operator, and then
what its binding shows. -/
theorem Binding.makes_ofOperators {policy : LoneWriter} {name : String} {surface : Surface}
    {os : List Operator} {ts : List Tally} {b : Binding} :
    (ofOperators policy name surface os).Makes ts b ↔
      ∃ families lone, (OverloadFamily.ofOperators policy name surface os).Makes lone families ∧
        (ofFamilies name surface families).outcome = .ok b ∧ ts = lone ++ b.tallies := by
  unfold ofOperators
  rw [makes_bind]
  constructor
  · intro h
    obtain ⟨families, lone, t, gathered, bound, rfl⟩ := h
    exact ⟨families, lone, gathered, bound.1, by rw [tallies_of_ofFamilies bound]⟩
  · intro h
    obtain ⟨families, lone, gathered, bound, rfl⟩ := h
    obtain ⟨t, counted⟩ := exists_makes_iff.mp bound
    obtain rfl := tallies_of_ofFamilies counted
    exact ⟨families, lone, b.tallies, gathered, counted, rfl⟩

/-! ## Surfaces -/

/-- The families that are gathered under a base name on a surface. -/
def familiesOn (policy : LoneWriter) (os : List Operator) (surface : Surface) (name : String) :
    List OverloadFamily :=
  (OverloadFamily.ofOperators policy name surface (namesakes os surface name)).outcome.toOption.getD []

/-- What binding the name counts: also the families that do not show. -/
def Binding.allTallies (policy : LoneWriter) (os : List Operator) (b : Binding) : List Tally :=
  List.replicate (OverloadFamily.loneCount (familiesOn policy os b.surface b.name)) .loneWriter ++
    b.tallies

/-- The binding was made from the families of its name, none of which lacks a
plain operator where that is refused. -/
def Binding.IsOfFamilies (policy : LoneWriter) (os : List Operator) (b : Binding) : Prop :=
  (ofFamilies b.name b.surface (familiesOn policy os b.surface b.name)).outcome = .ok b ∧
    (policy = .refuse → OverloadFamily.loneCount (familiesOn policy os b.surface b.name) = 0)

theorem Binding.tallies_of_ofOperators {policy : LoneWriter} {os : List Operator}
    {surface : Surface} {name : String} {ts : List Tally} {b : Binding}
    (made : (ofOperators policy name surface (namesakes os surface name)).Makes ts b) :
    ts = b.allTallies policy os ∧ b.surface = surface ∧ b.IsOfFamilies policy os := by
  obtain ⟨families, lone, gathered, bound, rfl⟩ := makes_ofOperators.mp made
  obtain ⟨rfl, rfl⟩ := name_surface_of_ofFamilies bound
  obtain ⟨rfl, refused⟩ := OverloadFamily.tallies_of_ofOperators gathered
  have those : familiesOn policy os b.surface b.name = families := by
    rw [familiesOn, gathered.1]
    rfl
  rw [allTallies, IsOfFamilies, those]
  exact ⟨rfl, rfl, bound, refused⟩

namespace Generated

/-- **What binding a surface counts:** the tallies of its names, in order. -/
theorem tallies_of_bindSurface {policy : LoneWriter} {os : List Operator} {surface : Surface}
    {ts : List Tally} {b : BoundSurface}
    (made : (bindSurface policy (Routing.whole (kept os)) surface).Makes ts b) :
    ts = b.bindings.flatMap (·.allTallies policy os) ∧ b.surface = surface ∧
      ∀ binding ∈ b.bindings, binding.surface = surface ∧ binding.IsOfFamilies policy os := by
  obtain ⟨bindings, t₁, t₂, names, rest, rfl⟩ := makes_bind.mp made
  obtain ⟨rfl, rfl⟩ := makes_pure.mp (makes_note_bind.mp rest)
  have one : ∀ entry ∈ byBaseName ((Routing.whole (kept os)).on surface), ∀ ts binding,
      (Binding.ofOperators policy entry.1 surface entry.2).Makes ts binding →
        ts = binding.allTallies policy os ∧ binding.surface = surface ∧
          binding.IsOfFamilies policy os := by
    rintro ⟨name, members⟩ mem ts binding made
    obtain ⟨-, rfl⟩ := mem_byBaseName.mp mem
    rw [filter_on_whole_kept] at made
    exact Binding.tallies_of_ofOperators made
  refine ⟨?_, rfl, fun binding mem => ?_⟩
  · rw [List.append_nil]
    exact tallies_of_each (fun entry mem ts binding made => (one entry mem ts binding made).1) names
  · obtain ⟨entry, mem, made⟩ := forall₂_mem_right
      ((List.forall₂_and_left _ _).mpr ⟨fun _ mem => mem, outcome_each.mp names.1⟩) mem
    exact (one entry made.1 _ binding ⟨made.2, rfl⟩).2

theorem tallies_of_bindSurfaces {policy : LoneWriter} {os : List Operator}
    {surfaces : List Surface} {ts : List Tally} {bound : List BoundSurface}
    (made : (Run.each (bindSurface policy (Routing.whole (kept os))) surfaces).Makes ts bound) :
    ts = bound.flatMap fun b => b.bindings.flatMap (·.allTallies policy os) :=
  tallies_of_each (fun _ _ _ _ made => (tallies_of_bindSurface made).1) made

end Generated

/-- The tally is one of binding. -/
def Tally.IsOfBinding : Tally → Prop
  | .loaded _ | .filtered _ | .routed _ => False
  | .named .. | .split | .loneWriter | .gatheredOptions => True

/-- **Binding counts nothing but its own.** -/
theorem Binding.isOfBinding_of_mem {policy : LoneWriter} {os : List Operator} {b : Binding}
    {t : Tally} (mem : t ∈ b.allTallies policy os) : t.IsOfBinding := by
  rcases List.mem_append.mp mem with mem | mem
  · rw [List.eq_of_mem_replicate mem]
    trivial
  · rcases eq_of_mem_tallies mem with rfl | rfl | rfl <;> trivial

theorem Generated.isOfBinding_of_bindSurfaces {policy : LoneWriter} {os : List Operator}
    {surfaces : List Surface} {ts : List Tally} {bound : List BoundSurface}
    (made : (Run.each (bindSurface policy (Routing.whole (kept os))) surfaces).Makes ts bound) :
    ∀ t ∈ ts, t.IsOfBinding := by
  intro t mem
  rw [tallies_of_bindSurfaces made] at mem
  obtain ⟨b, -, mem⟩ := List.mem_flatMap.mp mem
  obtain ⟨binding, -, mem⟩ := List.mem_flatMap.mp mem
  exact Binding.isOfBinding_of_mem mem

end OpBindings
