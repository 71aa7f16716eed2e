/-
OpBindings.Proofs.Report — the statistics say what was generated.

The counts are bumped stage by stage, but what was counted can be read off the
table and the generated bindings afterwards (`Generated.IsReported`). The
tallies of a run are those of reading, choosing, routing and binding, one after
the other; each count of the statistics has its weight on the tallies of one
of these stages only, and there the tallies are known exactly
(`Generated.isReported_of_ofTable`).
-/
import Mathlib.Data.List.Dedup
import OpBindings.Proofs.Totals

namespace OpBindings

/-! ## What was generated -/

/-- The call sets options. -/
def NativeCall.setsOptions (c : NativeCall) : Bool := !c.options.isEmpty

namespace FamilyCall

/-- The family chooses between two calls. -/
def isSplit : FamilyCall → Bool
  | always _ => false
  | byOutput .. => true

/-- The calls that a family can make. -/
def calls : FamilyCall → List NativeCall
  | always call => [call]
  | byOutput _ plain writer => [plain, writer]

end FamilyCall

/-- The calls of all arms of a binding. -/
def Binding.calls (b : Binding) : List NativeCall := b.arms.flatMap (·.call.calls)

/-- The calls that can be selected. -/
def Selection.calls : Selection → List NativeCall
  | sole call => call.calls
  | byIndex calls => calls.flatMap (·.calls)

/-- The calls of a binding are those that its plan selects from. -/
theorem Binding.calls_plan (b : Binding) : b.plan.selection.calls = b.calls := by
  change b.selection.calls = b.calls
  unfold selection Binding.calls
  split
  · rename_i arm only
    simp [Selection.calls, only]
  · simp [Selection.calls, List.flatMap_map]

/-- The signatures that the argument parser is given on a surface. -/
def BoundSurface.signatures (b : BoundSurface) : List Signature :=
  b.bindings.flatMap fun binding => binding.arms.map (·.signature)

/-- The base names of the operators that go to a surface, each once. -/
def baseNamesOn (os : List Operator) (surface : Surface) : List String :=
  ((os.filter fun o => decide (o.GoesTo surface)).map (·.baseName)).dedup

namespace Generated

/-- Every binding of every surface. -/
def bindings (g : Generated) : List Binding := g.surfaces.flatMap (·.bindings)

/-- The families that the bindings were made from. -/
def families (g : Generated) (policy : LoneWriter) (os : List Operator) : List OverloadFamily :=
  g.bindings.flatMap fun b => familiesOn policy os b.surface b.name

/-- **The statistics say what was generated** from the records, which make the
operators `os`. -/
structure IsReported (g : Generated) (settings : Settings) (rs : List Record)
    (os : List Operator) : Prop where
  read : List.Forall₂ (fun r o => Operator.ofRecord r = .ok o) rs os
  surfaces : g.surfaces.map (·.surface) = settings.surfaces
  /-- Each binding has one arm for each of its families, in order. -/
  bound : ∀ b ∈ g.surfaces, ∀ binding ∈ b.bindings, binding.surface = b.surface ∧
    (Binding.ofFamilies binding.name binding.surface
      (familiesOn settings.loneWriter (sorted os) binding.surface binding.name)).outcome = .ok binding
  loaded : g.statistics.loaded = rs.length
  filtered : g.statistics.filtered = os.countP (·.exclusion?.isSome)
  reasons : g.statistics.filtered = (g.statistics.reasons.map (·.2)).sum
  /-- Also on surfaces that were not chosen. -/
  functions : ∀ surface, (g.statistics.countsOf surface).functions =
    os.countP fun o => decide (o.GoesTo surface)
  names : ∀ b ∈ g.surfaces,
    (g.statistics.countsOf b.surface).names = (baseNamesOn os b.surface).length
  signatures : ∀ b ∈ g.surfaces,
    (g.statistics.countsOf b.surface).families = b.signatures.length
  splitFamilies : g.statistics.splitFamilies =
    (g.bindings.flatMap (·.arms)).countP (·.call.isSplit)
  gatheredOptions : g.statistics.gatheredOptions =
    (g.bindings.flatMap (·.calls)).countP (·.setsOptions)
  loneWriters : g.statistics.loneWriters =
    (g.families settings.loneWriter (sorted os)).countP (·.lacksPlain)
  refused : settings.loneWriter = .refuse → g.statistics.loneWriters = 0

end Generated

/-! ## What a binding counts, kind by kind -/

theorem NativeCall.count_tallies (c : NativeCall) (t : Tally) :
    c.tallies.count t = if t = .gatheredOptions ∧ c.setsOptions = true then 1 else 0 := by
  unfold tallies setsOptions
  by_cases same : t = .gatheredOptions
  · subst same
    cases c.options.isEmpty <;> simp
  · cases c.options.isEmpty <;> simp [same, Ne.symm same]

theorem FamilyCall.count_split (call : FamilyCall) :
    call.tallies.count .split = if call.isSplit = true then 1 else 0 := by
  cases call <;> simp [tallies, isSplit, NativeCall.count_tallies]

theorem FamilyCall.count_gatheredOptions (call : FamilyCall) :
    call.tallies.count .gatheredOptions = call.calls.countP (·.setsOptions) := by
  cases call with
  | always c => simp [tallies, calls, NativeCall.count_tallies, List.countP_cons]
  | byOutput _ plain writer =>
    simp [tallies, calls, NativeCall.count_tallies, List.countP_cons, Nat.add_comm]

namespace Binding

variable {policy : LoneWriter} {os : List Operator} (b : Binding)

theorem count_split : (b.allTallies policy os).count .split = b.arms.countP (·.call.isSplit) := by
  have shown : ∀ arms : List Arm,
      (arms.flatMap (·.call.tallies)).count .split = arms.countP (·.call.isSplit) := by
    intro arms
    induction arms with
    | nil => rfl
    | cons a arms ih =>
      rw [List.flatMap_cons, List.count_append, ih, a.call.count_split, List.countP_cons]
      omega
  simp [allTallies, tallies, shown, List.count_replicate]

theorem count_gatheredOptions :
    (b.allTallies policy os).count .gatheredOptions = b.calls.countP (·.setsOptions) := by
  have shown : (b.arms.flatMap (·.call.tallies)).count .gatheredOptions =
      b.calls.countP (·.setsOptions) := by
    simp [calls, List.count_flatMap, List.countP_flatMap, Function.comp_def,
      FamilyCall.count_gatheredOptions]
  simp [allTallies, tallies, shown, List.count_replicate]

theorem count_loneWriter : (b.allTallies policy os).count .loneWriter =
    (familiesOn policy os b.surface b.name).countP (·.lacksPlain) := by
  have none := List.count_eq_zero.mpr b.loneWriter_not_mem
  rw [allTallies, List.count_append, List.count_replicate_self, none, Nat.add_zero]
  rfl

end Binding

namespace Generated

/-! ## What a run counts, stage by stage -/

/-- What a run counts before it binds: reading, choosing and routing. -/
def earlyTallies (os : List Operator) : List Tally :=
  .loaded os.length :: (excludedTallies (sorted os) ++ Routing.tallies (kept (sorted os)))

variable {os : List Operator}

theorem exists_of_mem_excludedTallies {t : Tally} (mem : t ∈ excludedTallies os) :
    ∃ reason, t = .filtered reason := by
  obtain ⟨o, -, counted⟩ := List.mem_filterMap.mp mem
  obtain ⟨reason, -, rfl⟩ := Option.map_eq_some_iff.mp counted
  exact ⟨_, rfl⟩

theorem exists_of_mem_routingTallies {t : Tally} (mem : t ∈ Routing.tallies os) :
    ∃ surface, t = .routed surface := by
  obtain ⟨o, -, mem⟩ := List.mem_flatMap.mp mem
  obtain ⟨surface, -, rfl⟩ := List.mem_map.mp mem
  exact ⟨surface, rfl⟩

/-- Nothing of binding is counted before it. -/
theorem not_isOfBinding_of_mem {t : Tally} (mem : t ∈ earlyTallies os) : ¬ t.IsOfBinding := by
  rcases List.mem_cons.mp mem with rfl | mem
  · exact id
  rcases List.mem_append.mp mem with mem | mem
  · obtain ⟨reason, rfl⟩ := exists_of_mem_excludedTallies mem
    exact id
  · obtain ⟨surface, rfl⟩ := exists_of_mem_routingTallies mem
    exact id

theorem sum_map_flatMap {α : Type} (weight : Tally → Nat) (tallies : α → List Tally) (as : List α) :
    ((as.flatMap tallies).map weight).sum = (as.map fun a => ((tallies a).map weight).sum).sum := by
  induction as with
  | nil => rfl
  | cons a as ih =>
    rw [List.flatMap_cons, List.map_append, List.sum_append, ih, List.map_cons, List.sum_cons]

theorem sum_map_eq_zero {weight : Tally → Nat} {ts : List Tally} (none : ∀ t ∈ ts, weight t = 0) :
    (ts.map weight).sum = 0 := by
  simpa [List.sum_eq_zero_iff_forall_eq_nat] using none

/-- The records are counted where they are read. -/
theorem sum_records_earlyTallies : ((earlyTallies os).map Tally.records).sum = os.length := by
  have others : ((excludedTallies (sorted os) ++ Routing.tallies (kept (sorted os))).map
      Tally.records).sum = 0 := by
    refine sum_map_eq_zero (List.forall_mem_append.mpr ⟨fun t mem => ?_, fun t mem => ?_⟩)
    · obtain ⟨reason, rfl⟩ := exists_of_mem_excludedTallies mem
      rfl
    · obtain ⟨surface, rfl⟩ := exists_of_mem_routingTallies mem
      rfl
  rw [earlyTallies, List.map_cons, List.sum_cons, others]
  rfl

/-- What is left out is counted where operators are chosen. -/
theorem countP_reason_earlyTallies :
    (earlyTallies os).countP (·.reason?.isSome) = os.countP (·.exclusion?.isSome) := by
  have chosen : ∀ os : List Operator,
      (excludedTallies os).countP (·.reason?.isSome) = os.countP (·.exclusion?.isSome) := by
    intro os
    rw [excludedTallies, List.countP_filterMap]
    refine List.countP_congr fun o _ => ?_
    cases o.exclusion? <;> simp [Tally.reason?]
  have routed : (Routing.tallies (kept (sorted os))).countP (·.reason?.isSome) = 0 := by
    refine List.countP_eq_zero.mpr fun t mem => ?_
    obtain ⟨surface, rfl⟩ := exists_of_mem_routingTallies mem
    simp [Tally.reason?]
  rw [earlyTallies, List.countP_cons, List.countP_append, chosen, routed]
  exact (sorted_perm os).countP_eq _

/-- What goes to a surface is counted where operators are routed. -/
theorem count_routed_earlyTallies (surface : Surface) :
    (earlyTallies os).count (.routed surface) = os.countP fun o => decide (o.GoesTo surface) := by
  have excluded : (excludedTallies (sorted os)).count (.routed surface) = 0 := by
    refine List.count_eq_zero.mpr fun mem => ?_
    obtain ⟨reason, absurd⟩ := exists_of_mem_excludedTallies mem
    cases absurd
  have routed : ∀ os : List Operator, (Routing.tallies (kept os)).count (.routed surface) =
      os.countP fun o => decide (o.GoesTo surface) := by
    intro os
    have sent : Routing.tallies (kept os) = (Routing.whole (kept os)).map (.routed ·.1) := by
      simp [Routing.tallies, Routing.whole, List.map_flatMap, Function.comp_def]
    have same : ∀ e : Surface × Operator, (Tally.routed e.1 == .routed surface) = (e.1 == surface) :=
      fun e => Bool.eq_iff_iff.mpr (by simp)
    rw [List.countP_eq_length_filter, ← on_whole_kept, sent, List.count, List.countP_map,
      Routing.on, List.length_map, ← List.countP_eq_length_filter]
    exact List.countP_congr fun e _ => by simp [same]
  rw [earlyTallies, List.count_cons_of_ne (by simp), List.count_append, excluded, routed,
    Nat.zero_add]
  exact (sorted_perm os).countP_eq _

/-- A tally of binding is counted in binding. -/
theorem count_append_of_isOfBinding {t : Tally} (own : t.IsOfBinding) (rest : List Tally) :
    (earlyTallies os ++ rest).count t = rest.count t := by
  have none : (earlyTallies os).count t = 0 :=
    List.count_eq_zero.mpr fun mem => not_isOfBinding_of_mem mem own
  rw [List.count_append, none, Nat.zero_add]

end Generated

/-! ## What the names of a surface count -/

namespace Binding

variable {policy : LoneWriter} {os : List Operator} (b : Binding)

theorem sum_weightOn (surface : Surface) (weigh : Nat → Nat) :
    ((b.allTallies policy os).map (Tally.weightOn surface weigh)).sum =
      if b.surface = surface then weigh b.arms.length else 0 := by
  have others : ∀ t ∈ b.arms.flatMap (·.call.tallies), Tally.weightOn surface weigh t = 0 := by
    intro t mem
    obtain ⟨a, -, mem⟩ := List.mem_flatMap.mp mem
    rcases FamilyCall.eq_of_mem_tallies mem with rfl | rfl <;> rfl
  simp [allTallies, tallies, Generated.sum_map_eq_zero others, Tally.weightOn]

end Binding

namespace BoundSurface

variable {policy : LoneWriter} {os : List Operator}

theorem sum_weightOn {b : BoundSurface}
    (own : ∀ binding ∈ b.bindings, binding.surface = b.surface) (surface : Surface)
    (weigh : Nat → Nat) :
    ((b.bindings.flatMap (·.allTallies policy os)).map (Tally.weightOn surface weigh)).sum =
      if b.surface = surface then (b.bindings.map fun binding => weigh binding.arms.length).sum
      else 0 := by
  have each : ∀ binding ∈ b.bindings,
      ((binding.allTallies policy os).map (Tally.weightOn surface weigh)).sum =
        if b.surface = surface then weigh binding.arms.length else 0 := by
    intro binding mem
    rw [binding.sum_weightOn, own binding mem]
  rw [Generated.sum_map_flatMap, List.map_congr_left each]
  split <;> simp

/-- The names of one surface among several different ones. -/
theorem sum_weightOn_of_mem {bound : List BoundSurface} (weigh : Nat → Nat)
    (distinct : (bound.map (·.surface)).Nodup)
    (own : ∀ b ∈ bound, ∀ binding ∈ b.bindings, binding.surface = b.surface) {b : BoundSurface}
    (mem : b ∈ bound) :
    ((bound.flatMap fun b => b.bindings.flatMap (·.allTallies policy os)).map
        (Tally.weightOn b.surface weigh)).sum =
      (b.bindings.map fun binding => weigh binding.arms.length).sum := by
  have others : ∀ c, c ≠ b → c ∈ bound →
      ((c.bindings.flatMap (·.allTallies policy os)).map
        (Tally.weightOn b.surface weigh)).sum = 0 := by
    intro c differ hc
    rw [sum_weightOn (own c hc)]
    exact if_neg fun same => differ (List.inj_on_of_nodup_map distinct hc mem same)
  rw [Generated.sum_map_flatMap, List.sum_map_eq_nsmul_single b _ others,
    List.count_eq_one_of_mem distinct.of_map mem, one_nsmul, sum_weightOn (own b mem), if_pos rfl]

/-- Each name of a bound surface is a base name of the operators that go there. -/
theorem IsBound.length_bindings {j : Journal} {b : BoundSurface}
    (h : b.IsBound policy (Generated.sorted os) j) :
    b.bindings.length = (baseNamesOn os b.surface).length := by
  have names : (b.bindings.map (·.name)).Nodup := h.ascending.imp String.ne_of_lt
  have perm : (b.bindings.map (·.name)).Perm (baseNamesOn os b.surface) := by
    refine (List.perm_ext_iff_of_nodup names (List.nodup_dedup _)).mpr fun name => ?_
    rw [h.mem_names]
    simp [Generated.mem_sorted, and_assoc]
  simpa using perm.length_eq

end BoundSurface

namespace Generated

/-! ## A run -/

variable {settings : Settings} {rs : List Record} {g : Generated} {os : List Operator}
  {rest : List Tally}

/-- What a run that succeeded counted: what came before binding, and then its bindings. -/
theorem statistics_of_ofTable (made : (ofTable settings (pure rs)).outcome = .ok g) :
    ∃ os rest, List.Forall₂ (fun r o => Operator.ofRecord r = .ok o) rs os ∧
      (Run.each (bindSurface settings.loneWriter (Routing.whole (kept (sorted os))))
        settings.surfaces).Makes rest g.surfaces ∧
      g.statistics = .ofTallies (earlyTallies os ++ rest) := by
  obtain ⟨ts, bound, bindings, rfl⟩ := ofTable_eq_ok.mp made
  obtain ⟨os, rest, read, -, each, rfl⟩ := makes_boundSurfaces.mp bindings
  exact ⟨os, rest, read, each, by simp [earlyTallies]⟩

/-- What was bound, surface by surface. -/
theorem surfaces_of_bindSurfaces {policy : LoneWriter} {surfaces : List Surface}
    {bound : List BoundSurface}
    (made : (Run.each (bindSurface policy (Routing.whole (kept os))) surfaces).Makes rest bound) :
    bound.map (·.surface) = surfaces ∧ ∀ b ∈ bound, ∀ binding ∈ b.bindings,
      binding.surface = b.surface ∧ binding.IsOfFamilies policy os := by
  have each := (Run.outcome_each.mp made.1).imp fun surface b made =>
    (tallies_of_bindSurface (b := b) ⟨made, rfl⟩).2
  constructor
  · refine List.forall₂_eq_eq_eq ▸ List.forall₂_map_left_iff.mpr ?_
    exact each.flip.imp fun b surface h => h.1
  · intro b mem binding hbinding
    obtain ⟨surface, -, rfl, those⟩ := forall₂_mem_right each mem
    exact those binding hbinding

/-- The counts that each binding adds to by itself. -/
theorem counts_of_bindSurfaces {policy : LoneWriter} {surfaces : List Surface}
    (made : (Run.each (bindSurface policy (Routing.whole (kept (sorted os)))) surfaces).Makes rest
      g.surfaces) :
    (Statistics.ofTallies (earlyTallies os ++ rest)).splitFamilies =
        (g.bindings.flatMap (·.arms)).countP (·.call.isSplit) ∧
      (Statistics.ofTallies (earlyTallies os ++ rest)).gatheredOptions =
        (g.bindings.flatMap (·.calls)).countP (·.setsOptions) ∧
      (Statistics.ofTallies (earlyTallies os ++ rest)).loneWriters =
        (g.families policy (sorted os)).countP (·.lacksPlain) := by
  have names : rest = g.bindings.flatMap (·.allTallies policy (sorted os)) := by
    rw [tallies_of_bindSurfaces made, bindings, List.flatMap_assoc]
  rw [Statistics.splitFamilies_ofTallies, Statistics.gatheredOptions_ofTallies,
    Statistics.loneWriters_ofTallies, count_append_of_isOfBinding (t := .split) trivial,
    count_append_of_isOfBinding (t := .gatheredOptions) trivial,
    count_append_of_isOfBinding (t := .loneWriter) trivial, names, families]
  simp only [List.count_flatMap, List.countP_flatMap, Function.comp_def, Binding.count_split,
    Binding.count_gatheredOptions, Binding.count_loneWriter, and_self]

/-- The counts of a chosen surface. -/
theorem countsOf_of_bindSurfaces {policy : LoneWriter} {surfaces : List Surface}
    {bound : List BoundSurface} (distinct : surfaces.Nodup)
    (made : (Run.each (bindSurface policy (Routing.whole (kept (sorted os)))) surfaces).Makes rest
      bound) {b : BoundSurface} (mem : b ∈ bound) :
    ((Statistics.ofTallies (earlyTallies os ++ rest)).countsOf b.surface).names =
        b.bindings.length ∧
      ((Statistics.ofTallies (earlyTallies os ++ rest)).countsOf b.surface).families =
        b.signatures.length := by
  obtain ⟨chosen, own⟩ := surfaces_of_bindSurfaces made
  have weights : ∀ weigh, ((earlyTallies os ++ rest).map (Tally.weightOn b.surface weigh)).sum =
      (b.bindings.map fun binding => weigh binding.arms.length).sum := by
    intro weigh
    have early : ∀ t ∈ earlyTallies os, Tally.weightOn b.surface weigh t = 0 := by
      intro t early
      have other := not_isOfBinding_of_mem early
      cases t with
      | named => exact absurd trivial other
      | _ => rfl
    rw [List.map_append, List.sum_append, sum_map_eq_zero early, Nat.zero_add,
      tallies_of_bindSurfaces made]
    exact BoundSurface.sum_weightOn_of_mem weigh (chosen.symm ▸ distinct)
      (fun b mem binding hbinding => (own b mem binding hbinding).1) mem
  obtain ⟨names, families⟩ := Statistics.names_families_ofTallies b.surface (earlyTallies os ++ rest)
  rw [names, families, weights, weights]
  simp [BoundSurface.signatures, List.length_flatMap]

/-- The counts of what comes before binding. -/
theorem counts_of_isOfBinding (own : ∀ t ∈ rest, t.IsOfBinding) :
    (Statistics.ofTallies (earlyTallies os ++ rest)).loaded = os.length ∧
      (Statistics.ofTallies (earlyTallies os ++ rest)).filtered =
        os.countP (·.exclusion?.isSome) ∧
      ∀ surface, ((Statistics.ofTallies (earlyTallies os ++ rest)).countsOf surface).functions =
        os.countP fun o => decide (o.GoesTo surface) := by
  have unread : ∀ t ∈ rest, t.records = 0 := by
    intro t mem
    have binding := own t mem
    cases t with
    | loaded => cases binding
    | _ => rfl
  have quiet : rest.countP (·.reason?.isSome) = 0 := by
    refine List.countP_eq_zero.mpr fun t mem => ?_
    simp [Tally.reason?_of_isOfBinding (own t mem)]
  refine ⟨?_, ?_, fun surface => ?_⟩
  · rw [Statistics.loaded_ofTallies, List.map_append, List.sum_append, sum_records_earlyTallies,
      sum_map_eq_zero unread, Nat.add_zero]
  · rw [Statistics.filtered_ofTallies, List.countP_append, countP_reason_earlyTallies, quiet,
      Nat.add_zero]
  · have unrouted : rest.count (.routed surface) = 0 :=
      List.count_eq_zero.mpr fun mem => own _ mem
    rw [Statistics.functions_ofTallies, List.count_append, count_routed_earlyTallies, unrouted,
      Nat.add_zero]

/-- **The statistics say what was generated**, where no surface is chosen twice. -/
theorem isReported_of_ofTable (distinct : settings.surfaces.Nodup)
    (made : (ofTable settings (pure rs)).outcome = .ok g) : ∃ os, g.IsReported settings rs os := by
  obtain ⟨os, rest, read, each, counted⟩ := statistics_of_ofTable made
  obtain ⟨os', read', -, isBound, -⟩ := bound_of_ofTable made
  obtain rfl := read_unique read read'
  obtain ⟨surfaces, bound⟩ := surfaces_of_bindSurfaces each
  obtain ⟨splits, options, lone⟩ := counts_of_bindSurfaces each
  rw [← counted] at splits options lone
  obtain ⟨loaded, filtered, functions⟩ :=
    counts_of_isOfBinding (isOfBinding_of_bindSurfaces each)
  rw [← counted] at loaded filtered functions
  exact ⟨os, {
    read
    surfaces
    bound := fun b mem binding hbinding =>
      have ⟨same, those, _⟩ := bound b mem binding hbinding
      ⟨same, those⟩
    loaded := loaded.trans read.length_eq.symm
    filtered
    reasons := by
      rw [counted, Statistics.filtered_ofTallies, Statistics.sum_reasons_ofTallies]
    functions
    names := by
      intro b mem
      obtain ⟨-, -, -, names⟩ := forall₂_mem_right isBound mem
      rw [counted, (countsOf_of_bindSurfaces distinct each mem).1, names.length_bindings]
    signatures := by
      intro b mem
      rw [counted, (countsOf_of_bindSurfaces distinct each mem).2]
    splitFamilies := splits
    gatheredOptions := options
    loneWriters := lone
    refused := by
      intro refuse
      refine lone.trans (List.countP_eq_zero.mpr fun f mem => ?_)
      obtain ⟨binding, hbinding, mem⟩ := List.mem_flatMap.mp mem
      obtain ⟨b, hb, hbinding⟩ := List.mem_flatMap.mp hbinding
      have none := (bound b hb binding hbinding).2.2 refuse
      exact List.countP_eq_zero.mp none f mem }⟩

/-- An operator that is left out, a factory, a plain operator with its writer,
and a writer that stands alone. -/
def mixedTable : List Operator :=
  let self : Param := ⟨"self", "Tensor", false, none, none, false, none⟩
  let out : Param := ⟨"out", "Tensor", false, none, some "a!", true, none⟩
  let function : CallKinds := { function := true }
  [⟨"_abs", "_abs(Tensor self) -> Tensor", [self], [⟨none, "Tensor", none⟩], function, none⟩,
    ⟨"empty", "empty(*, ScalarType dtype, Layout layout, Device device, bool pin_memory) -> Tensor",
      [⟨"dtype", "ScalarType", false, none, none, true, none⟩,
        ⟨"layout", "Layout", false, none, none, true, none⟩,
        ⟨"device", "Device", false, none, none, true, none⟩,
        ⟨"pin_memory", "bool", false, none, none, true, none⟩,
        requiresGradParam],
      [⟨none, "Tensor", none⟩], function, none⟩,
    ⟨"neg", "neg(Tensor self) -> Tensor", [self], [⟨none, "Tensor", none⟩], function, none⟩,
    ⟨"neg.out", "neg.out(Tensor self, *, Tensor(a!) out) -> Tensor(a!)", [self, out],
      [⟨none, "Tensor", some "a!"⟩], function, none⟩,
    ⟨"sort.out", "sort.out(Tensor self, *, Tensor(a!) out) -> Tensor(a!)", [self, out],
      [⟨none, "Tensor", some "a!"⟩], function, none⟩]

theorem isReported_mixedTable : [Surface.tensor, Surface.torch].Nodup ∧
    ∃ settings rs g, settings.surfaces = [.tensor, .torch] ∧
      (ofTable settings (pure rs)).outcome = .ok g ∧ g.IsReported settings rs mixedTable ∧
      g.statistics.filtered = 1 ∧ g.statistics.splitFamilies = 1 ∧
      g.statistics.gatheredOptions = 1 ∧ g.statistics.loneWriters = 1 := by
  have distinct : [Surface.tensor, Surface.torch].Nodup := by decide
  let settings : Settings := { loneWriter := .accept, surfaces := [.tensor, .torch] }
  let rs : List Record := mixedTable.map fun o => { declaration := o.text }
  have read : List.Forall₂ (fun r o => Operator.ofRecord r = .ok o) rs mixedTable :=
    .cons (by rfl) (.cons (by rfl) (.cons (by rfl) (.cons (by rfl) (.cons (by rfl) .nil))))
  have inOrder : mixedTable.Pairwise fun a b => a.precedes b = true := by decide
  have known : ∀ o ∈ kept mixedTable, o.IsRouted := by
    intro o mem
    have routed : ∀ o ∈ mixedTable, o.surfaces = .ok o.routes := by
      simp only [mixedTable, List.forall_mem_cons]
      exact ⟨rfl, rfl, rfl, rfl, rfl, by simp⟩
    exact routed o (List.mem_of_mem_filter mem)
  obtain ⟨g, made, surfaces, -⟩ := exists_ofTable settings read inOrder known (by rfl)
  obtain ⟨os, report⟩ := isReported_of_ofTable distinct made
  obtain rfl := read_unique report.read read
  have asRead : sorted mixedTable = mixedTable := List.mergeSort_of_pairwise inOrder
  refine ⟨distinct, settings, rs, g, rfl, made, report, report.filtered, ?_, ?_, ?_⟩
  · rw [report.splitFamilies, bindings, surfaces]
    rfl
  · rw [report.gatheredOptions, bindings, surfaces]
    rfl
  · rw [report.loneWriters, families, bindings, surfaces, asRead]
    rfl

end Generated

end OpBindings
