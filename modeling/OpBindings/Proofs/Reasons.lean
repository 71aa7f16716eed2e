/-
OpBindings.Proofs.Reasons — what is left out is counted under its reason.

The statistics are the sum of a run's tallies, and the reasons in them count
the tallies of that reason (`countOf_ofTallies`). Only the choice of the operators
counts reasons: no step of binding does (`reason?_of_isOfBinding`). So each reason
stands in the statistics with the number of operators that it left out
(`Generated.countOf_of_ofTable`).
-/
import OpBindings.Proofs.Tallies

namespace OpBindings

/-! ## The reasons in the statistics -/

/-- The reason that a tally counts. -/
def Tally.reason? : Tally → Option String
  | .filtered reason => some reason
  | _ => none

/-- No tally of binding counts a reason. -/
theorem Tally.reason?_of_isOfBinding {t : Tally} (h : t.IsOfBinding) : t.reason? = none := by
  cases t with
  | filtered reason => cases h
  | _ => rfl

namespace Statistics

theorem reasons_add (s : Statistics) (t : Tally) : (s.add t).reasons =
    match t.reason? with
    | some reason => upsert reason (fun count => count.getD 0 + 1) s.reasons
    | none => s.reasons := by
  cases t <;> simp [add, Tally.reason?, onSurface, countReason_eq]

theorem ascending_reasons_add {s : Statistics} (h : Ascending s.reasons) (t : Tally) :
    Ascending (s.add t).reasons := by
  rw [reasons_add]
  split
  · exact ascending_upsert h
  · exact h

/-- How often a reason was counted. -/
def countOf (s : Statistics) (reason : String) : Nat := (s.reasons.lookup reason).getD 0

theorem countOf_add {s : Statistics} (h : Ascending s.reasons) (t : Tally) (reason : String) :
    (s.add t).countOf reason = s.countOf reason + if t.reason? = some reason then 1 else 0 := by
  rw [countOf, reasons_add]
  cases t.reason? with
  | none => simp [countOf]
  | some counted =>
    simp only [lookup_upsert h, Option.some.injEq]
    by_cases same : reason = counted
    · simp [same, countOf]
    · simp [same, Ne.symm same, countOf]

/-- **A reason's count** is the number of its tallies. -/
theorem countOf_ofTallies (ts : List Tally) (reason : String) :
    (ofTallies ts).countOf reason = ts.countP (·.reason? == some reason) := by
  have sum : ∀ s : Statistics, Ascending s.reasons →
      (ts.foldl add s).countOf reason = s.countOf reason + ts.countP (·.reason? == some reason) := by
    induction ts with
    | nil => simp
    | cons t ts ih =>
      intro s h
      rw [List.foldl_cons, ih (s.add t) (ascending_reasons_add h t), countOf_add h, List.countP_cons]
      simp only [beq_iff_eq]
      omega
  simpa [ofTallies, countOf] using sum {} .nil

end Statistics

/-! ## A run -/

namespace Generated

theorem countP_excludedTallies (os : List Operator) (reason : Exclusion) :
    (excludedTallies os).countP (·.reason? == some reason.reason) =
      os.countP (·.exclusion? == some reason) := by
  have distinct : ∀ a b : Exclusion, a.reason = b.reason ↔ a = b := by
    intro a b
    cases a <;> cases b <;> decide
  rw [excludedTallies, List.countP_filterMap]
  refine List.countP_congr fun o _ => ?_
  cases o.exclusion? with
  | none => simp
  | some left => simp [Tally.reason?, distinct]

/-- A list of tallies that count no reason. -/
theorem countP_eq_zero_of_quiet {ts : List Tally} (quiet : ∀ t ∈ ts, t.reason? = none)
    (reason : String) : ts.countP (·.reason? == some reason) = 0 := by
  refine List.countP_eq_zero.mpr fun t mem => ?_
  simp [quiet t mem]

/-- **Each reason is counted once for each operator that it leaves out.** -/
theorem countOf_of_ofTable {settings : Settings} {rs : List Record} {os : List Operator}
    {g : Generated} (read : List.Forall₂ (fun r o => Operator.ofRecord r = .ok o) rs os)
    (made : (ofTable settings (pure rs)).outcome = .ok g) (reason : Exclusion) :
    g.statistics.countOf reason.reason = os.countP (·.exclusion? == some reason) := by
  obtain ⟨ts, bound, bindings, rfl⟩ := ofTable_eq_ok.mp made
  obtain ⟨os', rest, read', -, surfaces, rfl⟩ := makes_boundSurfaces.mp bindings
  obtain rfl := read_unique read read'
  have routed : ∀ t ∈ Routing.tallies (kept (sorted os)), t.reason? = none := by
    intro t mem
    obtain ⟨o, -, mem⟩ := List.mem_flatMap.mp mem
    obtain ⟨surface, -, rfl⟩ := List.mem_map.mp mem
    rfl
  have quiet : ∀ t ∈ rest, t.reason? = none := fun t mem =>
    Tally.reason?_of_isOfBinding (isOfBinding_of_bindSurfaces surfaces t mem)
  have loaded : (Tally.loaded os.length).reason? = none := rfl
  rw [Statistics.countOf_ofTallies, List.countP_append, List.countP_append, List.countP_cons,
    countP_excludedTallies, countP_eq_zero_of_quiet routed, countP_eq_zero_of_quiet quiet, loaded]
  exact (sorted_perm os).countP_eq _

end Generated

end OpBindings
