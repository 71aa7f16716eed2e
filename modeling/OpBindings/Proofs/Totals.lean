/-
OpBindings.Proofs.Totals — the statistics as totals.

Statistics grow by one tally at a time. A tally adds a weight to each count of
the statistics, whatever was counted before; so the count of a whole run is the
total of the weights of its tallies (`Statistics.total_ofTallies`). Most
weights are one or nothing, and the count is then the number of the tallies of
some kind (`Statistics.countP_ofTallies`).
-/
import Mathlib.Algebra.BigOperators.Group.List.Basic
import Mathlib.Data.Nat.Cast.Basic
import OpBindings.Proofs.Reasons

namespace OpBindings

/-- The records that a tally counts as read. -/
def Tally.records : Tally → Nat
  | .loaded count => count
  | _ => 0

/-- What a tally counts for a name on the surface, where a name with `n` families
counts for `weigh n`. -/
def Tally.weightOn (surface : Surface) (weigh : Nat → Nat) : Tally → Nat
  | .named other families => if other = surface then weigh families else 0
  | _ => 0

namespace Statistics

/-- **A count is the total of its weights.** -/
theorem total_ofTallies (value : Statistics → Nat) (weight : Tally → Nat) (start : value {} = 0)
    (step : ∀ s t, value (s.add t) = value s + weight t) (ts : List Tally) :
    value (ofTallies ts) = (ts.map weight).sum := by
  have total : ∀ s : Statistics, value (ts.foldl add s) = value s + (ts.map weight).sum := by
    induction ts with
    | nil => simp
    | cons t ts ih =>
      intro s
      rw [List.foldl_cons, ih, step, List.map_cons, List.sum_cons, Nat.add_assoc]
  rw [ofTallies, total, start, Nat.zero_add]

/-- A count to which the tallies of some kind add one. -/
theorem countP_ofTallies (value : Statistics → Nat) (kind : Tally → Bool) (start : value {} = 0)
    (step : ∀ s t, value (s.add t) = value s + if kind t then 1 else 0) (ts : List Tally) :
    value (ofTallies ts) = ts.countP kind := by
  rw [total_ofTallies value _ start step]
  induction ts with
  | nil => rfl
  | cons t ts ih => rw [List.map_cons, List.sum_cons, List.countP_cons, ih, Nat.add_comm]

/-! ## The counts of a run -/

theorem loaded_ofTallies (ts : List Tally) :
    (ofTallies ts).loaded = (ts.map Tally.records).sum := by
  refine total_ofTallies loaded _ rfl (fun s t => ?_) ts
  cases t <;> rfl

theorem filtered_ofTallies (ts : List Tally) :
    (ofTallies ts).filtered = ts.countP (·.reason?.isSome) := by
  refine countP_ofTallies filtered _ rfl (fun s t => ?_) ts
  cases t <;> rfl

/-- The reasons together count what was left out. -/
theorem sum_reasons_ofTallies (ts : List Tally) :
    ((ofTallies ts).reasons.map (·.2)).sum = ts.countP (·.reason?.isSome) := by
  have one : ∀ (reason : String) (reasons : List (String × Nat)),
      ((countReason reason reasons).map (·.2)).sum = (reasons.map (·.2)).sum + 1 := by
    intro reason reasons
    induction reasons with
    | nil => rfl
    | cons entry rest ih =>
      rw [countReason]
      split
      · simp only [List.map_cons, List.sum_cons]
        omega
      · split
        · simp only [List.map_cons, List.sum_cons]
          omega
        · simp only [List.map_cons, List.sum_cons, ih]
          omega
  refine countP_ofTallies (fun s => (s.reasons.map (·.2)).sum) _ rfl (fun s t => ?_) ts
  cases t with
  | filtered reason => exact one reason s.reasons
  | _ => rfl

theorem splitFamilies_ofTallies (ts : List Tally) :
    (ofTallies ts).splitFamilies = ts.count .split := by
  refine countP_ofTallies splitFamilies _ rfl (fun s t => ?_) ts
  cases t <;> rfl

theorem loneWriters_ofTallies (ts : List Tally) :
    (ofTallies ts).loneWriters = ts.count .loneWriter := by
  refine countP_ofTallies loneWriters _ rfl (fun s t => ?_) ts
  cases t <;> rfl

theorem gatheredOptions_ofTallies (ts : List Tally) :
    (ofTallies ts).gatheredOptions = ts.count .gatheredOptions := by
  refine countP_ofTallies gatheredOptions _ rfl (fun s t => ?_) ts
  cases t <;> rfl

/-! ## The counts of a surface -/

/-- The counts of a surface; one on which nothing happened has counted nothing. -/
def countsOf (s : Statistics) (surface : Surface) : SurfaceCounts := (s.surfaces surface).getD {}

theorem countsOf_onSurface (s : Statistics) (other surface : Surface)
    (change : SurfaceCounts → SurfaceCounts) : (s.onSurface other change).countsOf surface =
      if other = surface then change (s.countsOf surface) else s.countsOf surface := by
  by_cases same : other = surface
  · subst same
    simp [countsOf, onSurface]
  · simp [countsOf, onSurface, same, Ne.symm same]

theorem functions_ofTallies (surface : Surface) (ts : List Tally) :
    ((ofTallies ts).countsOf surface).functions = ts.count (.routed surface) := by
  refine countP_ofTallies (fun s => (s.countsOf surface).functions) _ rfl (fun s t => ?_) ts
  cases t with
  | routed other =>
    rw [add, countsOf_onSurface]
    by_cases same : other = surface <;> simp [same]
  | named other families =>
    rw [add, countsOf_onSurface]
    split <;> rfl
  | _ => rfl

/-- The names of a surface, and their families. -/
theorem names_families_ofTallies (surface : Surface) (ts : List Tally) :
    ((ofTallies ts).countsOf surface).names = (ts.map (Tally.weightOn surface fun _ => 1)).sum ∧
      ((ofTallies ts).countsOf surface).families = (ts.map (Tally.weightOn surface id)).sum := by
  have one : ∀ (value : SurfaceCounts → Nat) (weigh : Nat → Nat), value {} = 0 →
      (∀ c : SurfaceCounts, value { c with functions := c.functions + 1 } = value c) →
      (∀ (c : SurfaceCounts) n, value { c with names := c.names + 1, families := c.families + n } =
        value c + weigh n) →
      value ((ofTallies ts).countsOf surface) = (ts.map (Tally.weightOn surface weigh)).sum := by
    intro value weigh start routed named
    refine total_ofTallies (fun s => value (s.countsOf surface)) _ start (fun s t => ?_) ts
    cases t with
    | routed other =>
      rw [add, countsOf_onSurface]
      split
      · exact routed _
      · rfl
    | named other families =>
      rw [add, countsOf_onSurface]
      by_cases same : other = surface <;> simp [Tally.weightOn, same, named]
    | _ => rfl
  exact ⟨one (·.names) _ rfl (fun _ => rfl) fun _ _ => rfl,
    one (·.families) _ rfl (fun _ => rfl) fun _ _ => rfl⟩

end Statistics

end OpBindings
