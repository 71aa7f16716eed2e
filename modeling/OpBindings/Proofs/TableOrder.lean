/-
OpBindings.Proofs.TableOrder — the order of the table does not matter.

The operators are sorted by name and text. Records of one text may still
differ in their variants and their module, and such ties stay in the order of
the table; but they make operators that are the same when bare, and nothing
after routing looks at more. So two tables with the same records make the same
units. Only the journal of routing is in another order, and the statistics do
not depend on it.
-/
import Mathlib.Data.List.Perm.Basic
import OpBindings.Proofs.Counting
import OpBindings.Proofs.Interchange
import OpBindings.Proofs.Operator

namespace OpBindings

namespace Operator

variable {a b c : Operator}

/-! ## The order of a loaded table -/

theorem precedes_iff : a.precedes b = true ↔
    a.name < b.name ∨ (a.name = b.name ∧ a.text ≤ b.text) := by
  simp only [precedes, Bool.or_eq_true, Bool.and_eq_true, Bool.not_eq_true', decide_eq_true_eq,
    decide_eq_false_iff_not, beq_iff_eq, String.not_lt]

theorem precedes_trans (hab : a.precedes b = true) (hbc : b.precedes c = true) :
    a.precedes c = true := by
  rw [precedes_iff] at *
  rcases hab with hab | ⟨nameAB, hab⟩
  · rcases hbc with hbc | ⟨nameBC, -⟩
    · exact .inl (String.lt_trans hab hbc)
    · exact .inl (nameBC ▸ hab)
  · rcases hbc with hbc | ⟨nameBC, hbc⟩
    · exact .inl (nameAB ▸ hbc)
    · exact .inr ⟨nameAB.trans nameBC, String.le_trans hab hbc⟩

theorem precedes_total (a b : Operator) : (a.precedes b || b.precedes a) = true := by
  rw [Bool.or_eq_true, precedes_iff, precedes_iff]
  by_cases names : a.name = b.name
  · rcases String.le_total a.text b.text with texts | texts
    · exact .inl (.inr ⟨names, texts⟩)
    · exact .inr (.inr ⟨names.symm, texts⟩)
  · rcases String.le_total a.name b.name with below | above
    · exact .inl (.inl (String.not_le.mp fun above => names (String.le_antisymm below above)))
    · exact .inr (.inl (String.not_le.mp fun below => names (String.le_antisymm below above)))

/-- Operators in both orders have one text. -/
theorem text_eq_of_precedes (hab : a.precedes b = true) (hba : b.precedes a = true) :
    a.text = b.text := by
  rw [precedes_iff] at *
  rcases hab with hab | ⟨names, hab⟩
  · rcases hba with hba | ⟨names, -⟩
    · exact absurd hba (String.lt_asymm hab)
    · exact absurd (names ▸ hab) (String.lt_irrefl _)
  · rcases hba with hba | ⟨-, hba⟩
    · exact absurd (names ▸ hba) (String.lt_irrefl _)
    · exact String.le_antisymm hab hba

theorem pairwise_sorted (os : List Operator) :
    (os.mergeSort precedes).Pairwise (fun a b => a.precedes b = true) := by
  have trans : ∀ a b c : Operator, a.precedes b = true → b.precedes c = true →
      a.precedes c = true := fun _ _ _ => precedes_trans
  exact List.pairwise_mergeSort trans precedes_total os

/-! ## Ties -/

/-- The operator was made from a record. -/
def IsBuilt (o : Operator) : Prop := ∃ r, ofRecord r = .ok o

/-- Operators of one text are the same when bare. -/
theorem bare_eq_of_text_eq (builtA : a.IsBuilt) (builtB : b.IsBuilt) (same : a.text = b.text) :
    a.bare = b.bare := by
  obtain ⟨ra, ha⟩ := builtA
  obtain ⟨rb, hb⟩ := builtB
  obtain ⟨textA, da, callsA, -, parseA, rfl⟩ := ofRecord_eq_ok ha
  obtain ⟨textB, db, callsB, -, parseB, rfl⟩ := ofRecord_eq_ok hb
  obtain rfl : textA = textB := same
  rw [parseA] at parseB
  cases parseB
  rfl

/-- **Two sorted lists of the same operators** are the same when bare. -/
theorem map_bare_eq_of_perm {os os' : List Operator} (built : ∀ o ∈ os, o.IsBuilt)
    (perm : os.Perm os') (sorted : os.Pairwise (fun a b => a.precedes b = true))
    (sorted' : os'.Pairwise (fun a b => a.precedes b = true)) :
    os.map bare = os'.map bare := by
  have antisymm : ∀ x y, x ∈ os.map bare → y ∈ os'.map bare → x.precedes y = true →
      y.precedes x = true → x = y := by
    intro x y hx hy hxy hyx
    obtain ⟨a, ha, rfl⟩ := List.mem_map.mp hx
    obtain ⟨b, hb, rfl⟩ := List.mem_map.mp hy
    exact bare_eq_of_text_eq (built a ha) (built b (perm.mem_iff.mpr hb))
      (text_eq_of_precedes hxy hyx)
  have keeps : ∀ a b : Operator, a.precedes b = true → a.bare.precedes b.bare = true :=
    fun _ _ h => h
  exact List.Perm.eq_of_pairwise antisymm (sorted.map bare keeps) (sorted'.map bare keeps)
    (perm.map bare)

/-! ## Reading -/

theorem ofRecords_eq_ok {index : Nat} {rs : List Record} {os : List Operator} :
    ofRecords index rs = .ok os ↔ List.Forall₂ (fun r o => ofRecord r = .ok o) rs os := by
  induction rs generalizing index os with
  | nil => simp [ofRecords, eq_comm]
  | cons r rs ih =>
    simp only [ofRecords, cons_eq_ok, mapError_eq_ok, ih, List.forall₂_cons_left_iff]

end Operator

/-! ## Choosing -/

/-- What leaving out counts. -/
def excludedTallies (os : List Operator) : List Tally :=
  os.filterMap fun o => o.exclusion?.map fun reason => .filtered reason.reason

/-- The operators that are not left out. -/
def kept (os : List Operator) : List Operator := os.filter (·.exclusion?.isNone)

theorem makes_inScope (os : List Operator) :
    (inScope os).Makes (excludedTallies os) (kept os) := by
  induction os with
  | nil => exact Run.makes_pure.mpr ⟨rfl, rfl⟩
  | cons o os ih =>
    rw [inScope]
    cases h : o.exclusion? with
    | some reason =>
      have counted : excludedTallies (o :: os) = .filtered reason.reason :: excludedTallies os := by
        simp [excludedTallies, h]
      have rest : kept (o :: os) = kept os := by simp [kept, h]
      rw [counted, rest]
      exact Run.makes_note_bind.mpr (Run.makes_tally_bind.mpr ⟨_, ih, rfl⟩)
    | none =>
      have counted : excludedTallies (o :: os) = excludedTallies os := by simp [excludedTallies, h]
      have rest : kept (o :: os) = o :: kept os := by simp [kept, h]
      rw [counted, rest, ← List.append_nil (excludedTallies os)]
      exact Run.makes_bind.mpr ⟨_, _, _, ih, Run.makes_pure.mpr ⟨rfl, rfl⟩, rfl⟩

theorem excludedTallies_bare (os : List Operator) :
    excludedTallies (os.map Operator.bare) = excludedTallies os := by
  simp [excludedTallies, List.filterMap_map, Function.comp_def]

/-! ## Routing -/

namespace Operator

/-- The surfaces that the operator goes to, if its module is known. -/
def routes (o : Operator) : List Surface := o.surfaces.toOption.getD []

/-- The module of the operator is known. -/
def IsRouted (o : Operator) : Prop := o.surfaces = .ok o.routes

theorem isRouted_of_surfaces {o : Operator} {surfaces : List Surface}
    (h : o.surfaces = .ok surfaces) : o.IsRouted := by
  simp [IsRouted, routes, h, Except.toOption]

/-- An operator goes to a surface once. -/
theorem nodup_routes (o : Operator) : o.routes.Nodup := by
  unfold routes surfaces
  cases o.module? with
  | error f => exact List.nodup_nil
  | ok module =>
    cases module with
    | none =>
      obtain ⟨name, text, params, results, ⟨function, method⟩, moduleTag⟩ := o
      cases function <;> cases method <;> simp [bind, Except.bind, Except.toOption, callSurfaces]
    | some module => cases module <;> simp [bind, Except.bind, Except.toOption, ModuleTag.surface?]

end Operator

namespace Routing

/-- What routing counts. -/
def tallies (os : List Operator) : List Tally := os.flatMap fun o => o.routes.map .routed

/-- Where routing sends every operator. -/
def whole (os : List Operator) : Routing := os.flatMap fun o => o.routes.map (·, o)

theorem makes_place {o : Operator} (h : o.IsRouted) :
    (place o).Makes (o.routes.map .routed) (o.routes.map (·, o)) := by
  obtain ⟨module, hmodule, -⟩ := bind_eq_ok.mp h
  have quiet : (noteUnbound o module).Makes [] () := by
    unfold noteUnbound
    split
    · split <;> simp
    · simp
  have one : ∀ s ∈ o.routes,
      (do Run.tally (.routed s); pure (s, o) : Run (Surface × Operator)).Makes [.routed s] (s, o) := by
    intro s _
    exact Run.makes_tally_bind.mpr ⟨_, Run.makes_pure.mpr ⟨rfl, rfl⟩, rfl⟩
  have each := Run.makes_each one
  rw [← List.map_eq_flatMap] at each
  rw [place, hmodule, Run.makes_lift_bind]
  refine ⟨module, rfl, Run.makes_bind.mpr ⟨(), [], _, quiet, ?_, rfl⟩⟩
  exact Run.makes_lift_bind.mpr ⟨o.routes, h, each⟩

/-- An operator that was placed has a known module. -/
theorem isRouted_of_place {o : Operator} {r : Routing} (h : (place o).outcome = .ok r) :
    o.IsRouted := by
  obtain ⟨module, -, h⟩ := Run.outcome_bind.mp h
  obtain ⟨-, -, h⟩ := Run.outcome_bind.mp h
  obtain ⟨surfaces, hsurfaces, -⟩ := Run.outcome_bind.mp h
  exact Operator.isRouted_of_surfaces hsurfaces

/-- **Routing succeeds** when every module is known. -/
theorem makes_ofOperators {os : List Operator} {ts : List Tally} {r : Routing} :
    (ofOperators os).Makes ts r ↔
      (∀ o ∈ os, o.IsRouted) ∧ ts = tallies os ∧ r = whole os := by
  have routed : (∀ o ∈ os, o.IsRouted) → (ofOperators os).Makes (tallies os) (whole os) := by
    intro all
    have each := Run.makes_each fun o (mem : o ∈ os) => makes_place (all o mem)
    rw [tallies, ← List.append_nil (List.flatMap _ os)]
    exact Run.makes_bind.mpr ⟨_, _, _, each, Run.makes_pure.mpr ⟨List.flatMap_def.symm, rfl⟩, rfl⟩
  constructor
  · intro made
    have all : ∀ o ∈ os, o.IsRouted := by
      obtain ⟨placed, hplaced, -⟩ := Run.outcome_bind.mp made.1
      intro o mem
      obtain ⟨r, -, hr⟩ := forall₂_mem_left (Run.outcome_each.mp hplaced) mem
      exact isRouted_of_place hr
    obtain ⟨counted, value⟩ := made.unique (routed all)
    exact ⟨all, counted, value⟩
  · intro h
    obtain ⟨all, rfl, rfl⟩ := h
    exact routed all

theorem on_whole (os : List Operator) (surface : Surface) :
    (whole os).on surface = os.filter (·.routes.contains surface) := by
  have one : ∀ o : Operator, ((o.routes.map (·, o)).filter (·.1 == surface)).map (·.2) =
      if o.routes.contains surface then [o] else [] := by
    intro o
    rw [List.filter_map, List.map_map]
    have same : ((fun e : Surface × Operator => e.1 == surface) ∘ fun s => (s, o)) = (· == surface) :=
      rfl
    rw [same, List.filter_beq, o.nodup_routes.count, List.contains_eq_mem]
    by_cases mem : surface ∈ o.routes <;> simp [mem]
  induction os with
  | nil => rfl
  | cons o os ih =>
    simp only [whole, Routing.on, List.flatMap_cons, List.filter_append, List.map_append] at ih ⊢
    rw [ih, one, List.filter_cons]
    split <;> simp

end Routing

/-! ## Statistics -/

namespace Statistics

theorem onSurface_comm (s : Statistics) (a b : Surface) (change : SurfaceCounts → SurfaceCounts) :
    (s.onSurface a change).onSurface b change = (s.onSurface b change).onSurface a change := by
  by_cases same : a = b
  · rw [same]
  · simp only [onSurface, Statistics.mk.injEq, true_and, and_true]
    funext other
    simp only [if_neg (Ne.symm same), if_neg same]
    by_cases atA : other = a
    · rw [if_pos atA, if_neg (atA ▸ same), if_pos atA]
    · rw [if_neg atA, if_neg atA]

/-- The order in which operators are routed does not show in the statistics. -/
theorem ofTallies_eq_of_perm (before after : List Tally) {ts ts' : List Tally} (perm : ts.Perm ts')
    (routed : ∀ t ∈ ts, ∃ surface, t = .routed surface) :
    ofTallies (before ++ (ts ++ after)) = ofTallies (before ++ (ts' ++ after)) := by
  unfold ofTallies
  rw [List.foldl_append, List.foldl_append, List.foldl_append, List.foldl_append]
  congr 1
  refine perm.foldl_eq' ?_ _
  intro t ht t' ht' s
  obtain ⟨a, rfl⟩ := routed t ht
  obtain ⟨b, rfl⟩ := routed t' ht'
  exact onSurface_comm s a b _

end Statistics

/-! ## The run -/

namespace Generated

/-- The loaded table. -/
def sorted (os : List Operator) : List Operator := os.mergeSort Operator.precedes

theorem bindSurface_congr (policy : LoneWriter) {r r' : Routing} {surface : Surface}
    (h : (r.on surface).map Operator.bare = (r'.on surface).map Operator.bare) :
    bindSurface policy r surface = bindSurface policy r' surface := by
  unfold bindSurface
  rw [Binding.byName_eq_of_bare_eq policy surface h]

/-- **A run, stage by stage:** what it makes and what it counts. -/
theorem makes_boundSurfaces {settings : Settings} {rs : List Record} {ts : List Tally}
    {bound : List BoundSurface} :
    (boundSurfaces settings (pure rs)).Makes ts bound ↔
      ∃ os rest, List.Forall₂ (fun r o => Operator.ofRecord r = .ok o) rs os ∧
        (∀ o ∈ kept (sorted os), o.IsRouted) ∧
        (Run.each (bindSurface settings.loneWriter (Routing.whole (kept (sorted os))))
          settings.surfaces).Makes rest bound ∧
        ts = (.loaded os.length :: excludedTallies (sorted os)) ++
          (Routing.tallies (kept (sorted os)) ++ rest) := by
  have loaded : ∀ {os : List Operator} {ts : List Tally},
      (Operator.load rs).Makes ts os ↔ ∃ made, ts = [] ∧ os = sorted made ∧
        List.Forall₂ (fun r o => Operator.ofRecord r = .ok o) rs made := by
    intro os ts
    rw [Operator.load, Run.makes_lift_bind]
    constructor
    · intro h
      obtain ⟨made, hmade, h⟩ := h
      obtain ⟨value, counted⟩ := Run.makes_pure.mp (Run.makes_note_bind.mp h)
      exact ⟨made, counted, value.symm, Operator.ofRecords_eq_ok.mp hmade⟩
    · intro h
      obtain ⟨made, counted, value, hmade⟩ := h
      exact ⟨made, Operator.ofRecords_eq_ok.mpr hmade,
        Run.makes_note_bind.mpr (Run.makes_pure.mpr ⟨value.symm, counted⟩)⟩
  unfold boundSurfaces
  rw [pure_bind, Run.makes_bind]
  constructor
  · intro h
    obtain ⟨os, t₁, t₂, load, made₂, rfl⟩ := h
    obtain ⟨os, rfl, rfl, read⟩ := loaded.mp load
    obtain ⟨t₃, made₃, rfl⟩ := Run.makes_tally_bind.mp made₂
    obtain ⟨scope, t₄, t₅, chosen, made₅, rfl⟩ := Run.makes_bind.mp made₃
    obtain ⟨rfl, rfl⟩ := chosen.unique (makes_inScope _)
    obtain ⟨routing, t₆, rest, routed, made, rfl⟩ := Run.makes_bind.mp made₅
    obtain ⟨known, rfl, rfl⟩ := Routing.makes_ofOperators.mp routed
    exact ⟨os, rest, read, known, made, by simp [sorted]⟩
  · intro h
    obtain ⟨os, rest, read, known, made, rfl⟩ := h
    refine ⟨sorted os, [], _, loaded.mpr ⟨os, rfl, rfl, read⟩, ?_, rfl⟩
    refine Run.makes_tally_bind.mpr
      ⟨excludedTallies (sorted os) ++ (Routing.tallies (kept (sorted os)) ++ rest), ?_, ?_⟩
    · refine Run.makes_bind.mpr ⟨_, _, _, makes_inScope _, ?_, rfl⟩
      exact Run.makes_bind.mpr
        ⟨_, _, _, Routing.makes_ofOperators.mpr ⟨known, rfl, rfl⟩, made, rfl⟩
    · simp [sorted]

/-- What a run over a table makes is read off its stages. -/
theorem ofTable_eq_ok {settings : Settings} {rs : List Record} {g : Generated} :
    (ofTable settings (pure rs)).outcome = .ok g ↔
      ∃ ts bound, (boundSurfaces settings (pure rs)).Makes ts bound ∧
        g = ⟨bound, bound.map (·.unit settings), .ofTallies ts⟩ := by
  unfold ofTable
  simp only [Run.outcome_bind]
  constructor
  · intro h
    obtain ⟨bound, made, _, -, h⟩ := h
    cases h
    exact ⟨_, bound, ⟨made, rfl⟩, rfl⟩
  · intro h
    obtain ⟨ts, bound, ⟨made, rfl⟩, rfl⟩ := h
    exact ⟨bound, made, (), rfl, rfl⟩

/-- One direction of `ofTable_perm`. -/
theorem ofTable_of_perm {settings : Settings} {rs rs' : List Record} (perm : rs.Perm rs')
    {g : Generated} (h : (ofTable settings (pure rs)).outcome = .ok g) :
    (ofTable settings (pure rs')).outcome = .ok g := by
  obtain ⟨ts, bound, made, rfl⟩ := ofTable_eq_ok.mp h
  obtain ⟨os, rest, read, known, bindings, rfl⟩ := makes_boundSurfaces.mp made
  obtain ⟨os', read', permOs⟩ := List.perm_comp_forall₂ perm.symm read
  have permSorted : (sorted os).Perm (sorted os') :=
    (List.mergeSort_perm os _).trans (permOs.symm.trans (List.mergeSort_perm os' _).symm)
  have built : ∀ o ∈ sorted os, o.IsBuilt := by
    intro o mem
    obtain ⟨r, -, hr⟩ := forall₂_mem_right read ((List.mergeSort_perm os _).mem_iff.mp mem)
    exact ⟨r, hr⟩
  have permKept : (kept (sorted os)).Perm (kept (sorted os')) := permSorted.filter _
  -- ties stand in another order, which the bare operators do not show
  have sameSorted : (sorted os).map Operator.bare = (sorted os').map Operator.bare :=
    Operator.map_bare_eq_of_perm built permSorted (Operator.pairwise_sorted os)
      (Operator.pairwise_sorted os')
  have sameOn : ∀ surface, ((Routing.whole (kept (sorted os))).on surface).map Operator.bare =
      ((Routing.whole (kept (sorted os'))).on surface).map Operator.bare := by
    intro surface
    rw [Routing.on_whole, Routing.on_whole]
    refine Operator.map_bare_eq_of_perm ?_ (permKept.filter _) ?_ ?_
    · intro o mem
      exact built o (List.mem_of_mem_filter (List.mem_of_mem_filter mem))
    · exact ((Operator.pairwise_sorted os).filter _).filter _
    · exact ((Operator.pairwise_sorted os').filter _).filter _
  have sameBound : bindSurface settings.loneWriter (Routing.whole (kept (sorted os))) =
      bindSurface settings.loneWriter (Routing.whole (kept (sorted os'))) :=
    funext fun surface => bindSurface_congr settings.loneWriter (sameOn surface)
  have sameExcluded : excludedTallies (sorted os) = excludedTallies (sorted os') := by
    rw [← excludedTallies_bare, sameSorted, excludedTallies_bare]
  -- the counts of routing are only rearranged: they keep what `bare` drops
  have permRouted : (Routing.tallies (kept (sorted os))).Perm
      (Routing.tallies (kept (sorted os'))) := permKept.flatMap_right _
  refine ofTable_eq_ok.mpr ⟨_, bound, makes_boundSurfaces.mpr
    ⟨os', rest, read', fun o mem => known o (permKept.mem_iff.mpr mem), sameBound ▸ bindings, rfl⟩, ?_⟩
  rw [Statistics.ofTallies_eq_of_perm _ rest permRouted, sameExcluded, permOs.length_eq]
  intro t mem
  obtain ⟨o, -, mem⟩ := List.mem_flatMap.mp mem
  obtain ⟨surface, -, rfl⟩ := List.mem_map.mp mem
  exact ⟨surface, rfl⟩

/-- **The output does not depend on the order of the table.** Two tables with
the same records succeed together, and then make the same units with the same
statistics, also where records share a name or a text and differ in their
variants or their module. -/
theorem ofTable_perm (settings : Settings) {rs rs' : List Record} (perm : rs.Perm rs')
    (g : Generated) :
    (ofTable settings (pure rs)).outcome = .ok g ↔
      (ofTable settings (pure rs')).outcome = .ok g :=
  ⟨ofTable_of_perm perm, ofTable_of_perm perm.symm⟩

/-- Two records of one text: a function and a method in one, a module in the other. -/
def absRecord : Record where
  declaration := "abs(Tensor self) -> Tensor"
  variants := some (.oneText "function, method")

@[inherit_doc absRecord]
def absModuleRecord : Record where
  declaration := "abs(Tensor self) -> Tensor"
  moduleTag := some "nn"

/-- The operator of the first record. -/
def absOperator : Operator where
  name := "abs"
  text := "abs(Tensor self) -> Tensor"
  params := [⟨"self", "Tensor", false, none, none, false, none⟩]
  results := [⟨none, "Tensor", none⟩]
  calls := { function := true, method := true }
  moduleTag := none

/-- The operator of the second record. -/
def absModuleOperator : Operator :=
  { absOperator with calls := { function := true }, moduleTag := some "nn" }

theorem ofTable_abs : [absRecord, absModuleRecord].Perm [absModuleRecord, absRecord] ∧
    ∃ g, (ofTable {} (pure [absRecord, absModuleRecord])).outcome = .ok g ∧
      (ofTable {} (pure [absModuleRecord, absRecord])).outcome = .ok g := by
  have perm : [absRecord, absModuleRecord].Perm [absModuleRecord, absRecord] := .swap _ _ _
  have read : List.Forall₂ (fun r o => Operator.ofRecord r = .ok o) [absRecord, absModuleRecord]
      [absOperator, absModuleOperator] := .cons (by rfl) (.cons (by rfl) .nil)
  have scope : kept (sorted [absOperator, absModuleOperator]) = [absOperator, absModuleOperator] := by
    have inOrder : [absOperator, absModuleOperator].Pairwise fun a b => a.precedes b = true := by
      decide
    rw [sorted, List.mergeSort_of_pairwise inOrder]
    rfl
  have known : ∀ o ∈ kept (sorted [absOperator, absModuleOperator]), o.IsRouted := by
    rw [scope]
    intro o mem
    rcases List.mem_cons.mp mem with rfl | mem
    · rfl
    · rw [List.mem_singleton.mp mem]
      rfl
  obtain ⟨bound, bindings⟩ : ∃ bound, (Run.each (bindSurface .refuse
      (Routing.whole (kept (sorted [absOperator, absModuleOperator])))) Surface.all).outcome =
        .ok bound := by
    rw [scope]
    exact ⟨_, by rfl⟩
  obtain ⟨rest, counted⟩ := Run.exists_makes_iff.mp bindings
  obtain ⟨ts, made⟩ : ∃ ts, (boundSurfaces {} (pure [absRecord, absModuleRecord])).Makes ts bound :=
    ⟨_, makes_boundSurfaces.mpr ⟨_, rest, read, known, counted, rfl⟩⟩
  have first := ofTable_eq_ok.mpr ⟨ts, bound, made, rfl⟩
  exact ⟨perm, _, first, (ofTable_perm {} perm _).mp first⟩

end Generated

end OpBindings
