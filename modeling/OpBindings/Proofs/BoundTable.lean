/-
OpBindings.Proofs.BoundTable — what a run that succeeded bound.

A run binds each surface by base name: `mem_byBaseName` says which names there
are and which operators stand under each. `BoundSurface.IsBound` is all that
later statements need to know of a surface: its names in ascending order, and
for each name the families that its binding was made from. Every surface of a
run that succeeded is bound so (`Generated.bound_of_ofTable`).
-/
import OpBindings.Proofs.Ascending
import OpBindings.Proofs.Noting
import OpBindings.Proofs.TableOrder

namespace OpBindings

/-! ## By base name -/

theorem byBaseName_cons (o : Operator) (os : List Operator) : byBaseName (o :: os) =
    upsert o.baseName (fun members => o :: members.getD []) (byBaseName os) :=
  addNamed_eq o _

theorem ascending_byBaseName (os : List Operator) : Ascending (byBaseName os) := by
  induction os with
  | nil => exact .nil
  | cons o os ih => exact byBaseName_cons o os ▸ ascending_upsert ih

/-- Under a name stand the operators of that base name, in their order. -/
theorem lookup_byBaseName (os : List Operator) (name : String) :
    (byBaseName os).lookup name =
      if ∃ o ∈ os, o.baseName = name then some (os.filter (·.baseName == name)) else none := by
  induction os with
  | nil => rfl
  | cons o os ih =>
    rw [byBaseName_cons, lookup_upsert (ascending_byBaseName os)]
    by_cases same : name = o.baseName
    · subst same
      have known : ((byBaseName os).lookup o.baseName).getD [] =
          os.filter (·.baseName == o.baseName) := by
        rw [ih]
        split
        · rfl
        · rename_i none
          refine (List.filter_eq_nil_iff.mpr fun p mem same => ?_).symm
          exact none ⟨p, mem, beq_iff_eq.mp same⟩
      simp [known]
    · have differ : (o.baseName == name) = false := beq_eq_false_iff_ne.mpr (Ne.symm same)
      simp [ih, same, Ne.symm same, differ]

theorem mem_byBaseName {os : List Operator} {name : String} {members : List Operator} :
    (name, members) ∈ byBaseName os ↔
      (∃ o ∈ os, o.baseName = name) ∧ members = os.filter (·.baseName == name) := by
  rw [mem_iff_lookup (ascending_byBaseName os), lookup_byBaseName]
  split
  · rename_i some
    exact ⟨fun found => ⟨some, (Option.some.inj found).symm⟩, fun h => h.2 ▸ rfl⟩
  · rename_i none
    exact ⟨nofun, fun h => absurd h.1 none⟩

/-! ## A surface -/

/-- The operator is not left out and goes to the surface. -/
def Operator.GoesTo (o : Operator) (surface : Surface) : Prop :=
  o.exclusion? = none ∧ surface ∈ o.routes

instance (o : Operator) (surface : Surface) : Decidable (o.GoesTo surface) :=
  inferInstanceAs (Decidable (_ ∧ _))

/-- The operators of one base name that go to a surface, in their order. -/
def namesakes (os : List Operator) (surface : Surface) (name : String) : List Operator :=
  os.filter fun o => decide (o.GoesTo surface) && o.baseName == name

theorem mem_namesakes {os : List Operator} {surface : Surface} {name : String} {o : Operator} :
    o ∈ namesakes os surface name ↔ o ∈ os ∧ o.GoesTo surface ∧ o.baseName = name := by
  simp [namesakes]

/-- The operators that routing sends to a surface. -/
theorem on_whole_kept (os : List Operator) (surface : Surface) :
    (Routing.whole (kept os)).on surface = os.filter fun o => decide (o.GoesTo surface) := by
  rw [Routing.on_whole, kept, List.filter_filter]
  refine List.filter_congr fun o _ => Bool.eq_iff_iff.mpr ?_
  rw [decide_eq_true_iff]
  simp [Operator.GoesTo, and_comm]

theorem filter_on_whole_kept (os : List Operator) (surface : Surface) (name : String) :
    ((Routing.whole (kept os)).on surface).filter (·.baseName == name) =
      namesakes os surface name := by
  rw [on_whole_kept, List.filter_filter, namesakes]
  exact List.filter_congr fun o _ => Bool.and_comm _ _

theorem mem_on_whole_kept {os : List Operator} {surface : Surface} {o : Operator} :
    o ∈ (Routing.whole (kept os)).on surface ↔ o ∈ os ∧ o.GoesTo surface := by
  rw [on_whole_kept, List.mem_filter, decide_eq_true_iff]

/-- What a run bound on a surface, and noted in its journal: the operators `os`
by base name, each name once and in ascending order. -/
structure BoundSurface.IsBound (b : BoundSurface) (policy : LoneWriter) (os : List Operator)
    (j : Journal) : Prop where
  ascending : (b.bindings.map (·.name)).Pairwise (· < ·)
  mem_names : ∀ name, name ∈ b.bindings.map (·.name) ↔
    ∃ o ∈ os, o.GoesTo b.surface ∧ o.baseName = name
  families : ∀ binding ∈ b.bindings, ∃ families,
    (OverloadFamily.ofOperators policy binding.name b.surface
      (namesakes os b.surface binding.name)).outcome = .ok families ∧
    (OverloadFamily.ofOperators policy binding.name b.surface
      (namesakes os b.surface binding.name)).NotedIn j ∧
    (Binding.ofFamilies binding.name b.surface families).outcome = .ok binding

/-- An operator that goes to the surface has a binding of its name there. -/
theorem BoundSurface.IsBound.exists_binding {b : BoundSurface} {policy : LoneWriter}
    {os : List Operator} {j : Journal} (h : b.IsBound policy os j) {o : Operator} (mem : o ∈ os)
    (goes : o.GoesTo b.surface) : ∃ binding ∈ b.bindings, binding.name = o.baseName ∧
      ∃ families, (OverloadFamily.ofOperators policy o.baseName b.surface
          (namesakes os b.surface o.baseName)).outcome = .ok families ∧
        (OverloadFamily.ofOperators policy o.baseName b.surface
          (namesakes os b.surface o.baseName)).NotedIn j ∧
        (Binding.ofFamilies o.baseName b.surface families).outcome = .ok binding := by
  obtain ⟨binding, hbinding, named⟩ := List.mem_map.mp
    ((h.mem_names o.baseName).mpr ⟨o, mem, goes, rfl⟩)
  exact ⟨binding, hbinding, named, named ▸ h.families binding hbinding⟩

theorem Binding.name_surface_of_ofFamilies {name : String} {surface : Surface}
    {families : List OverloadFamily} {binding : Binding}
    (made : (ofFamilies name surface families).outcome = .ok binding) :
    binding.name = name ∧ binding.surface = surface := by
  obtain ⟨arms, -, made⟩ := Run.outcome_bind.mp made
  obtain ⟨-, -, made⟩ := Run.outcome_bind.mp made
  cases made
  exact ⟨rfl, rfl⟩

namespace Generated

variable {policy : LoneWriter} {os : List Operator} {surface : Surface} {b : BoundSurface}
  {j : Journal}

/-- **A surface that was bound** holds a binding for each of its names. -/
theorem isBound_of_bindSurface
    (made : (bindSurface policy (Routing.whole (kept os)) surface).outcome = .ok b)
    (noted : (bindSurface policy (Routing.whole (kept os)) surface).NotedIn j) :
    b.surface = surface ∧ b.IsBound policy os j := by
  obtain ⟨bindings, byName, made⟩ := Run.outcome_bind.mp made
  have notedNames := (Run.notedIn_bind byName noted).1
  obtain ⟨-, -, made⟩ := Run.outcome_bind.mp made
  cases made
  have each := Run.outcome_each.mp byName
  have named : bindings.map (·.name) =
      (byBaseName ((Routing.whole (kept os)).on surface)).map (·.1) := by
    refine List.forall₂_eq_eq_eq ▸ List.forall₂_map_left_iff.mpr (List.forall₂_map_right_iff.mpr ?_)
    refine each.flip.imp fun binding entry made => ?_
    obtain ⟨families, -, made⟩ := Run.outcome_bind.mp made
    exact (Binding.name_surface_of_ofFamilies made).1
  refine ⟨rfl, ?_, ?_, ?_⟩
  · rw [named]
    exact List.pairwise_map.mpr (ascending_byBaseName _)
  · intro name
    rw [named, List.mem_map]
    constructor
    · rintro ⟨⟨name, members⟩, mem, rfl⟩
      obtain ⟨⟨o, mem, same⟩, -⟩ := mem_byBaseName.mp mem
      obtain ⟨mem, goes⟩ := mem_on_whole_kept.mp mem
      exact ⟨o, mem, goes, same⟩
    · rintro ⟨o, mem, goes, same⟩
      exact ⟨(name, _), mem_byBaseName.mpr ⟨⟨o, mem_on_whole_kept.mpr ⟨mem, goes⟩, same⟩, rfl⟩, rfl⟩
  · intro binding mem
    obtain ⟨⟨name, members⟩, entry, made⟩ := forall₂_mem_right each mem
    obtain ⟨-, rfl⟩ := mem_byBaseName.mp entry
    rw [filter_on_whole_kept] at made
    have noted := Run.notedIn_each byName notedNames _ entry
    rw [filter_on_whole_kept] at noted
    obtain ⟨families, gathered, made⟩ := Run.outcome_bind.mp made
    obtain ⟨rfl, -⟩ := Binding.name_surface_of_ofFamilies made
    exact ⟨families, gathered, (Run.notedIn_bind gathered noted).1, made⟩

/-! ## A run -/

theorem sorted_perm (os : List Operator) : (sorted os).Perm os := List.mergeSort_perm os _

theorem mem_sorted {os : List Operator} {o : Operator} : o ∈ sorted os ↔ o ∈ os :=
  (sorted_perm os).mem_iff

/-- **What a run that succeeded bound:** every chosen surface, in the order of
the choice, from the operators of the sorted table. -/
theorem bound_of_ofTable {settings : Settings} {rs : List Record} {g : Generated}
    (made : (ofTable settings (pure rs)).outcome = .ok g) :
    ∃ os, List.Forall₂ (fun r o => Operator.ofRecord r = .ok o) rs os ∧
      (∀ o ∈ os, o.exclusion? = none → o.IsRouted) ∧
      List.Forall₂ (fun surface b => b.surface = surface ∧ b.IsBound settings.loneWriter
        (sorted os) (ofTable settings (pure rs)).journal) settings.surfaces g.surfaces ∧
      g.units = g.surfaces.map (·.unit settings) := by
  obtain ⟨ts, bound, bindings, rfl⟩ := ofTable_eq_ok.mp made
  obtain ⟨os, rest, read, known, surfaces, -⟩ := makes_boundSurfaces.mp bindings
  have load : (Operator.load rs).outcome = .ok (sorted os) :=
    Run.outcome_bind.mpr ⟨os, Operator.ofRecords_eq_ok.mpr read, rfl⟩
  have noted := (Run.notedIn_bind bindings.1 (Run.notedIn_self (ofTable settings (pure rs)))).1
  have noted := (Run.notedIn_bind load (by rwa [boundSurfaces, pure_bind] at noted)).2
  have noted := (Run.notedIn_bind (Run.outcome_tally _) noted).2
  have noted := (Run.notedIn_bind (makes_inScope _).1 noted).2
  have noted := (Run.notedIn_bind (Routing.makes_ofOperators.mpr ⟨known, rfl, rfl⟩).1 noted).2
  refine ⟨os, read, ?_, ?_, rfl⟩
  · intro o mem inScope
    exact known o (List.mem_filter.mpr ⟨mem_sorted.mpr mem, Option.isNone_iff_eq_none.mpr inScope⟩)
  · have each := Run.outcome_each.mp surfaces.1
    have all := Run.notedIn_each surfaces.1 noted
    refine List.forall₂_iff_get.mpr ⟨each.length_eq, fun i hs hb => ?_⟩
    exact isBound_of_bindSurface (each.get hs hb) (all _ (List.get_mem _ ⟨i, hs⟩))

/-- A table is read in one way. -/
theorem read_unique {rs : List Record} {os os' : List Operator}
    (read : List.Forall₂ (fun r o => Operator.ofRecord r = .ok o) rs os)
    (read' : List.Forall₂ (fun r o => Operator.ofRecord r = .ok o) rs os') : os = os' := by
  have made := (@Operator.ofRecords_eq_ok 0 rs os).mpr read
  rw [Operator.ofRecords_eq_ok.mpr read'] at made
  cases made
  rfl

/-- A table in order makes what its surfaces make. -/
theorem exists_ofTable (settings : Settings) {rs : List Record} {os : List Operator}
    {bound : List BoundSurface}
    (read : List.Forall₂ (fun r o => Operator.ofRecord r = .ok o) rs os)
    (inOrder : os.Pairwise fun a b => a.precedes b = true) (known : ∀ o ∈ kept os, o.IsRouted)
    (surfaces : (Run.each (bindSurface settings.loneWriter (Routing.whole (kept os)))
      settings.surfaces).outcome = .ok bound) :
    ∃ g, (ofTable settings (pure rs)).outcome = .ok g ∧ g.surfaces = bound ∧
      g.units = bound.map (·.unit settings) := by
  have asRead : sorted os = os := List.mergeSort_of_pairwise inOrder
  obtain ⟨rest, counted⟩ := Run.exists_makes_iff.mp surfaces
  have made := makes_boundSurfaces.mpr
    ⟨os, rest, read, asRead.symm ▸ known, asRead.symm ▸ counted, rfl⟩
  exact ⟨_, ofTable_eq_ok.mpr ⟨_, bound, made, rfl⟩, rfl, rfl⟩

end Generated

end OpBindings
