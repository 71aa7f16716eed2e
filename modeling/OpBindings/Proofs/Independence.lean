/-
OpBindings.Proofs.Independence — what is bound under a name depends on its own records only.

A run sorts, leaves out, routes and gathers before it binds a name. None of
these lets another name, another surface or a setting through: two runs that
succeed, over any two tables, bind a name on a surface alike where the tables
have the same records of that name for that surface
(`functions_congr_of_ofTable`). The policy for lone writers only decides whether
a run succeeds (`OverloadFamily.eq_of_ofOperators`), and the order of the
records does not show in what is bound, as in `Proofs.TableOrder`.
-/
import OpBindings.Proofs.BoundTable
import OpBindings.Proofs.OverloadFamily

namespace OpBindings

/-! ## One name -/

/-- **The policy for lone writers** does not change the families. -/
theorem OverloadFamily.eq_of_ofOperators {policy policy' : LoneWriter} {name : String}
    {surface : Surface} {os : List Operator} {families families' : List OverloadFamily}
    (made : (ofOperators policy name surface os).outcome = .ok families)
    (made' : (ofOperators policy' name surface os).outcome = .ok families') :
    families = families' := by
  obtain ⟨gathered, hgathered, rfl⟩ := eq_prioritised_of_ofOperators made
  obtain ⟨gathered', hgathered', rfl⟩ := eq_prioritised_of_ofOperators made'
  rw [hgathered] at hgathered'
  cases hgathered'
  rfl

/-- Lists that are the same when bare have one binding, whatever the policy. -/
theorem Binding.eq_of_ofOperators {policy policy' : LoneWriter} {name : String} {surface : Surface}
    {os os' : List Operator} {binding binding' : Binding}
    (same : os.map Operator.bare = os'.map Operator.bare)
    (made : (ofOperators policy name surface os).outcome = .ok binding)
    (made' : (ofOperators policy' name surface os').outcome = .ok binding') :
    binding = binding' := by
  rw [← ofOperators_bare, same, ofOperators_bare] at made
  obtain ⟨families, gathered, made⟩ := Run.outcome_bind.mp made
  obtain ⟨families', gathered', made'⟩ := Run.outcome_bind.mp made'
  obtain rfl := OverloadFamily.eq_of_ofOperators gathered gathered'
  rw [made] at made'
  cases made'
  rfl

/-! ## One surface -/

namespace BoundSurface

/-- The binding of a name. -/
def binding? (b : BoundSurface) (name : String) : Option Binding :=
  b.bindings.find? (·.name == name)

/-- The functions that the unit of the surface defines. -/
def functions (b : BoundSurface) : List BoundFunction := b.bindings.map (·.function)

/-- The function of a name: its symbol and its code. -/
def function? (b : BoundSurface) (name : String) : Option BoundFunction :=
  b.functions.find? (·.name == name)

theorem function?_eq (b : BoundSurface) (name : String) :
    b.function? name = (b.binding? name).map (·.function) := by
  rw [function?, functions, List.find?_map]
  rfl

namespace IsBound

variable {b b' : BoundSurface} {policy policy' : LoneWriter} {os os' : List Operator}
  {j j' : Journal} {name : String} {binding : Binding}

/-- Each binding is found by its name. -/
theorem binding?_eq_some_iff (h : b.IsBound policy os j) :
    b.binding? name = some binding ↔ binding ∈ b.bindings ∧ binding.name = name := by
  constructor
  · intro found
    exact ⟨List.mem_of_find?_eq_some found, by simpa using List.find?_some found⟩
  · rintro ⟨mem, rfl⟩
    have names : (b.bindings.map (·.name)).Nodup := h.ascending.imp String.ne_of_lt
    cases found : b.binding? binding.name with
    | none =>
      have other := List.find?_eq_none.mp found binding mem
      exact absurd (beq_self_eq_true binding.name) other
    | some other =>
      have same : other.name = binding.name := by simpa using List.find?_some found
      rw [List.inj_on_of_nodup_map names (List.mem_of_find?_eq_some found) mem same]

/-- **A name is bound** where some operator has it, and from the operators that have it. -/
theorem binding?_eq_some (h : b.IsBound policy os j) (found : b.binding? name = some binding) :
    namesakes os b.surface name ≠ [] ∧
      (Binding.ofOperators policy name b.surface (namesakes os b.surface name)).outcome =
        .ok binding := by
  obtain ⟨mem, rfl⟩ := h.binding?_eq_some_iff.mp found
  obtain ⟨families, gathered, -, made⟩ := h.families binding mem
  obtain ⟨o, ho, goes, named⟩ := (h.mem_names _).mp (List.mem_map_of_mem mem)
  refine ⟨List.ne_nil_of_mem (mem_namesakes.mpr ⟨ho, goes, named⟩), ?_⟩
  exact Run.outcome_bind.mpr ⟨families, gathered, made⟩

theorem isSome_binding?_iff (h : b.IsBound policy os j) :
    (b.binding? name).isSome = true ↔ namesakes os b.surface name ≠ [] := by
  constructor
  · intro some
    obtain ⟨binding, found⟩ := Option.isSome_iff_exists.mp some
    exact (h.binding?_eq_some found).1
  · intro some
    obtain ⟨o, mem⟩ := List.exists_mem_of_ne_nil _ some
    obtain ⟨ho, goes, named⟩ := mem_namesakes.mp mem
    obtain ⟨binding, hbinding, same, -⟩ := h.exists_binding ho goes
    rw [h.binding?_eq_some_iff.mpr ⟨hbinding, same.trans named⟩]
    rfl

/-- What one surface binds under a name, the other does. -/
theorem binding?_of_bare_eq (h : b.IsBound policy os j) (h' : b'.IsBound policy' os' j')
    (surfaces : b.surface = b'.surface)
    (same : (namesakes os b.surface name).map Operator.bare =
      (namesakes os' b.surface name).map Operator.bare) (found : b.binding? name = some binding) :
    b'.binding? name = some binding := by
  obtain ⟨some, made⟩ := h.binding?_eq_some found
  rw [surfaces] at same some made
  have some' : namesakes os' b'.surface name ≠ [] := by
    intro none
    rw [none, List.map_nil, List.map_eq_nil_iff] at same
    exact some same
  obtain ⟨binding', found'⟩ := Option.isSome_iff_exists.mp (h'.isSome_binding?_iff.mpr some')
  rw [found', Binding.eq_of_ofOperators same made (h'.binding?_eq_some found').2]

/-- **Two bound surfaces** bind a name alike where its operators are the same when bare. -/
theorem binding?_congr (h : b.IsBound policy os j) (h' : b'.IsBound policy' os' j')
    (surfaces : b.surface = b'.surface)
    (same : (namesakes os b.surface name).map Operator.bare =
      (namesakes os' b.surface name).map Operator.bare) : b.binding? name = b'.binding? name := by
  refine Option.ext fun binding => ⟨h.binding?_of_bare_eq h' surfaces same, ?_⟩
  exact h'.binding?_of_bare_eq h surfaces.symm (surfaces ▸ same.symm)

/-- Two bound surfaces that bind every name alike have the same bindings. -/
theorem bindings_congr (h : b.IsBound policy os j) (h' : b'.IsBound policy' os' j')
    (same : ∀ name, b.binding? name = b'.binding? name) : b.bindings = b'.bindings := by
  have names : (b.bindings.map (·.name)).Nodup := h.ascending.imp String.ne_of_lt
  have names' : (b'.bindings.map (·.name)).Nodup := h'.ascending.imp String.ne_of_lt
  have members : ∀ binding, binding ∈ b.bindings ↔ binding ∈ b'.bindings := by
    intro binding
    have here : b.binding? binding.name = some binding ↔ _ := h.binding?_eq_some_iff
    have there : b'.binding? binding.name = some binding ↔ _ := h'.binding?_eq_some_iff
    rw [same, there] at here
    simpa using here.symm
  have perm := (List.perm_ext_iff_of_nodup names.of_map names'.of_map).mpr members
  refine perm.eq_of_pairwise ?_ (List.pairwise_map.mp h.ascending)
    (List.pairwise_map.mp h'.ascending)
  intro x y _ _ below above
  exact absurd below (String.lt_asymm above)

end IsBound

end BoundSurface

/-! ## Two tables -/

namespace Record

/-- The record makes an operator, and one of which `p` is true. -/
def yields (p : Operator → Bool) (r : Record) : Bool :=
  match Operator.ofRecord r with
  | .ok o => p o
  | .error _ => false

/-- The record is not left out. -/
def isKept (r : Record) : Bool := r.yields (·.exclusion?.isNone)

/-- The record is not left out, goes to the surface and has the base name. -/
def isNamesake (surface : Surface) (name : String) (r : Record) : Bool :=
  r.yields fun o => decide (o.GoesTo surface) && o.baseName == name

/-- Tables with the same records that are not left out have the same records of each name. -/
theorem perm_namesakes_of_perm_kept {rs rs' : List Record}
    (perm : (rs.filter isKept).Perm (rs'.filter isKept)) (surface : Surface) (name : String) :
    (rs.filter (isNamesake surface name)).Perm (rs'.filter (isNamesake surface name)) := by
  have kept : ∀ r : Record,
      (r.isNamesake surface name && r.isKept) = r.isNamesake surface name := by
    intro r
    rw [Bool.and_eq_left_iff_imp, isNamesake, isKept, yields, yields]
    cases Operator.ofRecord r with
    | error _ => exact id
    | ok o =>
      simp only [Bool.and_eq_true, decide_eq_true_iff, Option.isNone_iff_eq_none]
      exact fun h => h.1.1
  have parts := perm.filter (isNamesake surface name)
  simpa only [List.filter_filter, kept] using parts

end Record

namespace Generated

variable {rs rs' : List Record} {os os' : List Operator}

/-- The records of some kind make the operators of that kind. -/
theorem forall₂_filter (read : List.Forall₂ (fun r o => Operator.ofRecord r = .ok o) rs os)
    (p : Operator → Bool) :
    List.Forall₂ (fun r o => Operator.ofRecord r = .ok o) (rs.filter (·.yields p))
      (os.filter p) := by
  refine List.rel_filter (fun r o made => ?_) read
  simp only [Record.yields, made]

/-- **Sorted tables with the same records of some kind** have the same operators
of that kind, when bare, in the same order. -/
theorem map_bare_filter_sorted
    (read : List.Forall₂ (fun r o => Operator.ofRecord r = .ok o) rs os)
    (read' : List.Forall₂ (fun r o => Operator.ofRecord r = .ok o) rs' os') {p : Operator → Bool}
    (perm : (rs.filter (·.yields p)).Perm (rs'.filter (·.yields p))) :
    ((sorted os).filter p).map Operator.bare = ((sorted os').filter p).map Operator.bare := by
  obtain ⟨os'', read'', permRead⟩ := List.perm_comp_forall₂ perm (forall₂_filter read' p)
  obtain rfl := read_unique (forall₂_filter read p) read''
  have permSorted : ((sorted os).filter p).Perm ((sorted os').filter p) :=
    ((sorted_perm os).filter p).trans (permRead.trans ((sorted_perm os').filter p).symm)
  refine Operator.map_bare_eq_of_perm ?_ permSorted ((Operator.pairwise_sorted os).filter p)
    ((Operator.pairwise_sorted os').filter p)
  intro o mem
  obtain ⟨r, -, made⟩ := forall₂_mem_right read (mem_sorted.mp (List.mem_of_mem_filter mem))
  exact ⟨r, made⟩

/-- A name has operators on a surface where it has records for it. -/
theorem namesakes_sorted_ne_nil_iff
    (read : List.Forall₂ (fun r o => Operator.ofRecord r = .ok o) rs os) {surface : Surface}
    {name : String} : namesakes (sorted os) surface name ≠ [] ↔
      ∃ r ∈ rs, r.isNamesake surface name = true := by
  have lengths : (rs.filter (Record.isNamesake surface name)).length =
      (namesakes (sorted os) surface name).length :=
    (forall₂_filter read _).length_eq.trans ((sorted_perm os).filter _).length_eq.symm
  rw [← List.length_pos_iff, ← lengths, List.length_pos_iff_exists_mem]
  simp only [List.mem_filter]

/-- **Names do not influence each other.** Two runs that succeed bind a surface
that both chose. Where their tables have the same records of a name for the
surface, they bind it to the same function, symbol and code, and they bind it
exactly when there is such a record. Where their tables have the same records
but for those that are left out, the surface has the same functions throughout. -/
theorem functions_congr_of_ofTable {settings settings' : Settings} {g g' : Generated}
    (made : (ofTable settings (pure rs)).outcome = .ok g)
    (made' : (ofTable settings' (pure rs')).outcome = .ok g') {surface : Surface}
    (chosen : surface ∈ settings.surfaces) (chosen' : surface ∈ settings'.surfaces) :
    (∃ b ∈ g.surfaces, b.surface = surface ∧ b.unit settings ∈ g.units) ∧
    (∃ b' ∈ g'.surfaces, b'.surface = surface ∧ b'.unit settings' ∈ g'.units) ∧
    ∀ b ∈ g.surfaces, ∀ b' ∈ g'.surfaces, b.surface = surface → b'.surface = surface →
      (∀ name, (rs.filter (Record.isNamesake surface name)).Perm
          (rs'.filter (Record.isNamesake surface name)) →
        b.function? name = b'.function? name ∧
          ((b.function? name).isSome = true ↔ ∃ r ∈ rs, r.isNamesake surface name = true)) ∧
      ((rs.filter Record.isKept).Perm (rs'.filter Record.isKept) →
        b.functions = b'.functions) := by
  obtain ⟨os, read, -, bound, units⟩ := bound_of_ofTable made
  obtain ⟨os', read', -, bound', units'⟩ := bound_of_ofTable made'
  refine ⟨?_, ?_, ?_⟩
  · obtain ⟨b, mem, same, -⟩ := forall₂_mem_left bound chosen
    exact ⟨b, mem, same, units ▸ List.mem_map_of_mem mem⟩
  · obtain ⟨b', mem', same', -⟩ := forall₂_mem_left bound' chosen'
    exact ⟨b', mem', same', units' ▸ List.mem_map_of_mem mem'⟩
  · rintro b mem b' mem' rfl surfaces
    obtain ⟨-, -, -, isBound⟩ := forall₂_mem_right bound mem
    obtain ⟨-, -, -, isBound'⟩ := forall₂_mem_right bound' mem'
    have bindings : ∀ name, (rs.filter (Record.isNamesake b.surface name)).Perm
        (rs'.filter (Record.isNamesake b.surface name)) → b.binding? name = b'.binding? name :=
      fun name perm =>
        isBound.binding?_congr isBound' surfaces.symm (map_bare_filter_sorted read read' perm)
    constructor
    · intro name perm
      rw [b.function?_eq, b'.function?_eq, ← bindings name perm, Option.isSome_map,
        isBound.isSome_binding?_iff]
      exact ⟨rfl, namesakes_sorted_ne_nil_iff read⟩
    · intro perm
      have same := isBound.bindings_congr isBound' fun name =>
        bindings name (Record.perm_namesakes_of_perm_kept perm b.surface name)
      rw [BoundSurface.functions, BoundSurface.functions, same]

/-- The record of a function of one tensor. -/
def unaryRecord (name : String) : Record where
  declaration := name ++ "(Tensor self) -> Tensor"

/-- The operator of the record. -/
def unaryOperator (name : String) : Operator where
  name := name
  text := name ++ "(Tensor self) -> Tensor"
  params := [⟨"self", "Tensor", false, none, none, false, none⟩]
  results := [⟨none, "Tensor", none⟩]
  calls := { function := true }
  moduleTag := none

theorem functions_congr_exp : ∃ g g' b b',
    (ofTable {} (pure [unaryRecord "exp", unaryRecord "neg"])).outcome = .ok g ∧
    (ofTable ⟨.accept, "bind", true, [.linalg, .torch]⟩
      (pure [unaryRecord "_exp", unaryRecord "abs", unaryRecord "exp"])).outcome = .ok g' ∧
    b ∈ g.surfaces ∧ b.surface = .torch ∧ b' ∈ g'.surfaces ∧ b'.surface = .torch ∧
    (b.function? "exp").isSome = true ∧ b.function? "exp" = b'.function? "exp" := by
  have made : ∀ (settings : Settings) (names : List String) {bound : List BoundSurface},
      List.Forall₂ (fun r o => Operator.ofRecord r = .ok o) (names.map unaryRecord)
        (names.map unaryOperator) →
      (names.map unaryOperator).Pairwise (fun a b => a.precedes b = true) →
      (Run.each (bindSurface settings.loneWriter (Routing.whole (kept (names.map unaryOperator))))
        settings.surfaces).outcome = .ok bound →
      ∃ g, (ofTable settings (pure (names.map unaryRecord))).outcome = .ok g := by
    intro settings names bound read inOrder surfaces
    have known : ∀ o ∈ kept (names.map unaryOperator), o.IsRouted := by
      intro o mem
      obtain ⟨name, -, rfl⟩ := List.mem_map.mp (List.mem_of_mem_filter mem)
      rfl
    obtain ⟨g, made, -⟩ := exists_ofTable settings read inOrder known surfaces
    exact ⟨g, made⟩
  obtain ⟨g, first⟩ := made {} ["exp", "neg"]
    (.cons (by rfl) (.cons (by rfl) .nil)) (by decide) (by rfl)
  obtain ⟨g', second⟩ := made ⟨.accept, "bind", true, [.linalg, .torch]⟩
    ["_exp", "abs", "exp"]
    (.cons (by rfl) (.cons (by rfl) (.cons (by rfl) .nil))) (by decide) (by rfl)
  have chosen : Surface.torch ∈ Surface.all := by decide
  have chosen' : Surface.torch ∈ [Surface.linalg, Surface.torch] := by decide
  obtain ⟨⟨b, mem, torch, -⟩, ⟨b', mem', torch', -⟩, agree⟩ :=
    functions_congr_of_ofTable first second chosen chosen'
  obtain ⟨names, -⟩ := agree b mem b' mem' torch torch'
  have records : [unaryRecord "exp", unaryRecord "neg"].filter (Record.isNamesake .torch "exp") =
      [unaryRecord "exp"] := by rfl
  have records' : [unaryRecord "_exp", unaryRecord "abs", unaryRecord "exp"].filter
      (Record.isNamesake .torch "exp") = [unaryRecord "exp"] := by rfl
  obtain ⟨same, bound⟩ := names "exp" (.of_eq (records.trans records'.symm))
  have some := bound.mpr ⟨unaryRecord "exp", List.mem_cons_self, by rfl⟩
  exact ⟨g, g', b, b', first, second, mem, torch, mem', torch', some, same⟩

end Generated

end OpBindings
