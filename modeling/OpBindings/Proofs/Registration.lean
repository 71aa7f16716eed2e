/-
OpBindings.Proofs.Registration — what a generated unit defines and registers.

A unit is made from a list of functions. `BindingUnit.IsFor` says of this list
that it has one function for each base name on the surface, in ascending
order, and that each defines the symbol that its registration refers to.
Whether symbols and public names are distinct is then a question about the base
names alone (`Generated.nodup_iff_of_ofTable`).
-/
import Mathlib.Data.List.Sort
import OpBindings.Proofs.PublicName

namespace OpBindings

/-! ## The text of a function -/

/-- A line stands before the rest of the code. -/
theorem Code.text_line_append (line : String) (rest : Code) :
    (Code.line line ++ rest).text = line ++ "\n" ++ rest.text := by
  have first : (if line.isEmpty then "" else Code.margin 0 ++ line) = line := by
    split
    · rename_i none
      exact (String.isEmpty_iff.mp none).symm
    · simp [Code.margin, String.join]
  simp only [Code.text, Code.line, List.cons_append, List.nil_append, Code.lines, first,
    List.map_cons, String.join_cons]

namespace BoundFunction

/-- How the definition of the function begins. -/
def opening (f : BoundFunction) : String :=
  "// " ++ f.name ++ "\n" ++
    ("static VALUE " ++ f.symbol ++ "(int argc, VALUE* argv, VALUE self_)" ++ "\n")

/-- The function is defined under the symbol of its name. -/
structure IsDefinition (f : BoundFunction) (surface : Surface) : Prop where
  symbol : f.symbol = cSymbol f.name surface
  text : ∃ rest, f.text = f.opening ++ rest

end BoundFunction

theorem Binding.isDefinition_function (b : Binding) : b.function.IsDefinition b.surface where
  symbol := rfl
  text := by
    simp only [function, BoundFunction.opening, text, code, FunctionPlan.code, plan,
      List.append_assoc, Code.text_line_append, String.append_assoc]
    exact ⟨_, rfl⟩

/-! ## A unit -/

/-- The unit is made from the functions, one for each base name of the operators
on its surface, in ascending order of the names. -/
structure BindingUnit.IsFor (u : BindingUnit) (settings : Settings) (os : List Operator)
    (functions : List BoundFunction) : Prop where
  files : u = .ofFunctions u.surface functions settings
  ascending : (functions.map (·.name)).Pairwise (· < ·)
  mem_names : ∀ name, name ∈ functions.map (·.name) ↔
    ∃ o ∈ os, o.GoesTo u.surface ∧ o.baseName = name
  defines : ∀ f ∈ functions, f.IsDefinition u.surface

/-- **A bound surface makes a unit** for its operators. -/
theorem BoundSurface.IsBound.isFor {b : BoundSurface} {policy : LoneWriter} {os : List Operator}
    {j : Journal} (h : b.IsBound policy os j) (settings : Settings) :
    (b.unit settings).IsFor settings os (b.bindings.map (·.function)) := by
  have names : (b.bindings.map (·.function)).map (·.name) = b.bindings.map (·.name) := by
    rw [List.map_map]
    rfl
  refine ⟨rfl, ?_, ?_, ?_⟩
  · rw [names]
    exact h.ascending
  · rw [names]
    exact h.mem_names
  · intro f mem
    obtain ⟨binding, bound, rfl⟩ := List.mem_map.mp mem
    obtain ⟨families, -, -, made⟩ := h.families binding bound
    have same : (b.unit settings).surface = binding.surface :=
      (Binding.name_surface_of_ofFamilies made).2.symm
    rw [same]
    exact binding.isDefinition_function

/-- Where the operators on the surface ascend, their names are those of the functions. -/
theorem BindingUnit.IsFor.names_eq {u : BindingUnit} {settings : Settings} {os : List Operator}
    {functions : List BoundFunction} (h : u.IsFor settings os functions) {surface : Surface}
    (on : u.surface = surface)
    (ascending : ((os.filter (·.GoesTo surface)).map (·.baseName)).Pairwise (· < ·)) :
    functions.map (·.name) = (os.filter (·.GoesTo surface)).map (·.baseName) := by
  subst on
  refine h.ascending.eq_of_mem_iff ascending fun name => ?_
  rw [h.mem_names]
  simp [and_assoc]

/-- A base name that is not left out can be bound. -/
theorem Operator.isBindable_baseName {r : Record} {o : Operator} (built : ofRecord r = .ok o)
    (inScope : o.exclusion? = none) : IsBindable o.baseName where
  noMark := by
    have plain : ∀ {c : Char}, c ∈ o.baseName.toList → Declaration.isNameChar c = true :=
      isNameChar_of_mem_baseName built
    exact ⟨fun mem => absurd (plain mem) (by decide), fun mem => absurd (plain mem) (by decide)⟩
  notPrivate := by
    intro first
    simp [exclusion?, first] at inScope

/-- **Something made of the names is distinct** when no two names collide. -/
theorem BindingUnit.IsFor.nodup_iff {u : BindingUnit} {settings : Settings} {os : List Operator}
    {functions : List BoundFunction} (h : u.IsFor settings os functions) {α : Type}
    (of : String → α) (collides : String → String → Prop) (irrefl : ∀ a, ¬ collides a a)
    (same : ∀ f ∈ functions, ∀ f' ∈ functions, of f.name = of f'.name ↔ f.name = f'.name ∨
      u.surface = .linalg ∧ (collides f.name f'.name ∨ collides f'.name f.name)) :
    (functions.map fun f => of f.name).Nodup ↔ (u.surface = .linalg →
      ∀ f ∈ functions, ∀ f' ∈ functions, ¬ collides f.name f'.name) := by
  have names : (functions.map (·.name)).Nodup := h.ascending.imp String.ne_of_lt
  have apart : (functions.map fun f => of f.name).Nodup ↔
      ∀ f ∈ functions, ∀ f' ∈ functions, of f.name = of f'.name → f.name = f'.name := by
    have composed : (functions.map fun f => of f.name) = (functions.map (·.name)).map of := by
      rw [List.map_map]
      rfl
    rw [composed, List.nodup_map_iff_inj_on names]
    simp only [List.forall_mem_map]
  rw [apart]
  constructor
  · intro distinct linalg f hf f' hf' collide
    have equal := distinct f hf f' hf' ((same f hf f' hf').mpr (.inr ⟨linalg, .inl collide⟩))
    exact irrefl f.name (equal ▸ collide)
  · intro free f hf f' hf' equal
    rcases (same f hf f' hf').mp equal with equal | ⟨linalg, collide | collide⟩
    · exact equal
    · exact absurd collide (free linalg f hf f' hf')
    · exact absurd collide (free linalg f' hf' f hf)

theorem not_addsModule_self (name : String) : ¬ AddsModule name name := by
  rintro ⟨silent, adds⟩
  exact silent (adds ▸ namesModule_append name)

namespace Generated

/-- **Which symbols and public names of a unit collide.** A run that succeeds
makes units with one definition and one registration for each base name on the
surface, in ascending order. They are distinct on every surface but that of
linear algebra, and there two collide exactly where one name is the other with
`linalg_` before it: base names for the symbols, visible names for the public
ones. -/
theorem nodup_iff_of_ofTable {settings : Settings} {rs : List Record} {g : Generated}
    (made : (ofTable settings (pure rs)).outcome = .ok g) :
    ∃ os, List.Forall₂ (fun r o => Operator.ofRecord r = .ok o) rs os ∧
      ∀ u ∈ g.units, ∃ functions, u.IsFor settings os functions ∧
        ((functions.map (·.symbol)).Nodup ↔ (u.surface = .linalg →
          ∀ f ∈ functions, ∀ f' ∈ functions, ¬ AddsModule f.name f'.name)) ∧
        ((functions.map fun f => publicName f.name u.surface).Nodup ↔ (u.surface = .linalg →
          ∀ f ∈ functions, ∀ f' ∈ functions,
            ¬ AddsModule (visibleName f.name) (visibleName f'.name))) := by
  obtain ⟨os, read, -, bound, units⟩ := bound_of_ofTable made
  refine ⟨os, read, fun u mem => ?_⟩
  obtain ⟨b, chosen, rfl⟩ := List.mem_map.mp (units ▸ mem)
  obtain ⟨surface, -, -, isBound⟩ := forall₂_mem_right bound chosen
  have unit := isBound.isFor settings
  have inTable : ∀ f ∈ b.bindings.map (·.function), IsBindable f.name := by
    intro f mem
    obtain ⟨o, mem, ⟨inScope, -⟩, same⟩ := (unit.mem_names f.name).mp (List.mem_map_of_mem mem)
    obtain ⟨r, -, built⟩ := forall₂_mem_right read (mem_sorted.mp mem)
    exact same ▸ Operator.isBindable_baseName built inScope
  have symbols : (b.bindings.map (·.function)).map (·.symbol) =
      (b.bindings.map (·.function)).map fun f => cSymbol f.name b.surface :=
    List.map_congr_left fun f mem => (unit.defines f mem).symbol
  refine ⟨_, ⟨unit.files, unit.ascending, ?_, unit.defines⟩, ?_, ?_⟩
  · intro name
    rw [unit.mem_names]
    simp only [mem_sorted]
  · rw [symbols]
    exact unit.nodup_iff (cSymbol · b.surface) AddsModule not_addsModule_self
      fun f _ f' _ => cSymbol_eq_iff
  · exact unit.nodup_iff (publicName · b.surface)
      (fun a a' => AddsModule (visibleName a) (visibleName a'))
      (fun name => not_addsModule_self (visibleName name))
      fun f mem f' mem' => publicName_eq_iff (inTable f mem) (inTable f' mem')

/-- A determinant, and the one of the module. -/
def detRecord (module : Option String) : Record where
  declaration := "det(Tensor self) -> Tensor"
  moduleTag := module

@[inherit_doc detRecord]
def linalgDetRecord : Record where
  declaration := "linalg_det(Tensor self) -> Tensor"
  moduleTag := "linalg"

/-- The operator of the first record. -/
def detOperator (module : Option String) : Operator where
  name := "det"
  text := "det(Tensor self) -> Tensor"
  params := [⟨"self", "Tensor", false, none, none, false, none⟩]
  results := [⟨none, "Tensor", none⟩]
  calls := { function := true }
  moduleTag := module

/-- The operator of the second record. -/
def linalgDetOperator : Operator :=
  { detOperator "linalg" with
    name := "linalg_det", text := "linalg_det(Tensor self) -> Tensor" }

/-- Two names on each of two surfaces. On the first one name is the other with `linalg_`
before it, which would collide on the second. -/
def detTable : List Record :=
  [detRecord none, detRecord "linalg", { linalgDetRecord with moduleTag := none },
    { declaration := "linalg_inv(Tensor self) -> Tensor", moduleTag := "linalg" }]

/-- The operators of the table. -/
def detOperators : List Operator :=
  [detOperator none, detOperator "linalg", { linalgDetOperator with moduleTag := none },
    { detOperator "linalg" with
      name := "linalg_inv", text := "linalg_inv(Tensor self) -> Tensor" }]

theorem nodup_det : ∃ g, (ofTable {} (pure detTable)).outcome = .ok g ∧
    g.units.map (·.surface) = Surface.all ∧ ∀ u ∈ g.units, ∃ functions, u.IsFor {} detOperators functions ∧
      (u.surface = .torch → functions.map (·.name) = ["det", "linalg_det"]) ∧
      (u.surface = .linalg → functions.map (·.name) = ["det", "linalg_inv"]) ∧
      (functions.map (·.symbol)).Nodup ∧
      (functions.map fun f => publicName f.name u.surface).Nodup := by
  have read : List.Forall₂ (fun r o => Operator.ofRecord r = .ok o) detTable detOperators :=
    .cons (by rfl) (.cons (by rfl) (.cons (by rfl) (.cons (by rfl) .nil)))
  have known : ∀ o ∈ kept detOperators, o.IsRouted := by
    have routed : ∀ o ∈ detOperators, o.IsRouted := by
      simp only [detOperators, List.forall_mem_cons]
      exact ⟨rfl, rfl, rfl, rfl, by simp⟩
    exact fun o mem => routed o (List.mem_of_mem_filter mem)
  have inOrder : detOperators.Pairwise fun a b => a.precedes b = true := by decide
  obtain ⟨bound, surfaces, all⟩ : ∃ bound, (Run.each (bindSurface .refuse
      (Routing.whole (kept detOperators))) Surface.all).outcome = .ok bound ∧
      bound.map (·.surface) = Surface.all := ⟨_, by rfl, rfl⟩
  obtain ⟨g, made, -, madeUnits⟩ := exists_ofTable {} read inOrder known surfaces
  obtain ⟨os, read', units⟩ := nodup_iff_of_ofTable made
  obtain rfl := read_unique read' read
  refine ⟨g, made, ?_, fun u mem => ?_⟩
  · rw [madeUnits, ← all, List.map_map]
    rfl
  obtain ⟨functions, unit, symbols, names⟩ := units u mem
  have onTorch : u.surface = .torch → functions.map (·.name) = ["det", "linalg_det"] :=
    fun torch => unit.names_eq torch (by decide)
  have onLinalg : u.surface = .linalg → functions.map (·.name) = ["det", "linalg_inv"] :=
    fun linalg => unit.names_eq linalg (by decide)
  refine ⟨functions, unit, onTorch, onLinalg, symbols.mpr fun linalg f hf f' hf' => ?_,
    names.mpr fun linalg f hf f' hf' => ?_⟩
  · have apart : ∀ a ∈ ["det", "linalg_inv"], ∀ b ∈ ["det", "linalg_inv"],
        ¬ AddsModule a b := by decide
    exact apart _ (onLinalg linalg ▸ List.mem_map_of_mem hf) _
      (onLinalg linalg ▸ List.mem_map_of_mem hf')
  · have apart : ∀ a ∈ ["det", "linalg_inv"], ∀ b ∈ ["det", "linalg_inv"],
        ¬ AddsModule (visibleName a) (visibleName b) := by decide
    exact apart _ (onLinalg linalg ▸ List.mem_map_of_mem hf) _
      (onLinalg linalg ▸ List.mem_map_of_mem hf')

/-- The two on one surface have one symbol and one public name. -/
theorem collides_det : ∃ g,
    (ofTable { surfaces := [.linalg] } (pure [detRecord "linalg", linalgDetRecord])).outcome =
      .ok g ∧
    ∃ u ∈ g.units, ∃ functions, u = .ofFunctions .linalg functions { surfaces := [.linalg] } ∧
      functions.map (·.name) = ["det", "linalg_det"] ∧
      functions.map (·.symbol) = ["linalg_det", "linalg_det"] ∧
      functions.map (fun f => publicName f.name .linalg) = ["det", "det"] := by
  have read : List.Forall₂ (fun r o => Operator.ofRecord r = .ok o)
      [detRecord "linalg", linalgDetRecord] [detOperator "linalg", linalgDetOperator] :=
    .cons (by rfl) (.cons (by rfl) .nil)
  have known : ∀ o ∈ kept [detOperator "linalg", linalgDetOperator], o.IsRouted :=
    List.forall_mem_cons.mpr ⟨rfl, List.forall_mem_cons.mpr ⟨rfl, by simp⟩⟩
  have inOrder : [detOperator "linalg", linalgDetOperator].Pairwise
      fun a b => a.precedes b = true := by decide
  obtain ⟨b, surfaces, on, names, symbols⟩ : ∃ b : BoundSurface, (Run.each (bindSurface .refuse
      (Routing.whole (kept [detOperator "linalg", linalgDetOperator]))) [.linalg]).outcome =
        .ok [b] ∧ b.surface = .linalg ∧ b.bindings.map (·.name) = ["det", "linalg_det"] ∧
        b.bindings.map (·.symbol) = ["linalg_det", "linalg_det"] := ⟨_, by rfl, rfl, rfl, rfl⟩
  obtain ⟨g, made, -, units⟩ := exists_ofTable { surfaces := [.linalg] } read inOrder known
    surfaces
  have unit : b.unit { surfaces := [.linalg] } ∈ g.units := by
    rw [units]
    exact List.mem_singleton_self _
  refine ⟨g, made, _, unit, b.bindings.map (·.function), ?_, ?_, ?_, ?_⟩
  · rw [BoundSurface.unit, on]
  · rw [← names, List.map_map]
    rfl
  · rw [← symbols, List.map_map]
    rfl
  · have visible : (b.bindings.map (·.name)).map (publicName · .linalg) = ["det", "det"] := by
      rw [names]
      decide
    rw [← visible, List.map_map, List.map_map]
    rfl

end Generated

end OpBindings
