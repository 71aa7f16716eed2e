/-
OpBindings.Proofs.PublicName — which names and symbols of a unit collide.

A public name is made in three steps: the mark of a mutator or a predicate
(`markedName`), the `_` before a name of the host (`apartName`), and on the
surface of linear algebra the `linalg_` that is taken off. The first two keep
names apart that can be bound (`visibleName_inj`). The third does not: it makes
one name of `det` and `linalg_det`, and the symbols of the two are one as well,
because `linalg_` is put before a name that does not begin so. `AddsModule`
is this relation of two names, and there is no other collision
(`cSymbol_eq_iff`, `publicName_eq_iff`).
-/
import Mathlib.Data.List.Nodup
import OpBindings.Proofs.BoundTable

namespace OpBindings

/-! ## The part of a name that its module says -/

/-- The name begins with that of the module. -/
def NamesModule (name : String) : Prop := "linalg_".toList <+: name.toList

instance (name : String) : Decidable (NamesModule name) :=
  inferInstanceAs (Decidable ("linalg_".toList <+: name.toList))

/-- The name `a` does not name its module, and `b` is `a` with the module before it. -/
def AddsModule (a b : String) : Prop := ¬ NamesModule a ∧ b = "linalg_" ++ a

instance (a b : String) : Decidable (AddsModule a b) := inferInstanceAs (Decidable (_ ∧ _))

theorem namesModule_append (rest : String) : NamesModule ("linalg_" ++ rest) := by
  rw [NamesModule, String.toList_append]
  exact List.prefix_append _ _

theorem exists_of_namesModule {name : String} (h : NamesModule name) :
    ∃ rest, name = "linalg_" ++ rest := by
  obtain ⟨rest, h⟩ := h
  refine ⟨String.ofList rest, String.toList_injective ?_⟩
  rw [String.toList_append, @String.toList_ofList rest, h]

theorem append_module_inj {a b : String} (h : "linalg_" ++ a = "linalg_" ++ b) : a = b := by
  have chars := congrArg String.toList h
  rw [String.toList_append, String.toList_append] at chars
  exact String.toList_injective (List.append_cancel_left chars)

/-! ## Symbols -/

theorem cSymbol_of_namesModule {name : String} (h : NamesModule name) :
    cSymbol name .linalg = name := by
  have named : "linalg_".toList.isPrefixOf name.toList = true := List.isPrefixOf_iff_prefix.mpr h
  rw [cSymbol, named]
  rfl

theorem cSymbol_of_not_namesModule {name : String} (h : ¬ NamesModule name) :
    cSymbol name .linalg = "linalg_" ++ name := by
  have silent : "linalg_".toList.isPrefixOf name.toList = false :=
    Bool.eq_false_iff.mpr fun named => h (List.isPrefixOf_iff_prefix.mp named)
  rw [cSymbol, silent]
  rfl

theorem cSymbol_of_ne_linalg {surface : Surface} (other : surface ≠ .linalg) (name : String) :
    cSymbol name surface = surface.name ++ "_" ++ name := by
  simp [cSymbol, other]

/-- **Two names have one symbol** only where one is the other with its module. -/
theorem cSymbol_eq_iff {a b : String} {surface : Surface} :
    cSymbol a surface = cSymbol b surface ↔
      a = b ∨ surface = .linalg ∧ (AddsModule a b ∨ AddsModule b a) := by
  by_cases linalg : surface = .linalg
  · subst linalg
    by_cases ha : NamesModule a <;> by_cases hb : NamesModule b
    · simp [cSymbol_of_namesModule, AddsModule, ha, hb]
    · have apart : a ≠ b := fun same => hb (same ▸ ha)
      simp [cSymbol_of_namesModule ha, cSymbol_of_not_namesModule hb, AddsModule, ha, hb, apart]
    · have apart : a ≠ b := fun same => ha (same ▸ hb)
      simp [cSymbol_of_not_namesModule ha, cSymbol_of_namesModule hb, AddsModule, ha, hb, apart,
        eq_comm]
    · rw [cSymbol_of_not_namesModule ha, cSymbol_of_not_namesModule hb]
      constructor
      · intro same
        exact .inl (append_module_inj same)
      · rintro (rfl | ⟨-, adds | adds⟩)
        · rfl
        · exact absurd (adds.2 ▸ namesModule_append a) hb
        · exact absurd (adds.2 ▸ namesModule_append b) ha
  · rw [cSymbol_of_ne_linalg linalg, cSymbol_of_ne_linalg linalg]
    simp [linalg]

/-! ## Public names -/

/-- The public name before the surface takes the module off. -/
def visibleName (name : String) : String := apartName (markedName name)

/-- A name that is not left out: it holds no mark of the host's and is not private. -/
structure IsBindable (name : String) : Prop where
  noMark : '!' ∉ name.toList ∧ '?' ∉ name.toList
  notPrivate : name.toList.head? ≠ some '_'

/-- **A mark** takes the place of a `_` at the end or of an `is_`. -/
theorem markedName_cases (name : String) :
    (∃ stem, name = stem ++ "_" ∧ markedName name = stem ++ "!") ∨
      (∃ rest, name = "is_" ++ rest ∧ markedName name = rest ++ "?") ∨
      markedName name = name := by
  unfold markedName
  dsimp only
  split
  · rename_i last
    refine .inl ⟨String.ofList name.toList.dropLast, ?_, ?_⟩
    · apply String.toList_injective
      rw [String.toList_append, String.toList_ofList]
      exact (List.dropLast_append_getLast? _ last).symm
    · rw [String.ofList_append]
  · unfold dropStart?
    split
    · rename_i rest h
      split at h
      · rename_i starts
        cases h
        obtain ⟨rest, split⟩ := List.isPrefixOf_iff_prefix.mp starts
        rw [← split, List.drop_left]
        refine .inr (.inl ⟨String.ofList rest, ?_, ?_⟩)
        · apply String.toList_injective
          rw [String.toList_append, @String.toList_ofList rest, split]
        · rw [String.ofList_append]
      · cases h
    · exact .inr (.inr rfl)

/-- **Marks keep names apart.** -/
theorem markedName_inj {a b : String} (ha : IsBindable a) (hb : IsBindable b)
    (same : markedName a = markedName b) : a = b := by
  have mutator (stem : String) : '!' ∈ (stem ++ "!").toList := by simp
  have predicate (rest : String) : '?' ∈ (rest ++ "?").toList := by simp
  have apart (stem rest : String) : stem ++ "!" ≠ rest ++ "?" := by
    intro h
    simpa using congrArg (·.toList.getLast?) h
  rcases markedName_cases a with ⟨s, rfl, ma⟩ | ⟨r, rfl, ma⟩ | ma <;>
    rcases markedName_cases b with ⟨t, rfl, mb⟩ | ⟨q, rfl, mb⟩ | mb <;>
    rw [ma, mb] at same
  · rw [(String.append_left_inj _).mp same]
  · exact absurd same (apart s q)
  · exact absurd (same ▸ mutator s) hb.noMark.1
  · exact absurd same.symm (apart t r)
  · rw [(String.append_left_inj _).mp same]
  · exact absurd (same ▸ predicate r) hb.noMark.2
  · exact absurd (same ▸ mutator t) ha.noMark.1
  · exact absurd (same ▸ predicate q) ha.noMark.2
  · exact same

/-- A marked name is none of those that are kept apart from the host's. -/
theorem markedName_ne_apart {name : String} (h : IsBindable name) {host : String}
    (mem : host ∈ hostNames) : markedName name ≠ "_" ++ host := by
  have plain : ∀ host ∈ hostNames, '?' ∉ ("_" ++ host).toList := by decide
  intro same
  rcases markedName_cases name with ⟨s, rfl, marked⟩ | ⟨r, rfl, marked⟩ | marked
  · rw [marked] at same
    have starts : (s ++ "!").toList.head? = some '_' := by simp [same]
    apply h.notPrivate
    cases chars : s.toList with
    | nil => simp [chars] at starts
    | cons c cs => simpa [chars] using starts
  · rw [marked] at same
    exact plain host mem (same ▸ by simp)
  · rw [marked] at same
    exact h.notPrivate (by simp [same])

/-- **Before the module is taken off, public names are distinct.** -/
theorem visibleName_inj {a b : String} (ha : IsBindable a) (hb : IsBindable b)
    (same : visibleName a = visibleName b) : a = b := by
  apply markedName_inj ha hb
  unfold visibleName apartName at same
  split at same <;> split at same
  · exact (String.append_right_inj _).mp same
  · rename_i host _
    exact absurd same.symm (markedName_ne_apart hb (List.contains_iff_mem.mp host))
  · rename_i host
    exact absurd same (markedName_ne_apart ha (List.contains_iff_mem.mp host))
  · exact same

theorem publicName_of_ne_linalg {surface : Surface} (other : surface ≠ .linalg) (name : String) :
    publicName name surface = visibleName name := by
  simp [publicName, visibleName, other]

theorem publicName_linalg (name : String) : publicName name .linalg =
    match dropStart? "linalg_".toList (visibleName name).toList with
    | some rest => String.ofList rest
    | none => visibleName name := by
  unfold publicName
  rw [if_pos rfl]
  rfl

theorem publicName_of_namesModule {name : String} (h : NamesModule (visibleName name)) :
    visibleName name = "linalg_" ++ publicName name .linalg := by
  obtain ⟨rest, split⟩ := exists_of_namesModule h
  have drop : dropStart? "linalg_".toList (visibleName name).toList = some rest.toList := by
    rw [split, String.toList_append, dropStart?,
      if_pos (List.isPrefixOf_iff_prefix.mpr (List.prefix_append _ _)), List.drop_left]
  rw [publicName_linalg, drop, split]
  simp

theorem publicName_of_not_namesModule {name : String} (h : ¬ NamesModule (visibleName name)) :
    publicName name .linalg = visibleName name := by
  have drop : dropStart? "linalg_".toList (visibleName name).toList = none :=
    if_neg fun starts => h (List.isPrefixOf_iff_prefix.mp starts)
  rw [publicName_linalg, drop]

/-- A name that loses its module becomes what another is without one. -/
theorem publicName_eq_visibleName_iff {a b : String} (na : NamesModule (visibleName a))
    (nb : ¬ NamesModule (visibleName b)) :
    publicName a .linalg = visibleName b ↔ AddsModule (visibleName b) (visibleName a) := by
  rw [AddsModule, publicName_of_namesModule na, String.append_right_inj]
  simp [nb]

/-- **Two names have one public name** only where one is the other with its module. -/
theorem publicName_eq_iff {a b : String} (ha : IsBindable a) (hb : IsBindable b)
    {surface : Surface} : publicName a surface = publicName b surface ↔
      a = b ∨ surface = .linalg ∧ (AddsModule (visibleName a) (visibleName b) ∨
        AddsModule (visibleName b) (visibleName a)) := by
  have visible : visibleName a = visibleName b ↔ a = b :=
    ⟨visibleName_inj ha hb, fun same => same ▸ rfl⟩
  by_cases linalg : surface = .linalg
  · subst linalg
    by_cases na : NamesModule (visibleName a) <;> by_cases nb : NamesModule (visibleName b)
    · have one : publicName a .linalg = publicName b .linalg ↔ a = b := by
        rw [← visible, publicName_of_namesModule na, publicName_of_namesModule nb,
          String.append_right_inj]
      simp [one, AddsModule, na, nb]
    · have apart : a ≠ b := fun same => nb (same ▸ na)
      have other : ¬ AddsModule (visibleName a) (visibleName b) := fun adds => adds.1 na
      rw [publicName_of_not_namesModule nb, publicName_eq_visibleName_iff na nb]
      simp [apart, other]
    · have apart : a ≠ b := fun same => na (same ▸ nb)
      have other : ¬ AddsModule (visibleName b) (visibleName a) := fun adds => adds.1 nb
      rw [publicName_of_not_namesModule na, eq_comm, publicName_eq_visibleName_iff nb na]
      simp [apart, other]
    · rw [publicName_of_not_namesModule na, publicName_of_not_namesModule nb, visible]
      constructor
      · intro same
        exact .inl same
      · rintro (rfl | ⟨-, adds | adds⟩)
        · rfl
        · exact absurd (adds.2 ▸ namesModule_append _) nb
        · exact absurd (adds.2 ▸ namesModule_append _) na
  · rw [publicName_of_ne_linalg linalg, publicName_of_ne_linalg linalg, visible]
    simp [linalg]

end OpBindings
