/-
OpBindings.Proofs.HostName — which public names are the host layer's own.

A name of the host gets a leading `_`, and after that step no name is the host's
(`visibleName_not_mem_hostNames`). On the surface of linear algebra one more step
follows, which takes the `linalg_` off and does not look at what is left. So a name
of the host comes back exactly where it stood behind the `linalg_`
(`publicName_mem_hostNames_iff_visibleName`), and there are four base names of which
that is true (`mem_moduleHostNames_iff`).
-/
import OpBindings.Proofs.Operator
import OpBindings.Proofs.PublicName

namespace OpBindings

/-- The base names whose public name is the host's once the module is taken off. -/
def moduleHostNames : List String :=
  ["linalg_size", "linalg_stride", "linalg_random_", "linalg_stft"]

/-! ## Before and after the module is taken off -/

/-- **As long as the module is not taken off**, no public name is the host's. -/
theorem visibleName_not_mem_hostNames (name : String) : visibleName name ∉ hostNames := by
  have apart : ∀ host ∈ hostNames, "_" ++ host ∉ hostNames := by decide
  unfold visibleName apartName
  split
  · rename_i host
    exact apart _ (List.contains_iff_mem.mp host)
  · rename_i other
    exact fun mem => other (List.contains_iff_mem.mpr mem)

/-- A visible name that names its module is the marked name as it was. -/
theorem visibleName_eq_module_iff {name rest : String} :
    visibleName name = "linalg_" ++ rest ↔ markedName name = "linalg_" ++ rest := by
  have marked : ∀ host ∈ hostNames, host ≠ "linalg_" ++ rest := by
    intro host mem same
    have start : ∀ host ∈ hostNames, ¬ NamesModule host := by decide
    exact start host mem (same ▸ namesModule_append rest)
  unfold visibleName apartName
  split
  · rename_i host
    constructor
    · intro same
      have first := congrArg (·.toList.head?) same
      simp at first
    · exact fun same => absurd same (marked _ (List.contains_iff_mem.mp host))
  · exact Iff.rfl

/-- **A public name is the host's** exactly where the visible name is that of the
host with the module before it. -/
theorem publicName_mem_hostNames_iff_visibleName {name : String} {surface : Surface} :
    publicName name surface ∈ hostNames ↔
      surface = .linalg ∧ ∃ host ∈ hostNames, visibleName name = "linalg_" ++ host := by
  by_cases linalg : surface = .linalg
  · subst linalg
    rw [and_iff_right rfl]
    by_cases module : NamesModule (visibleName name)
    · have split := publicName_of_namesModule module
      constructor
      · exact fun mem => ⟨_, mem, split⟩
      · rintro ⟨host, mem, same⟩
        rwa [append_module_inj (split.symm.trans same)]
    · rw [publicName_of_not_namesModule module]
      constructor
      · exact fun mem => absurd mem (visibleName_not_mem_hostNames name)
      · rintro ⟨host, -, same⟩
        exact absurd (same ▸ namesModule_append host) module
  · rw [publicName_of_ne_linalg linalg]
    simp [visibleName_not_mem_hostNames, linalg]

/-! ## The base names -/

/-- The host's names behind the module come from four base names. -/
theorem mem_moduleHostNames_iff {name : String} (noMark : '!' ∉ name.toList) :
    name ∈ moduleHostNames ↔ ∃ host ∈ hostNames, markedName name = "linalg_" ++ host := by
  constructor
  · intro mem
    have all : ∀ name ∈ moduleHostNames, ∃ host ∈ hostNames,
        markedName name = "linalg_" ++ host := by decide
    exact all name mem
  · rintro ⟨host, mem, same⟩
    rcases markedName_cases name with ⟨stem, rfl, marked⟩ | ⟨rest, rfl, marked⟩ | marked
    · have mutator : ∀ host ∈ hostNames, ("linalg_" ++ host).toList.getLast? = some '!' →
          host = "random!" := by decide
      have whole := marked.symm.trans same
      obtain rfl := mutator host mem (by simp [← whole])
      obtain rfl : stem = "linalg_random" := (String.append_left_inj "!").mp whole
      decide
    · have predicate : ∀ host ∈ hostNames,
          ("linalg_" ++ host).toList.getLast? ≠ some '?' := by decide
      exact absurd (by simp [← marked.symm.trans same]) (predicate host mem)
    · have plain : ∀ host ∈ hostNames, '!' ∉ ("linalg_" ++ host).toList →
          "linalg_" ++ host ∈ moduleHostNames := by decide
      obtain rfl : name = "linalg_" ++ host := marked.symm.trans same
      exact plain host mem noMark

/-- The base name of a declaration holds none of the host's marks. -/
theorem Declaration.mark_not_mem_baseName {text : String} {d : Declaration}
    (parsed : Declaration.parse text = .ok d) : '!' ∉ (baseNameOf d.name).toList := by
  have built : Operator.ofRecord { declaration := text } =
      .ok (Operator.ofDeclaration text d { function := true } none) := by
    simp only [Operator.ofRecord, parsed]
    rfl
  exact fun mem => absurd (Operator.isNameChar_of_mem_baseName built mem) (by decide)

/-- **Which base names clash with the host layer.** The public name of a base name
that a declaration can have is the host's own for four base names, and for these on
the surface of linear algebra only. -/
theorem publicName_mem_hostNames_iff {text : String} {d : Declaration}
    (parsed : Declaration.parse text = .ok d) (surface : Surface) :
    publicName (baseNameOf d.name) surface ∈ hostNames ↔
      surface = .linalg ∧ baseNameOf d.name ∈ moduleHostNames := by
  rw [publicName_mem_hostNames_iff_visibleName,
    mem_moduleHostNames_iff (Declaration.mark_not_mem_baseName parsed)]
  simp only [visibleName_eq_module_iff]

/-- A mutator with a name of the host is kept apart. -/
theorem publicName_random : ∃ d,
    Declaration.parse "random_(Tensor(a!) self, *, Generator? generator=None) -> Tensor(a!)" =
      .ok d ∧ baseNameOf d.name = "random_" ∧ publicName "random_" .tensor = "_random!" ∧
    publicName "random_" .tensor ∉ hostNames := by
  obtain ⟨d, parsed, named⟩ : ∃ d, Declaration.parse
      "random_(Tensor(a!) self, *, Generator? generator=None) -> Tensor(a!)" = .ok d ∧
        baseNameOf d.name = "random_" := ⟨_, by rfl, by rfl⟩
  have clash := publicName_mem_hostNames_iff parsed .tensor
  rw [named] at clash
  exact ⟨d, parsed, named, by decide, fun mem => absurd (clash.mp mem).1 (by decide)⟩

/-- The record of a name that is the host's when the module is taken off. -/
def linalgSizeRecord : Record where
  declaration := "linalg_size(Tensor self) -> int"
  moduleTag := "linalg"

/-- The operator goes to the surface of linear algebra, and is bound there under the
host's own name. -/
theorem publicName_linalgSize : ∃ o, Operator.ofRecord linalgSizeRecord = .ok o ∧
    o.exclusion? = none ∧ o.surfaces = .ok [.linalg] ∧ o.baseName = "linalg_size" ∧
    publicName o.baseName .linalg = "size" ∧ publicName o.baseName .linalg ∈ hostNames :=
  ⟨_, by rfl, by rfl, by rfl, by rfl, by decide, by decide⟩

end OpBindings
