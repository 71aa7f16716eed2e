/-
OpBindings.Proofs.Accounting — what becomes of each record of a table.

A record is left out and counted, or belongs to a module that is not bound, or
is routed; and on each surface that it is routed to the gathering of its name
accounts for it (`Operator.IsAccountedFor`). One kind of record falls through:
a record without a module whose `variants` name nothing is routed nowhere, and
no message tells of it (`Generated.isAccountedFor_iff_of_ofTable`).
-/
import OpBindings.Proofs.Ledger
import OpBindings.Proofs.Reasons

namespace OpBindings

/-! ## Variants -/

/-- The record has `variants`, and they name nothing. -/
def Record.NamesNoVariant (r : Record) : Prop := ∃ spec, r.variants = some spec ∧ spec.names = []

namespace Operator

/-- What each step over a list brings about holds after the last one. -/
theorem of_foldlM {ε α β : Type} {P : α → Prop} {step : α → β → Except ε α}
    (one : ∀ a b a', step a b = .ok a' → P a') {bs : List β} (some : bs ≠ []) {a a' : α}
    (made : bs.foldlM step a = .ok a') : P a' := by
  induction bs generalizing a with
  | nil => exact absurd rfl some
  | cons b bs ih =>
    rw [List.foldlM_cons] at made
    obtain ⟨next, first, made⟩ := bind_eq_ok.mp made
    by_cases last : bs = []
    · subst last
      cases made
      exact one _ _ _ first
    · exact ih last made

/-- The names of variants ask for no kind of call only where there are none. -/
theorem readCallKinds_eq_empty_iff {names : List String} {calls : CallKinds}
    (read : readCallKinds names = .ok calls) : calls = {} ↔ names = [] := by
  constructor
  · intro empty
    by_contra some
    refine of_foldlM (P := (· ≠ {})) ?_ some read empty
    intro a name a' made
    split at made <;> cases made <;> simp
  · rintro rfl
    cases read
    rfl

/-- The record's variants and its module are those of its operator. -/
theorem variants_of_ofRecord {r : Record} {o : Operator} (built : ofRecord r = .ok o) :
    o.moduleTag = r.moduleTag ∧ ∃ text, readVariants text r.variants = .ok o.calls := by
  unfold ofRecord at built
  split at built
  · cases built
  · rename_i text _
    obtain ⟨d, -, built⟩ := bind_eq_ok.mp built
    obtain ⟨calls, read, built⟩ := bind_eq_ok.mp built
    split at built
    · cases built
    · cases built
      exact ⟨rfl, text, read⟩

/-- **No kind of call is asked for** only where the variants name nothing. -/
theorem calls_eq_empty_iff {r : Record} {o : Operator} (built : ofRecord r = .ok o) :
    o.calls = {} ↔ r.NamesNoVariant := by
  obtain ⟨-, text, read⟩ := variants_of_ofRecord built
  unfold Record.NamesNoVariant
  cases spec : r.variants with
  | none =>
    rw [spec] at read
    have calls : { function := true } = o.calls := Except.ok.inj read
    simp [← calls]
  | some spec' =>
    rw [spec] at read
    rw [readCallKinds_eq_empty_iff (mapError_eq_ok.mp read)]
    simp

/-! ## Routes -/

/-- **An operator goes nowhere** when its module is not bound, or when it has
none and asks for no kind of call. -/
theorem routes_eq_nil_iff {o : Operator} (known : o.IsRouted) : o.routes = [] ↔
    (o.moduleTag = some "fft" ∨ o.moduleTag = some "special") ∨
      (o.moduleTag = none ∧ o.calls = {}) := by
  obtain ⟨module, hmodule, hroutes⟩ := bind_eq_ok.mp known
  unfold module? at hmodule
  split at hmodule
  · rename_i none
    cases hmodule
    have routes : o.callSurfaces = o.routes := Except.ok.inj hroutes
    obtain ⟨name, text, params, results, ⟨function, method⟩, moduleTag⟩ := o
    rw [← routes]
    subst none
    cases function <;> cases method <;> simp [callSurfaces]
  · rename_i tag some
    split at hmodule
    · rename_i module found
      cases hmodule
      have routes : module.surface?.toList = o.routes := Except.ok.inj hroutes
      have named : module.tag = tag := by
        simpa using List.find?_some found
      rw [← routes, some, ← named]
      cases module <;> simp [ModuleTag.surface?, ModuleTag.tag]
    · cases hmodule

end Operator

/-! ## A run -/

/-- The operator is bound on a surface: the binding of its name there was made
from families that account for all operators of the name. -/
def Operator.IsBoundOn (o : Operator) (surface : Surface) (os : List Operator) (g : Generated)
    (j : Journal) : Prop :=
  ∃ b ∈ g.surfaces, b.surface = surface ∧ ∃ binding ∈ b.bindings, binding.name = o.baseName ∧
    ∃ families ignored, (Binding.ofFamilies o.baseName surface families).outcome = .ok binding ∧
      OverloadFamily.IsAccount families ignored (namesakes os surface o.baseName) j

/-- What can become of an operator of the table `os`. -/
inductive Operator.IsAccountedFor (os : List Operator) (g : Generated) (j : Journal)
    (o : Operator) : Prop
  /-- It is left out, and counted with all that are left out for its reason. -/
  | leftOut (reason : Exclusion) (excluded : o.exclusion? = some reason)
      (counted : g.statistics.countOf reason.reason = os.countP (·.exclusion? == some reason))
  /-- Its module is not bound. -/
  | unbound (inScope : o.exclusion? = none)
      (module : o.moduleTag = some "fft" ∨ o.moduleTag = some "special")
  /-- It is bound on some surface, and on every surface that it goes to. -/
  | bound (inScope : o.exclusion? = none) (somewhere : o.routes ≠ [])
      (everywhere : ∀ surface ∈ o.routes, o.IsBoundOn surface os g j)

namespace Generated

/-- An operator is bound on each surface that it goes to. -/
theorem isBoundOn_of_forall₂ {settings : Settings} {os : List Operator} {g : Generated}
    {j : Journal} (bound : List.Forall₂ (fun surface b => b.surface = surface ∧
      b.IsBound settings.loneWriter (sorted os) j) settings.surfaces g.surfaces)
    {o : Operator} (mem : o ∈ os) {surface : Surface} (goes : o.GoesTo surface)
    (chosen : surface ∈ settings.surfaces) : o.IsBoundOn surface os g j := by
  obtain ⟨b, hb, rfl, isBound⟩ := forall₂_mem_left bound chosen
  obtain ⟨binding, hbinding, named, families, gathered, noted, made⟩ :=
    isBound.exists_binding (mem_sorted.mpr mem) goes
  obtain ⟨ignored, account⟩ := OverloadFamily.isAccount_of_ofOperators gathered noted
  have perm : (namesakes (sorted os) b.surface o.baseName).Perm
      (namesakes os b.surface o.baseName) := (sorted_perm os).filter _
  exact ⟨b, hb, rfl, binding, hbinding, named, families, ignored, made, account.of_perm perm⟩

/-- **Only one kind of record is lost silently.** Where a run with all surfaces
succeeds, a record is accounted for unless it is in scope, has no module, and
its `variants` name nothing. -/
theorem isAccountedFor_iff_of_ofTable {settings : Settings} {rs : List Record} {g : Generated}
    (all : ∀ surface : Surface, surface ∈ settings.surfaces)
    (made : (ofTable settings (pure rs)).outcome = .ok g) :
    ∃ os, List.Forall₂ (fun r o => Operator.ofRecord r = .ok o ∧
      (o.IsAccountedFor os g (ofTable settings (pure rs)).journal ↔
        ¬ (o.exclusion? = none ∧ r.moduleTag = none ∧ r.NamesNoVariant))) rs os := by
  obtain ⟨os, read, known, bound, -⟩ := bound_of_ofTable made
  have inTable : List.Forall₂ (fun o r => o ∈ os ∧ Operator.ofRecord r = .ok o) os rs :=
    (List.forall₂_and_left os rs).mpr ⟨fun _ mem => mem, read.flip⟩
  refine ⟨os, inTable.flip.imp fun r o ⟨mem, built⟩ => ⟨built, ?_⟩⟩
  have module := (Operator.variants_of_ofRecord built).1
  rw [← module, ← Operator.calls_eq_empty_iff built]
  constructor
  · rintro account ⟨inScope, untagged, silent⟩
    cases account with
    | leftOut reason excluded counted =>
      rw [inScope] at excluded
      cases excluded
    | unbound _ module =>
      rw [untagged] at module
      rcases module with module | module <;> cases module
    | bound _ somewhere everywhere =>
      exact somewhere ((Operator.routes_eq_nil_iff (known o mem inScope)).mpr
        (.inr ⟨untagged, silent⟩))
  · intro heard
    cases scope : o.exclusion? with
    | some reason => exact .leftOut reason scope (countOf_of_ofTable read made reason)
    | none =>
      have inScope : o.exclusion? = none := scope
      by_cases nowhere : o.routes = []
      · rcases (Operator.routes_eq_nil_iff (known o mem inScope)).mp nowhere with module | silent
        · exact .unbound inScope module
        · exact absurd ⟨inScope, silent⟩ heard
      · exact .bound inScope nowhere fun surface route =>
          isBoundOn_of_forall₂ bound mem ⟨inScope, route⟩ (all surface)

/-- A record for each thing that can become of one. -/
def privateRecord : Record where
  declaration := "_abs(Tensor self) -> Tensor"

@[inherit_doc privateRecord]
def aliasRecord : Record where
  declaration := "abs.alias(Tensor self) -> Tensor"
  variants := some (.listed ["method"])

@[inherit_doc privateRecord]
def unboundRecord : Record where
  declaration := "fft_abs(Tensor self) -> Tensor"
  moduleTag := "fft"

/-- A record whose variants name nothing. -/
def silentRecord : Record where
  declaration := "abs(Tensor self) -> Tensor"
  variants := some (.oneText "")

/-- The operator that is left out. -/
def privateOperator : Operator :=
  { absOperator with
    name := "_abs", text := "_abs(Tensor self) -> Tensor", calls := { function := true } }

/-- The operator that the first is taken for. -/
def aliasOperator : Operator :=
  { absOperator with
    name := "abs.alias", text := "abs.alias(Tensor self) -> Tensor", calls := { method := true } }

/-- The operator whose module is not bound. -/
def unboundOperator : Operator :=
  { absOperator with
    name := "fft_abs", text := "fft_abs(Tensor self) -> Tensor", calls := { function := true },
    moduleTag := some "fft" }

/-- The operator that goes nowhere. -/
def silentOperator : Operator := { absOperator with calls := {} }

theorem isAccountedFor_abs : ∃ g, (ofTable {} (pure
      [privateRecord, absRecord, aliasRecord, unboundRecord])).outcome = .ok g ∧
    ∀ o ∈ [privateOperator, absOperator, aliasOperator, unboundOperator], o.IsAccountedFor
      [privateOperator, absOperator, aliasOperator, unboundOperator] g
      (ofTable {} (pure [privateRecord, absRecord, aliasRecord, unboundRecord])).journal := by
  have read : List.Forall₂ (fun r o => Operator.ofRecord r = .ok o)
      [privateRecord, absRecord, aliasRecord, unboundRecord]
      [privateOperator, absOperator, aliasOperator, unboundOperator] :=
    .cons (by rfl) (.cons (by rfl) (.cons (by rfl) (.cons (by rfl) .nil)))
  have inOrder : [privateOperator, absOperator, aliasOperator, unboundOperator].Pairwise
      fun a b => a.precedes b = true := by decide
  have scope : kept [privateOperator, absOperator, aliasOperator, unboundOperator] =
      [absOperator, aliasOperator, unboundOperator] := by rfl
  have known : ∀ o ∈ kept [privateOperator, absOperator, aliasOperator, unboundOperator],
      o.IsRouted := by
    rw [scope]
    simp only [List.forall_mem_cons]
    exact ⟨rfl, rfl, rfl, by simp⟩
  obtain ⟨bound, surfaces⟩ : ∃ bound, (Run.each (bindSurface .refuse (Routing.whole
      (kept [privateOperator, absOperator, aliasOperator, unboundOperator]))) Surface.all).outcome =
        .ok bound := by
    rw [scope]
    exact ⟨_, by rfl⟩
  obtain ⟨g, made, -⟩ := exists_ofTable {} read inOrder known surfaces
  obtain ⟨os, accounts⟩ := isAccountedFor_iff_of_ofTable Surface.mem_all made
  obtain rfl := read_unique (accounts.imp fun _ _ h => h.1) read
  have named : ∀ r ∈ [privateRecord, absRecord, aliasRecord, unboundRecord],
      ¬ r.NamesNoVariant := by
    simp only [List.forall_mem_cons]
    refine ⟨?_, ?_, ?_, ?_, by simp⟩ <;> rintro ⟨spec, some, empty⟩ <;> cases some <;>
      revert empty <;> decide
  refine ⟨g, made, fun o mem => ?_⟩
  obtain ⟨r, hr, -, account⟩ := forall₂_mem_right accounts mem
  exact account.mpr fun lost => named r hr lost.2.2

/-- The record is lost: the run succeeds, and its operator is not accounted for. -/
theorem not_isAccountedFor_silent : ∃ g,
    (ofTable {} (pure [silentRecord])).outcome = .ok g ∧ (∀ b ∈ g.surfaces, b.bindings = []) ∧
      Operator.ofRecord silentRecord = .ok silentOperator ∧
      ¬ silentOperator.IsAccountedFor [silentOperator] g
        (ofTable {} (pure [silentRecord])).journal := by
  have built : Operator.ofRecord silentRecord = .ok silentOperator := by rfl
  have inScope : silentOperator.exclusion? = none := by rfl
  have known : ∀ o ∈ kept [silentOperator], o.IsRouted :=
    List.forall_mem_cons.mpr ⟨rfl, by simp⟩
  have surfaces : (Run.each (bindSurface .refuse (Routing.whole (kept [silentOperator])))
      Surface.all).outcome = .ok (Surface.all.map fun surface => ⟨surface, []⟩) := by rfl
  obtain ⟨g, made, bound, -⟩ := exists_ofTable {} (.cons built .nil) (by decide) known surfaces
  refine ⟨g, made, ?_, built, ?_⟩
  · rw [bound]
    simp
  · intro account
    cases account with
    | leftOut reason excluded =>
      rw [inScope] at excluded
      cases excluded
    | unbound _ module => rcases module with module | module <;> cases module
    | bound _ somewhere => exact somewhere rfl

end Generated

end OpBindings
