/-
OpBindings.Proofs.Strict.Run — a run that stops at nothing.

The whole run is written once more with the strict operations of `Strict`: outputs
are cut out of the parameters, positions are read by number, groups begin without
members, and code is laid out as soon as it is planned. Such a run has one way to end
that the run of a table has not: it may stop. It never does, whatever the table and
the settings are, and makes what the run of the table makes (`ofTable_answers`). Each
stage hands on what the one before it makes, so its equation is all that is needed.

Records are read and operators chosen by functions on whole texts and lists, which
have an answer for each; these stages are not written again.
-/
import OpBindings.Generated
import OpBindings.Proofs.Strict.Code
import OpBindings.Proofs.Strict.Family

namespace OpBindings.Strict

variable {α β : Type}

/-! ## The stages -/

/-- The same step on each element in turn. -/
def each (step : α → Step β) : List α → Step (List β)
  | [] => pure []
  | a :: as => do
    let b ← step a
    let bs ← each step as
    pure (b :: bs)

/-- The selection of an arm; one alone is taken out of the list by its number. -/
def selection (arms : List Arm) : Option Selection :=
  if arms.length = 1 then do
    let only ← arms[0]?
    some (.sole only.call)
  else some (.byIndex (arms.map (·.call)))

def function (b : Binding) : Option BoundFunction := do
  let selection ← selection b.arms
  let text ← text { b.plan with selection }
  some { name := b.name, symbol := b.symbol, text }

/-- The binding of one base name, and its function. -/
def bindName (policy : LoneWriter) (name : String) (surface : Surface) (members : List Operator) :
    Step (Binding × BoundFunction) := do
  let groups ← ofOperators policy name surface members
  let arms ← each (arm surface) groups
  Step.sure (Run.tally (.named surface groups.length))
  let b : Binding := { name, surface, arms }
  let f ← Step.ask (function b)
  pure (b, f)

/-- The bindings of one surface, and its unit. -/
def bindSurface (settings : Settings) (routing : Routing) (surface : Surface) :
    Step (BoundSurface × BindingUnit) := do
  let bound ← each (fun (name, members) => bindName settings.loneWriter name surface members)
    (byBaseName (routing.on surface))
  Step.sure (Run.note (.generated bound.length surface))
  pure ({ surface, bindings := bound.map Prod.fst },
    .ofFunctions surface (bound.map Prod.snd) settings)

/-- The bindings and the unit of every chosen surface. -/
def bindSurfaces (settings : Settings) (table : Run (List Record)) :
    Step (List (BoundSurface × BindingUnit)) := do
  let records ← Step.sure table
  let operators ← Step.sure (Operator.load records)
  Step.sure (Run.tally (.loaded operators.length))
  let operators ← Step.sure (inScope operators)
  let routing ← Step.sure (Routing.ofOperators operators)
  each (bindSurface settings routing) settings.surfaces

/-- A whole run over a table. -/
def ofTable (settings : Settings) (table : Run (List Record)) : Step Generated :=
  let made := bindSurfaces settings table
  let statistics := made.run.journal.statistics
  do
    let bound ← made
    Step.sure (Run.note (.finished statistics.text))
    pure { surfaces := bound.map Prod.fst, units := bound.map Prod.snd, statistics }

/-! ## They do not stop -/

theorem each_eq {γ : Type} {step : α → Step γ} {total : α → Run β} {f : β → γ}
    (h : ∀ a, step a = Step.sure (f <$> total a)) (as : List α) :
    each step as = Step.sure (List.map f <$> Run.each total as) := by
  induction as with
  | nil => rfl
  | cons a as ih =>
    have last (b : β) (bs : List β) : Run.ok (b :: bs) = pure (b :: bs) := rfl
    simp [each, Run.each, h, ih, last]

theorem each_map {γ : Type} (step : β → Step γ) (f : α → β) (as : List α) :
    each step (as.map f) = each (step ∘ f) as := by
  induction as with
  | nil => rfl
  | cons a as ih => simp [each, ih]

theorem selection_eq (b : Binding) : selection b.arms = some b.selection := by
  unfold selection Binding.selection
  split
  · rename_i alone
    obtain ⟨only, arms⟩ := List.length_eq_one_iff.mp alone
    simp [arms]
  · rename_i several
    split
    · rename_i arms
      exact absurd (by rw [arms]; rfl) several
    · rfl

theorem function_eq (b : Binding) : function b = some b.function := by
  rw [function, selection_eq]
  simp only [Option.bind_eq_bind, Option.bind_some, text_eq]
  rfl

theorem bindName_eq (policy : LoneWriter) (name : String) (surface : Surface)
    (members : List Operator) : bindName policy name surface members =
      Step.sure ((fun b => (b, b.function)) <$>
        Binding.ofOperators policy name surface members) := by
  have arms (families : List OverloadFamily) :
      each (arm surface) (families.map Group.ofFamily) =
        Step.sure (List.map id <$> Run.each (Binding.arm surface) families) := by
    rw [each_map]
    exact each_eq (fun f => by simp [arm_eq]) families
  simp [bindName, ofOperators_eq, arms, function_eq, Binding.ofOperators, Binding.ofFamilies]

theorem bindSurface_eq (settings : Settings) (routing : Routing) (surface : Surface) :
    bindSurface settings routing surface =
      Step.sure ((fun b => (b, b.unit settings)) <$>
        Generated.bindSurface settings.loneWriter routing surface) := by
  have bound := each_eq (fun named : String × List Operator =>
    bindName_eq settings.loneWriter named.1 surface named.2) (byBaseName (routing.on surface))
  simp [bindSurface, bound, Generated.bindSurface, Binding.byName, BoundSurface.unit,
    Function.comp_def]

theorem bindSurfaces_eq (settings : Settings) (table : Run (List Record)) :
    bindSurfaces settings table =
      Step.sure (List.map (fun b => (b, b.unit settings)) <$>
        Generated.boundSurfaces settings table) := by
  have bound (routing : Routing) :=
    each_eq (bindSurface_eq settings routing) settings.surfaces
  simp [bindSurfaces, bound, Generated.boundSurfaces]

theorem Step.run_sure (step : Run α) : (Step.sure step).run = some <$> step := rfl

theorem journal_map (f : α → β) (step : Run α) : (f <$> step).journal = step.journal := by
  cases made : step.outcome with
  | ok a => simp [map_eq_pure_bind, Run.bind_of_ok made]
  | error f => simp [map_eq_pure_bind, Run.bind_of_error made]

theorem ofTable_eq (settings : Settings) (table : Run (List Record)) :
    ofTable settings table = Step.sure (Generated.ofTable settings table) := by
  have statistics : (bindSurfaces settings table).run.journal =
      (Generated.boundSurfaces settings table).journal := by
    rw [bindSurfaces_eq, Step.run_sure, journal_map, journal_map]
  simp only [ofTable, Generated.ofTable, statistics]
  simp [bindSurfaces_eq, Function.comp_def]

/-- **A run stops at nothing**: it makes what the run of the table makes, which is
either the generated files or a fault. -/
theorem ofTable_answers (settings : Settings) (table : Run (List Record)) :
    (ofTable settings table).run = some <$> Generated.ofTable settings table ∧
      ((∃ g, (ofTable settings table).run.outcome = .ok (some g)) ∨
        ∃ f, (ofTable settings table).run.outcome = .error f) := by
  have answers : (ofTable settings table).run = some <$> Generated.ofTable settings table := by
    rw [ofTable_eq, Step.run_sure]
  refine ⟨answers, ?_⟩
  rw [answers, map_eq_pure_bind]
  cases made : (Generated.ofTable settings table).outcome with
  | ok g => exact .inl ⟨g, by simp [Run.bind_of_ok made]⟩
  | error f => exact .inr ⟨f, by simp [Run.bind_of_error made]⟩

end OpBindings.Strict
