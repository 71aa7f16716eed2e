/-
OpBindings.Run — a step of a generation run.

A step leaves a journal whatever comes of it, and then a value or a fault. A
fault ends the run; the journal up to it is kept.
-/
import OpBindings.Journal

namespace OpBindings

/-- A step: what it did, and what came of it. -/
structure Run (α : Type) where
  journal : Journal
  outcome : Except Fault α

namespace Run

variable {α β : Type}

/-- A step that does nothing. -/
def ok (a : α) : Run α := ⟨[], .ok a⟩

/-- A step that fails. -/
def fail (f : Fault) : Run α := ⟨[], .error f⟩

/-- One step after the other; the second is left out after a fault. -/
def andThen (step : Run α) (next : α → Run β) : Run β :=
  match step.outcome with
  | .error f => ⟨step.journal, .error f⟩
  | .ok a => ⟨step.journal ++ (next a).journal, (next a).outcome⟩

instance : Monad Run where
  pure := ok
  bind := andThen

/-- Steps can be regrouped, and a step that does nothing can be left out. -/
instance : LawfulMonad Run :=
  LawfulMonad.mk' Run
    (fun step => by
      obtain ⟨journal, outcome⟩ := step
      cases outcome <;> simp [Functor.map, andThen, ok])
    (fun _ _ => by simp [bind, pure, andThen, ok])
    (fun first _ _ => by
      simp only [bind, andThen]
      cases first.outcome with
      | error _ => rfl
      | ok a =>
        simp only
        split <;> simp [List.append_assoc, *])

/-- A step that only has an outcome. -/
def lift (outcome : Except Fault α) : Run α := ⟨[], outcome⟩

/-- Counts one thing. -/
def tally (t : Tally) : Run Unit := ⟨[.tally t], .ok ()⟩

/-- Writes one note. -/
def note (n : Note) : Run Unit := ⟨[.note n], .ok ()⟩

/-- The same step on each element in turn. -/
def each (step : α → Run β) : List α → Run (List β)
  | [] => ok []
  | a :: as => do
    let b ← step a
    let bs ← each step as
    ok (b :: bs)

@[simp] theorem journal_pure (a : α) : (pure a : Run α).journal = [] := rfl

@[simp] theorem outcome_pure (a : α) : (pure a : Run α).outcome = .ok a := rfl

theorem bind_of_ok {step : Run α} {a : α} (h : step.outcome = .ok a) (next : α → Run β) :
    (step >>= next) = ⟨step.journal ++ (next a).journal, (next a).outcome⟩ := by
  simp only [bind, andThen, h]

theorem bind_of_error {step : Run α} {f : Fault} (h : step.outcome = .error f)
    (next : α → Run β) : (step >>= next) = ⟨step.journal, .error f⟩ := by
  simp only [bind, andThen, h]

end Run

end OpBindings
