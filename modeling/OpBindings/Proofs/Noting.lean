/-
OpBindings.Proofs.Noting — where the notes of a run come from.

A journal only grows: what a step noted stands, in order, in the journal of
every run that the step is part of. `Run.NotedIn step j` says so of one step.
It is told from the whole to the parts: where a run in several steps succeeds
and is noted in `j`, each of its steps is (`notedIn_bind`, `notedIn_each`).
-/
import OpBindings.Proofs.Outcome

namespace OpBindings

variable {α β : Type}

namespace Journal

theorem notes_append (j k : Journal) : Journal.notes (j ++ k) = j.notes ++ k.notes :=
  List.filterMap_append

end Journal

namespace Run

/-- The notes of the step stand in the journal, in their order. -/
def NotedIn (step : Run α) (j : Journal) : Prop := step.journal.notes.Sublist j.notes

variable {step : Run α} {next : α → Run β} {a : α} {j : Journal}

theorem notedIn_self (step : Run α) : step.NotedIn step.journal := List.Sublist.refl _

/-- Two steps note what the first notes, and then what the second notes. -/
theorem notes_bind (made : step.outcome = .ok a) :
    (step >>= next).journal.notes = step.journal.notes ++ (next a).journal.notes := by
  rw [bind_of_ok made]
  exact Journal.notes_append _ _

/-- What is made of a step's result notes nothing. -/
theorem notes_bind_pure (step : Run α) (make : α → β) :
    (step >>= fun a => pure (make a)).journal.notes = step.journal.notes := by
  cases made : step.outcome with
  | error f => rw [bind_of_error made]
  | ok a =>
    rw [notes_bind made]
    exact List.append_nil _

theorem notedIn_bind (made : step.outcome = .ok a) (h : (step >>= next).NotedIn j) :
    step.NotedIn j ∧ (next a).NotedIn j := by
  rw [NotedIn, notes_bind made] at h
  exact ⟨(List.sublist_append_left _ _).trans h, (List.sublist_append_right _ _).trans h⟩

theorem notedIn_each {step : α → Run β} {as : List α} {bs : List β}
    (made : (each step as).outcome = .ok bs) (h : (each step as).NotedIn j) :
    ∀ a ∈ as, (step a).NotedIn j := by
  induction as generalizing bs with
  | nil => simp
  | cons a as ih =>
    obtain ⟨b, hb, made⟩ := outcome_bind.mp made
    obtain ⟨rest, hrest, -⟩ := outcome_bind.mp made
    obtain ⟨head, tail⟩ := notedIn_bind hb h
    exact List.forall_mem_cons.mpr ⟨head, ih hrest (notedIn_bind hrest tail).1⟩

end Run

end OpBindings
