/-
OpBindings.Proofs.Counting — what a step that succeeded counted.

`Run.Makes step tallies value` says of a step that it succeeds with the value
and what it counts, in order. It is told step by step: of two steps one after
the other the tallies are appended (`makes_bind`). The notes are left out: the
statistics do not depend on them.
-/
import OpBindings.Proofs.Outcome

namespace OpBindings

variable {α β : Type}

namespace Journal

theorem tallies_append (j k : Journal) :
    Journal.tallies (j ++ k) = j.tallies ++ k.tallies := List.filterMap_append

end Journal

namespace Run

/-- The step succeeds with `a` and counts `tallies`. -/
def Makes (step : Run α) (tallies : List Tally) (a : α) : Prop :=
  step.outcome = .ok a ∧ step.journal.tallies = tallies

variable {step : Run α} {next : α → Run β} {a : α} {b : β} {ts : List Tally}

/-- A step succeeds with one value and counts one list. -/
theorem Makes.unique {ts' : List Tally} {a' : α} (h : step.Makes ts a) (h' : step.Makes ts' a') :
    ts = ts' ∧ a = a' := by
  obtain ⟨made, counted⟩ := h
  obtain ⟨made', counted'⟩ := h'
  rw [made] at made'
  cases made'
  exact ⟨counted.symm.trans counted', rfl⟩

theorem exists_makes_iff : step.outcome = .ok a ↔ ∃ ts, step.Makes ts a := by
  constructor
  · intro made
    exact ⟨_, made, rfl⟩
  · intro h
    obtain ⟨ts, made, -⟩ := h
    exact made

/-- Two steps count what the first counts, and then what the second counts. -/
theorem makes_bind : (step >>= next).Makes ts b ↔
    ∃ a t₁ t₂, step.Makes t₁ a ∧ (next a).Makes t₂ b ∧ ts = t₁ ++ t₂ := by
  unfold Makes
  cases made : step.outcome with
  | error f => simp [bind_of_error made]
  | ok a =>
    rw [bind_of_ok made]
    simp only [Journal.tallies_append]
    constructor
    · intro h
      obtain ⟨made', rfl⟩ := h
      exact ⟨a, _, _, ⟨rfl, rfl⟩, ⟨made', rfl⟩, rfl⟩
    · intro h
      obtain ⟨a', _, _, ⟨same, rfl⟩, ⟨made', rfl⟩, rfl⟩ := h
      cases same
      exact ⟨made', rfl⟩

@[simp] theorem makes_pure {a' : α} : (pure a : Run α).Makes ts a' ↔ a = a' ∧ ts = [] := by
  simp [Makes, Journal.tallies, eq_comm]

@[simp] theorem makes_lift {outcome : Except Fault α} :
    (lift outcome).Makes ts a ↔ outcome = .ok a ∧ ts = [] := by
  simp [Makes, lift, Journal.tallies, eq_comm]

@[simp] theorem makes_tally {t : Tally} {u : Unit} : (tally t).Makes ts u ↔ ts = [t] := by
  simp [Makes, tally, Journal.tallies, eq_comm]

@[simp] theorem makes_note {n : Note} {u : Unit} : (note n).Makes ts u ↔ ts = [] := by
  simp [Makes, note, Journal.tallies, eq_comm]

/-- A step that counts nothing can be passed over. -/
theorem makes_note_bind {n : Note} {after : Run β} :
    (note n >>= fun _ => after).Makes ts b ↔ after.Makes ts b := by
  rw [makes_bind]
  simp

theorem makes_tally_bind {t : Tally} {after : Run β} :
    (tally t >>= fun _ => after).Makes ts b ↔ ∃ rest, after.Makes rest b ∧ ts = t :: rest := by
  rw [makes_bind]
  simp

theorem makes_lift_bind {outcome : Except Fault α} :
    (lift outcome >>= next).Makes ts b ↔ ∃ a, outcome = .ok a ∧ (next a).Makes ts b := by
  rw [makes_bind]
  simp

/-- A step on each element that always succeeds, and counts what `count` says. -/
theorem makes_each {step : α → Run β} {value : α → β} {count : α → List Tally} {as : List α}
    (h : ∀ a ∈ as, (step a).Makes (count a) (value a)) :
    (each step as).Makes (as.flatMap count) (as.map value) := by
  induction as with
  | nil => exact makes_pure.mpr ⟨rfl, rfl⟩
  | cons a as ih =>
    have head := h a List.mem_cons_self
    have tail := ih fun x hx => h x (List.mem_cons_of_mem a hx)
    refine makes_bind.mpr ⟨_, _, _, head, makes_bind.mpr ⟨_, _, _, tail, makes_pure.mpr ⟨rfl, rfl⟩, rfl⟩, ?_⟩
    rw [List.flatMap_cons, List.append_nil]

/-- A step on each element, where each value shows what was counted for it. -/
theorem tallies_of_each {step : α → Run β} {count : β → List Tally} {as : List α} {bs : List β}
    (one : ∀ a ∈ as, ∀ ts b, (step a).Makes ts b → ts = count b)
    (made : (each step as).Makes ts bs) : ts = bs.flatMap count := by
  induction as generalizing ts bs with
  | nil =>
    obtain ⟨rfl, rfl⟩ := makes_pure.mp made
    rfl
  | cons a as ih =>
    obtain ⟨b, t₁, t₂, head, made₂, rfl⟩ := makes_bind.mp made
    obtain ⟨rest, t₃, t₄, tail, made₄, rfl⟩ := makes_bind.mp made₂
    obtain ⟨rfl, rfl⟩ := makes_pure.mp made₄
    rw [one a List.mem_cons_self t₁ b head,
      ih (fun x mem => one x (List.mem_cons_of_mem a mem)) tail, List.flatMap_cons, List.append_nil]

end Run

end OpBindings
