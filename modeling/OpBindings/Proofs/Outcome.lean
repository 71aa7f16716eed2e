/-
OpBindings.Proofs.Outcome — what a step that succeeded did.

Every stage is written with `do`, in `Except` where it only has an outcome
and in `Run` where it also leaves a journal. The lemmas here peel one step
off a computation that succeeded: `bind_eq_ok` for the first kind,
`Run.outcome_bind` and `Run.outcome_each` for the second. A step on each
element of a list relates the two lists one for one.
-/
import Mathlib.Data.List.Forall2
import OpBindings.Run

namespace OpBindings

variable {ε ε' α β : Type}

/-! ## Two lists, one for one -/

/-- What stands at a place of one list is related to what stands there in the other. -/
theorem forall₂_getElem? {R : α → β → Prop} {as : List α} {bs : List β} (h : List.Forall₂ R as bs)
    {i : Nat} {a : α} (ha : as[i]? = some a) : ∃ b, bs[i]? = some b ∧ R a b := by
  induction h generalizing i with
  | nil => cases ha
  | cons head _ ih =>
    cases i with
    | zero =>
      cases ha
      exact ⟨_, rfl, head⟩
    | succ i => exact ih ha

theorem forall₂_mem_left {R : α → β → Prop} {as : List α} {bs : List β} (h : List.Forall₂ R as bs)
    {a : α} (ha : a ∈ as) : ∃ b ∈ bs, R a b := by
  obtain ⟨i, hi⟩ := List.mem_iff_getElem?.mp ha
  obtain ⟨b, hb, related⟩ := forall₂_getElem? h hi
  exact ⟨b, List.mem_of_getElem? hb, related⟩

theorem forall₂_mem_right {R : α → β → Prop} {as : List α} {bs : List β} (h : List.Forall₂ R as bs)
    {b : β} (hb : b ∈ bs) : ∃ a ∈ as, R a b :=
  forall₂_mem_left (R := fun b a => R a b) h.flip hb

/-- What is related to a list in two parts is in two parts itself. -/
theorem forall₂_append_left {R : α → β → Prop} {as as' : List α} {bs : List β}
    (h : List.Forall₂ R (as ++ as') bs) :
    ∃ before after, bs = before ++ after ∧ List.Forall₂ R as before ∧ List.Forall₂ R as' after := by
  induction as generalizing bs with
  | nil => exact ⟨[], bs, rfl, .nil, h⟩
  | cons a as ih =>
    obtain ⟨b, rest, head, tail, rfl⟩ := List.forall₂_cons_left_iff.mp h
    obtain ⟨before, after, rfl, left, right⟩ := ih tail
    exact ⟨b :: before, after, rfl, .cons head left, right⟩

/-! ## Outcomes alone -/

/-- A computation in two steps succeeds when both do. -/
theorem bind_eq_ok {first : Except ε α} {next : α → Except ε β} {b : β} :
    (first >>= next) = .ok b ↔ ∃ a, first = .ok a ∧ next a = .ok b := by
  cases first with
  | error e => simp [bind, Except.bind]
  | ok a => simp [bind, Except.bind]

/-- A list that is made from an element and the rest. -/
theorem cons_eq_ok {first : Except ε α} {rest : Except ε (List α)} {as : List α} :
    (do let a ← first; let tail ← rest; .ok (a :: tail)) = .ok as ↔
      ∃ a tail, first = .ok a ∧ rest = .ok tail ∧ as = a :: tail := by
  simp only [bind_eq_ok, Except.ok.injEq]
  constructor
  · intro h
    obtain ⟨a, ha, tail, htail, rfl⟩ := h
    exact ⟨a, tail, ha, htail, rfl⟩
  · intro h
    obtain ⟨a, tail, ha, htail, rfl⟩ := h
    exact ⟨a, ha, tail, htail, rfl⟩

theorem mapError_eq_ok {change : ε → ε'} {outcome : Except ε α} {a : α} :
    outcome.mapError change = .ok a ↔ outcome = .ok a := by
  cases outcome <;> simp [Except.mapError]

namespace Run

/-! ## Outcomes with a journal -/

/-- A run in two steps succeeds when both do. -/
theorem outcome_bind {step : Run α} {next : α → Run β} {b : β} :
    (step >>= next).outcome = .ok b ↔ ∃ a, step.outcome = .ok a ∧ (next a).outcome = .ok b := by
  cases h : step.outcome with
  | error f => simp [bind_of_error h]
  | ok a => simp [bind_of_ok h]

@[simp] theorem outcome_lift (outcome : Except Fault α) : (lift outcome).outcome = outcome := rfl

@[simp] theorem outcome_tally (t : Tally) : (tally t).outcome = .ok () := rfl

@[simp] theorem outcome_note (n : Note) : (note n).outcome = .ok () := rfl

/-- The same step on each element succeeds when each of the steps does. -/
theorem outcome_each {step : α → Run β} {as : List α} {bs : List β} :
    (each step as).outcome = .ok bs ↔
      List.Forall₂ (fun a b => (step a).outcome = .ok b) as bs := by
  induction as generalizing bs with
  | nil => simp [each, ok, eq_comm]
  | cons a as ih =>
    simp only [each, outcome_bind, ih, List.forall₂_cons_left_iff]
    constructor
    · intro h
      obtain ⟨b, hb, rest, hrest, h⟩ := h
      cases h
      exact ⟨b, rest, hb, hrest, rfl⟩
    · intro h
      obtain ⟨b, rest, hb, hrest, rfl⟩ := h
      exact ⟨b, hb, rest, hrest, rfl⟩

end Run

end OpBindings
