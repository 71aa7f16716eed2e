/-
OpBindings.Proofs.LoneWriters — refusing lone writers only takes runs away.

The policy for lone writers is asked in one place, where the families of a name
are settled. There the strict step makes what the lenient one makes, and counts
the same, exactly where the lenient one counts no lone writer: it *narrows* the
lenient step (`Run.Narrows`). Steps one after the other keep this, and so does
a step on each element of a list, so the strict run narrows the lenient one.
The statistics tell whether a lone writer was counted, and the policy shows
nowhere else in what is generated (`Generated.ofTable_refuse_iff`).
-/
import OpBindings.Proofs.Totals

namespace OpBindings

namespace Run

variable {α β : Type}

/-- The strict step makes what the lenient one makes, exactly where that counts
no lone writer. -/
def Narrows (strict lenient : Run α) : Prop :=
  ∀ ts a, strict.Makes ts a ↔ lenient.Makes ts a ∧ Tally.loneWriter ∉ ts

/-- A step that never counts a lone writer may stand on both sides. -/
theorem narrows_self {step : Run α} (never : ∀ ts a, step.Makes ts a → Tally.loneWriter ∉ ts) :
    step.Narrows step :=
  fun ts a => ⟨fun made => ⟨made, never ts a made⟩, And.left⟩

theorem narrows_pure (a : α) : (pure a : Run α).Narrows (pure a) :=
  narrows_self fun ts _ made => by simp [(makes_pure.mp made).2]

/-- **One step after the other** narrows where both do. -/
theorem Narrows.bind {strict lenient : Run α} {strictNext lenientNext : α → Run β}
    (first : strict.Narrows lenient) (next : ∀ a, (strictNext a).Narrows (lenientNext a)) :
    (strict >>= strictNext).Narrows (lenient >>= lenientNext) := by
  intro ts b
  simp only [makes_bind]
  constructor
  · intro h
    obtain ⟨a, t₁, t₂, made₁, made₂, rfl⟩ := h
    obtain ⟨made₁, none₁⟩ := (first t₁ a).mp made₁
    obtain ⟨made₂, none₂⟩ := (next a t₂ b).mp made₂
    exact ⟨⟨a, t₁, t₂, made₁, made₂, rfl⟩, List.not_mem_append none₁ none₂⟩
  · intro h
    obtain ⟨⟨a, t₁, t₂, made₁, made₂, rfl⟩, none⟩ := h
    obtain ⟨none₁, none₂⟩ := not_or.mp (fun mem => none (List.mem_append.mpr mem))
    exact ⟨a, t₁, t₂, (first t₁ a).mpr ⟨made₁, none₁⟩, (next a t₂ b).mpr ⟨made₂, none₂⟩, rfl⟩

theorem narrows_each {strict lenient : α → Run β} (one : ∀ a, (strict a).Narrows (lenient a))
    (as : List α) : (each strict as).Narrows (each lenient as) := by
  induction as with
  | nil => exact narrows_pure []
  | cons a as ih => exact (one a).bind fun _ => ih.bind fun _ => narrows_pure _

end Run

open Run

/-! ## A name -/

/-- Where lone writers are refused, families are settled that have none. -/
theorem OverloadFamily.narrows_settleLone (families : List OverloadFamily) :
    (settleLone .refuse families).Narrows (settleLone .accept families) := by
  intro ts u
  rw [makes_settleLone_refuse, makes_settleLone_accept]
  constructor
  · rintro ⟨none, rfl⟩
    simp [none]
  · rintro ⟨rfl, none⟩
    have zero : loneCount families = 0 := by
      by_contra some
      exact none (List.mem_replicate.mpr ⟨some, rfl⟩)
    simp [zero]

theorem OverloadFamily.narrows_ofOperators (name : String) (surface : Surface)
    (os : List Operator) :
    (ofOperators .refuse name surface os).Narrows (ofOperators .accept name surface os) := by
  refine Narrows.bind (narrows_self fun ts _ made => ?_) fun families =>
    (narrows_settleLone families).bind fun _ =>
      (narrows_self fun ts _ made => ?_).bind fun _ => narrows_pure _
  · simp [tallies_of_gather made]
  · simp [makes_note.mp made]

namespace Binding

theorem narrows_ofOperators (name : String) (surface : Surface) (os : List Operator) :
    (ofOperators .refuse name surface os).Narrows (ofOperators .accept name surface os) := by
  refine (OverloadFamily.narrows_ofOperators name surface os).bind fun families =>
    narrows_self fun ts b made => ?_
  rw [tallies_of_ofFamilies made]
  exact b.loneWriter_not_mem

end Binding

namespace Generated

/-! ## A run -/

theorem narrows_bindSurface (routing : Routing) (surface : Surface) :
    (bindSurface .refuse routing surface).Narrows (bindSurface .accept routing surface) :=
  (narrows_each (fun _ => Binding.narrows_ofOperators _ surface _) _).bind fun _ =>
    (narrows_self fun ts _ made => by simp [makes_note.mp made]).bind fun _ => narrows_pure _

/-- **Refusing lone writers is accepting them where there are none.** A run that
refuses them succeeds with what a run that accepts them succeeds with, exactly
where the statistics of that count no lone writer. -/
theorem ofTable_refuse_iff (settings : Settings) (rs : List Record) (g : Generated) :
    (ofTable { settings with loneWriter := .refuse } (pure rs)).outcome = .ok g ↔
      (ofTable { settings with loneWriter := .accept } (pure rs)).outcome = .ok g ∧
        g.statistics.loneWriters = 0 := by
  have none : ∀ os rest,
      Tally.loneWriter ∉ (Tally.loaded os.length :: excludedTallies (sorted os)) ++
        (Routing.tallies (kept (sorted os)) ++ rest) ↔ Tally.loneWriter ∉ rest := by
    intro os rest
    simp [excludedTallies, Routing.tallies]
  simp only [ofTable_eq_ok, makes_boundSurfaces]
  constructor
  · rintro ⟨ts, bound, ⟨os, rest, read, known, surfaces, rfl⟩, rfl⟩
    obtain ⟨surfaces, lone⟩ :=
      (narrows_each (narrows_bindSurface _) settings.surfaces rest bound).mp surfaces
    refine ⟨⟨_, bound, ⟨os, rest, read, known, surfaces, rfl⟩, rfl⟩, ?_⟩
    rw [Statistics.loneWriters_ofTallies]
    exact List.count_eq_zero.mpr ((none os rest).mpr lone)
  · rintro ⟨⟨ts, bound, ⟨os, rest, read, known, surfaces, rfl⟩, rfl⟩, zero⟩
    rw [Statistics.loneWriters_ofTallies] at zero
    have lone := (none os rest).mp (List.count_eq_zero.mp zero)
    have surfaces :=
      (narrows_each (narrows_bindSurface _) settings.surfaces rest bound).mpr ⟨surfaces, lone⟩
    exact ⟨_, bound, ⟨os, rest, read, known, surfaces, rfl⟩, rfl⟩

end Generated

end OpBindings
