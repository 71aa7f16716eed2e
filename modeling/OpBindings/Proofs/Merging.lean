/-
OpBindings.Proofs.Merging — operators that are put together are alike.

Overloads are gathered by a text. The main statement says that this is sound:
whatever brackets, quotes and commas stand in the defaults, equal texts come
from equal names and equal lists, so the members of a family differ in nothing
but their outputs, nor does an operator that was ignored for one of them.
-/
import OpBindings.Proofs.Ledger

namespace OpBindings

/-- The signatures of two operators show the same of their parameters, place by place. -/
def Operator.ShowsSame (surface : Surface) (outputs : Outputs) (o w : Operator) : Prop :=
  (o.slots surface outputs).map (·.param.face) = (w.slots surface outputs).map (·.param.face)

instance (surface : Surface) (outputs : Outputs) (o w : Operator) :
    Decidable (o.ShowsSame surface outputs w) := inferInstanceAs (Decidable (_ = _))

/-- **The text of a signature says which list it shows.** Two operators with
plain alias annotations whose signatures on a surface have the same text have
the same base name and show the same list. So the members of a family agree in
everything but their outputs, and so do all operators that the family takes. -/
theorem showsSame_of_text_eq {r₁ r₂ : Record} {o₁ o₂ : Operator}
    (built₁ : Operator.ofRecord r₁ = .ok o₁) (built₂ : Operator.ofRecord r₂ = .ok o₂)
    (plain₁ : o₁.HasPlainAliases) (plain₂ : o₂.HasPlainAliases) (surface : Surface) :
    (∀ outputs s₁ s₂, o₁.signature surface outputs = .ok s₁ →
      o₂.signature surface outputs = .ok s₂ → s₁.text = s₂.text →
      o₁.baseName = o₂.baseName ∧ o₁.ShowsSame surface outputs o₂) ∧
    (∀ policy name os families,
      (OverloadFamily.ofOperators policy name surface os).outcome = .ok families →
      ∀ f ∈ families,
        (o₁ ∈ f.members.operators → o₂ ∈ f.members.operators →
          o₁.baseName = o₂.baseName ∧ o₁.ShowsSame surface .elided o₂) ∧
        (f.Takes surface os o₁ → f.Takes surface os o₂ →
          o₁.baseName = o₂.baseName ∧ o₁.ShowsSame surface .elided o₂)) := by
  have texts : ∀ outputs s₁ s₂, o₁.signature surface outputs = .ok s₁ →
      o₂.signature surface outputs = .ok s₂ → s₁.text = s₂.text →
      o₁.baseName = o₂.baseName ∧ o₁.ShowsSame surface outputs o₂ := by
    intro outputs s₁ s₂ h₁ h₂ same
    obtain ⟨names, faces⟩ := Operator.faces_eq_of_text_eq built₁ built₂ plain₁ plain₂ h₁ h₂ same
    rw [← o₁.map_param_slots, ← o₂.map_param_slots, List.map_map, List.map_map] at faces
    exact ⟨names, faces⟩
  refine ⟨texts, ?_⟩
  intro policy name os families gathered f hf
  have taken : f.Takes surface os o₁ → f.Takes surface os o₂ →
      o₁.baseName = o₂.baseName ∧ o₁.ShowsSame surface .elided o₂ := by
    rintro ⟨-, s₁, h₁, key₁⟩ ⟨-, s₂, h₂, key₂⟩
    exact texts .elided s₁ s₂ h₁ h₂ (key₁.trans key₂.symm)
  -- the invariant of gathering gives the members the key of their family
  have takes : ∀ o ∈ f.members.operators, f.Takes surface os o := fun o mem =>
    (OverloadFamily.isOf_of_ofOperators gathered f hf).takes
      (OverloadFamily.mem_operators_iff.mp mem)
  exact ⟨fun mem₁ mem₂ => taken (takes o₁ mem₁) (takes o₂ mem₂), taken⟩

/-- A plain operator with commas and closing marks in its defaults. -/
def pad : Operator where
  name := "pad.a"
  text := "pad.a(Tensor self, *, str mode=\"a, b)\", int[2] size=[0, 0]) -> Tensor"
  params := [
    ⟨"self", "Tensor", false, none, none, false, none⟩,
    ⟨"mode", "str", false, some "\"a, b)\"", none, true, none⟩,
    ⟨"size", "int[2]", false, some "[0, 0]", none, true, some 2⟩]
  results := [⟨none, "Tensor", none⟩]
  calls := { function := true }
  moduleTag := none

/-- Its writer, with another name for the first input and the output between the others. -/
def padOut : Operator where
  name := "pad.out"
  text := "pad.out(Tensor input, *, str mode=\"a, b)\", Tensor(a!) out, int[2] size=[0, 0]) -> Tensor(a!)"
  params := [
    ⟨"input", "Tensor", false, none, none, false, none⟩,
    ⟨"mode", "str", false, some "\"a, b)\"", none, true, none⟩,
    ⟨"out", "Tensor", false, none, some "a!", true, none⟩,
    ⟨"size", "int[2]", false, some "[0, 0]", none, true, some 2⟩]
  results := [⟨none, "Tensor", some "a!"⟩]
  calls := { function := true }
  moduleTag := none

/-- The text by which they belong together. -/
def padKey : String :=
  "pad(Tensor input, *, std::string mode=\"a, b)\", IntArrayRef[2] size=[0, 0])"

theorem showsSame_pad :
    (∃ f : OverloadFamily, f.members = .both pad padOut ∧ f.Takes .torch [pad, padOut] pad ∧
      f.Takes .torch [pad, padOut] padOut) ∧
    pad.baseName = padOut.baseName ∧ pad.ShowsSame .torch .elided padOut := by
  have built : Operator.ofRecord { declaration := pad.text } = .ok pad := by rfl
  have builtOut : Operator.ofRecord { declaration := padOut.text } = .ok padOut := by rfl
  have plain : pad.HasPlainAliases := by simp [Operator.HasPlainAliases, pad, Param.HasPlainAlias]
  have plainOut : padOut.HasPlainAliases := by
    simp [Operator.HasPlainAliases, padOut, Param.HasPlainAlias, Declaration.NoQuote]
  have key : pad.signature .torch .elided = .ok ⟨padKey, 3⟩ := by rfl
  have keyOut : padOut.signature .torch .elided = .ok ⟨padKey, 3⟩ := by rfl
  obtain ⟨signature, gathered⟩ : ∃ signature,
      (OverloadFamily.ofOperators .refuse "pad" .torch [pad, padOut]).outcome =
        .ok [⟨padKey, signature, .both pad padOut⟩] := ⟨_, by rfl⟩
  have agree := (showsSame_of_text_eq built builtOut plain plainOut .torch).2 _ _ _ _ gathered
    ⟨padKey, signature, .both pad padOut⟩ List.mem_cons_self
  refine ⟨⟨⟨padKey, signature, .both pad padOut⟩, rfl, ⟨by simp, _, key, rfl⟩,
    ⟨by simp, _, keyOut, rfl⟩⟩, ?_⟩
  exact agree.1 (by simp [Members.operators]) (by simp [Members.operators])

end OpBindings
