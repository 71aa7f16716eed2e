/-
OpBindings.Proofs.Strict.Layout — layouts by operations that may have no answer.

The functions that run make do where a list is too short: they take what there is.
A strict one has no answer there. `Strict.slice`, `Strict.drain` and `Strict.insert`
are the operations on lists, and the layouts and signatures are written with them
once more, as steps that may stop (`Strict.Step`). The span of the outputs is never
empty and ends within the parameters (`Operator.outSpan?_bounds`), so they do not stop and
say what the functions that run say (`slots_eq`, `signature_eq`).
-/
import OpBindings.Proofs.ArgumentLayout
import OpBindings.Run
import OpBindings.Signature

namespace OpBindings

theorem Run.lift_bind {α β : Type} (first : Except Fault α) (next : α → Except Fault β) :
    Run.lift (first >>= next) = Run.lift first >>= fun a => Run.lift (next a) := by
  cases first <;> rfl

namespace Strict

variable {α β : Type}

/-! ## Steps that may stop -/

/-- A step that may stop where it asks for what is not there. -/
abbrev Step := OptionT Run

namespace Step

/-- A step that does not stop. -/
def sure (step : Run α) : Step α := OptionT.lift step

/-- Goes on with an answer, and stops without one. -/
def ask (answer : Option α) : Step α := OptionT.mk (pure answer)

@[simp] theorem ask_some (a : α) : ask (some a) = pure a := rfl

@[simp] theorem sure_pure (a : α) : sure (pure a) = pure a := rfl

@[simp] theorem sure_bind (step : Run α) (next : α → Run β) :
    sure (step >>= next) = sure step >>= fun a => sure (next a) := by
  apply OptionT.ext
  simp [sure, OptionT.run_bind, Option.elimM]

@[simp] theorem sure_map (f : α → β) (step : Run α) : sure (f <$> step) = f <$> sure step := by
  rw [map_eq_pure_bind, sure_bind, map_eq_pure_bind]
  rfl

end Step

/-! ## Lists -/

/-- The entries from `start` up to `stop`, of which there are some. -/
def slice (start stop : Nat) (as : List α) : Option (List α) :=
  if start < stop ∧ stop ≤ as.length then some ((as.take stop).drop start) else none

/-- The list without the entries from `start` up to `stop`, of which there are some. -/
def drain (start stop : Nat) (as : List α) : Option (List α) :=
  if start < stop ∧ stop ≤ as.length then some (as.take start ++ as.drop stop) else none

/-- The list with one more entry at `place`. -/
def insert (place : Nat) (a : α) (as : List α) : Option (List α) :=
  if place ≤ as.length then some (as.take place ++ a :: as.drop place) else none

/-! ## Layouts -/

variable {o : Operator} {surface : Surface} {outputs : Outputs}

def outputParams (o : Operator) : Option (List Param) :=
  match o.outSpan? with
  | none => some []
  | some (first, last) => slice first last o.params

def packsOutputs (o : Operator) : Option Bool :=
  if o.hasOutputs && 1 < o.results.length then do
    let outputs ← outputParams o
    some (outputs.all (·.type == "Tensor") && o.results.all (·.type == "Tensor"))
  else some false

/-- Deletes the outputs, and puts the pack in their place where there is one. -/
def shownParams (o : Operator) (outputs : Outputs) : Option (List Param) :=
  match o.outSpan? with
  | none => some o.params
  | some (first, last) =>
    match outputs with
    | .elided => drain first last o.params
    | .kept => do
      if ← packsOutputs o then
        let rest ← drain first last o.params
        insert first (packedParam (last - first)) rest
      else some o.params

def orderedParams (o : Operator) (surface : Surface) (outputs : Outputs) :
    Option (List Param) := do
  let shown ← shownParams o outputs
  let passed := shown.filter (!Operator.isReceiver surface ·)
  some (passed.filter (!·.keywordOnly) ++ passed.filter (·.keywordOnly))

def slots (o : Operator) (surface : Surface) (outputs : Outputs) : Option (List Slot) := do
  let params ← orderedParams o surface outputs
  some (params.zipIdx.map fun (param, position) => { param, position })

def signature (o : Operator) (surface : Surface) (outputs : Outputs) : Step Signature := do
  let params ← Step.ask (orderedParams o surface outputs)
  let items ← Step.sure (Run.lift (o.signatureItems false params))
  pure { text := o.baseName ++ "(" ++ ", ".intercalate items ++ ")", arity := params.length }

/-! ## They do not stop -/

/-- **The span of the outputs can be cut out.** -/
theorem outputParams_eq (o : Operator) : outputParams o = some o.outputParams := by
  unfold outputParams Operator.outputParams
  cases span : o.outSpan? with
  | none => rfl
  | some ends => exact if_pos (Operator.outSpan?_bounds span)

theorem packsOutputs_eq (o : Operator) : packsOutputs o = some o.packsOutputs := by
  unfold packsOutputs Operator.packsOutputs
  rw [outputParams_eq]
  split
  · rename_i several
    simp only [Bool.and_eq_true, decide_eq_true_eq] at several
    simp [several]
  · rename_i few
    simp only [Bool.not_eq_true] at few
    simp [few]

/-- **The outputs can be deleted**, and the pack be put where they stood. -/
theorem shownParams_eq (o : Operator) (outputs : Outputs) :
    shownParams o outputs = some (o.shownParams outputs) := by
  unfold shownParams Operator.shownParams
  cases span : o.outSpan? with
  | none => rfl
  | some ends =>
    obtain ⟨first, last⟩ := ends
    have bounds := Operator.outSpan?_bounds span
    have without : drain first last o.params =
        some (o.params.take first ++ o.params.drop last) := if_pos bounds
    cases outputs with
    | elided => exact without
    | kept =>
      have before : (o.params.take first).length = first := by
        rw [List.length_take]
        omega
      have within : insert first (packedParam (last - first))
          (o.params.take first ++ o.params.drop last) =
          some (o.params.take first ++ packedParam (last - first) :: o.params.drop last) := by
        rw [insert, if_pos (by simp [before]), List.take_left' before, List.drop_left' before]
      simp only [packsOutputs_eq, without, Option.bind_eq_bind, Option.bind_some, within]
      split <;> rfl

theorem orderedParams_eq (o : Operator) (surface : Surface) (outputs : Outputs) :
    orderedParams o surface outputs = some (o.orderedParams surface outputs) := by
  rw [orderedParams, shownParams_eq]
  rfl

theorem slots_eq (o : Operator) (surface : Surface) (outputs : Outputs) :
    slots o surface outputs = some (o.slots surface outputs) := by
  rw [slots, orderedParams_eq]
  rfl

/-- **A signature is printed or fails, and does not stop.** -/
theorem signature_eq (o : Operator) (surface : Surface) (outputs : Outputs) :
    signature o surface outputs = Step.sure (Run.lift (o.signature surface outputs)) := by
  rw [signature, orderedParams_eq, Step.ask_some, pure_bind, Operator.signature, Run.lift_bind,
    Step.sure_bind]
  rfl

end Strict

end OpBindings
