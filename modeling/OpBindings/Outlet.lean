/-
OpBindings.Outlet — where generated units go.

An outlet takes one named text at a time and may refuse it. The units of a run
are handed over in order, header before body, until the first refusal.
`Outlet` leaves open what a write does: it may change a state, or be input and
output.
-/
import OpBindings.Generated

namespace OpBindings

/-- A step with effects of `m`, which leaves a journal and has an outcome of its own. -/
structure EffectRun (m : Type → Type) (α : Type) where
  run : m (Run α)

namespace EffectRun

variable {m : Type → Type} [Monad m] {α β : Type}

/-- A step without effects. -/
def lift (step : Run α) : EffectRun m α := ⟨pure step⟩

/-- One step after the other; the second is left out after a fault. -/
def andThen (step : EffectRun m α) (next : α → EffectRun m β) : EffectRun m β where
  run := do
    let first ← step.run
    match first.outcome with
    | .error f => pure ⟨first.journal, .error f⟩
    | .ok a =>
      let second ← (next a).run
      pure ⟨first.journal ++ second.journal, second.outcome⟩

instance : Monad (EffectRun m) where
  pure a := lift (Run.ok a)
  bind := andThen

end EffectRun

/-- Something that takes named texts. -/
structure Outlet (m : Type → Type) where
  write : (name contents : String) → EffectRun m Unit

namespace Outlet

variable {m : Type → Type} [Monad m]

/-- Hands over one unit: its header, then its body. -/
def handOver (outlet : Outlet m) (u : BindingUnit) : EffectRun m Unit := do
  outlet.write u.headerFile u.header
  outlet.write u.bodyFile u.body
  .lift (Run.note (.unitWritten u.headerFile u.bodyFile))

/-- Hands over the units in order. -/
def handOverAll (outlet : Outlet m) : List BindingUnit → EffectRun m Unit
  | [] => pure ()
  | u :: us => do
    outlet.handOver u
    outlet.handOverAll us

/-- Generates everything, then hands it over; a run that fails hands over nothing. -/
def generate (outlet : Outlet m) (settings : Settings) (table : Run (List Record)) :
    EffectRun m Statistics := do
  let generated ← .lift (Generated.ofTable settings table)
  outlet.handOverAll generated.units
  pure generated.statistics

end Outlet

/-! ## Keeping units in memory -/

/-- Named texts, by ascending names. -/
abbrev Texts := List (String × String)

namespace Texts

/-- The texts with `contents` under `name`; an earlier text of that name is replaced. -/
def put (name contents : String) : Texts → Texts
  | [] => [(name, contents)]
  | (other, text) :: rest =>
    if name < other then (name, contents) :: (other, text) :: rest
    else if name = other then (name, contents) :: rest
    else (other, text) :: put name contents rest

def get? (texts : Texts) (name : String) : Option String := texts.lookup name

/-- The outlet that keeps every text. -/
def outlet : Outlet (StateM Texts) where
  write := fun name contents => ⟨fun texts => (pure (), texts.put name contents)⟩

end Texts

end OpBindings
