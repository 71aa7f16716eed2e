/-
OpBindings.Generated — from a table of records to the units of every surface.

A run goes through its stages in order: read every record, sort, leave out,
route, and then bind each surface by base name in ascending order. Nothing
is written before all of it has succeeded. The records are sorted by name
and text when they are read, so that the order of the table does not matter.
-/
import OpBindings.BindingUnit

namespace OpBindings

/-! ## Reading the table -/

namespace Operator

/-- The order of a loaded table: by name, then by declaration. -/
def precedes (a b : Operator) : Bool :=
  a.name < b.name || (a.name == b.name && !(b.text < a.text))

/-- The operators of the records from `index` on. -/
def ofRecords (index : Nat) : List Record → Except Fault (List Operator)
  | [] => .ok []
  | r :: rs => do
    let o ← (ofRecord r).mapError (.record index)
    let os ← ofRecords (index + 1) rs
    .ok (o :: os)

/-- The operators of a table, in their order. -/
def load (records : List Record) : Run (List Operator) := do
  let operators ← Run.lift (ofRecords 0 records)
  Run.note (.loaded operators.length)
  pure (operators.mergeSort precedes)

end Operator

/-! ## Choosing and routing -/

/-- The operators that are not left out, in their order. -/
def inScope : List Operator → Run (List Operator)
  | [] => pure []
  | o :: os =>
    match o.exclusion? with
    | some reason => do
      Run.note (.skipping o.name reason)
      Run.tally (.filtered reason.reason)
      inScope os
    | none => do
      let rest ← inScope os
      pure (o :: rest)

/-- Operators with the surfaces that they go to, in the order of the operators. -/
abbrev Routing := List (Surface × Operator)

namespace Routing

/-- The operators on a surface. -/
def on (r : Routing) (surface : Surface) : List Operator :=
  (r.filter (·.1 == surface)).map (·.2)

/-- Notes that the module of an operator is not bound. -/
def noteUnbound (o : Operator) : Option ModuleTag → Run Unit
  | some module =>
    if module.surface?.isNone then Run.note (.notBound o.name module) else pure ()
  | none => pure ()

/-- Notes where one operator goes. -/
def place (o : Operator) : Run Routing := do
  let module ← Run.lift o.module?
  noteUnbound o module
  let surfaces ← Run.lift o.surfaces
  Run.each (fun surface => do Run.tally (.routed surface); pure (surface, o)) surfaces

/-- Where every operator goes. -/
def ofOperators (operators : List Operator) : Run Routing := do
  let placed ← Run.each place operators
  pure placed.flatten

end Routing

/-! ## Binding by name -/

/-- The operators gathered by base name, with one more at the head. -/
def addNamed (o : Operator) : List (String × List Operator) → List (String × List Operator)
  | [] => [(o.baseName, [o])]
  | (name, members) :: rest =>
    if o.baseName < name then (o.baseName, [o]) :: (name, members) :: rest
    else if o.baseName = name then (name, o :: members) :: rest
    else (name, members) :: addNamed o rest

/-- The operators by base name: names in ascending order, members in their order. -/
def byBaseName (operators : List Operator) : List (String × List Operator) :=
  operators.foldr addNamed []

namespace Binding

/-- The binding of one base name. -/
def ofOperators (policy : LoneWriter) (name : String) (surface : Surface)
    (members : List Operator) : Run Binding := do
  let families ← OverloadFamily.ofOperators policy name surface members
  ofFamilies name surface families

/-- The bindings of a surface, in ascending order of their names. -/
def byName (policy : LoneWriter) (surface : Surface) (operators : List Operator) :
    Run (List Binding) :=
  Run.each (fun (name, members) => ofOperators policy name surface members) (byBaseName operators)

end Binding

/-! ## The run -/

/-- The bindings of one surface. -/
structure BoundSurface where
  surface : Surface
  bindings : List Binding
deriving DecidableEq, Repr

/-- The generated files of a surface. -/
def BoundSurface.unit (b : BoundSurface) (settings : Settings) : BindingUnit :=
  .ofFunctions b.surface (b.bindings.map (·.function)) settings

/-- What a run makes: bindings and units for each chosen surface, in the order of the choice. -/
structure Generated where
  surfaces : List BoundSurface
  units : List BindingUnit
  statistics : Statistics

namespace Generated

/-- The first unit of a surface. -/
def unit? (g : Generated) (surface : Surface) : Option BindingUnit :=
  g.units.find? (·.surface == surface)

/-- The bindings of one surface. -/
def bindSurface (policy : LoneWriter) (routing : Routing) (surface : Surface) :
    Run BoundSurface := do
  let bound ← Binding.byName policy surface (routing.on surface)
  Run.note (.generated bound.length surface)
  pure { surface, bindings := bound }

/-- The bindings of every chosen surface. -/
def boundSurfaces (settings : Settings) (table : Run (List Record)) : Run (List BoundSurface) := do
  let records ← table
  let operators ← Operator.load records
  Run.tally (.loaded operators.length)
  let operators ← inScope operators
  let routing ← Routing.ofOperators operators
  Run.each (bindSurface settings.loneWriter routing) settings.surfaces

/-- A whole run over a table; its statistics are those of its own journal. -/
def ofTable (settings : Settings) (table : Run (List Record)) : Run Generated :=
  let made := boundSurfaces settings table
  let statistics := made.journal.statistics
  do
    let surfaces ← made
    Run.note (.finished statistics.text)
    pure { surfaces, units := surfaces.map (·.unit settings), statistics }

end Generated

end OpBindings
