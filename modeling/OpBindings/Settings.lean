/-
OpBindings.Settings — what a caller can choose about a run.
-/
import OpBindings.OverloadFamily

namespace OpBindings

/-- The choices of a run. -/
structure Settings where
  /-- What becomes of a writer without a plain operator of its key. -/
  loneWriter : LoneWriter := .refuse
  /-- The first part of the registration functions' names. -/
  entryPrefix : String := "add"
  /-- Registration casts the function, as old hosts need it. -/
  legacyCast : Bool := false
  /-- The surfaces to generate, in the order of the output. -/
  surfaces : List Surface := Surface.all
deriving DecidableEq, Repr

/-- The function that registers the bindings of a surface. -/
def Settings.registrationName (c : Settings) (surface : Surface) : String :=
  c.entryPrefix ++ "_" ++ surface.name ++ "_functions"

end OpBindings
