/-
OpBindings.Statistics — the counts of a generation run.

A run is counted one `Tally` at a time. `Statistics.add` takes one into
account and `Statistics.ofTallies` a whole run; what a run reports is never
anything but the sum of its tallies.
-/
import OpBindings.Surface

namespace OpBindings

/-- One thing to count. -/
inductive Tally where
  /-- The table held `count` records. -/
  | loaded (count : Nat)
  /-- A record was left out. -/
  | filtered (reason : String)
  /-- An operator goes to a surface. -/
  | routed (surface : Surface)
  /-- A public name was planned on a surface, with `families` overload families. -/
  | named (surface : Surface) (families : Nat)
  /-- A family chooses between the calls of a plain operator and a writer. -/
  | split
  /-- A family has a writer only. -/
  | loneWriter
  /-- A call gathers its options into one value. -/
  | gatheredOptions
deriving DecidableEq, Repr

/-- The counts of one surface. -/
structure SurfaceCounts where
  functions : Nat := 0
  names : Nat := 0
  families : Nat := 0
deriving DecidableEq, Repr

/-- The counts of a run. -/
structure Statistics where
  loaded : Nat := 0
  filtered : Nat := 0
  /-- Records left out by reason, in the order of the reasons' texts. -/
  reasons : List (String × Nat) := []
  /-- A surface has counts from the first time that something happens on it. -/
  surfaces : Surface → Option SurfaceCounts := fun _ => none
  splitFamilies : Nat := 0
  loneWriters : Nat := 0
  gatheredOptions : Nat := 0

namespace Statistics

/-- The counts with one more for `reason`. -/
def countReason (reason : String) : List (String × Nat) → List (String × Nat)
  | [] => [(reason, 1)]
  | (other, count) :: rest =>
    if reason = other then (other, count + 1) :: rest
    else if reason < other then (reason, 1) :: (other, count) :: rest
    else (other, count) :: countReason reason rest

/-- The statistics with the counts of one surface changed. -/
def onSurface (s : Statistics) (surface : Surface) (change : SurfaceCounts → SurfaceCounts) :
    Statistics :=
  { s with surfaces := fun other =>
      if other = surface then some (change ((s.surfaces surface).getD {})) else s.surfaces other }

/-- The statistics after one more tally. -/
def add (s : Statistics) : Tally → Statistics
  | .loaded count => { s with loaded := s.loaded + count }
  | .filtered reason =>
    { s with filtered := s.filtered + 1, reasons := countReason reason s.reasons }
  | .routed surface => s.onSurface surface fun c => { c with functions := c.functions + 1 }
  | .named surface families =>
    s.onSurface surface fun c => { c with names := c.names + 1, families := c.families + families }
  | .split => { s with splitFamilies := s.splitFamilies + 1 }
  | .loneWriter => { s with loneWriters := s.loneWriters + 1 }
  | .gatheredOptions => { s with gatheredOptions := s.gatheredOptions + 1 }

/-- The statistics of a list of tallies. -/
def ofTallies (tallies : List Tally) : Statistics := tallies.foldl add {}

/-! ## Text -/

/-- The line of one surface. -/
def surfaceLine (surface : Surface) (c : SurfaceCounts) : String :=
  "  Surface " ++ surface.name ++ ": " ++ toString c.functions ++ " functions, " ++
    toString c.names ++ " names, " ++ toString c.families ++ " overload groups"

/-- The lines of a report. The line of lone writers is there only if it counts something. -/
def lines (s : Statistics) : List String :=
  ["Generation Statistics:",
    "  Records loaded: " ++ toString s.loaded,
    "  Records filtered: " ++ toString s.filtered] ++
  s.reasons.map (fun (reason, count) => "    " ++ reason ++ ": " ++ toString count) ++
  Surface.all.filterMap (fun surface => (s.surfaces surface).map (surfaceLine surface)) ++
  ["  Out/plain branches: " ++ toString s.splitFamilies,
    "  Tensor options aggregates: " ++ toString s.gatheredOptions] ++
  (if 0 < s.loneWriters then
    ["  Out-only fallback bases: " ++ toString s.loneWriters] else [])

/-- The report: every line ends with a line feed. -/
def text (s : Statistics) : String := String.join (s.lines.map (· ++ "\n"))

end Statistics

end OpBindings
