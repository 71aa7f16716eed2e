/-
OpBindings.Journal — what a run did, in order.

Every stage of a run writes entries: tallies, which make the statistics, and
notes, which make the log. Both are read off one list, so that what was
counted before a fault stays counted.
-/
import OpBindings.Scope
import OpBindings.Statistics

namespace OpBindings

/-- How much a reader of the log has to care, most first. -/
inductive Level where
  | warn
  | info
  | debug
  | trace
deriving DecidableEq, Repr

namespace Level

def rank : Level → Nat
  | warn => 0
  | info => 1
  | debug => 2
  | trace => 3

/-- A log at level `l` shows the notes of level `note`. -/
def shows (l note : Level) : Bool := note.rank ≤ l.rank

def name : Level → String
  | warn => "WARN"
  | info => "INFO"
  | debug => "DEBUG"
  | trace => "TRACE"

end Level

/-- Something that the log tells. -/
inductive Note where
  | loaded (count : Nat)
  | skipping (operator : String) (reason : Exclusion)
  | notBound (operator : String) (module : ModuleTag)
  /-- A plain operator repeats the key of an earlier one. -/
  | plainIgnored (operator provider key : String)
  /-- A writer repeats the key of an earlier one. -/
  | writerIgnored (operator provider key : String)
  | loneWriter (operator key : String)
  | grouped (name : String) (surface : Surface) (families : Nat)
  | planned (operator callee : String)
  | generated (names : Nat) (surface : Surface)
  | finished (report : String)
  | unitWritten (header body : String)
  | fileWritten (path : String) (bytes : Nat)
deriving DecidableEq, Repr

namespace Note

def level : Note → Level
  | plainIgnored .. | writerIgnored .. | loneWriter .. => .warn
  | loaded _ | finished _ | unitWritten .. => .info
  | notBound .. | grouped .. | generated .. | fileWritten .. => .debug
  | skipping .. | planned .. => .trace

def message : Note → String
  | loaded count => "Loaded " ++ toString count ++ " descriptors"
  | skipping operator reason => "Skipping " ++ operator ++ ": " ++ reason.reason
  | notBound operator module =>
    "Not binding " ++ operator ++ " (" ++ module.label ++ " module)"
  | plainIgnored operator provider key =>
    "Ignoring " ++ operator ++ ": " ++ provider ++ " already provides " ++ key
  | writerIgnored operator provider key =>
    "Ignoring " ++ operator ++ ": " ++ provider ++ " already provides out for " ++ key
  | loneWriter operator key =>
    "Missing base: " ++ operator ++ " (" ++ key ++ "), dispatching out variant"
  | grouped name surface families =>
    name ++ " on " ++ surface.name ++ ": " ++ toString families ++ " overload groups"
  | planned operator callee => "Planned " ++ operator ++ " as " ++ callee
  | generated names surface => "Generated " ++ toString names ++ " names for " ++ surface.name
  | finished report => "Generation finished\n" ++ report
  | unitWritten header body => "Wrote " ++ header ++ " and " ++ body
  | fileWritten path bytes => "Wrote " ++ path ++ " (" ++ toString bytes ++ " bytes)"

/-- The line of the log. -/
def line (n : Note) : String := n.level.name ++ " " ++ n.message

end Note

/-- One entry of a journal. -/
inductive Entry where
  | tally (t : Tally)
  | note (n : Note)
deriving DecidableEq, Repr

/-- What happened, in order. -/
abbrev Journal := List Entry

namespace Journal

def tallies (j : Journal) : List Tally :=
  j.filterMap fun
    | .tally t => some t
    | .note _ => none

def notes (j : Journal) : List Note :=
  j.filterMap fun
    | .tally _ => none
    | .note n => some n

/-- The statistics of what happened. -/
def statistics (j : Journal) : Statistics := .ofTallies j.tallies

/-- The notes that a log at level `l` shows. -/
def log (j : Journal) (l : Level) : List Note := j.notes.filter fun n => l.shows n.level

end Journal

end OpBindings
