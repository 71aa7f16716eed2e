/-
OpBindings.Fault — why a generation run fails.

Every fault is fatal to the run and names what it is about. Its text is made
in one place, `Fault.message`, from the cause.
-/
import OpBindings.Declaration.Malformation
import OpBindings.Record

namespace OpBindings

/-- Why a record of the table is refused. -/
inductive RecordFault where
  /-- The entry is no record. -/
  | mismatch (cause : Record.Mismatch)
  | noDeclaration
  | malformed (declaration : String) (cause : Declaration.Malformation)
  | unknownVariant (declaration variant : String)
  | emptyModule (declaration : String)
deriving DecidableEq, Repr

namespace RecordFault

/-- The field at fault. -/
def field : RecordFault → String
  | mismatch _ => "record"
  | noDeclaration | malformed .. => "func"
  | unknownVariant .. => "variants"
  | emptyModule _ => "python_module"

def reason : RecordFault → String
  | mismatch cause => cause.message
  | noDeclaration => "missing"
  | malformed _ cause => cause.message
  | unknownVariant _ variant => "unknown variant '" ++ variant ++ "'"
  | emptyModule _ => "empty module tag"

/-- How the record is named: by its place, and by its declaration once that is known. -/
def record (index : Nat) : RecordFault → String
  | mismatch _ | noDeclaration => "#" ++ toString index
  | malformed declaration _ | unknownVariant declaration _ | emptyModule declaration =>
    "#" ++ toString index ++ " (" ++ declaration ++ ")"

end RecordFault

/-- What the file system answered. -/
inductive FileError where
  | notFound
  | alreadyExists
  | notDirectory
  | isDirectory
  | nameTooLong
  /-- A path with a NUL character reaches no file system. -/
  | nulInName
  | other (number : Nat) (text : String)
deriving DecidableEq, Repr

namespace FileError

/-- An answer of the system, with its number. -/
def numbered (text : String) (number : Nat) : String :=
  text ++ " (os error " ++ toString number ++ ")"

def message : FileError → String
  | notFound => numbered "No such file or directory" 2
  | alreadyExists => numbered "File exists" 17
  | notDirectory => numbered "Not a directory" 20
  | isDirectory => numbered "Is a directory" 21
  | nameTooLong => numbered "File name too long" 36
  | nulInName => "file name contained an unexpected NUL byte"
  | other number text => numbered text number

end FileError

/-- A fault that ends a run. -/
inductive Fault where
  | record (index : Nat) (cause : RecordFault)
  /-- The document is no sequence of records. -/
  | notATable
  /-- The document cannot be read at all. -/
  | load
  | foreignType (type function : String)
  | foreignResults (types : List String) (function : String)
  | foreignModule (module function : String)
  | loneWriter (name signature : String)
  | io (path : String) (cause : FileError)
deriving DecidableEq, Repr

namespace Fault

/-- A refused record: which, where in it, and why. -/
def refusedRecord (record field reason : String) : String :=
  "Invalid descriptor record " ++ record ++ ": field `" ++ field ++ "`: " ++ reason

/-- The text of a fault. -/
def message : Fault → String
  | record index cause => refusedRecord (cause.record index) cause.field cause.reason
  | notATable =>
    refusedRecord "<document>" "record" "descriptor table must be a sequence of records"
  | load => "Failed to load descriptor table:"
  | foreignType type function => "Unknown type: " ++ type ++ " (" ++ function ++ ")"
  | foreignResults types function =>
    "Unknown retvals: [" ++ ", ".intercalate types ++ "] (" ++ function ++ ")"
  | foreignModule module function =>
    "Unexpected module: " ++ module ++ " (" ++ function ++ ")"
  | loneWriter name signature =>
    "Missing base: " ++ name ++ " has an out variant without a plain overload for " ++ signature
  | io path cause => "I/O error on " ++ path ++ ": " ++ cause.message

end Fault

end OpBindings
