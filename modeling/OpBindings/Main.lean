/-
OpBindings.Main — the command, on the files of the system.
-/
import OpBindings.CommandLine

namespace OpBindings

/-- The system's answer behind an input or output error. -/
def FileError.ofSystem (e : IO.Error) : FileError :=
  match e with
  | .noFileOrDirectory .. => .notFound
  | .alreadyExists .. => .alreadyExists
  | .inappropriateType _ number text | .permissionDenied _ number text
  | .resourceExhausted _ number text | .invalidArgument _ number text =>
    if number = 20 then .notDirectory
    else if number = 21 then .isDirectory
    else if number = 36 then .nameTooLong
    else .other number.toNat text
  | e => .other 5 e.toString

/-- An action with its answer in place of an error. -/
def answered {α : Type} (action : IO α) : IO (Except FileError α) := do
  match ← action.toBaseIO with
  | .ok a => return .ok a
  | .error e => return .error (FileError.ofSystem e)

/-- The files of the system. -/
def systemStorage : Storage IO where
  input := answered do (← IO.getStdin).readToEnd
  readFile := fun path => answered (IO.FS.readFile path)
  createDirectories := fun path =>
    if path.isEmpty then return .ok () else answered (IO.FS.createDirAll path)
  writeFile := fun path contents => answered (IO.FS.writeFile path contents)

end OpBindings

/-- Runs the command; notes and failures go to the standard error. -/
def main (words : List String) : IO UInt32 := do
  let report ← OpBindings.CommandLine.run OpBindings.systemStorage words
  for note in report.notes do
    IO.eprintln ("[" ++ note.level.name ++ "] " ++ note.message)
  IO.print report.output
  if let some failure := report.failure then IO.eprintln failure
  return UInt32.ofNat report.code
