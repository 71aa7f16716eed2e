/-
OpBindings.Storage — files, and the outlet that writes into a directory.

A `Storage` reads and writes by path; `FileTree.storage` keeps its files in
a value, the command line's keeps them where the system does.
-/
import OpBindings.Outlet
import OpBindings.Path

namespace OpBindings

/-- Access to files and to the standard input. -/
structure Storage (m : Type → Type) where
  /-- The text of the standard input. -/
  input : m (Except FileError String)
  readFile : (path : String) → m (Except FileError String)
  /-- Makes a directory with all directories above it; one that is there already is fine. -/
  createDirectories : (path : String) → m (Except FileError Unit)
  /-- Makes a file or replaces its contents. -/
  writeFile : (path contents : String) → m (Except FileError Unit)

namespace Storage

variable {m : Type → Type} [Monad m]

/-- An answer about `path` as a step of a run. -/
def step {α : Type} (path : String) (answer : m (Except FileError α)) : EffectRun m α where
  run := do
    match ← answer with
    | .ok a => pure (Run.ok a)
    | .error e => pure (Run.fail (.io path e))

/-- The outlet that writes into a directory, which it makes if it is not there. -/
def outlet (s : Storage m) (dir : String) : Outlet m where
  write := fun name contents => do
    step dir (s.createDirectories dir)
    let path := Path.join dir name
    step path (s.writeFile path contents)
    .lift (Run.note (.fileWritten path contents.utf8ByteSize))

end Storage

end OpBindings
